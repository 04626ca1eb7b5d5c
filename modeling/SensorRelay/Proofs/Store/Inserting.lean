import SensorRelay.Proofs.Reconcile.Resolving
import SensorRelay.Proofs.Store.Recording

/-!
# How an insert ends

With values for all columns and ids of 64 bits an insert has three ends (`InsertEnds`) : the row
is appended, a row with its name exists below its parent, or the row breaks another rule of its
table. In tables with integrity the last two exclude each other, as rows have parents that exist.
The failures of the database are told apart by their texts alone, and come out as what they are :
`EndsExactly` says of each kind of failure when it is raised.

`Reachable.insertsExactly` is this for the four inserts. A row holds what was given for it, in the
form in which its columns keep it : of a timestamp the wall clock, and of the two zeros one.
-/

namespace SensorRelay.Store

/-! ## Kinds of failures -/

/-- The reply is a pipeline error of this kind. -/
def Raises {α : Type} (kind : ErrorKind) (reply : Except Failure α) : Prop :=
  ∃ e : PipelineError, reply = .error (.pipeline e) ∧ e.kind = kind

theorem missingParent_eq : missingParent = .storage "FOREIGN KEY constraint failed" := by
  decide +kernel

theorem emptyColumn_value_eq :
    emptyColumn "records" "value" = .storage "NOT NULL constraint failed: records.value" := by
  decide +kernel

theorem raises_duplicateKey_iff {α : Type} {reply : Except Failure α} :
    Raises .duplicateKey reply ↔ ∃ f, reply = .error f ∧ f.isDuplicateKey = true := by
  constructor
  · rintro ⟨e, rfl, hkind⟩
    exact ⟨_, rfl, beq_iff_eq.2 hkind⟩
  · rintro ⟨f, rfl, hf⟩
    cases f with
    | pipeline e => exact ⟨e, rfl, beq_iff_eq.1 hf⟩
    | _ => cases hf

/-! ## Ends of an insert -/

section

variable {Row : Type} (s : Store) (append : Row → Store) (Holds : Row → Prop) (taken broken : Prop)

/-- An insert ends with a row that `Holds` what was given, or with the failure that its name is
`taken`, or with the failure that another rule is `broken`. -/
inductive InsertEnds : Except Failure (Option Row) × Store → Prop
  | appended {row : Row} (holds : Holds row) (free : ¬taken) (sound : ¬broken) :
    InsertEnds (.ok (some row), append row)
  | duplicate {f : Failure} (kind : f.isDuplicateKey = true) (taken : taken) (sound : ¬broken) :
    InsertEnds (.error f, s)
  | refused {message : String} (free : ¬taken) (broken : broken) :
    InsertEnds (.error (.storage message), s)

/-- What is raised says why, and nothing is raised without a reason. -/
structure EndsExactly (outcome : Except Failure (Option Row) × Store) : Prop where
  allOrNothing : (∃ row, Holds row ∧ outcome = (.ok (some row), append row)) ∨
    ∃ f, outcome = (.error f, s)
  duplicate_iff : Raises .duplicateKey outcome.1 ↔ taken
  storage_iff : Raises .storage outcome.1 ↔ broken
  appended_iff : (∃ row, outcome.1 = .ok row) ↔ ¬taken ∧ ¬broken

variable {s append Holds taken broken}

theorem InsertEnds.exactly {outcome : Except Failure (Option Row) × Store}
    (h : InsertEnds s append Holds taken broken outcome) :
    EndsExactly s append Holds taken broken outcome := by
  cases h with
  | appended holds free sound =>
    refine ⟨Or.inl ⟨_, holds, rfl⟩, iff_of_false ?_ free, iff_of_false ?_ sound,
      iff_of_true ⟨_, rfl⟩ ⟨free, sound⟩⟩ <;>
    · rintro ⟨e, he, -⟩
      cases he
  | @duplicate f kind taken sound =>
    refine ⟨Or.inr ⟨f, rfl⟩, iff_of_true (raises_duplicateKey_iff.2 ⟨f, rfl, kind⟩) taken,
      iff_of_false ?_ sound, iff_of_false ?_ fun h => h.1 taken⟩
    · rintro ⟨e, he, hkind⟩
      cases he
      rw [Failure.isDuplicateKey, hkind] at kind
      cases kind
    · rintro ⟨row, hrow⟩
      cases hrow
  | @refused message free broken =>
    refine ⟨Or.inr ⟨_, rfl⟩, iff_of_false ?_ free, iff_of_true ⟨_, rfl, rfl⟩ broken,
      iff_of_false ?_ fun h => h.2 broken⟩
    · rintro ⟨e, he, hkind⟩
      cases he
      cases hkind
    · rintro ⟨row, hrow⟩
      cases hrow

end

/-! ## The four inserts -/

variable {s : Store}

theorem sectionById?_eq_none_iff {id : Int} :
    s.sectionById? id = none ↔ ¬∃ r ∈ s.sections, (r.id : Int) = id := by
  simp [sectionById?]

theorem moduleById?_eq_none_iff {id : Int} :
    s.moduleById? id = none ↔ ¬∃ m ∈ s.modules, (m.id : Int) = id := by
  simp [moduleById?]

theorem sensorById?_eq_none_iff {id : Int} :
    s.sensorById? id = none ↔ ¬∃ x ∈ s.sensors, (x.id : Int) = id := by
  simp [sensorById?]

/-- Every insert with values for all columns ends as it should, whatever the values are. -/
structure InsertsExactly (s : Store) : Prop where
  sections : ∀ name : String,
    EndsExactly s (fun row => { s with sections := s.sections ++ [row] })
      (fun row => row.id = s.sections.length + 1 ∧ row.name = name)
      (∃ r ∈ s.sections, r.name = name) False
      (answer (.insertSection (some name)) s)
  modules : ∀ (name : String) (sectionId : Int), fitsSigned 64 sectionId = true →
    EndsExactly s (fun row => { s with modules := s.modules ++ [row] })
      (fun row => row.id = s.modules.length + 1 ∧ row.name = name ∧
        (row.sectionId : Int) = sectionId)
      (∃ m ∈ s.modules, m.name = name ∧ (m.sectionId : Int) = sectionId)
      (¬∃ r ∈ s.sections, (r.id : Int) = sectionId)
      (answer (.insertModule (some name) (some sectionId)) s)
  sensors : ∀ (name : String) (moduleId : Int) (topic : String), fitsSigned 64 moduleId = true →
    EndsExactly s (fun row => { s with sensors := s.sensors ++ [row] })
      (fun row => row.id = s.sensors.length + 1 ∧ row.name = name ∧
        (row.moduleId : Int) = moduleId ∧ row.topic = topic)
      (∃ x ∈ s.sensors, x.name = name ∧ (x.moduleId : Int) = moduleId)
      (¬∃ m ∈ s.modules, (m.id : Int) = moduleId)
      (answer (.insertSensor (some name) (some moduleId) (some topic)) s)
  records : ∀ (sensorId : Int) (value : Binary64) (t : Timestamp), fitsSigned 64 sensorId = true →
    EndsExactly s (fun row => { s with records := s.records ++ [row] })
      (fun row => row.id = s.records.length + 1 ∧ (row.sensorId : Int) = sensorId ∧
        row.value = value.plusZero ∧ row.wall = t.wall)
      False
      ((¬∃ x ∈ s.sensors, (x.id : Int) = sensorId) ∨ value.isNaN = true)
      (answer (.insertRecord (some sensorId) (.double value) (some t)) s)

theorem insertSection_ends (s : Store) (name : String) :
    InsertEnds s (fun row => { s with sections := s.sections ++ [row] })
      (fun row => row.id = s.sections.length + 1 ∧ row.name = name)
      (∃ r ∈ s.sections, r.name = name) False
      (answer (.insertSection (some name)) s) := by
  rcases answer_insertSection s name with ⟨htaken, hreply⟩ | ⟨hfree, hreply⟩
  · rw [hreply]
    exact .duplicate (isDuplicateKey_existingRow (by simp)) htaken not_false
  · rw [hreply]
    exact .appended ⟨rfl, rfl⟩ hfree not_false

namespace Integrity

variable (hs : s.Integrity)
include hs

theorem insertModule_ends (name : String) {sectionId : Int} (hkey : checkKey sectionId = .ok ()) :
    InsertEnds s (fun row => { s with modules := s.modules ++ [row] })
      (fun row => row.id = s.modules.length + 1 ∧ row.name = name ∧
        (row.sectionId : Int) = sectionId)
      (∃ m ∈ s.modules, m.name = name ∧ (m.sectionId : Int) = sectionId)
      (¬∃ r ∈ s.sections, (r.id : Int) = sectionId)
      (Store.answer (.insertModule (some name) (some sectionId)) s) := by
  have hany : (s.modules.any fun m => m.name == name && (m.sectionId : Int) == sectionId) = true ↔
      ∃ m ∈ s.modules, m.name = name ∧ (m.sectionId : Int) = sectionId := by simp
  rw [Store.answer, addModule, forM_some, hkey, ok_bind, required, ok_bind, required, ok_bind,
    insertModule, hkey, ok_bind]
  split
  · rename_i htaken
    obtain ⟨m, hm, hname, hparent⟩ := hany.1 htaken
    obtain ⟨r, hr, hid⟩ := hs.moduleParents m hm
    exact .duplicate (isDuplicateKey_existingRow (by simp)) ⟨m, hm, hname, hparent⟩
      (not_not.2 ⟨r, hr, by rw [hid, hparent]⟩)
  · rename_i hfree
    split
    · rename_i hnone
      rw [missingParent_eq]
      exact .refused (mt hany.2 hfree) (sectionById?_eq_none_iff.1 hnone)
    · rename_i parent hparent
      obtain ⟨hmem, rfl⟩ := mem_of_sectionById? hparent
      exact .appended ⟨rfl, rfl, rfl⟩ (mt hany.2 hfree) (not_not.2 ⟨parent, hmem, rfl⟩)

theorem insertSensor_ends (name topic : String) {moduleId : Int}
    (hkey : checkKey moduleId = .ok ()) :
    InsertEnds s (fun row => { s with sensors := s.sensors ++ [row] })
      (fun row => row.id = s.sensors.length + 1 ∧ row.name = name ∧
        (row.moduleId : Int) = moduleId ∧ row.topic = topic)
      (∃ x ∈ s.sensors, x.name = name ∧ (x.moduleId : Int) = moduleId)
      (¬∃ m ∈ s.modules, (m.id : Int) = moduleId)
      (Store.answer (.insertSensor (some name) (some moduleId) (some topic)) s) := by
  have hany : (s.sensors.any fun x => x.name == name && (x.moduleId : Int) == moduleId) = true ↔
      ∃ x ∈ s.sensors, x.name = name ∧ (x.moduleId : Int) = moduleId := by simp
  rw [Store.answer, addSensor, forM_some, hkey, ok_bind, required, ok_bind, required, ok_bind,
    required, ok_bind, insertSensor, hkey, ok_bind]
  split
  · rename_i htaken
    obtain ⟨x, hx, hname, hparent⟩ := hany.1 htaken
    obtain ⟨m, hm, hid⟩ := hs.sensorParents x hx
    exact .duplicate (isDuplicateKey_existingRow (by simp)) ⟨x, hx, hname, hparent⟩
      (not_not.2 ⟨m, hm, by rw [hid, hparent]⟩)
  · rename_i hfree
    split
    · rename_i hnone
      rw [missingParent_eq]
      exact .refused (mt hany.2 hfree) (moduleById?_eq_none_iff.1 hnone)
    · rename_i parent hparent
      obtain ⟨hmem, rfl⟩ := mem_of_moduleById? hparent
      exact .appended ⟨rfl, rfl, rfl, rfl⟩ (mt hany.2 hfree) (not_not.2 ⟨parent, hmem, rfl⟩)

end Integrity

/-- A record has no name, but a value that may be no number. -/
theorem insertRecord_ends (s : Store) (value : Binary64) (t : Timestamp) {sensorId : Int}
    (hkey : checkKey sensorId = .ok ()) :
    InsertEnds s (fun row => { s with records := s.records ++ [row] })
      (fun row => row.id = s.records.length + 1 ∧ (row.sensorId : Int) = sensorId ∧
        row.value = value.plusZero ∧ row.wall = t.wall)
      False
      ((¬∃ x ∈ s.sensors, (x.id : Int) = sensorId) ∨ value.isNaN = true)
      (answer (.insertRecord (some sensorId) (.double value) (some t)) s) := by
  rw [answer, toBinary64_double, ok_bind, addRecord, forM_some, hkey, ok_bind]
  cases hvalue : value.isNaN with
  | true =>
    rw [emptyColumn_value_eq]
    exact .refused not_false (Or.inr rfl)
  | false =>
    rw [if_neg Bool.false_ne_true, required, required, ok_bind, ok_bind, insertRecord, hkey,
      ok_bind, hvalue, if_neg Bool.false_ne_true]
    cases hparent : s.sensorById? sensorId with
    | none =>
      rw [missingParent_eq]
      exact .refused not_false (Or.inl (sensorById?_eq_none_iff.1 hparent))
    | some x =>
      obtain ⟨hmem, rfl⟩ := mem_of_sensorById? hparent
      refine .appended ⟨rfl, rfl, rfl, rfl⟩ not_false ?_
      rintro (hnone | hnan)
      · exact hnone ⟨x, hmem, rfl⟩
      · cases hnan

/-- In tables that requests have led to, every insert with values for all columns appends the row
or fails for the reason that it gives. -/
theorem Reachable.insertsExactly (hs : s.Reachable) : s.InsertsExactly where
  sections name := (insertSection_ends s name).exactly
  modules name _ hkey := (hs.integrity.insertModule_ends name (if_pos hkey)).exactly
  sensors name _ topic hkey := (hs.integrity.insertSensor_ends name topic (if_pos hkey)).exactly
  records _ value t hkey := (insertRecord_ends s value t (if_pos hkey)).exactly

/-- Beside one section its name is a duplicate, a module of it is appended and a module of
another section is refused. -/
theorem insertsExactly_beside_hall : ∃ s : Store, s.Reachable ∧ s.InsertsExactly ∧
    s.sections = [⟨1, "hall"⟩] ∧
    Raises .duplicateKey (answer (.insertSection (some "hall")) s).1 ∧
    (∃ row, (answer (.insertModule (some "east") (some 1)) s).1 = .ok row) ∧
    Raises .storage (answer (.insertModule (some "east") (some 2)) s).1 := by
  have hreachable : (answer (.insertSection (some "hall")) empty).2.Reachable := .request _ .empty
  have hexactly := hreachable.insertsExactly
  have hempty : ∀ name (id : Int), ¬∃ m ∈ (answer (.insertSection (some "hall")) empty).2.modules,
      m.name = name ∧ (m.sectionId : Int) = id := by
    rintro name id ⟨m, hm, -⟩
    exact (List.not_mem_nil hm).elim
  refine ⟨_, hreachable, hexactly, by decide, ?_, ?_, ?_⟩
  · exact (hexactly.sections "hall").duplicate_iff.2 ⟨⟨1, "hall"⟩, by decide, rfl⟩
  · exact (hexactly.modules "east" 1 (by decide)).appended_iff.2
      ⟨hempty _ _, not_not.2 ⟨⟨1, "hall"⟩, by decide, rfl⟩⟩
  · exact (hexactly.modules "east" 2 (by decide)).storage_iff.2 (by decide)

end SensorRelay.Store
