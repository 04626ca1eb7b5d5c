import Mathlib.Data.List.Nodup
import SensorRelay.Proofs.Program.Run
import SensorRelay.Store.Gateway

/-!
# The integrity of the tables

A request to the database leaves the tables as they are or appends one row to one of them
(`Store.answer_snd`), and `Store.Insertion` says all that is known of such a row : its id is the
next one, its parent exists, and no row has its name below the same parent. `Store.Integrity`
collects what follows for all rows : ids count from 1 in the order of insertion, names are
unique below each parent, parents exist and the values of records are numbers. Every insertion
keeps it (`Insertion.integrity`), so it holds of all tables that requests can lead to
(`Reachable.integrity`).
-/

namespace SensorRelay.Store

/-! ## What a request can do -/

/-- One row is appended to one table. -/
inductive Insertion (s : Store) : Store → Prop
  | addSection {name : String} (fresh : ∀ r ∈ s.sections, r.name ≠ name) :
    Insertion s { s with sections := s.sections ++ [⟨s.sections.length + 1, name⟩] }
  | addModule {name : String} {parent : SectionRow} (exists_parent : parent ∈ s.sections)
      (fresh : ∀ m ∈ s.modules, m.name = name → m.sectionId ≠ parent.id) :
    Insertion s { s with modules := s.modules ++ [⟨s.modules.length + 1, name, parent.id⟩] }
  | addSensor {name topic : String} {parent : ModuleRow} (exists_parent : parent ∈ s.modules)
      (fresh : ∀ x ∈ s.sensors, x.name = name → x.moduleId ≠ parent.id) :
    Insertion s { s with sensors := s.sensors ++ [⟨s.sensors.length + 1, name, parent.id, topic⟩] }
  | addRecord {value : Binary64} {wall : WallClock} {parent : SensorRow}
      (exists_parent : parent ∈ s.sensors) (number : value.isNaN = false) :
    Insertion s { s with records := s.records ++ [⟨s.records.length + 1, parent.id, value, wall⟩] }

variable {s t : Store}

theorem mem_of_sectionById? {id : Int} {r : SectionRow} (h : s.sectionById? id = some r) :
    r ∈ s.sections ∧ (r.id : Int) = id :=
  ⟨List.mem_of_find?_eq_some h, by simpa using List.find?_some h⟩

theorem mem_of_moduleById? {id : Int} {m : ModuleRow} (h : s.moduleById? id = some m) :
    m ∈ s.modules ∧ (m.id : Int) = id :=
  ⟨List.mem_of_find?_eq_some h, by simpa using List.find?_some h⟩

theorem mem_of_sensorById? {id : Int} {x : SensorRow} (h : s.sensorById? id = some x) :
    x ∈ s.sensors ∧ (x.id : Int) = id :=
  ⟨List.mem_of_find?_eq_some h, by simpa using List.find?_some h⟩

theorem isNaN_plusZero {x : Binary64} (h : x.isNaN = false) : x.plusZero.isNaN = false := by
  unfold Binary64.plusZero
  split
  · decide
  · exact h

theorem insertSection_ok {name : String} {row : SectionRow}
    (h : s.insertSection name = .ok (row, t)) : s.Insertion t := by
  unfold insertSection at h
  split at h
  · cases h
  · rename_i hname
    cases h
    exact .addSection (by simpa using hname)

theorem insertModule_ok {name : String} {sectionId : Int} {row : ModuleRow}
    (h : s.insertModule name sectionId = .ok (row, t)) : s.Insertion t := by
  obtain ⟨-, -, h⟩ := bind_eq_ok_iff.1 h
  split at h
  · cases h
  · rename_i hname
    split at h
    · cases h
    · rename_i parent hparent
      cases h
      obtain ⟨hmem, rfl⟩ := mem_of_sectionById? hparent
      exact .addModule hmem (by simpa [Int.natCast_inj] using hname)

theorem insertSensor_ok {name topic : String} {moduleId : Int} {row : SensorRow}
    (h : s.insertSensor name moduleId topic = .ok (row, t)) : s.Insertion t := by
  obtain ⟨-, -, h⟩ := bind_eq_ok_iff.1 h
  split at h
  · cases h
  · rename_i hname
    split at h
    · cases h
    · rename_i parent hparent
      cases h
      obtain ⟨hmem, rfl⟩ := mem_of_moduleById? hparent
      exact .addSensor hmem (by simpa [Int.natCast_inj] using hname)

theorem insertRecord_ok {sensorId : Int} {value : Binary64} {wall : WallClock} {row : RecordRow}
    (h : s.insertRecord sensorId value wall = .ok (row, t)) : s.Insertion t := by
  obtain ⟨-, -, h⟩ := bind_eq_ok_iff.1 h
  split at h
  · cases h
  · rename_i hvalue
    split at h
    · cases h
    · rename_i parent hparent
      cases h
      exact .addRecord (mem_of_sensorById? hparent).1 (isNaN_plusZero (by simpa using hvalue))

/-- A reply to an insert changes the tables only if the insert does. -/
theorem inserted_snd {α : Type} {r : Except Failure (α × Store)}
    (h : ∀ a t, r = .ok (a, t) → s.Insertion t) :
    (s.inserted r).2 = s ∨ s.Insertion (s.inserted r).2 := by
  match r, h with
  | .ok (a, t), h => exact Or.inr (h a t rfl)
  | .error _, _ => exact Or.inl rfl

/-- A request leaves the tables as they are or appends one row. -/
theorem answer_snd (c : StoreCall) (s : Store) :
    (answer c s).2 = s ∨ s.Insertion (answer c s).2 := by
  cases c with
  | insertSection name =>
    refine inserted_snd fun row t h => ?_
    obtain ⟨n, -, h⟩ := bind_eq_ok_iff.1 h
    exact insertSection_ok h
  | insertModule name sectionId =>
    refine inserted_snd fun row t h => ?_
    obtain ⟨-, -, h⟩ := bind_eq_ok_iff.1 h
    obtain ⟨n, -, h⟩ := bind_eq_ok_iff.1 h
    obtain ⟨i, -, h⟩ := bind_eq_ok_iff.1 h
    exact insertModule_ok h
  | insertSensor name moduleId topic =>
    refine inserted_snd fun row t h => ?_
    obtain ⟨-, -, h⟩ := bind_eq_ok_iff.1 h
    obtain ⟨n, -, h⟩ := bind_eq_ok_iff.1 h
    obtain ⟨i, -, h⟩ := bind_eq_ok_iff.1 h
    obtain ⟨p, -, h⟩ := bind_eq_ok_iff.1 h
    exact insertSensor_ok h
  | insertRecord sensorId value createdAt =>
    refine inserted_snd fun row t h => ?_
    obtain ⟨x, -, h⟩ := bind_eq_ok_iff.1 h
    obtain ⟨-, -, h⟩ := bind_eq_ok_iff.1 h
    split at h
    · cases h
    · obtain ⟨i, -, h⟩ := bind_eq_ok_iff.1 h
      obtain ⟨w, -, h⟩ := bind_eq_ok_iff.1 h
      exact insertRecord_ok h
  | _ => exact Or.inl rfl

/-- A request that fails leaves the tables as they are. -/
theorem answer_snd_of_error {c : StoreCall} {f : Failure} (h : (answer c s).1 = .error f) :
    (answer c s).2 = s := by
  have hinserted : ∀ {α : Type} (r : Except Failure (α × Store)),
      (s.inserted r).1 = .error f → (s.inserted r).2 = s := by
    rintro α (g | ⟨a, t⟩) h
    · rfl
    · cases h
  cases c with
  | insertSection name => exact hinserted _ h
  | insertModule name sectionId => exact hinserted _ h
  | insertSensor name moduleId topic => exact hinserted _ h
  | insertRecord sensorId value createdAt => exact hinserted _ h
  | _ => rfl

/-! ## Integrity -/

/-- The ids of the rows are 1, 2, 3 and so on. -/
def Numbered {α : Type} (id : α → Nat) (rows : List α) : Prop :=
  rows.map id = List.range' 1 rows.length

namespace Numbered

variable {α : Type} {id : α → Nat} {rows : List α}

theorem concat (h : Numbered id rows) {a : α} (ha : id a = rows.length + 1) :
    Numbered id (rows ++ [a]) := by
  unfold Numbered at h ⊢
  rw [List.map_append, h, List.length_append, List.length_singleton, List.range'_1_concat,
    List.map_singleton, ha, Nat.add_comm 1]

theorem nodup (h : Numbered id rows) : (rows.map id).Nodup := by
  rw [h]
  exact List.nodup_range'

theorem eq_of_id_eq (h : Numbered id rows) {a b : α} (ha : a ∈ rows) (hb : b ∈ rows)
    (hab : id a = id b) : a = b :=
  List.inj_on_of_nodup_map h.nodup ha hb hab

theorem id_le (h : Numbered id rows) {a : α} (ha : a ∈ rows) : id a ≤ rows.length := by
  have hmem : id a ∈ rows.map id := List.mem_map_of_mem ha
  rw [h, List.mem_range'_1] at hmem
  omega

end Numbered

/-- What holds of all rows of the four tables. -/
structure Integrity (s : Store) : Prop where
  sectionIds : Numbered SectionRow.id s.sections
  moduleIds : Numbered ModuleRow.id s.modules
  sensorIds : Numbered SensorRow.id s.sensors
  recordIds : Numbered RecordRow.id s.records
  sectionNames : (s.sections.map fun r => r.name).Nodup
  moduleNames : (s.modules.map fun m => (m.name, m.sectionId)).Nodup
  sensorNames : (s.sensors.map fun x => (x.name, x.moduleId)).Nodup
  moduleParents : ∀ m ∈ s.modules, ∃ r ∈ s.sections, r.id = m.sectionId
  sensorParents : ∀ x ∈ s.sensors, ∃ m ∈ s.modules, m.id = x.moduleId
  recordParents : ∀ r ∈ s.records, ∃ x ∈ s.sensors, x.id = r.sensorId
  recordValues : ∀ r ∈ s.records, r.value.isNaN = false

theorem integrity_empty : empty.Integrity where
  sectionIds := rfl
  moduleIds := rfl
  sensorIds := rfl
  recordIds := rfl
  sectionNames := List.nodup_nil
  moduleNames := List.nodup_nil
  sensorNames := List.nodup_nil
  moduleParents := by simp [empty]
  sensorParents := by simp [empty]
  recordParents := by simp [empty]
  recordValues := by simp [empty]

theorem nodup_map_concat {α β : Type} {f : α → β} {l : List α} {a : α} (h : (l.map f).Nodup)
    (ha : ∀ b ∈ l, f b ≠ f a) : ((l ++ [a]).map f).Nodup := by
  rw [List.map_append, List.map_singleton, List.nodup_append]
  refine ⟨h, List.nodup_singleton _, fun x hx y hy hxy => ?_⟩
  obtain ⟨b, hb, rfl⟩ := List.mem_map.1 hx
  exact ha b hb (hxy.trans (List.mem_singleton.1 hy))

theorem exists_mem_concat {α : Type} {p : α → Prop} {l : List α} (a : α) (h : ∃ b ∈ l, p b) :
    ∃ b ∈ l ++ [a], p b := by
  obtain ⟨b, hb, hp⟩ := h
  exact ⟨b, List.mem_append_left _ hb, hp⟩

theorem forall_mem_concat {α : Type} {p : α → Prop} {l : List α} {a : α} (h : ∀ b ∈ l, p b)
    (ha : p a) : ∀ b ∈ l ++ [a], p b := by
  intro b hb
  rcases List.mem_append.1 hb with hb | hb
  · exact h b hb
  · exact List.mem_singleton.1 hb ▸ ha

/-- Every insertion keeps the integrity of the tables. -/
theorem Insertion.integrity (h : s.Insertion t) (hs : s.Integrity) : t.Integrity := by
  cases h with
  | addSection fresh =>
    exact { hs with
      sectionIds := hs.sectionIds.concat rfl
      sectionNames := nodup_map_concat hs.sectionNames fresh
      moduleParents := fun m hm => exists_mem_concat _ (hs.moduleParents m hm) }
  | addModule exists_parent fresh =>
    exact { hs with
      moduleIds := hs.moduleIds.concat rfl
      moduleNames := nodup_map_concat hs.moduleNames fun m hm h =>
        fresh m hm (congrArg Prod.fst h) (congrArg Prod.snd h)
      moduleParents := forall_mem_concat hs.moduleParents ⟨_, exists_parent, rfl⟩
      sensorParents := fun x hx => exists_mem_concat _ (hs.sensorParents x hx) }
  | addSensor exists_parent fresh =>
    exact { hs with
      sensorIds := hs.sensorIds.concat rfl
      sensorNames := nodup_map_concat hs.sensorNames fun x hx h =>
        fresh x hx (congrArg Prod.fst h) (congrArg Prod.snd h)
      sensorParents := forall_mem_concat hs.sensorParents ⟨_, exists_parent, rfl⟩
      recordParents := fun r hr => exists_mem_concat _ (hs.recordParents r hr) }
  | addRecord exists_parent number =>
    exact { hs with
      recordIds := hs.recordIds.concat rfl
      recordParents := forall_mem_concat hs.recordParents ⟨_, exists_parent, rfl⟩
      recordValues := forall_mem_concat hs.recordValues number }

/-- Every request keeps the integrity of the tables. -/
theorem Integrity.answer (hs : s.Integrity) (c : StoreCall) : (answer c s).2.Integrity := by
  rcases answer_snd c s with h | h
  · rwa [h]
  · exact h.integrity hs

/-! ## Runs -/

/-- The tables reply to all requests of a program. -/
def run {α : Type} (p : Program storeInterface α) (s : Store) : Except Failure α × Store :=
  p.run (fun c t => answer c t) s

theorem run_ask {α : Type} {c : StoreCall} {r : Except Failure c.Reply} (h : answer c s = (r, t))
    (next : Except Failure c.Reply → Program storeInterface α) :
    run (.ask c next) s = run (next r) t := by
  have hstep : run (.ask c next) s = run (next (answer c s).1) (answer c s).2 := rfl
  rw [hstep, h]

theorem run_call {c : StoreCall} {r : Except Failure c.Reply} (h : answer c s = (r, t)) :
    run c.ask s = (r, t) := by
  cases r <;> exact run_ask h _

theorem run_bind_of_ok {α β : Type} {p : Program storeInterface α} {a : α}
    (h : run p s = (.ok a, t)) (k : α → Program storeInterface β) :
    run (p >>= k) s = run (k a) t :=
  Program.run_bind_of_ok h k

theorem run_bind_of_error {α β : Type} {p : Program storeInterface α} {f : Failure}
    (h : run p s = (.error f, t)) (k : α → Program storeInterface β) :
    run (p >>= k) s = (.error f, t) :=
  Program.run_bind_of_error h k

/-! ## Ids as keys -/

theorem fitsSigned_of_le {bits m n : Nat} (hmn : m ≤ n) (h : fitsSigned bits (n : Int) = true) :
    fitsSigned bits (m : Int) = true := by
  simp only [fitsSigned, Bool.and_eq_true, decide_eq_true_eq] at h ⊢
  omega

/-- An id within a table is a key, unless the table may be too long. -/
theorem checkKey_cases {full : Prop} {n m : Nat} (hmn : m ≤ n)
    (h : full ∨ fitsSigned 64 (n : Int) = true) :
    checkKey m = .ok () ∨ checkKey m = .error oversizedKey ∧ full := by
  by_cases hm : fitsSigned 64 (m : Int) = true
  · exact Or.inl (if_pos hm)
  · exact Or.inr ⟨if_neg hm, h.resolve_right fun hn => hm (fitsSigned_of_le hmn hn)⟩

theorem checkKey_of_fits {id : Int} (h : fitsSigned 64 id = true) : checkKey id = .ok () :=
  if_pos h

theorem checkKey_of_not_fits {id : Int} (h : fitsSigned 64 id = false) :
    checkKey id = .error oversizedKey :=
  if_neg (by simp [h])

theorem byKey_eq {α : Type} {id : Int} (hkey : checkKey id = .ok ()) (s : Store) (a : α) :
    s.byKey id a = (.ok a, s) := by
  rw [byKey, hkey]
  rfl

/-- An id that is no key is not looked for. -/
theorem byKey_oversized {α : Type} {id : Int} (hkey : checkKey id = .error oversizedKey) (s : Store)
    (a : α) : s.byKey id a = (.error oversizedKey, s) := by
  rw [byKey, hkey]
  rfl

theorem forM_some (check : Int → Except Failure Unit) (id : Int) :
    (some id).forM check = check id :=
  rfl

/-! ## Reachable tables -/

/-- The tables that some requests, one after the other, make of empty ones. -/
inductive Reachable : Store → Prop
  | empty : Reachable empty
  | request {s : Store} (c : StoreCall) : Reachable s → Reachable (answer c s).2

theorem Reachable.run {α : Type} (h : s.Reachable) (p : Program storeInterface α) :
    (run p s).2.Reachable :=
  Program.run_keeps (P := Reachable) (fun c _ ht => .request c ht) p h

theorem Reachable.integrity (h : s.Reachable) : s.Integrity := by
  induction h with
  | empty => exact integrity_empty
  | request c _ ih => exact ih.answer c

end SensorRelay.Store
