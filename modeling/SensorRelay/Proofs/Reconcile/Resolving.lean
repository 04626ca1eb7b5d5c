import SensorRelay.Proofs.Program.Interleaving
import SensorRelay.Proofs.Store.Growth
import SensorRelay.Reconcile

/-!
# Resolving a path in company

Others may insert rows between the requests of `findOrCreate`. It still settles, if what has
refused its insert can be found afterwards (`Program.Settles.findOrCreate`).

The tables that reconciliations share change only as in `Evolves` : they keep their integrity
and grow by wanted paths. A name once found stays, an insert of a name that is taken is refused
because of that name and of nothing else (`Integrity.answer_insertModule` and its like), so a
wanted path is resolved within nine requests, to the sensor that has it (`settles_resolvePath`).
The parents of new rows are told by their ids, and the only other failure is that the database
cannot hold such an id. `Steady` tables have ids that it can hold for as long as they evolve,
unless there is no room for the wanted rows.
-/

namespace SensorRelay

/-! ## Searches that create -/

namespace Program.Settles

variable {I : Interface} {α σ : Type}
  {answer : (q : I.Request) → σ → Except Failure (I.Reply q) × σ} {R : σ → σ → Prop}
  {excused : Failure → Prop} {n k : Nat} {s : σ}

theorem attempt_created {insert : Program I (Option α)} {post : Except Failure α → σ → Prop}
    (h : Settles answer R excused (fun r t => match r with
      | .ok (some a) => post (.ok a) t
      | .ok none => False
      | .error f => post (.error f) t) n insert.attempt s) :
    Settles answer R excused post n (created insert).attempt s := by
  induction insert generalizing n s with
  | done r =>
    have hpost := h.of_done
    cases r with
    | none => exact hpost.elim
    | some a => exact done hpost
  | raise f => exact done h.of_done
  | ask q next ih =>
    cases n with
    | zero => exact h.elim
    | succ n =>
      intro t ht
      obtain ⟨hR, hnext⟩ := h t ht
      exact ⟨hR, ih _ hnext⟩

theorem attempt_call {q : I.Request} {post : Except Failure (I.Reply q) → σ → Prop}
    (h : ∀ t, R s t → R t (answer q t).2 ∧ post (answer q t).1 (answer q t).2) :
    Settles answer R excused post 1 (Program.call q).attempt s := by
  intro t ht
  obtain ⟨hR, hpost⟩ := h t ht
  refine ⟨hR, ?_⟩
  cases hr : (answer q t).1 with
  | ok a => exact done (hr ▸ hpost)
  | error f => exact done (hr ▸ hpost)

/-- A search that creates settles, if a refusal as a duplicate means that the second look
finds something and every other failure is excused. -/
theorem findOrCreate {what : String} {find : Program I (Option α)} {create : Program I α}
    {post : α → σ → Prop} (Present : σ → Prop) (refl : ∀ s, R s s)
    (trans : ∀ s t u, R s t → R t u → R s u)
    (hfind : ∀ t, R s t → Settles answer R excused (fun r u => ∀ a, r = some a → post a u) n find t)
    (hcreate : ∀ t, R s t → Settles answer R excused (fun r u => match r with
      | .ok a => post a u
      | .error f => if f.isDuplicateKey then Present u else excused f) k create.attempt t)
    (hagain : ∀ t, R s t → Present t →
      Settles answer R excused (fun r u => ∃ a, r = some a ∧ post a u) n find t) :
    Settles answer R excused post (n + (k + n)) (SensorRelay.findOrCreate what find create) s := by
  refine (hfind s (refl s)).bind trans refl fun r t ht hr => ?_
  cases r with
  | some a => exact done (hr a rfl)
  | none =>
    refine (hcreate t ht).bind trans refl fun r u hu hr => ?_
    cases r with
    | ok a => exact done hr
    | error f =>
      simp only at hr ⊢
      split at hr
      · rw [if_pos ‹_›]
        refine (hagain u (trans s t u ht hu) hr).bind (m := 0) trans refl fun r v _ hr => ?_
        obtain ⟨a, rfl, ha⟩ := hr
        exact done ha
      · rw [if_neg ‹_›]
        exact raise hr

end Program.Settles

namespace Store

/-! ## Shared tables -/

/-- What reconciliations of the wanted paths may do to tables. -/
structure Evolves (wanted : List SensorPath) (s t : Store) : Prop where
  integrity : s.Integrity → t.Integrity
  grows : Grows wanted s t

theorem Evolves.refl {wanted : List SensorPath} (s : Store) : Evolves wanted s s :=
  ⟨id, .refl s⟩

theorem Evolves.trans {wanted : List SensorPath} (s t u : Store) (h : Evolves wanted s t)
    (h' : Evolves wanted t u) : Evolves wanted s u :=
  ⟨fun hs => h'.integrity (h.integrity hs), h.grows.trans h'.grows⟩

/-- The ids of sections and modules stay within 64 bits when `n` more of each come. -/
structure HasRoomFor (s : Store) (n : Nat) : Prop where
  sections : fitsSigned 64 ((s.sections.length + n : Nat) : Int) = true
  modules : fitsSigned 64 ((s.modules.length + n : Nat) : Int) = true

/-- However the tables evolve, they have integrity, and ids that the database can hold unless
they may be `full`. -/
def Steady (wanted : List SensorPath) (full : Prop) (s : Store) : Prop :=
  ∀ t, Evolves wanted s t → t.Integrity ∧ (full ∨ t.HasRoomFor 0)

theorem Integrity.steady (wanted : List SensorPath) {s : Store} (hs : s.Integrity) :
    Steady wanted (¬s.HasRoomFor wanted.length) s := by
  intro t h
  have ht := h.integrity hs
  refine ⟨ht, or_iff_not_imp_left.2 fun hroom => ?_⟩
  have room := not_not.1 hroom
  constructor
  · exact fitsSigned_of_le (h.grows.length_sections_le ht) room.sections
  · exact fitsSigned_of_le (h.grows.length_modules_le ht) room.modules

namespace Steady

variable {wanted : List SensorPath} {full : Prop} {s t : Store}

theorem evolves (h : Steady wanted full s) (hst : Evolves wanted s t) : Steady wanted full t :=
  fun u hu => h u (.trans s t u hst hu)

theorem integrity (h : Steady wanted full s) : s.Integrity :=
  (h s (.refl s)).1

theorem checkKey_section (h : Steady wanted full s) {r : SectionRow} (hr : r ∈ s.sections) :
    checkKey r.id = .ok () ∨ checkKey r.id = .error oversizedKey ∧ full :=
  checkKey_cases (Nat.le_add_right_of_le (h.integrity.sectionIds.id_le hr))
    ((h s (.refl s)).2.imp_right HasRoomFor.sections)

theorem checkKey_module (h : Steady wanted full s) {m : ModuleRow} (hm : m ∈ s.modules) :
    checkKey m.id = .ok () ∨ checkKey m.id = .error oversizedKey ∧ full :=
  checkKey_cases (Nat.le_add_right_of_le (h.integrity.moduleIds.id_le hm))
    ((h s (.refl s)).2.imp_right HasRoomFor.modules)

end Steady

/-! ## Inserts -/

theorem isDuplicateKey_existingRow {columns : String} (h : columns ∈ ["sections.name",
    "modules.name, modules.section_id", "sensors.name, sensors.module_id"]) :
    (existingRow columns).isDuplicateKey = true := by
  simp only [List.mem_cons, List.not_mem_nil, or_false] at h
  rcases h with rfl | rfl | rfl <;> decide +kernel

variable {s : Store}

/-- A section is refused exactly if its name is taken. -/
theorem answer_insertSection (s : Store) (name : String) :
    (s.HasSection name ∧ answer (.insertSection (some name)) s =
        (.error (existingRow "sections.name"), s)) ∨
      ¬s.HasSection name ∧ answer (.insertSection (some name)) s =
        (.ok (some ⟨s.sections.length + 1, name⟩),
          { s with sections := s.sections ++ [⟨s.sections.length + 1, name⟩] }) := by
  have hany : (s.sections.any fun r => r.name == name) = true ↔ s.HasSection name := by
    simp [HasSection]
  have hadd : s.addSection (some name) = s.insertSection name := rfl
  by_cases h : s.HasSection name
  · refine Or.inl ⟨h, ?_⟩
    rw [answer, hadd, insertSection, if_pos (hany.2 h), inserted]
    rfl
  · refine Or.inr ⟨h, ?_⟩
    rw [answer, hadd, insertSection, if_neg (mt hany.1 h), inserted]
    rfl

theorem answer_insertModule_oversized {sectionId : Int}
    (hkey : checkKey sectionId = .error oversizedKey) (s : Store) (name : String) :
    answer (.insertModule (some name) (some sectionId)) s = (.error oversizedKey, s) := by
  rw [answer, addModule, forM_some, hkey]
  rfl

theorem answer_insertSensor_oversized {moduleId : Int}
    (hkey : checkKey moduleId = .error oversizedKey) (s : Store) (name topic : String) :
    answer (.insertSensor (some name) (some moduleId) (some topic)) s =
      (.error oversizedKey, s) := by
  rw [answer, addSensor, forM_some, hkey]
  rfl

namespace Integrity

variable (hs : s.Integrity)
include hs

theorem any_module_iff {parent : SectionRow} (hparent : parent ∈ s.sections) {name : String} :
    (s.modules.any fun m => m.name == name && (m.sectionId : Int) == (parent.id : Int)) = true ↔
      s.HasModule (parent.name, name) := by
  simp only [List.any_eq_true, Bool.and_eq_true, beq_iff_eq, Int.natCast_inj, HasModule,
    hs.modulePath?_eq_some_iff]
  refine exists_congr fun m => and_congr_right fun hm => ⟨?_, ?_⟩
  · rintro ⟨hname, hid⟩
    exact ⟨parent, hparent, hid.symm, rfl, hname⟩
  · rintro ⟨r, hr, hid, hrname, hname⟩
    obtain rfl := hs.section_eq_of_name_eq hr hparent hrname
    exact ⟨hname, hid.symm⟩

theorem any_sensor_iff {parent : ModuleRow} (hparent : parent ∈ s.modules)
    {sectionName name : String} (hpath : s.modulePath? parent = some (sectionName, parent.name)) :
    (s.sensors.any fun x => x.name == name && (x.moduleId : Int) == (parent.id : Int)) = true ↔
      s.HasSensor ⟨sectionName, parent.name, name⟩ := by
  simp only [List.any_eq_true, Bool.and_eq_true, beq_iff_eq, Int.natCast_inj, HasSensor,
    hs.sensorPath?_eq_some_iff]
  refine exists_congr fun x => and_congr_right fun hx => ⟨?_, ?_⟩
  · rintro ⟨hname, hid⟩
    exact ⟨parent, hparent, hid.symm, hpath, hname⟩
  · rintro ⟨m, hm, hid, hmpath, hname⟩
    obtain rfl := hs.module_eq_of_path_eq hm hparent hmpath hpath
    exact ⟨hname, hid.symm⟩

/-- Below a section that exists, a module is refused exactly if its name is taken there. -/
theorem answer_insertModule {parent : SectionRow} (hparent : parent ∈ s.sections)
    (hkey : checkKey parent.id = .ok ()) (name : String) :
    (s.HasModule (parent.name, name) ∧
      Store.answer (.insertModule (some name) (some (parent.id : Int))) s =
        (.error (existingRow "modules.name, modules.section_id"), s)) ∨
      ¬s.HasModule (parent.name, name) ∧
      Store.answer (.insertModule (some name) (some (parent.id : Int))) s =
        (.ok (some ⟨s.modules.length + 1, name, parent.id⟩),
          { s with modules := s.modules ++ [⟨s.modules.length + 1, name, parent.id⟩] }) := by
  have hadd : s.addModule (some name) (some (parent.id : Int)) =
      s.insertModule name parent.id := by
    rw [addModule, forM_some, hkey, ok_bind, required, ok_bind, required, ok_bind]
  have hinsert : s.insertModule name parent.id =
      if (s.modules.any fun m => m.name == name && (m.sectionId : Int) == (parent.id : Int)) = true
      then .error (existingRow "modules.name, modules.section_id")
      else .ok (⟨s.modules.length + 1, name, parent.id⟩,
        { s with modules := s.modules ++ [⟨s.modules.length + 1, name, parent.id⟩] }) := by
    rw [insertModule, hkey, hs.sectionById?_eq_some hparent, ok_bind]
  by_cases h : s.HasModule (parent.name, name)
  · refine Or.inl ⟨h, ?_⟩
    rw [Store.answer, hadd, hinsert, if_pos ((hs.any_module_iff hparent).2 h), inserted]
    rfl
  · refine Or.inr ⟨h, ?_⟩
    rw [Store.answer, hadd, hinsert, if_neg (mt (hs.any_module_iff hparent).1 h), inserted]
    rfl

/-- Below a module that exists, a sensor is refused exactly if its name is taken there. -/
theorem answer_insertSensor {parent : ModuleRow} (hparent : parent ∈ s.modules)
    {sectionName : String} (hpath : s.modulePath? parent = some (sectionName, parent.name))
    (hkey : checkKey parent.id = .ok ()) (name topic : String) :
    (s.HasSensor ⟨sectionName, parent.name, name⟩ ∧
      Store.answer (.insertSensor (some name) (some (parent.id : Int)) (some topic)) s =
        (.error (existingRow "sensors.name, sensors.module_id"), s)) ∨
      ¬s.HasSensor ⟨sectionName, parent.name, name⟩ ∧
      Store.answer (.insertSensor (some name) (some (parent.id : Int)) (some topic)) s =
        (.ok (some ⟨s.sensors.length + 1, name, parent.id, topic⟩),
          { s with sensors := s.sensors ++ [⟨s.sensors.length + 1, name, parent.id, topic⟩] }) := by
  have hadd : s.addSensor (some name) (some (parent.id : Int)) (some topic) =
      s.insertSensor name parent.id topic := by
    rw [addSensor, forM_some, hkey, ok_bind, required, ok_bind, required, ok_bind, required,
      ok_bind]
  have hinsert : s.insertSensor name parent.id topic =
      if (s.sensors.any fun x => x.name == name && (x.moduleId : Int) == (parent.id : Int)) = true
      then .error (existingRow "sensors.name, sensors.module_id")
      else .ok (⟨s.sensors.length + 1, name, parent.id, topic⟩,
        { s with sensors := s.sensors ++ [⟨s.sensors.length + 1, name, parent.id, topic⟩] }) := by
    rw [insertSensor, hkey, hs.moduleById?_eq_some hparent, ok_bind]
  by_cases h : s.HasSensor ⟨sectionName, parent.name, name⟩
  · refine Or.inl ⟨h, ?_⟩
    rw [Store.answer, hadd, hinsert, if_pos ((hs.any_sensor_iff hparent hpath).2 h), inserted]
    rfl
  · refine Or.inr ⟨h, ?_⟩
    rw [Store.answer, hadd, hinsert, if_neg (mt (hs.any_sensor_iff hparent hpath).1 h), inserted]
    rfl

end Integrity

/-! ## Steps of evolution -/

variable {wanted : List SensorPath}

theorem evolves_addSection {p : SensorPath} (hp : p ∈ wanted) {r : SectionRow}
    (hr : r.name = p.sectionName)
    (integrity : s.Integrity → { s with sections := s.sections ++ [r] }.Integrity) :
    Evolves wanted s { s with sections := s.sections ++ [r] } := by
  refine ⟨integrity, rfl, ⟨[r], rfl, ?_⟩, ⟨[], by simp⟩, ⟨[], by simp⟩⟩
  rintro r' hr'
  obtain rfl := List.mem_singleton.1 hr'
  exact ⟨p, hp, hr.symm⟩

theorem evolves_addModule {p : SensorPath} (hp : p ∈ wanted) {m : ModuleRow}
    (hm : { s with modules := s.modules ++ [m] }.modulePath? m = some (modulePathOf p))
    (integrity : s.Integrity → { s with modules := s.modules ++ [m] }.Integrity) :
    Evolves wanted s { s with modules := s.modules ++ [m] } := by
  refine ⟨integrity, rfl, ⟨[], by simp⟩, ⟨[m], rfl, ?_⟩, ⟨[], by simp⟩⟩
  rintro m' hm'
  obtain rfl := List.mem_singleton.1 hm'
  exact ⟨p, hp, hm⟩

theorem evolves_addSensor {p : SensorPath} (hp : p ∈ wanted) {x : SensorRow}
    (hx : { s with sensors := s.sensors ++ [x] }.sensorPath? x = some p)
    (htopic : x.topic = p.topic)
    (integrity : s.Integrity → { s with sensors := s.sensors ++ [x] }.Integrity) :
    Evolves wanted s { s with sensors := s.sensors ++ [x] } := by
  refine ⟨integrity, rfl, ⟨[], by simp⟩, ⟨[], by simp⟩, ⟨[x], rfl, ?_⟩⟩
  rintro x' hx'
  obtain rfl := List.mem_singleton.1 hx'
  exact ⟨p, hp, hx, htopic⟩

theorem Evolves.mem_sections {t : Store} (h : Evolves wanted s t) {r : SectionRow}
    (hr : r ∈ s.sections) : r ∈ t.sections :=
  h.grows.sections_prefix.subset hr

theorem Evolves.mem_modules {t : Store} (h : Evolves wanted s t) {m : ModuleRow}
    (hm : m ∈ s.modules) : m ∈ t.modules :=
  h.grows.modules_prefix.subset hm

theorem Evolves.mem_sensors {t : Store} (h : Evolves wanted s t) {x : SensorRow}
    (hx : x ∈ s.sensors) : x ∈ t.sensors :=
  h.grows.sensors_prefix.subset hx

/-! ## Resolving -/

/-- A program settles over tables that evolve by wanted paths. Only when they may be `full` it
may fail, on an id that the database cannot hold. -/
abbrev SettlesAmong {α : Type} (wanted : List SensorPath) (full : Prop)
    (post : α → Store → Prop) (n : Nat) (p : Program storeInterface α) (s : Store) : Prop :=
  p.Settles (fun c t => answer c t) (Evolves wanted) (fun f => f = oversizedKey ∧ full) post n s

variable {full : Prop}

/-- A request that only reads settles at once. -/
theorem settlesAmong_read {c : StoreCall} {post : c.Reply → Store → Prop}
    (h : ∀ t, Evolves wanted s t → ∃ a, answer c t = (.ok a, t) ∧ post a t) :
    SettlesAmong wanted full post 1 c.ask s := by
  refine Program.Settles.call fun t ht => ?_
  obtain ⟨a, ha, hpost⟩ := h t ht
  have hfst : (answer c t).1 = .ok a := congrArg Prod.fst ha
  have hsnd : (answer c t).2 = t := congrArg Prod.snd ha
  exact ⟨hsnd.symm ▸ .refl t, a, hfst, hsnd.symm ▸ hpost⟩

/-- A request settles at once if its failure is taken as a result. -/
theorem settlesAmong_attempt {c : StoreCall} {post : Except Failure c.Reply → Store → Prop}
    (h : ∀ t, Evolves wanted s t →
      Evolves wanted t (answer c t).2 ∧ post (answer c t).1 (answer c t).2) :
    SettlesAmong wanted full post 1 c.ask.attempt s :=
  Program.Settles.attempt_call h

/-- A search settles within three requests, if its look finds exactly the rows of `post`, which
stay, and its insert is refused as a duplicate only when there is such a row, and otherwise
only for want of room. -/
theorem settles_search {α : Type} {what : String} {find insert : Program storeInterface (Option α)}
    (find? : Store → Option α) {post : α → Store → Prop} (hs : Steady wanted full s)
    (hread : ∀ {post : Option α → Store → Prop} {s : Store},
      (∀ t, Evolves wanted s t → post (find? t) t) → SettlesAmong wanted full post 1 find s)
    (hfind : ∀ t, t.Integrity → ∀ a, find? t = some a ↔ post a t)
    (hstable : ∀ a t u, Evolves wanted t u → post a t → post a u)
    (hinsert : ∀ t, Evolves wanted s t → SettlesAmong wanted full (fun r u => match r with
      | .ok (some a) => post a u
      | .ok none => False
      | .error f => if f.isDuplicateKey then ∃ a, post a u else f = oversizedKey ∧ full)
      1 insert.attempt t) :
    SettlesAmong wanted full post 3 (findOrCreate what find (created insert)) s := by
  refine Program.Settles.findOrCreate (n := 1) (k := 1) (fun t => ∃ a, post a t) .refl .trans
    ?_ ?_ ?_
  · intro t ht
    refine hread fun u hu a ha => ?_
    exact (hfind u (hs.evolves (.trans s t u ht hu)).integrity a).1 ha
  · intro t ht
    exact Program.Settles.attempt_created (hinsert t ht)
  · rintro t ht ⟨a, ha⟩
    refine hread fun u hu => ⟨a, ?_, hstable a t u hu ha⟩
    exact (hfind u (hs.evolves (.trans s t u ht hu)).integrity a).2 (hstable a t u hu ha)

/-- A section is resolved within three requests. -/
theorem settles_resolveSection (hs : Steady wanted full s) {p : SensorPath} (hp : p ∈ wanted) :
    SettlesAmong wanted full (fun r t => r ∈ t.sections ∧ r.name = p.sectionName) 3
      (resolveSection p.sectionName) s := by
  refine settles_search (fun t => t.sectionByName? p.sectionName) hs
    (fun h => settlesAmong_read fun t ht => ⟨_, rfl, h t ht⟩)
    (fun t ht r => ht.sectionByName?_eq_some_iff)
    (fun r t u hu h => ⟨hu.mem_sections h.1, h.2⟩) fun t ht => ?_
  refine settlesAmong_attempt (c := .insertSection (some p.sectionName)) fun u hu => ?_
  have hint := (hs.evolves (.trans s t u ht hu)).integrity
  have hkeep := hint.answer (.insertSection (some p.sectionName))
  rcases answer_insertSection u p.sectionName with ⟨hname, hreply⟩ | ⟨-, hreply⟩
  · rw [hreply]
    exact ⟨.refl u, (if_pos (isDuplicateKey_existingRow (by simp))).mpr hname⟩
  · rw [hreply] at hkeep ⊢
    refine ⟨evolves_addSection hp rfl fun _ => hkeep, ?_, rfl⟩
    exact List.mem_append_right _ (List.mem_singleton_self _)

/-- Below a section that exists, a module is resolved within three requests. -/
theorem settles_resolveModule (hs : Steady wanted full s) {p : SensorPath} (hp : p ∈ wanted)
    {parent : SectionRow} (hparent : parent ∈ s.sections) (hname : parent.name = p.sectionName) :
    SettlesAmong wanted full (fun m t => m ∈ t.modules ∧ t.modulePath? m = some (modulePathOf p)) 3
      (resolveModule parent p.moduleName) s := by
  refine settles_search (fun t => t.moduleByName? p.moduleName parent.name) hs
    (fun h => settlesAmong_read fun t ht => ⟨_, rfl, h t ht⟩)
    (fun t ht m => by rw [ht.moduleByName?_eq_some_iff, hname]; rfl)
    (fun m t u hu h => ⟨hu.mem_modules h.1, hu.grows.modulePath? h.2⟩) fun t ht => ?_
  refine settlesAmong_attempt
    (c := .insertModule (some p.moduleName) (some (parent.id : Int))) fun u hu => ?_
  have hsteady := hs.evolves (.trans s t u ht hu)
  have hmem : parent ∈ u.sections := hu.mem_sections (ht.mem_sections hparent)
  have hkeep := hsteady.integrity.answer
    (.insertModule (some p.moduleName) (some (parent.id : Int)))
  rcases hsteady.checkKey_section hmem with hkey | ⟨hkey, hfull⟩
  swap
  · rw [answer_insertModule_oversized hkey]
    exact ⟨.refl u, rfl, hfull⟩
  rcases hsteady.integrity.answer_insertModule hmem hkey p.moduleName
    with ⟨hmodule, hreply⟩ | ⟨-, hreply⟩
  · rw [hreply]
    rw [hname] at hmodule
    exact ⟨.refl u, (if_pos (isDuplicateKey_existingRow (by simp))).mpr hmodule⟩
  · rw [hreply] at hkeep ⊢
    have hpath := (@Integrity.modulePath?_eq_some_iff _ hkeep
      ⟨u.modules.length + 1, p.moduleName, parent.id⟩ (modulePathOf p)).2
      ⟨parent, hmem, rfl, hname, rfl⟩
    refine ⟨evolves_addModule hp hpath fun _ => hkeep, ?_, hpath⟩
    exact List.mem_append_right _ (List.mem_singleton_self _)

/-- Below a module that exists, a sensor is resolved within three requests. -/
theorem settles_resolveSensor (hs : Steady wanted full s) {p : SensorPath} (hp : p ∈ wanted)
    {top : SectionRow} {parent : ModuleRow} (hparent : parent ∈ s.modules)
    (htop : top.name = p.sectionName) (hpath : s.modulePath? parent = some (modulePathOf p)) :
    SettlesAmong wanted full (fun x t => x ∈ t.sensors ∧ t.sensorPath? x = some p) 3
      (resolveSensor parent top p.sensorName) s := by
  obtain ⟨-, -, -, -, hname⟩ := hs.integrity.modulePath?_eq_some_iff.1 hpath
  have hp' : (⟨top.name, parent.name, p.sensorName⟩ : SensorPath) = p := by rw [htop, hname]; rfl
  refine settles_search (fun t => t.sensorByPath? ⟨top.name, parent.name, p.sensorName⟩) hs
    (fun h => settlesAmong_read fun t ht => ⟨_, rfl, h t ht⟩)
    (fun t ht x => by rw [ht.sensorByPath?_eq_some_iff, hp'])
    (fun x t u hu h => ⟨hu.mem_sensors h.1, hu.grows.sensorPath? h.2⟩) fun t ht => ?_
  have htopic : sensorTopic top.name parent.name p.sensorName = p.topic := by
    rw [htop, hname]; rfl
  refine settlesAmong_attempt (c := .insertSensor (some p.sensorName) (some (parent.id : Int))
    (some (sensorTopic top.name parent.name p.sensorName))) fun u hu => ?_
  have hsteady := hs.evolves (.trans s t u ht hu)
  have hmem : parent ∈ u.modules := hu.mem_modules (ht.mem_modules hparent)
  have hupath : u.modulePath? parent = some (p.sectionName, parent.name) := by
    rw [hname]
    exact hu.grows.modulePath? (ht.grows.modulePath? hpath)
  have hkeep := hsteady.integrity.answer (.insertSensor (some p.sensorName)
    (some (parent.id : Int)) (some (sensorTopic top.name parent.name p.sensorName)))
  rcases hsteady.checkKey_module hmem with hkey | ⟨hkey, hfull⟩
  swap
  · rw [answer_insertSensor_oversized hkey]
    exact ⟨.refl u, rfl, hfull⟩
  rcases hsteady.integrity.answer_insertSensor hmem hupath hkey
    p.sensorName (sensorTopic top.name parent.name p.sensorName)
    with ⟨hsensor, hreply⟩ | ⟨-, hreply⟩
  · rw [hreply]
    rw [← htop, hp'] at hsensor
    exact ⟨.refl u, (if_pos (isDuplicateKey_existingRow (by simp))).mpr hsensor⟩
  · rw [hreply] at hkeep ⊢
    have hxpath := (@Integrity.sensorPath?_eq_some_iff _ hkeep ⟨u.sensors.length + 1, p.sensorName,
      parent.id, sensorTopic top.name parent.name p.sensorName⟩ p).2
      ⟨parent, hmem, rfl, hname ▸ hupath, rfl⟩
    refine ⟨evolves_addSensor hp hxpath htopic fun _ => hkeep, ?_, hxpath⟩
    exact List.mem_append_right _ (List.mem_singleton_self _)

/-- A wanted path is resolved within nine requests, to the sensor that has it. -/
theorem settles_resolvePath (hs : Steady wanted full s) {p : SensorPath} (hp : p ∈ wanted) :
    SettlesAmong wanted full (fun x t => x ∈ t.sensors ∧ t.sensorPath? x = some p) 9
      (resolvePath p) s := by
  refine (settles_resolveSection hs hp).bind (m := 6) .trans .refl fun r t ht hr => ?_
  have ht' := hs.evolves ht
  refine (settles_resolveModule ht' hp hr.1 hr.2).bind (m := 3) .trans .refl fun m u hu hm => ?_
  exact settles_resolveSensor (ht'.evolves hu) hp hm.1 hr.2 hm.2

end Store
end SensorRelay
