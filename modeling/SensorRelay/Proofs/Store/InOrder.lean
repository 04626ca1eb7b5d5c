import SensorRelay.Proofs.Store.Growth

/-!
# Growth in order

What a single reconciliation adds comes in the order in which the paths first ask for it, and the
ids of the new rows are the next ones. `AppendsInOrder` says so of one table and
`CompletesInOrder` of all of them; what was missing is what the lookups by names did not find.

Growth for one wanted path is in order (`Grows.completesInOrder`), and growth in order can be
continued (`CompletesInOrder.trans`), because after the first part exactly the paths of the first
part are missing no more (`AppendsInOrder.absent_eq`).
-/

namespace SensorRelay.Store

/-! ## One table -/

section Table

variable {α κ : Type} [DecidableEq κ]

/-- The rows of `all` are those of `old` and then one for each missing key, in the order in which
the keys are mentioned first and with the next ids. -/
def AppendsInOrder (id : α → Nat) (key : α → Option κ) (missing : List κ) (old all : List α) :
    Prop :=
  ∃ new, all = old ++ new ∧ new.map key = missing.eraseDups.map some ∧
    new.map id = List.range' (old.length + 1) new.length

variable {id : α → Nat} {key key' : α → Option κ} {absent absent' : κ → Bool} {ks ks' : List κ}
  {old mid all : List α}

theorem Numbered.map_id_of_append {new : List α} (h : Numbered id (old ++ new)) :
    new.map id = List.range' (old.length + 1) new.length := by
  have hall : old.map id ++ new.map id =
      List.range' 1 old.length ++ List.range' (old.length + 1) new.length := by
    rw [← List.map_append, h, List.length_append, Nat.add_comm old.length 1,
      List.range'_append_1]
  exact (List.append_inj hall (by simp)).2

namespace AppendsInOrder

/-- After rows have been appended for keys, a key is absent if it was absent before and is none
of them. -/
theorem absent_eq (h : AppendsInOrder id key (ks.filter absent) old all)
    (habsent : ∀ k, absent k = true ↔ ¬∃ a ∈ old, key a = some k)
    (habsent' : ∀ k, absent' k = true ↔ ¬∃ a ∈ all, key a = some k) (k : κ) :
    absent' k = (absent k && !(ks.filter absent).elem k) := by
  obtain ⟨new, rfl, hnew, -⟩ := h
  have hmem : (∃ a ∈ new, key a = some k) ↔ k ∈ ks.filter absent := by
    rw [← List.mem_map, hnew, List.mem_map]
    simp [List.mem_eraseDups]
  rw [Bool.eq_iff_iff, Bool.and_eq_true, habsent, habsent', Bool.not_eq_true',
    ← Bool.not_eq_true, List.elem_iff, ← hmem]
  simp only [List.mem_append, or_and_right, exists_or, not_or]

/-- Growth in order can be continued. -/
theorem trans (h : AppendsInOrder id key (ks.filter absent) old mid)
    (h' : AppendsInOrder id key' (ks'.filter absent') mid all) (hkey : ∀ a ∈ mid, key' a = key a)
    (habsent : ∀ k, absent' k = (absent k && !(ks.filter absent).elem k)) :
    AppendsInOrder id key' ((ks ++ ks').filter absent) old all := by
  obtain ⟨new, rfl, hnew, hids⟩ := h
  obtain ⟨new', rfl, hnew', hids'⟩ := h'
  have hkeys : new.map key' = new.map key :=
    List.map_congr_left fun a ha => hkey a (List.mem_append_right _ ha)
  have hrest : ks'.filter absent' = (ks'.filter absent).removeAll (ks.filter absent) := by
    rw [List.removeAll, List.filter_filter]
    exact List.filter_congr fun k _ => (habsent k).trans (Bool.and_comm _ _)
  refine ⟨new ++ new', List.append_assoc _ _ _, ?_, ?_⟩
  · rw [List.map_append, hkeys, hnew, hnew', hrest, List.filter_append, List.eraseDups_append,
      List.map_append]
  · rw [List.map_append, hids, hids', List.length_append, List.length_append,
      Nat.add_right_comm, List.range'_append_1]

end AppendsInOrder

/-- One wanted key is missing or not, so there is only one order. -/
theorem ExtendsBy.appendsInOrder {missing : κ → Prop} (h : ExtendsBy key missing old all)
    (hids : Numbered id all) {k : κ} (hmissing : ∀ k', missing k' ↔ k' = k ∧ absent k = true) :
    AppendsInOrder id key ([k].filter absent) old all := by
  obtain ⟨new, keys, rfl, hnew, hnodup, hmem⟩ := h
  refine ⟨new, rfl, ?_, hids.map_id_of_append⟩
  rw [hnew]
  congr 1
  cases habsent : absent k with
  | true =>
    have hperm : keys.Perm [k] := by
      refine (List.perm_ext_iff_of_nodup hnodup (List.nodup_singleton k)).2 fun k' => ?_
      simp [hmem, hmissing, habsent]
    rw [List.perm_singleton.1 hperm, List.filter_cons_of_pos habsent]
    rfl
  | false =>
    have hnil : keys = [] := by
      refine List.eq_nil_iff_forall_not_mem.2 fun k' hk' => ?_
      simp [hmem, hmissing, habsent] at hk'
    rw [hnil, List.filter_cons_of_neg (by simp [habsent])]
    rfl

end Table

/-! ## Lookups that find nothing -/

namespace Integrity

variable {s : Store} (hs : s.Integrity)
include hs

theorem isNone_sectionByName?_iff {name : String} :
    (s.sectionByName? name).isNone = true ↔ ¬s.HasSection name := by
  rw [Option.isNone_iff_eq_none, Option.eq_none_iff_forall_ne_some]
  simp [hs.sectionByName?_eq_some_iff, HasSection]

theorem isNone_moduleByName?_iff {path : String × String} :
    (s.moduleByName? path.2 path.1).isNone = true ↔ ¬s.HasModule path := by
  rw [Option.isNone_iff_eq_none, Option.eq_none_iff_forall_ne_some]
  simp [hs.moduleByName?_eq_some_iff, HasModule]

theorem isNone_sensorByPath?_iff {path : SensorPath} :
    (s.sensorByPath? path).isNone = true ↔ ¬s.HasSensor path := by
  rw [Option.isNone_iff_eq_none, Option.eq_none_iff_forall_ne_some]
  simp [hs.sensorByPath?_eq_some_iff, HasSensor]

end Integrity

/-! ## All tables -/

/-- From `s` to `t` exactly what was missing on the paths has been made, in the order of the
paths, and every new sensor has the topic of its path. -/
structure CompletesInOrder (paths : List SensorPath) (s t : Store) : Prop where
  records : t.records = s.records
  sections : AppendsInOrder SectionRow.id (fun r => some r.name)
    ((paths.map SensorPath.sectionName).filter fun name => (s.sectionByName? name).isNone)
    s.sections t.sections
  modules : AppendsInOrder ModuleRow.id t.modulePath?
    ((paths.map modulePathOf).filter fun path => (s.moduleByName? path.2 path.1).isNone)
    s.modules t.modules
  sensors : AppendsInOrder SensorRow.id t.sensorPath?
    (paths.filter fun path => (s.sensorByPath? path).isNone) s.sensors t.sensors
  topics : ∀ x ∈ t.sensors, x ∉ s.sensors → ∃ path, t.sensorPath? x = some path ∧
    x.topic = path.topic

variable {wanted wanted' : List SensorPath} {s t u : Store}

theorem completesInOrder_nil (s : Store) : CompletesInOrder [] s s :=
  ⟨rfl, ⟨[], by simp⟩, ⟨[], by simp⟩, ⟨[], by simp⟩, fun _ hx hnot => (hnot hx).elim⟩

/-- Growth for one wanted path is in order. -/
theorem Grows.completesInOrder {p : SensorPath} (h : Grows [p] s t) (hs : s.Integrity)
    (ht : t.Integrity) (complete : t.HasSensor p) : CompletesInOrder [p] s t := by
  have hexact := h.completes hs ht (by simpa using complete)
  refine ⟨hexact.records, ?_, ?_, ?_, hexact.topics⟩
  · refine hexact.sections.appendsInOrder ht.sectionIds fun name => ?_
    rw [hs.isNone_sectionByName?_iff]
    simp only [List.mem_singleton, exists_eq_left]
    exact ⟨fun h => ⟨h.1.symm, h.1 ▸ h.2⟩, fun h => ⟨h.1.symm, h.1 ▸ h.2⟩⟩
  · refine hexact.modules.appendsInOrder ht.moduleIds fun path => ?_
    rw [hs.isNone_moduleByName?_iff]
    simp only [List.mem_singleton, exists_eq_left]
    exact ⟨fun h => ⟨h.1.symm, h.1 ▸ h.2⟩, fun h => ⟨h.1.symm, h.1 ▸ h.2⟩⟩
  · refine hexact.sensors.appendsInOrder ht.sensorIds fun path => ?_
    rw [hs.isNone_sensorByPath?_iff, List.mem_singleton]
    exact and_congr_right fun h => h ▸ Iff.rfl

/-- Growth in order can be continued. -/
theorem CompletesInOrder.trans {paths paths' : List SensorPath}
    (h : CompletesInOrder paths s t) (h' : CompletesInOrder paths' t u) (hs : s.Integrity)
    (ht : t.Integrity) (hst : Grows wanted s t) (htu : Grows wanted' t u) :
    CompletesInOrder (paths ++ paths') s u := by
  have hmodulePath : ∀ m ∈ t.modules, u.modulePath? m = t.modulePath? m := by
    intro m hm
    obtain ⟨path, hpath⟩ := ht.exists_modulePath hm
    rw [hpath, htu.modulePath? hpath]
  have hsensorPath : ∀ x ∈ t.sensors, u.sensorPath? x = t.sensorPath? x := by
    intro x hx
    obtain ⟨path, hpath⟩ := ht.exists_sensorPath hx
    rw [hpath, htu.sensorPath? hpath]
  refine ⟨h'.records.trans h.records, ?_, ?_, ?_, fun x hx hnew => ?_⟩
  · rw [List.map_append]
    refine h.sections.trans h'.sections (fun _ _ => rfl) (h.sections.absent_eq ?_ ?_)
    · exact fun name => by simp [hs.isNone_sectionByName?_iff, HasSection]
    · exact fun name => by simp [ht.isNone_sectionByName?_iff, HasSection]
  · rw [List.map_append]
    refine h.modules.trans h'.modules hmodulePath (h.modules.absent_eq ?_ ?_)
    · exact fun path => hs.isNone_moduleByName?_iff.trans (not_congr (hst.hasModule_iff hs))
    · exact fun path => ht.isNone_moduleByName?_iff
  · refine h.sensors.trans h'.sensors hsensorPath (h.sensors.absent_eq ?_ ?_)
    · exact fun path => hs.isNone_sensorByPath?_iff.trans (not_congr (hst.hasSensor_iff hs))
    · exact fun path => ht.isNone_sensorByPath?_iff
  · by_cases hx' : x ∈ t.sensors
    · obtain ⟨path, hpath, htopic⟩ := h.topics x hx' hnew
      exact ⟨path, htu.sensorPath? hpath, htopic⟩
    · exact h'.topics x hx hx'

end SensorRelay.Store
