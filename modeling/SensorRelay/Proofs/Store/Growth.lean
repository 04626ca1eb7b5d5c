import Mathlib.Data.List.Perm.Subperm
import SensorRelay.Proofs.Store.Paths

/-!
# Growing tables

Tables are part of others if rows have at most been appended to them (`IsPartOf`), and then modules
and sensors keep their paths. Tables grow by wanted paths (`Grows`) if rows are only appended, the
new sections and modules lie on wanted paths, and the new sensors have wanted paths and the topics
that go with them. Growth can be continued (`Grows.trans`) and, as paths are unique, adds no more
rows to a table than there are wanted paths (`Grows.length_sensors_le`).

Once all wanted paths have sensors the growth is exact (`Grows.completes`) : the new rows are
one for each section, module and sensor that was missing (`Completes`).
-/

namespace SensorRelay.Store

/-- The names of the section and the module on a path. -/
def modulePathOf (path : SensorPath) : String × String :=
  (path.sectionName, path.moduleName)

/-- From `s` to `t` rows have at most been appended : all the old ones stand in their old places. -/
structure IsPartOf (s t : Store) : Prop where
  sections : s.sections <+: t.sections
  modules : s.modules <+: t.modules
  sensors : s.sensors <+: t.sensors
  records : s.records <+: t.records

namespace IsPartOf

variable {s t u : Store}

theorem refl (s : Store) : IsPartOf s s :=
  ⟨List.prefix_rfl, List.prefix_rfl, List.prefix_rfl, List.prefix_rfl⟩

theorem trans (h : IsPartOf s t) (h' : IsPartOf t u) : IsPartOf s u :=
  ⟨h.sections.trans h'.sections, h.modules.trans h'.modules, h.sensors.trans h'.sensors,
    h.records.trans h'.records⟩

/-- A module keeps its path. -/
theorem modulePath? (h : IsPartOf s t) {m : ModuleRow} {path : String × String}
    (hm : s.modulePath? m = some path) : t.modulePath? m = some path := by
  obtain ⟨r, hr, rfl⟩ := Option.map_eq_some_iff.1 hm
  exact Option.map_eq_some_iff.2 ⟨r, h.sections.find?_eq_some hr, rfl⟩

/-- A sensor keeps its path. -/
theorem sensorPath? (h : IsPartOf s t) {x : SensorRow} {path : SensorPath}
    (hx : s.sensorPath? x = some path) : t.sensorPath? x = some path := by
  obtain ⟨m, hm, hpath⟩ := Option.bind_eq_some_iff.1 hx
  obtain ⟨p, hp, rfl⟩ := Option.map_eq_some_iff.1 hpath
  refine Option.bind_eq_some_iff.2 ⟨m, h.modules.find?_eq_some hm, ?_⟩
  rw [h.modulePath? hp]
  rfl

end IsPartOf

/-- From `s` to `t` rows have been appended, all of them on the wanted paths. -/
structure Grows (wanted : List SensorPath) (s t : Store) : Prop where
  records : t.records = s.records
  sections : ∃ new, t.sections = s.sections ++ new ∧
    ∀ r ∈ new, ∃ p ∈ wanted, p.sectionName = r.name
  modules : ∃ new, t.modules = s.modules ++ new ∧
    ∀ m ∈ new, ∃ p ∈ wanted, t.modulePath? m = some (modulePathOf p)
  sensors : ∃ new, t.sensors = s.sensors ++ new ∧
    ∀ x ∈ new, ∃ p ∈ wanted, t.sensorPath? x = some p ∧ x.topic = p.topic

/-- Rows with keys of their own, each the key of something wanted, are at most as many as that. -/
theorem length_le_of_keys {α β κ : Type} {key : α → κ} (keyOf : β → κ) {rows : List α}
    {all : List β} (hnodup : (rows.map key).Nodup)
    (hwanted : ∀ a ∈ rows, ∃ b ∈ all, key a = keyOf b) : rows.length ≤ all.length := by
  have hsub : rows.map key ⊆ all.map keyOf := by
    intro k hk
    obtain ⟨a, ha, rfl⟩ := List.mem_map.1 hk
    obtain ⟨b, hb, hab⟩ := hwanted a ha
    exact List.mem_map.2 ⟨b, hb, hab.symm⟩
  have := (hnodup.subperm hsub).length_le
  rwa [List.length_map, List.length_map] at this

namespace Grows

variable {wanted : List SensorPath} {s t u : Store}

theorem refl (s : Store) : Grows wanted s s :=
  ⟨rfl, ⟨[], by simp⟩, ⟨[], by simp⟩, ⟨[], by simp⟩⟩

theorem mono {wanted' : List SensorPath} (hsub : wanted ⊆ wanted') (h : Grows wanted s t) :
    Grows wanted' s t := by
  obtain ⟨newSections, hsections, onWanted⟩ := h.sections
  obtain ⟨newModules, hmodules, onWanted'⟩ := h.modules
  obtain ⟨newSensors, hsensors, onWanted''⟩ := h.sensors
  refine ⟨h.records, ⟨newSections, hsections, fun r hr => ?_⟩,
    ⟨newModules, hmodules, fun m hm => ?_⟩, ⟨newSensors, hsensors, fun x hx => ?_⟩⟩
  · exact (onWanted r hr).imp fun _ h => ⟨hsub h.1, h.2⟩
  · exact (onWanted' m hm).imp fun _ h => ⟨hsub h.1, h.2⟩
  · exact (onWanted'' x hx).imp fun _ h => ⟨hsub h.1, h.2⟩

theorem sections_prefix (h : Grows wanted s t) : s.sections <+: t.sections :=
  let ⟨new, hnew, _⟩ := h.sections
  ⟨new, hnew.symm⟩

theorem modules_prefix (h : Grows wanted s t) : s.modules <+: t.modules :=
  let ⟨new, hnew, _⟩ := h.modules
  ⟨new, hnew.symm⟩

theorem sensors_prefix (h : Grows wanted s t) : s.sensors <+: t.sensors :=
  let ⟨new, hnew, _⟩ := h.sensors
  ⟨new, hnew.symm⟩

theorem isPartOf (h : Grows wanted s t) : IsPartOf s t :=
  ⟨h.sections_prefix, h.modules_prefix, h.sensors_prefix, h.records ▸ List.prefix_rfl⟩

/-- A module keeps its path. -/
theorem modulePath? (h : Grows wanted s t) {m : ModuleRow} {path : String × String}
    (hm : s.modulePath? m = some path) : t.modulePath? m = some path :=
  h.isPartOf.modulePath? hm

/-- A sensor keeps its path. -/
theorem sensorPath? (h : Grows wanted s t) {x : SensorRow} {path : SensorPath}
    (hx : s.sensorPath? x = some path) : t.sensorPath? x = some path :=
  h.isPartOf.sensorPath? hx

theorem trans (h : Grows wanted s t) (h' : Grows wanted t u) : Grows wanted s u := by
  obtain ⟨newSections, hsections, wantedSections⟩ := h.sections
  obtain ⟨newSections', hsections', wantedSections'⟩ := h'.sections
  obtain ⟨newModules, hmodules, wantedModules⟩ := h.modules
  obtain ⟨newModules', hmodules', wantedModules'⟩ := h'.modules
  obtain ⟨newSensors, hsensors, wantedSensors⟩ := h.sensors
  obtain ⟨newSensors', hsensors', wantedSensors'⟩ := h'.sensors
  refine ⟨h'.records.trans h.records, ⟨newSections ++ newSections', ?_, ?_⟩,
    ⟨newModules ++ newModules', ?_, ?_⟩, ⟨newSensors ++ newSensors', ?_, ?_⟩⟩
  · rw [hsections', hsections, List.append_assoc]
  · intro r hr
    exact (List.mem_append.1 hr).elim (wantedSections r) (wantedSections' r)
  · rw [hmodules', hmodules, List.append_assoc]
  · intro m hm
    rcases List.mem_append.1 hm with hm | hm
    · obtain ⟨p, hp, hpath⟩ := wantedModules m hm
      exact ⟨p, hp, h'.modulePath? hpath⟩
    · exact wantedModules' m hm
  · rw [hsensors', hsensors, List.append_assoc]
  · intro x hx
    rcases List.mem_append.1 hx with hx | hx
    · obtain ⟨p, hp, hpath, htopic⟩ := wantedSensors x hx
      exact ⟨p, hp, h'.sensorPath? hpath, htopic⟩
    · exact wantedSensors' x hx

/-! ## How much tables grow -/

/-- A table grows by at most one section for each wanted path. -/
theorem length_sections_le (h : Grows wanted s t) (ht : t.Integrity) :
    t.sections.length ≤ s.sections.length + wanted.length := by
  obtain ⟨new, hnew, hwanted⟩ := h.sections
  have hnodup : (new.map fun r => r.name).Nodup := by
    have := ht.sectionNames
    rw [hnew, List.map_append] at this
    exact this.of_append_right
  have hle := length_le_of_keys SensorPath.sectionName hnodup fun r hr =>
    (hwanted r hr).imp fun _ hp => ⟨hp.1, hp.2.symm⟩
  rw [hnew, List.length_append]
  omega

/-- A table grows by at most one module for each wanted path. -/
theorem length_modules_le (h : Grows wanted s t) (ht : t.Integrity) :
    t.modules.length ≤ s.modules.length + wanted.length := by
  obtain ⟨new, hnew, hwanted⟩ := h.modules
  have hmem : ∀ m ∈ new, m ∈ t.modules := fun m hm => hnew ▸ List.mem_append_right _ hm
  have hnodup : (new.map t.modulePath?).Nodup := by
    refine List.Nodup.map_on ?_ (hnew ▸ ht.modules_nodup).of_append_right
    intro m hm m' hm' heq
    obtain ⟨p, -, hp⟩ := hwanted m hm
    exact ht.module_eq_of_path_eq (hmem m hm) (hmem m' hm') hp (heq ▸ hp)
  have hle := length_le_of_keys (fun p => some (modulePathOf p)) hnodup hwanted
  rw [hnew, List.length_append]
  omega

/-- A table grows by at most one sensor for each wanted path. -/
theorem length_sensors_le (h : Grows wanted s t) (ht : t.Integrity) :
    t.sensors.length ≤ s.sensors.length + wanted.length := by
  obtain ⟨new, hnew, hwanted⟩ := h.sensors
  have hmem : ∀ x ∈ new, x ∈ t.sensors := fun x hx => hnew ▸ List.mem_append_right _ hx
  have hnodup : (new.map t.sensorPath?).Nodup := by
    refine List.Nodup.map_on ?_ (hnew ▸ ht.sensors_nodup).of_append_right
    intro x hx x' hx' heq
    obtain ⟨p, -, hp, -⟩ := hwanted x hx
    exact ht.sensor_eq_of_path_eq (hmem x hx) (hmem x' hx') hp (heq ▸ hp)
  have hle := length_le_of_keys some hnodup fun x hx =>
    (hwanted x hx).imp fun _ hp => ⟨hp.1, hp.2.1⟩
  rw [hnew, List.length_append]
  omega

end Grows

/-! ## Exact growth -/

/-- The rows of `all` are those of `old` and then one row for each missing path. -/
def ExtendsBy {α κ : Type} (path : α → Option κ) (missing : κ → Prop) (old all : List α) : Prop :=
  ∃ (new : List α) (keys : List κ), all = old ++ new ∧ new.map path = keys.map some ∧ keys.Nodup ∧
    ∀ k, k ∈ keys ↔ missing k

/-- From `s` to `t` exactly what was missing on the wanted paths has been made, and every new
sensor has the topic of its path. -/
structure Completes (wanted : List SensorPath) (s t : Store) : Prop where
  records : t.records = s.records
  sections : ExtendsBy (fun r : SectionRow => some r.name)
    (fun name => (∃ p ∈ wanted, p.sectionName = name) ∧ ¬s.HasSection name) s.sections t.sections
  modules : ExtendsBy t.modulePath?
    (fun path => (∃ p ∈ wanted, modulePathOf p = path) ∧ ¬s.HasModule path) s.modules t.modules
  sensors : ExtendsBy t.sensorPath? (fun path => path ∈ wanted ∧ ¬s.HasSensor path)
    s.sensors t.sensors
  topics : ∀ x ∈ t.sensors, x ∉ s.sensors → ∃ path, t.sensorPath? x = some path ∧
    x.topic = path.topic

theorem exists_map_eq_map_some {α κ : Type} {path : α → Option κ} {rows : List α}
    (h : ∀ a ∈ rows, ∃ k, path a = some k) : ∃ keys : List κ, rows.map path = keys.map some := by
  induction rows with
  | nil => exact ⟨[], rfl⟩
  | cons a rows ih =>
    obtain ⟨k, hk⟩ := h a List.mem_cons_self
    obtain ⟨keys, hkeys⟩ := ih fun b hb => h b (List.mem_cons_of_mem a hb)
    exact ⟨k :: keys, by rw [List.map_cons, hk, hkeys, List.map_cons]⟩

/-- Rows with paths of their own, the new ones on wanted paths, extend the old rows by what was
missing as soon as every wanted path has a row. -/
theorem extendsBy_of_unique {α κ : Type} (path : α → Option κ) (wanted : κ → Prop)
    {old new : List α} (nodup : (old ++ new).Nodup)
    (unique : ∀ a ∈ old ++ new, ∀ b ∈ old ++ new, ∀ k, path a = some k → path b = some k → a = b)
    (onWanted : ∀ a ∈ new, ∃ k, wanted k ∧ path a = some k)
    (complete : ∀ k, wanted k → ∃ a ∈ old ++ new, path a = some k) :
    ExtendsBy path (fun k => wanted k ∧ ¬∃ a ∈ old, path a = some k) old (old ++ new) := by
  obtain ⟨keys, hkeys⟩ := exists_map_eq_map_some fun a ha => (onWanted a ha).imp fun k hk => hk.2
  have hmem : ∀ k, k ∈ keys ↔ ∃ a ∈ new, path a = some k := by
    intro k
    rw [← List.mem_map, hkeys, List.mem_map]
    simp
  refine ⟨new, keys, rfl, hkeys, ?_, fun k => ?_⟩
  · refine List.Nodup.of_map some ?_
    rw [← hkeys]
    refine List.Nodup.map_on (fun a ha b hb hab => ?_) (List.Nodup.of_append_right nodup)
    obtain ⟨k, -, hk⟩ := onWanted a ha
    exact unique a (List.mem_append_right _ ha) b (List.mem_append_right _ hb) k hk (hab ▸ hk)
  · rw [hmem]
    constructor
    · rintro ⟨a, ha, hk⟩
      obtain ⟨k', hwanted, hk'⟩ := onWanted a ha
      obtain rfl := Option.some.inj (hk'.symm.trans hk)
      refine ⟨hwanted, ?_⟩
      rintro ⟨b, hb, hbk⟩
      obtain rfl := unique a (List.mem_append_right _ ha) b (List.mem_append_left _ hb) k' hk hbk
      exact (List.nodup_append.1 nodup).2.2 a hb a ha rfl
    · rintro ⟨hwanted, hmissing⟩
      obtain ⟨a, ha, hk⟩ := complete k hwanted
      rcases List.mem_append.1 ha with ha | ha
      · exact (hmissing ⟨a, ha, hk⟩).elim
      · exact ⟨a, ha, hk⟩

namespace Grows

variable {wanted : List SensorPath} {s t : Store}

theorem hasModule_iff (h : Grows wanted s t) (hs : s.Integrity) {path : String × String} :
    s.HasModule path ↔ ∃ m ∈ s.modules, t.modulePath? m = some path := by
  refine exists_congr fun m => and_congr_right fun hm => ⟨h.modulePath?, fun hpath => ?_⟩
  obtain ⟨path', hpath'⟩ := hs.exists_modulePath hm
  rw [hpath', ← hpath, h.modulePath? hpath']

theorem hasSensor_iff (h : Grows wanted s t) (hs : s.Integrity) {path : SensorPath} :
    s.HasSensor path ↔ ∃ x ∈ s.sensors, t.sensorPath? x = some path := by
  refine exists_congr fun x => and_congr_right fun hx => ⟨h.sensorPath?, fun hpath => ?_⟩
  obtain ⟨path', hpath'⟩ := hs.exists_sensorPath hx
  rw [hpath', ← hpath, h.sensorPath? hpath']

theorem sections_extendsBy (h : Grows wanted s t) (ht : t.Integrity)
    (complete : ∀ p ∈ wanted, t.HasSection p.sectionName) :
    ExtendsBy (fun r : SectionRow => some r.name)
      (fun name => (∃ p ∈ wanted, p.sectionName = name) ∧ ¬s.HasSection name)
      s.sections t.sections := by
  obtain ⟨new, hnew, hwanted⟩ := h.sections
  have hex := extendsBy_of_unique (fun r : SectionRow => some r.name)
    (fun name => ∃ p ∈ wanted, p.sectionName = name) (hnew ▸ ht.sections_nodup)
    (fun a ha b hb name hab hbb => ht.section_eq_of_name_eq (hnew ▸ ha) (hnew ▸ hb)
      (Option.some.inj (hab.trans hbb.symm)))
    (fun r hr => ⟨r.name, hwanted r hr, rfl⟩) ?_
  · rw [hnew]
    simpa only [Option.some.injEq, HasSection] using hex
  · rintro name ⟨p, hp, rfl⟩
    obtain ⟨r, hr, hname⟩ := complete p hp
    exact ⟨r, hnew ▸ hr, congrArg some hname⟩

theorem modules_extendsBy (h : Grows wanted s t) (hs : s.Integrity) (ht : t.Integrity)
    (complete : ∀ p ∈ wanted, t.HasModule (modulePathOf p)) :
    ExtendsBy t.modulePath?
      (fun path => (∃ p ∈ wanted, modulePathOf p = path) ∧ ¬s.HasModule path)
      s.modules t.modules := by
  obtain ⟨new, hnew, hwanted⟩ := h.modules
  have hex := extendsBy_of_unique t.modulePath?
    (fun path => ∃ p ∈ wanted, modulePathOf p = path) (hnew ▸ ht.modules_nodup)
    (fun a ha b hb path hab hbb => ht.module_eq_of_path_eq (hnew ▸ ha) (hnew ▸ hb) hab hbb) ?_ ?_
  · simp only [h.hasModule_iff hs]
    rwa [hnew]
  · intro m hm
    obtain ⟨p, hp, hpath⟩ := hwanted m hm
    exact ⟨modulePathOf p, ⟨p, hp, rfl⟩, hpath⟩
  · rintro path ⟨p, hp, rfl⟩
    obtain ⟨m, hm, hpath⟩ := complete p hp
    exact ⟨m, hnew ▸ hm, hpath⟩

theorem sensors_extendsBy (h : Grows wanted s t) (hs : s.Integrity) (ht : t.Integrity)
    (complete : ∀ p ∈ wanted, t.HasSensor p) :
    ExtendsBy t.sensorPath? (fun path => path ∈ wanted ∧ ¬s.HasSensor path)
      s.sensors t.sensors := by
  obtain ⟨new, hnew, hwanted⟩ := h.sensors
  have hex := extendsBy_of_unique t.sensorPath? (fun path => path ∈ wanted)
    (hnew ▸ ht.sensors_nodup)
    (fun a ha b hb path hab hbb => ht.sensor_eq_of_path_eq (hnew ▸ ha) (hnew ▸ hb) hab hbb) ?_ ?_
  · simp only [h.hasSensor_iff hs]
    rwa [hnew]
  · intro x hx
    obtain ⟨p, hp, hpath, -⟩ := hwanted x hx
    exact ⟨p, hp, hpath⟩
  · intro p hp
    obtain ⟨x, hx, hpath⟩ := complete p hp
    exact ⟨x, hnew ▸ hx, hpath⟩

/-- Once every wanted path has a sensor, the growth is exact. -/
theorem completes (h : Grows wanted s t) (hs : s.Integrity) (ht : t.Integrity)
    (complete : ∀ p ∈ wanted, t.HasSensor p) : Completes wanted s t := by
  have hmodules : ∀ p ∈ wanted, t.HasModule (modulePathOf p) := by
    intro p hp
    obtain ⟨x, hx, hpath⟩ := complete p hp
    obtain ⟨m, hm, -, hmpath, -⟩ := ht.sensorPath?_eq_some_iff.1 hpath
    exact ⟨m, hm, hmpath⟩
  have hsections : ∀ p ∈ wanted, t.HasSection p.sectionName := by
    intro p hp
    obtain ⟨m, hm, hpath⟩ := hmodules p hp
    obtain ⟨r, hr, -, hname, -⟩ := ht.modulePath?_eq_some_iff.1 hpath
    exact ⟨r, hr, hname⟩
  refine ⟨h.records, h.sections_extendsBy ht hsections, h.modules_extendsBy hs ht hmodules,
    h.sensors_extendsBy hs ht complete, fun x hx hold => ?_⟩
  obtain ⟨new, hnew, hwanted⟩ := h.sensors
  rw [hnew] at hx
  obtain ⟨p, -, hpath, htopic⟩ := hwanted x ((List.mem_append.1 hx).resolve_left hold)
  exact ⟨p, hpath, htopic⟩

end Grows

end SensorRelay.Store
