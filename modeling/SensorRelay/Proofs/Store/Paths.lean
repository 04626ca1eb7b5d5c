import Mathlib.Data.List.Nodup
import Mathlib.Data.List.ProdSigma
import SensorRelay.Proofs.Store.Integrity

/-!
# Paths in the tables

A module is reached from its section and a sensor from its module by ids, but people know them
by names : `modulePath?` and `sensorPath?` are the names on the way. With integrity every module
and every sensor has a path, no two have the same, and the lookups by names find exactly the
row with the path (`moduleByName?_eq_some_iff`, `sensorByPath?_eq_some_iff`).

A lookup by names is written as a join, of which it takes the first row. The joins are
`sectionsNamed`, `modulesNamed` and `sensorsAt`, and with integrity none of them has more than
one row.
-/

namespace SensorRelay.Store

variable (s : Store)

/-- The names of the section of a module and of the module. -/
def modulePath? (m : ModuleRow) : Option (String × String) :=
  (s.sectionById? m.sectionId).map fun r => (r.name, m.name)

/-- The names of the section and the module of a sensor and of the sensor. -/
def sensorPath? (x : SensorRow) : Option SensorPath :=
  (s.moduleById? x.moduleId).bind fun m =>
    (s.modulePath? m).map fun p => ⟨p.1, p.2, x.name⟩

/-- Is there a section of this name? -/
def HasSection (name : String) : Prop :=
  ∃ r ∈ s.sections, r.name = name

/-- Is there a module with this path? -/
def HasModule (path : String × String) : Prop :=
  ∃ m ∈ s.modules, s.modulePath? m = some path

/-- Is there a sensor with this path? -/
def HasSensor (path : SensorPath) : Prop :=
  ∃ x ∈ s.sensors, s.sensorPath? x = some path

/-! ## Rows by id -/

/-- Where only one row can match, the lookup finds a row exactly if it is that one. -/
theorem find?_eq_some_iff_of_unique {α : Type} {l : List α} {p : α → Bool}
    (unique : ∀ a ∈ l, ∀ b ∈ l, p a → p b → a = b) {a : α} :
    l.find? p = some a ↔ a ∈ l ∧ p a := by
  constructor
  · intro h
    exact ⟨List.mem_of_find?_eq_some h, List.find?_some h⟩
  · rintro ⟨ha, hp⟩
    cases h : l.find? p with
    | none => exact absurd hp (List.find?_eq_none.1 h a ha)
    | some b => rw [unique b (List.mem_of_find?_eq_some h) a ha (List.find?_some h) hp]

/-- The lookup by id finds a row exactly if it has the id. -/
theorem Numbered.find?_eq_some_iff {α : Type} {id : α → Nat} {rows : List α} (h : Numbered id rows)
    {key : Int} {a : α} :
    rows.find? (fun a => (id a : Int) = key) = some a ↔ a ∈ rows ∧ (id a : Int) = key := by
  rw [find?_eq_some_iff_of_unique, decide_eq_true_eq]
  intro a ha b hb hak hbk
  exact h.eq_of_id_eq ha hb (by simp at hak hbk; omega)

namespace Integrity

variable {s} (hs : s.Integrity)
include hs

theorem sectionById?_eq_some {r : SectionRow} (hr : r ∈ s.sections) :
    s.sectionById? r.id = some r :=
  hs.sectionIds.find?_eq_some_iff.2 ⟨hr, rfl⟩

theorem moduleById?_eq_some {m : ModuleRow} (hm : m ∈ s.modules) :
    s.moduleById? m.id = some m :=
  hs.moduleIds.find?_eq_some_iff.2 ⟨hm, rfl⟩

theorem sensorById?_eq_some {x : SensorRow} (hx : x ∈ s.sensors) :
    s.sensorById? x.id = some x :=
  hs.sensorIds.find?_eq_some_iff.2 ⟨hx, rfl⟩

/-! ## Rows and their paths -/

theorem modulePath?_eq_some_iff {m : ModuleRow} {path : String × String} :
    s.modulePath? m = some path ↔
      ∃ r ∈ s.sections, r.id = m.sectionId ∧ r.name = path.1 ∧ m.name = path.2 := by
  unfold modulePath?
  rw [Option.map_eq_some_iff]
  constructor
  · rintro ⟨r, hr, rfl⟩
    obtain ⟨hmem, hid⟩ := mem_of_sectionById? hr
    exact ⟨r, hmem, by omega, rfl, rfl⟩
  · rintro ⟨r, hr, hid, hname, hm⟩
    exact ⟨r, by rw [← hid, hs.sectionById?_eq_some hr], by rw [hname, hm]⟩

theorem sensorPath?_eq_some_iff {x : SensorRow} {path : SensorPath} :
    s.sensorPath? x = some path ↔ ∃ m ∈ s.modules, m.id = x.moduleId ∧
      s.modulePath? m = some (path.sectionName, path.moduleName) ∧ x.name = path.sensorName := by
  unfold sensorPath?
  rw [Option.bind_eq_some_iff]
  constructor
  · rintro ⟨m, hm, hpath⟩
    obtain ⟨p, hp, rfl⟩ := Option.map_eq_some_iff.1 hpath
    obtain ⟨hmem, hid⟩ := mem_of_moduleById? hm
    exact ⟨m, hmem, by omega, hp, rfl⟩
  · rintro ⟨m, hm, hid, hpath, hx⟩
    refine ⟨m, by rw [← hid, hs.moduleById?_eq_some hm], ?_⟩
    rw [hpath, hx]
    rfl

/-- Every module has a path. -/
theorem exists_modulePath {m : ModuleRow} (hm : m ∈ s.modules) :
    ∃ path, s.modulePath? m = some path := by
  obtain ⟨r, hr, hid⟩ := hs.moduleParents m hm
  exact ⟨(r.name, m.name), hs.modulePath?_eq_some_iff.2 ⟨r, hr, hid, rfl, rfl⟩⟩

/-- Every sensor has a path. -/
theorem exists_sensorPath {x : SensorRow} (hx : x ∈ s.sensors) :
    ∃ path, s.sensorPath? x = some path := by
  obtain ⟨m, hm, hid⟩ := hs.sensorParents x hx
  obtain ⟨p, hp⟩ := hs.exists_modulePath hm
  exact ⟨⟨p.1, p.2, x.name⟩, hs.sensorPath?_eq_some_iff.2 ⟨m, hm, hid, hp, rfl⟩⟩

theorem section_eq_of_name_eq {r r' : SectionRow} (hr : r ∈ s.sections) (hr' : r' ∈ s.sections)
    (h : r.name = r'.name) : r = r' :=
  List.inj_on_of_nodup_map hs.sectionNames hr hr' h

/-- No two modules have the same path. -/
theorem module_eq_of_path_eq {m m' : ModuleRow} (hm : m ∈ s.modules) (hm' : m' ∈ s.modules)
    {path : String × String} (h : s.modulePath? m = some path)
    (h' : s.modulePath? m' = some path) : m = m' := by
  obtain ⟨r, hr, hid, hname, hlast⟩ := hs.modulePath?_eq_some_iff.1 h
  obtain ⟨r', hr', hid', hname', hlast'⟩ := hs.modulePath?_eq_some_iff.1 h'
  obtain rfl := hs.section_eq_of_name_eq hr hr' (hname.trans hname'.symm)
  refine List.inj_on_of_nodup_map hs.moduleNames hm hm' ?_
  rw [hlast, hlast', ← hid, ← hid']

/-- No two sensors have the same path. -/
theorem sensor_eq_of_path_eq {x x' : SensorRow} (hx : x ∈ s.sensors) (hx' : x' ∈ s.sensors)
    {path : SensorPath} (h : s.sensorPath? x = some path) (h' : s.sensorPath? x' = some path) :
    x = x' := by
  obtain ⟨m, hm, hid, hpath, hlast⟩ := hs.sensorPath?_eq_some_iff.1 h
  obtain ⟨m', hm', hid', hpath', hlast'⟩ := hs.sensorPath?_eq_some_iff.1 h'
  obtain rfl := hs.module_eq_of_path_eq hm hm' hpath hpath'
  refine List.inj_on_of_nodup_map hs.sensorNames hx hx' ?_
  rw [hlast, hlast', ← hid, ← hid']

/-! ## Lookups by names -/

theorem inSection_iff {m : ModuleRow} {name : String} :
    s.inSection m name ↔ s.modulePath? m = some (name, m.name) := by
  rw [hs.modulePath?_eq_some_iff]
  simp [inSection]

theorem inModule_iff {x : SensorRow} {moduleName sectionName : String} :
    s.inModule x moduleName sectionName ↔
      s.sensorPath? x = some ⟨sectionName, moduleName, x.name⟩ := by
  rw [hs.sensorPath?_eq_some_iff]
  simp only [inModule, List.any_eq_true, Bool.and_eq_true, beq_iff_eq, hs.inSection_iff]
  constructor
  · rintro ⟨m, hm, ⟨hid, hname⟩, hpath⟩
    exact ⟨m, hm, hid, hname ▸ hpath, trivial⟩
  · rintro ⟨m, hm, hid, hpath, -⟩
    obtain ⟨-, -, -, -, hname⟩ := hs.modulePath?_eq_some_iff.1 hpath
    exact ⟨m, hm, ⟨hid, hname⟩, by rw [hpath, hname]⟩

theorem matches_module_iff {m : ModuleRow} {name sectionName : String} :
    (m.name == name && s.inSection m sectionName) = true ↔
      s.modulePath? m = some (sectionName, name) := by
  rw [Bool.and_eq_true, beq_iff_eq, hs.inSection_iff]
  constructor
  · rintro ⟨rfl, h⟩
    exact h
  · intro h
    obtain ⟨-, -, -, -, hname⟩ := hs.modulePath?_eq_some_iff.1 h
    exact ⟨hname, by rw [h, hname]⟩

theorem matches_sensor_iff {x : SensorRow} {path : SensorPath} :
    (x.name == path.sensorName && s.inModule x path.moduleName path.sectionName) = true ↔
      s.sensorPath? x = some path := by
  rw [Bool.and_eq_true, beq_iff_eq, hs.inModule_iff]
  constructor
  · rintro ⟨hname, h⟩
    rw [h, hname]
  · intro h
    obtain ⟨-, -, -, -, hname⟩ := hs.sensorPath?_eq_some_iff.1 h
    exact ⟨hname, by rw [h, hname]⟩

theorem sectionByName?_eq_some_iff {name : String} {r : SectionRow} :
    s.sectionByName? name = some r ↔ r ∈ s.sections ∧ r.name = name := by
  rw [sectionByName?, find?_eq_some_iff_of_unique, beq_iff_eq]
  intro a ha b hb hab hbb
  rw [beq_iff_eq] at hab hbb
  exact hs.section_eq_of_name_eq ha hb (hab.trans hbb.symm)

/-- A module is found by its path and by no other. -/
theorem moduleByName?_eq_some_iff {name sectionName : String} {m : ModuleRow} :
    s.moduleByName? name sectionName = some m ↔
      m ∈ s.modules ∧ s.modulePath? m = some (sectionName, name) := by
  rw [moduleByName?, find?_eq_some_iff_of_unique, hs.matches_module_iff]
  intro a ha b hb hab hbb
  exact hs.module_eq_of_path_eq ha hb (hs.matches_module_iff.1 hab) (hs.matches_module_iff.1 hbb)

/-- A sensor is found by its path and by no other. -/
theorem sensorByPath?_eq_some_iff {path : SensorPath} {x : SensorRow} :
    s.sensorByPath? path = some x ↔ x ∈ s.sensors ∧ s.sensorPath? x = some path := by
  rw [sensorByPath?, find?_eq_some_iff_of_unique, hs.matches_sensor_iff]
  intro a ha b hb hab hbb
  exact hs.sensor_eq_of_path_eq ha hb (hs.matches_sensor_iff.1 hab) (hs.matches_sensor_iff.1 hbb)

end Integrity

/-! ## Joins -/

/-- The sections of a name. -/
def sectionsNamed (name : String) : List SectionRow :=
  s.sections.filter fun r => r.name == name

/-- The modules of a name joined with their sections of a name. -/
def modulesNamed (name sectionName : String) : List (ModuleRow × SectionRow) :=
  (s.modules ×ˢ s.sections).filter fun e =>
    e.1.name == name && (e.2.id == e.1.sectionId && e.2.name == sectionName)

/-- The sensors of a name joined with their modules and those with their sections. -/
def sensorsAt (path : SensorPath) : List (SensorRow × ModuleRow × SectionRow) :=
  (s.sensors ×ˢ s.modules ×ˢ s.sections).filter fun e =>
    e.1.name == path.sensorName &&
      (e.2.1.id == e.1.moduleId && e.2.1.name == path.moduleName &&
        (e.2.2.id == e.2.1.sectionId && e.2.2.name == path.sectionName))

/-- The first row of a join belongs to the first row of the left table that joins with some row
of the right one. -/
theorem head?_filter_product {α β : Type} (l : List α) (l' : List β) (p : α × β → Bool) :
    ((l ×ˢ l').filter p).head?.map Prod.fst = l.find? fun a => l'.any fun b => p (a, b) := by
  induction l with
  | nil => rfl
  | cons a l ih =>
    rw [List.product_cons, List.filter_append, List.head?_append, List.find?_cons]
    cases h : l'.any fun b => p (a, b) with
    | true =>
      obtain ⟨b, hb, hp⟩ := List.any_eq_true.1 h
      cases hf : ((l'.map fun b => (a, b)).filter p).head? with
      | none =>
        have hmem : (a, b) ∈ (l'.map fun b => (a, b)).filter p :=
          List.mem_filter.2 ⟨List.mem_map_of_mem hb, hp⟩
        rw [List.head?_eq_none_iff.1 hf] at hmem
        simp at hmem
      | some e =>
        obtain ⟨c, -, rfl⟩ := List.mem_map.1 (List.mem_filter.1 (List.mem_of_head? hf)).1
        rfl
    | false =>
      have hnil : (l'.map fun b => (a, b)).filter p = [] := by
        simpa [List.filter_eq_nil_iff] using h
      rw [hnil]
      exact ih

theorem sectionByName?_eq_head? (name : String) :
    s.sectionByName? name = (s.sectionsNamed name).head? :=
  List.head?_filter.symm

/-- A module is looked up as the first row of a join. -/
theorem moduleByName?_eq_head? (name sectionName : String) :
    s.moduleByName? name sectionName = (s.modulesNamed name sectionName).head?.map Prod.fst := by
  rw [modulesNamed, head?_filter_product, moduleByName?]
  congr 1
  funext m
  rw [Bool.eq_iff_iff]
  simp only [inSection, Bool.and_eq_true, beq_iff_eq, List.any_eq_true]
  constructor
  · rintro ⟨hname, r, hr, hsec⟩
    exact ⟨r, hr, hname, hsec⟩
  · rintro ⟨r, hr, hname, hsec⟩
    exact ⟨hname, r, hr, hsec⟩

/-- A sensor is looked up as the first row of a join. -/
theorem sensorByPath?_eq_head? (path : SensorPath) :
    s.sensorByPath? path = (s.sensorsAt path).head?.map Prod.fst := by
  rw [sensorsAt, head?_filter_product, sensorByPath?]
  congr 1
  funext x
  rw [Bool.eq_iff_iff]
  simp only [inModule, inSection, Bool.and_eq_true, beq_iff_eq, List.any_eq_true, Prod.exists,
    List.mem_product]
  constructor
  · rintro ⟨hname, m, hm, hmod, r, hr, hsec⟩
    exact ⟨m, r, ⟨hm, hr⟩, hname, hmod, hsec⟩
  · rintro ⟨m, r, ⟨hm, hr⟩, hname, hmod, hsec⟩
    exact ⟨hname, m, hm, hmod, r, hr, hsec⟩

theorem length_filter_le_one {α : Type} {l : List α} {p : α → Bool} (nodup : l.Nodup)
    (unique : ∀ a ∈ l, ∀ b ∈ l, p a → p b → a = b) : (l.filter p).length ≤ 1 := by
  match h : l.filter p with
  | [] => simp
  | [a] => simp
  | a :: b :: rest =>
    have ha : a ∈ l.filter p := by simp [h]
    have hb : b ∈ l.filter p := by simp [h]
    rw [List.mem_filter] at ha hb
    obtain rfl := unique a ha.1 b hb.1 ha.2 hb.2
    have hn := nodup.filter p
    simp [h] at hn

namespace Integrity

variable {s} (hs : s.Integrity)
include hs

theorem sections_nodup : s.sections.Nodup :=
  List.Nodup.of_map _ hs.sectionNames

theorem modules_nodup : s.modules.Nodup :=
  List.Nodup.of_map _ hs.moduleNames

theorem sensors_nodup : s.sensors.Nodup :=
  List.Nodup.of_map _ hs.sensorNames

theorem length_sectionsNamed_le (name : String) : (s.sectionsNamed name).length ≤ 1 := by
  refine length_filter_le_one hs.sections_nodup fun a ha b hb hab hbb => ?_
  rw [beq_iff_eq] at hab hbb
  exact hs.section_eq_of_name_eq ha hb (hab.trans hbb.symm)

theorem length_modulesNamed_le (name sectionName : String) :
    (s.modulesNamed name sectionName).length ≤ 1 := by
  refine length_filter_le_one (hs.modules_nodup.product hs.sections_nodup) ?_
  rintro ⟨m, r⟩ ha ⟨m', r'⟩ hb hab hbb
  simp only [List.mem_product, Bool.and_eq_true, beq_iff_eq] at ha hb hab hbb
  obtain ⟨hname, hid, hsec⟩ := hab
  obtain ⟨hname', hid', hsec'⟩ := hbb
  have hpath : s.modulePath? m = some (sectionName, name) :=
    hs.modulePath?_eq_some_iff.2 ⟨r, ha.2, hid, hsec, hname⟩
  have hpath' : s.modulePath? m' = some (sectionName, name) :=
    hs.modulePath?_eq_some_iff.2 ⟨r', hb.2, hid', hsec', hname'⟩
  rw [hs.section_eq_of_name_eq ha.2 hb.2 (hsec.trans hsec'.symm),
    hs.module_eq_of_path_eq ha.1 hb.1 hpath hpath']

theorem length_sensorsAt_le (path : SensorPath) : (s.sensorsAt path).length ≤ 1 := by
  refine length_filter_le_one
    (hs.sensors_nodup.product (hs.modules_nodup.product hs.sections_nodup)) ?_
  rintro ⟨x, m, r⟩ ha ⟨x', m', r'⟩ hb hab hbb
  simp only [List.mem_product, Bool.and_eq_true, beq_iff_eq] at ha hb hab hbb
  obtain ⟨hx, ⟨hm, hmname⟩, hr, hrname⟩ := hab
  obtain ⟨hx', ⟨hm', hmname'⟩, hr', hrname'⟩ := hbb
  have hpath : s.modulePath? m = some (path.sectionName, path.moduleName) :=
    hs.modulePath?_eq_some_iff.2 ⟨r, ha.2.2, hr, hrname, hmname⟩
  have hpath' : s.modulePath? m' = some (path.sectionName, path.moduleName) :=
    hs.modulePath?_eq_some_iff.2 ⟨r', hb.2.2, hr', hrname', hmname'⟩
  obtain rfl := hs.section_eq_of_name_eq ha.2.2 hb.2.2 (hrname.trans hrname'.symm)
  obtain rfl := hs.module_eq_of_path_eq ha.2.1 hb.2.1 hpath hpath'
  rw [hs.sensor_eq_of_path_eq ha.1 hb.1
    (hs.sensorPath?_eq_some_iff.2 ⟨m, ha.2.1, hm, hpath, hx⟩)
    (hs.sensorPath?_eq_some_iff.2 ⟨m, hb.2.1, hm', hpath, hx'⟩)]

end Integrity

end SensorRelay.Store
