import SensorRelay.Proofs.Store.Recording
import SensorRelay.Proofs.Text.Encoding
import SensorRelay.Reconcile

/-!
# The hierarchy as it is shown

The listing shows the sections by name, each with its modules and these with their sensors in the
order of their ids. Since ids tell the rows apart and parents exist, to collect the rows of a table
parent by parent is only to rearrange it (`flatMap_filter_perm`), so the listing has every section,
every module and every sensor once (`Hierarchy`), each sensor in its place
(`Integrity.placesOf_perm`).

A section or a module that is asked for by its id is shown as in the listing, and the topics are
those of the listed sensors (`hierarchy_of_reachable`). This takes an id that the database can hold.
Any other is no id of a row, but a request for it fails instead of finding nothing
(`unanswered_beyond_keys`).
-/

namespace SensorRelay

/-- All modules of a listing. -/
def modulesOf (trees : List SectionTree) : List ModuleTree :=
  trees.flatMap SectionTree.modules

/-- All sensors of a listing. -/
def sensorsOf (trees : List SectionTree) : List SensorRow :=
  (modulesOf trees).flatMap ModuleTree.sensors

namespace Store

open Text

/-- Every row of the table is listed, and none twice. -/
def ListsOnce {α : Type} (table rows : List α) : Prop :=
  rows.Perm table ∧ rows.Nodup

/-- The rows are those with the property, in the order of their ids. -/
structure InIdOrder {α : Type} (id : α → Nat) (p : α → Prop) (rows : List α) : Prop where
  mem_iff : ∀ a, a ∈ rows ↔ p a
  increasing : rows.Pairwise fun a b => id a < id b

/-- The trees are all that the tables have. -/
structure Hierarchy (s : Store) (trees : List SectionTree) : Prop where
  sections : ListsOnce s.sections (trees.map SectionTree.row)
  names : trees.Pairwise fun a b => BytesLt (utf8 a.row.name) (utf8 b.row.name)
  modulesBelow : ∀ t ∈ trees,
    InIdOrder ModuleRow.id (fun m => m ∈ s.modules ∧ m.sectionId = t.row.id)
      (t.modules.map ModuleTree.row)
  sensorsBelow : ∀ m ∈ modulesOf trees,
    InIdOrder SensorRow.id (fun x => x ∈ s.sensors ∧ x.moduleId = m.row.id) m.sensors
  modules : ListsOnce s.modules ((modulesOf trees).map ModuleTree.row)
  sensors : ListsOnce s.sensors (sensorsOf trees)

/-- What is shown for an id : the tree of the row that has it, or nothing if no row has it. -/
structure ShowsById {α β : Type} (id : α → Nat) (table : List α) (row : β → α) (trees : List β)
    (key : Int) (shown : Option β) : Prop where
  some_iff : ∀ t, shown = some t ↔ t ∈ trees ∧ (id (row t) : Int) = key
  none_iff : shown = none ↔ ∀ a ∈ table, (id a : Int) ≠ key

/-! ## Rows below their parents -/

/-- To collect rows parent by parent rearranges them. -/
theorem flatMap_filter_perm {α β : Type} {id : α → Nat} {parent : β → Nat} {parents : List α}
    {rows : List β} (hids : (parents.map id).Nodup)
    (hparents : ∀ b ∈ rows, ∃ a ∈ parents, id a = parent b) :
    (parents.flatMap fun a => rows.filter fun b => parent b == id a).Perm rows := by
  induction parents generalizing rows with
  | nil =>
    have hnone : rows = [] := List.eq_nil_iff_forall_not_mem.2 fun b hb => by
      obtain ⟨a, ha, -⟩ := hparents b hb
      exact List.not_mem_nil ha
    rw [hnone]
    exact .refl _
  | cons a parents ih =>
    obtain ⟨hfresh, hids⟩ := List.nodup_cons.1 hids
    -- The other parents collect from the rows that the first one leaves.
    have hothers : (parents.flatMap fun a' => rows.filter fun b => parent b == id a') =
        parents.flatMap fun a' =>
          (rows.filter fun b => !(parent b == id a)).filter fun b => parent b == id a' := by
      refine List.flatMap_congr fun a' ha' => ?_
      rw [List.filter_filter]
      refine List.filter_congr fun b _ => ?_
      have hne : id a' ≠ id a := fun h => hfresh (h ▸ List.mem_map_of_mem ha')
      by_cases hb : parent b = id a'
      · simp [hb, hne]
      · simp [hb]
    rw [List.flatMap_cons, hothers]
    refine ((ih hids fun b hb => ?_).append_left _).trans (List.filter_append_perm _ rows)
    obtain ⟨hb, hother⟩ := List.mem_filter.1 hb
    obtain ⟨a', ha', hid⟩ := hparents b hb
    rcases List.mem_cons.1 ha' with rfl | ha'
    · simp [hid] at hother
    · exact ⟨a', ha', hid⟩

theorem Numbered.inIdOrder_filter {α : Type} {id : α → Nat} {rows : List α} (h : Numbered id rows)
    (parent : α → Nat) (key : Nat) :
    InIdOrder id (fun a => a ∈ rows ∧ parent a = key)
      (rows.filter fun a => parent a == key) where
  mem_iff a := by simp
  increasing := h.pairwise_lt.filter _

/-! ## The listing -/

theorem sectionLe_iff {a b : SectionRow} : sectionLe a b = true ↔ a.name ≤ b.name := by
  rw [sectionLe, Bool.not_eq_true', decide_eq_false_iff_not, String.not_lt]

/-- The sections are listed in the order of their names as bytes. -/
theorem Integrity.pairwise_sections {s : Store} (hs : s.Integrity) :
    (s.sections.mergeSort sectionLe).Pairwise fun a b => BytesLt (utf8 a.name) (utf8 b.name) := by
  have hsorted : (s.sections.mergeSort sectionLe).Pairwise fun a b => sectionLe a b = true := by
    refine List.pairwise_mergeSort (fun a b c hab hbc => ?_) (fun a b => ?_) _
    · exact sectionLe_iff.2 (String.le_trans (sectionLe_iff.1 hab) (sectionLe_iff.1 hbc))
    · rw [Bool.or_eq_true, sectionLe_iff, sectionLe_iff]
      exact String.le_total a.name b.name
  have hnames : (s.sections.mergeSort sectionLe).Pairwise fun a b => a.name ≠ b.name := by
    have hperm := (List.mergeSort_perm s.sections sectionLe).map SectionRow.name
    exact List.pairwise_map.1 (hperm.nodup_iff.2 hs.sectionNames)
  refine (hsorted.and hnames).imp fun ⟨hle, hne⟩ => bytesLt_utf8 ?_
  by_contra hlt
  exact hne (String.le_antisymm (sectionLe_iff.1 hle) (String.not_lt.1 hlt))

theorem row_sectionTree (s : Store) : SectionTree.row ∘ s.sectionTree = id :=
  rfl

theorem row_moduleTree (s : Store) : ModuleTree.row ∘ s.moduleTree = id :=
  rfl

/-- The modules of the listing, section by section. -/
theorem modulesOf_sectionTrees (s : Store) : modulesOf s.sectionTrees =
    ((s.sections.mergeSort sectionLe).flatMap fun r =>
      s.modules.filter fun m => m.sectionId == r.id).map s.moduleTree := by
  rw [modulesOf, sectionTrees, List.flatMap_map, List.map_flatMap]
  rfl

theorem mem_sectionTrees {s : Store} {t : SectionTree} :
    t ∈ s.sectionTrees ↔ ∃ r ∈ s.sections, s.sectionTree r = t := by
  rw [sectionTrees, List.mem_map]
  simp only [(List.mergeSort_perm s.sections sectionLe).mem_iff]

namespace Integrity

variable {s : Store} (hs : s.Integrity)
include hs

theorem modules_perm : ((s.sections.mergeSort sectionLe).flatMap fun r =>
    s.modules.filter fun m => m.sectionId == r.id).Perm s.modules := by
  have hperm := List.mergeSort_perm s.sections sectionLe
  refine flatMap_filter_perm ((hperm.map _).nodup_iff.2 hs.sectionIds.nodup) fun m hm => ?_
  obtain ⟨r, hr, hid⟩ := hs.moduleParents m hm
  exact ⟨r, hperm.mem_iff.2 hr, hid⟩

theorem modulesOf_perm : (modulesOf s.sectionTrees).Perm (s.modules.map s.moduleTree) := by
  rw [modulesOf_sectionTrees]
  exact hs.modules_perm.map _

theorem sensorsOf_perm : (sensorsOf s.sectionTrees).Perm s.sensors := by
  have hbelow : (s.modules.map s.moduleTree).flatMap ModuleTree.sensors =
      s.modules.flatMap fun m => s.sensors.filter fun x => x.moduleId == m.id := by
    rw [List.flatMap_map]
    rfl
  refine (hs.modulesOf_perm.flatMap_right _).trans (hbelow ▸ ?_)
  exact flatMap_filter_perm hs.moduleIds.nodup hs.sensorParents

/-- The listing has everything once and in order. -/
theorem hierarchy : s.Hierarchy s.sectionTrees where
  sections := by
    have hperm : (s.sectionTrees.map SectionTree.row).Perm s.sections := by
      rw [sectionTrees, List.map_map, row_sectionTree, List.map_id]
      exact List.mergeSort_perm _ _
    exact ⟨hperm, hperm.nodup_iff.2 hs.sections_nodup⟩
  names := List.pairwise_map.2 hs.pairwise_sections
  modulesBelow t ht := by
    obtain ⟨r, -, rfl⟩ := mem_sectionTrees.1 ht
    have hrows : (s.sectionTree r).modules.map ModuleTree.row =
        s.modules.filter fun m => m.sectionId == r.id := by
      rw [sectionTree, List.map_map, row_moduleTree, List.map_id]
    rw [hrows]
    exact hs.moduleIds.inIdOrder_filter ModuleRow.sectionId r.id
  sensorsBelow m hm := by
    obtain ⟨m, -, rfl⟩ := List.mem_map.1 (hs.modulesOf_perm.mem_iff.1 hm)
    exact hs.sensorIds.inIdOrder_filter SensorRow.moduleId m.id
  modules := by
    have hperm : ((modulesOf s.sectionTrees).map ModuleTree.row).Perm s.modules := by
      have hrows := hs.modulesOf_perm.map ModuleTree.row
      rwa [List.map_map, row_moduleTree, List.map_id] at hrows
    exact ⟨hperm, hperm.nodup_iff.2 hs.modules_nodup⟩
  sensors := ⟨hs.sensorsOf_perm, hs.sensorsOf_perm.nodup_iff.2 hs.sensors_nodup⟩

end Integrity

/-! ## Places -/

/-- All sensors of a listing, each with the section and the module above it. -/
def placesOf (trees : List SectionTree) : List (SectionRow × ModuleRow × SensorRow) :=
  trees.flatMap fun t => t.modules.flatMap fun m => m.sensors.map fun x => (t.row, m.row, x)

theorem map_placesOf (trees : List SectionTree) :
    (placesOf trees).map (fun p => p.2.2) = sensorsOf trees := by
  simp only [placesOf, sensorsOf, modulesOf, List.map_flatMap, List.map_map, List.flatMap_assoc]
  exact List.flatMap_congr fun t _ => List.flatMap_congr fun m _ => List.map_id _

/-- A sensor with the section and the module that it lies in. -/
def IsPlace (s : Store) (p : SectionRow × ModuleRow × SensorRow) : Prop :=
  p.1 ∈ s.sections ∧ (p.2.1 ∈ s.modules ∧ p.2.1.sectionId = p.1.id) ∧
    p.2.2 ∈ s.sensors ∧ p.2.2.moduleId = p.2.1.id

theorem mem_placesOf {s : Store} {p : SectionRow × ModuleRow × SensorRow} :
    p ∈ placesOf s.sectionTrees ↔ s.IsPlace p := by
  obtain ⟨r, m, x⟩ := p
  simp [placesOf, mem_sectionTrees, sectionTree, moduleTree, IsPlace]

namespace Integrity

variable {s : Store} (hs : s.Integrity)
include hs

theorem mem_placedSensors {p : SectionRow × ModuleRow × SensorRow} :
    p ∈ s.placedSensors ↔ s.IsPlace p := by
  obtain ⟨r, m, x⟩ := p
  rw [placedSensors, List.mem_filterMap]
  constructor
  · rintro ⟨x', hx, hplace⟩
    obtain ⟨m', hm, hplace⟩ := Option.bind_eq_some_iff.1 hplace
    obtain ⟨r', hr, hplace⟩ := Option.bind_eq_some_iff.1 hplace
    cases hplace
    obtain ⟨hm, hmodule⟩ := mem_of_moduleById? hm
    obtain ⟨hr, hsection⟩ := mem_of_sectionById? hr
    exact ⟨hr, ⟨hm, (Int.ofNat.inj hsection).symm⟩, hx, (Int.ofNat.inj hmodule).symm⟩
  · rintro ⟨hr, ⟨hm, hsection⟩, hx, hmodule⟩
    refine ⟨x, hx, ?_⟩
    simp only at hr hm hx hsection hmodule
    rw [hmodule, hs.moduleById?_eq_some hm]
    simp [hsection, hs.sectionById?_eq_some hr]

/-- Every sensor has one place. -/
theorem map_placedSensors : s.placedSensors.map (fun p => p.2.2) = s.sensors := by
  rw [placedSensors, List.map_filterMap]
  refine (List.filterMap_congr fun x hx => ?_).trans List.filterMap_some
  obtain ⟨m, hm, hmodule⟩ := hs.sensorParents x hx
  obtain ⟨r, hr, hsection⟩ := hs.moduleParents m hm
  rw [← hmodule, hs.moduleById?_eq_some hm]
  simp [← hsection, hs.sectionById?_eq_some hr]

/-- The listing shows every sensor in its place. -/
theorem placesOf_perm : (placesOf s.sectionTrees).Perm s.placedSensors := by
  refine (List.perm_ext_iff_of_nodup ?_ ?_).2 fun p => mem_placesOf.trans hs.mem_placedSensors.symm
  · exact .of_map _ (map_placesOf _ ▸ hs.sensorsOf_perm.nodup_iff.2 hs.sensors_nodup)
  · exact .of_map _ (hs.map_placedSensors ▸ hs.sensors_nodup)

end Integrity

/-! ## Single trees -/

/-- The row of an id, shown as in the listing. -/
theorem showsById_find? {α β : Type} {id : α → Nat} {table : List α} {row : β → α} {view : α → β}
    {trees : List β} (hids : Numbered id table) (hrow : ∀ a, row (view a) = a)
    (htrees : ∀ t, t ∈ trees ↔ ∃ a ∈ table, view a = t) (key : Int) :
    ShowsById id table row trees key ((table.find? fun a => (id a : Int) = key).map view) where
  some_iff t := by
    rw [Option.map_eq_some_iff, htrees]
    constructor
    · rintro ⟨a, ha, rfl⟩
      rw [hrow]
      obtain ⟨ha, hkey⟩ := hids.find?_eq_some_iff.1 ha
      exact ⟨⟨a, ha, rfl⟩, hkey⟩
    · rintro ⟨⟨a, ha, rfl⟩, hkey⟩
      rw [hrow] at hkey
      exact ⟨a, hids.find?_eq_some_iff.2 ⟨ha, hkey⟩, rfl⟩
  none_iff := by simp

/-- The views of the hierarchy agree : the listing has everything once and in order, single trees
are those of the listing, and the topics are those of its sensors. Only ids that the database
cannot hold are not looked for. -/
theorem hierarchy_of_reachable {s : Store} (hs : s.Reachable) : ∃ trees,
    answer .sectionTrees s = (.ok (some trees), s) ∧ s.Hierarchy trees ∧
      (∀ id, fitsSigned 64 id = true →
        (∃ shown, answer (.sectionTree id) s = (.ok shown, s) ∧
          ShowsById SectionRow.id s.sections SectionTree.row trees id shown) ∧
        ∃ shown, answer (.moduleTree id) s = (.ok shown, s) ∧
          ShowsById ModuleRow.id s.modules ModuleTree.row (modulesOf trees) id shown) ∧
      (∀ id, fitsSigned 64 id = false →
        answer (.sectionTree id) s = (.error oversizedKey, s) ∧
          answer (.moduleTree id) s = (.error oversizedKey, s)) ∧
      ∃ rows, InIdOrder SensorRow.id (fun x => x ∈ sensorsOf trees) rows ∧
        answer .topics s = (.ok (some (rows.map SensorRow.topic)), s) := by
  have hint := hs.integrity
  refine ⟨s.sectionTrees, rfl, hint.hierarchy, fun id hid => ⟨?_, ?_⟩, fun id hid => ⟨?_, ?_⟩, ?_⟩
  · refine ⟨_, byKey_eq (checkKey_of_fits hid) s _, ?_⟩
    exact showsById_find? hint.sectionIds (fun _ => rfl) (fun _ => mem_sectionTrees) id
  · refine ⟨_, byKey_eq (checkKey_of_fits hid) s _, ?_⟩
    refine showsById_find? hint.moduleIds (fun _ => rfl) (fun t => ?_) id
    rw [hint.modulesOf_perm.mem_iff, List.mem_map]
  · exact byKey_oversized (checkKey_of_not_fits hid) s _
  · exact byKey_oversized (checkKey_of_not_fits hid) s _
  · exact ⟨s.sensors, ⟨fun x => hint.sensorsOf_perm.mem_iff.symm, hint.sensorIds.pairwise_lt⟩, rfl⟩

/-- Sections are listed by the bytes of their names, so that capitals with accents come last, and
the second module of a section below the first. -/
theorem hierarchy_by_bytes :
    let s := (answer (.insertSection (some "alpha")) (run (reconcile
      [⟨"pump", none, "zeta", "west", 0⟩, ⟨"valve", none, "Élan", "east", 0⟩,
        ⟨"fan", none, "zeta", "north", 0⟩, ⟨"lamp", none, "zeta", "west", 0⟩]) empty).2).2
    ∃ trees, answer .sectionTrees s = (.ok (some trees), s) ∧ s.Hierarchy trees ∧
      trees.map (fun t => t.row.name) = ["alpha", "zeta", "Élan"] ∧
      (modulesOf trees).map (fun m => m.row.name) = ["west", "north", "east"] ∧
      (sensorsOf trees).map SensorRow.name = ["pump", "lamp", "fan", "valve"] ∧
      (∃ shown, answer (.sectionTree 2) s = (.ok shown, s) ∧
        ShowsById SectionRow.id s.sections SectionTree.row trees 2 shown) ∧
      ∃ rows, InIdOrder SensorRow.id (fun x => x ∈ sensorsOf trees) rows ∧
        answer .topics s = (.ok (some (rows.map SensorRow.topic)), s) := by
  intro s
  have hs : s.Reachable := (Reachable.empty.run _).request _
  obtain ⟨trees, hlist, hierarchy, hshown, -, htopics⟩ := hierarchy_of_reachable hs
  have hsorted : s.sections.mergeSort sectionLe = [⟨3, "alpha"⟩, ⟨1, "zeta"⟩, ⟨2, "Élan"⟩] := by
    have hrows : s.sections = [⟨1, "zeta"⟩, ⟨2, "Élan"⟩, ⟨3, "alpha"⟩] := by decide +kernel
    rw [hrows]
    simp +decide [List.mergeSort, List.MergeSort.Internal.splitInTwo, sectionLe]
  have htrees : trees = [⟨3, "alpha"⟩, ⟨1, "zeta"⟩, ⟨2, "Élan"⟩].map s.sectionTree := by
    rw [← hsorted]
    exact (Option.some.inj (Except.ok.inj (Prod.mk.inj hlist).1)).symm
  refine ⟨trees, hlist, hierarchy, ?_, ?_, ?_, (hshown 2 (by decide)).1, htopics⟩
  · rw [htrees]
    rfl
  · rw [htrees]
    decide +kernel
  · rw [htrees]
    decide +kernel

/-- An id with one bit too many is no row's, yet a request for it fails. -/
theorem unanswered_beyond_keys :
    let id : Int := 9223372036854775808
    let failure := Failure.overflow "Python int too large to convert to SQLite INTEGER"
    (∀ r ∈ empty.sections, (r.id : Int) ≠ id) ∧ (∀ m ∈ empty.modules, (m.id : Int) ≠ id) ∧
      answer (.sectionTree id) empty = (.error failure, empty) ∧
      answer (.moduleTree id) empty = (.error failure, empty) :=
  ⟨by simp [empty], by simp [empty], rfl, rfl⟩

end Store

end SensorRelay
