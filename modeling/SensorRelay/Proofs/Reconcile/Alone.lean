import Mathlib.Data.List.Induction
import SensorRelay.Proofs.Reconcile.Agreement
import SensorRelay.Proofs.Store.InOrder

/-!
# A reconciliation alone

Without company a reconciliation makes exactly what is missing, each row where the list asks for
it first, and fails only if the tables have no room for more ids (`Store.Reconciled`). Its
resolution has every path of the list once, with the id under which the tables have the sensor.
A sensor that is there is found and nothing is made (`run_resolvePath_of_mem`), so a second
reconciliation of the same paths, in whatever order, leaves the tables as they are and comes to
the same ids. `reconciled_of_reachable` puts this together from the promise of a reconciliation
in company, which holds all the more alone (`run_resolvePath`), descriptor by descriptor.
-/

namespace SensorRelay

theorem eraseDups_concat {α : Type} [DecidableEq α] (l : List α) (a : α) :
    (l ++ [a]).eraseDups = if a ∈ l.eraseDups then l.eraseDups else l.eraseDups ++ [a] := by
  rw [List.eraseDups_append]
  by_cases h : a ∈ l <;> simp [List.removeAll, List.eraseDups_cons, h]

theorem nodup_eraseDups {α : Type} [DecidableEq α] (l : List α) : l.eraseDups.Nodup := by
  induction l using List.reverseRecOn with
  | nil => simp
  | append_singleton l a ih =>
    rw [eraseDups_concat]
    split
    · exact ih
    · rename_i ha
      refine List.nodup_append.2 ⟨ih, List.nodup_singleton a, fun b hb c hc hbc => ha ?_⟩
      exact hbc.trans (List.mem_singleton.1 hc) ▸ hb

namespace Resolution

theorem map_fst_setEntry (path : SensorPath) (id : Int) (entries : List (SensorPath × Int)) :
    (setEntry path id entries).map Prod.fst =
      if path ∈ entries.map Prod.fst then entries.map Prod.fst
      else entries.map Prod.fst ++ [path] := by
  induction entries with
  | nil => simp [setEntry]
  | cons e entries ih =>
    unfold setEntry
    split
    · rename_i he
      simp [he]
    · rename_i he
      rw [List.map_cons, ih, List.map_cons]
      by_cases h : path ∈ entries.map Prod.fst
      · simp [h]
      · simp [h, Ne.symm he]

theorem ofList_concat (entries : List (SensorPath × Int)) (e : SensorPath × Int) :
    ofList (entries ++ [e]) = (ofList entries).insert e.1 e.2 := by
  rw [ofList, List.foldl_append]
  rfl

/-- A list resolves each of its paths once, where the path comes first. -/
theorem map_fst_ofList (entries : List (SensorPath × Int)) :
    (ofList entries).entries.map Prod.fst = (entries.map Prod.fst).eraseDups := by
  induction entries using List.reverseRecOn with
  | nil => rfl
  | append_singleton entries e ih =>
    rw [ofList_concat, insert, map_fst_setEntry, ih, List.map_append, List.map_singleton,
      eraseDups_concat]

theorem size_ofList (entries : List (SensorPath × Int)) :
    (ofList entries).size = (entries.map Prod.fst).eraseDups.length := by
  rw [size, ← map_fst_ofList, List.length_map]

/-- A path of a list has the id that comes last. -/
theorem idFor?_ofList (entries : List (SensorPath × Int)) (p : SensorPath) :
    (ofList entries).idFor? p = (entries.reverse.find? fun e => e.1 = p).map Prod.snd := by
  induction entries using List.reverseRecOn with
  | nil => rfl
  | append_singleton entries e ih =>
    rw [ofList_concat, idFor?_insert, ih, List.reverse_concat, List.find?_cons]
    by_cases h : e.1 = p <;> simp [h]

/-- Among entries with paths of their own, an id belongs to a path as the entries say. -/
theorem mem_entries_iff {r : Resolution} (h : (r.entries.map Prod.fst).Nodup)
    {e : SensorPath × Int} : e ∈ r.entries ↔ r.idFor? e.1 = some e.2 := by
  unfold idFor?
  constructor
  · intro he
    have hfind : (r.entries.find? fun e' => e'.1 = e.1) = some e := by
      refine (Store.find?_eq_some_iff_of_unique fun a ha b hb hab hbb => ?_).2 ⟨he, by simp⟩
      refine List.inj_on_of_nodup_map h ha hb ?_
      rw [of_decide_eq_true hab, of_decide_eq_true hbb]
    rw [hfind]
    rfl
  · intro he
    obtain ⟨e', hfind, hid⟩ := Option.map_eq_some_iff.1 he
    have hpath : e'.1 = e.1 := by simpa using List.find?_some hfind
    have heq : e' = e := Prod.ext hpath hid
    exact heq ▸ List.mem_of_find?_eq_some hfind

/-- Resolutions with the same ids have the same entries, whatever their order. -/
theorem perm_of_idFor?_eq {r r' : Resolution} (h : (r.entries.map Prod.fst).Nodup)
    (h' : (r'.entries.map Prod.fst).Nodup) (hid : ∀ p, r'.idFor? p = r.idFor? p) :
    r'.entries.Perm r.entries := by
  refine (List.perm_ext_iff_of_nodup (.of_map _ h') (.of_map _ h)).2 fun e => ?_
  rw [mem_entries_iff h, mem_entries_iff h', hid]

end Resolution

namespace Store

variable {s t : Store}

/-! ## One path -/

/-- What is found is not made. -/
theorem run_findOrCreate_of_found {α : Type} {what : String}
    {find : Program storeInterface (Option α)} {create : Program storeInterface α} {a : α}
    (h : run find s = (.ok (some a), t)) : run (findOrCreate what find create) s = (.ok a, t) :=
  run_bind_of_ok h _

theorem run_resolveSection_of_mem (hs : s.Integrity) {r : SectionRow} (hr : r ∈ s.sections)
    {name : String} (hname : r.name = name) : run (resolveSection name) s = (.ok r, s) := by
  have hfind : s.sectionByName? name = some r := hs.sectionByName?_eq_some_iff.2 ⟨hr, hname⟩
  exact run_findOrCreate_of_found (congrArg (fun a => (Except.ok a, s)) hfind)

theorem run_resolveModule_of_mem (hs : s.Integrity) {m : ModuleRow} (hm : m ∈ s.modules)
    {top : SectionRow} {name : String} (hpath : s.modulePath? m = some (top.name, name)) :
    run (resolveModule top name) s = (.ok m, s) := by
  have hfind : s.moduleByName? name top.name = some m :=
    hs.moduleByName?_eq_some_iff.2 ⟨hm, hpath⟩
  exact run_findOrCreate_of_found (congrArg (fun a => (Except.ok a, s)) hfind)

theorem run_resolveSensor_of_mem (hs : s.Integrity) {x : SensorRow} (hx : x ∈ s.sensors)
    {top : SectionRow} {parent : ModuleRow} {name : String}
    (hpath : s.sensorPath? x = some ⟨top.name, parent.name, name⟩) :
    run (resolveSensor parent top name) s = (.ok x, s) := by
  have hfind : s.sensorByPath? ⟨top.name, parent.name, name⟩ = some x :=
    hs.sensorByPath?_eq_some_iff.2 ⟨hx, hpath⟩
  exact run_findOrCreate_of_found (congrArg (fun a => (Except.ok a, s)) hfind)

/-- A sensor that is there is resolved without a change. -/
theorem run_resolvePath_of_mem (hs : s.Integrity) {x : SensorRow} (hx : x ∈ s.sensors)
    {p : SensorPath} (hpath : s.sensorPath? x = some p) : run (resolvePath p) s = (.ok x, s) := by
  obtain ⟨m, hm, -, hmpath, -⟩ := hs.sensorPath?_eq_some_iff.1 hpath
  obtain ⟨r, hr, -, hrname, hmname⟩ := hs.modulePath?_eq_some_iff.1 hmpath
  have hp : p = ⟨r.name, m.name, p.sensorName⟩ := by rw [hrname, hmname]
  rw [resolvePath, run_bind_of_ok (run_resolveSection_of_mem hs hr hrname),
    run_bind_of_ok (run_resolveModule_of_mem hs hm (hrname ▸ hmpath))]
  exact run_resolveSensor_of_mem hs hx (hp ▸ hpath)

/-- A path is resolved to the sensor that has it afterwards, unless there is no room for a row
more. -/
theorem run_resolvePath (hs : s.Integrity) (p : SensorPath) : ∃ t, Evolves [p] s t ∧
    ((∃ x ∈ t.sensors, run (resolvePath p) s = (.ok x, t) ∧ t.sensorPath? x = some p) ∨
      run (resolvePath p) s = (.error oversizedKey, t) ∧ ¬s.HasRoomFor 1) := by
  obtain ⟨t, ht, ⟨x, hrun, hx, hpath⟩ | ⟨f, hrun, rfl, hfull⟩⟩ :=
    (settles_resolvePath (hs.steady [p]) (List.mem_singleton_self p)).run .refl .trans
  · exact ⟨t, ht, Or.inl ⟨x, hx, hrun, hpath⟩⟩
  · exact ⟨t, ht, Or.inr ⟨hrun, hfull⟩⟩

/-- When one row of each kind has come, there is room for one less. -/
theorem Evolves.hasRoomFor {p : SensorPath} (h : Evolves [p] s t) (hs : s.Integrity) {n : Nat}
    (hroom : s.HasRoomFor (n + 1)) : t.HasRoomFor n := by
  have ht := h.integrity hs
  have hsections := h.grows.length_sections_le ht
  have hmodules := h.grows.length_modules_le ht
  rw [List.length_singleton] at hsections hmodules
  exact ⟨fitsSigned_of_le (by omega) hroom.sections, fitsSigned_of_le (by omega) hroom.modules⟩

theorem HasRoomFor.mono {m n : Nat} (hmn : m ≤ n) (h : s.HasRoomFor n) : s.HasRoomFor m :=
  ⟨fitsSigned_of_le (by omega) h.sections, fitsSigned_of_le (by omega) h.modules⟩

/-! ## A list of descriptors -/

/-- What a run through descriptors comes to, after the paths before them have been resolved. -/
structure RunsThrough (before : List SensorPath) (ds : List Descriptor) (s : Store)
    (r : Resolution) (t : Store) : Prop where
  integrity : t.Integrity
  grows : Grows (ds.map Descriptor.path) s t
  completes : CompletesInOrder (ds.map Descriptor.path) s t
  maps : Maps (before ++ ds.map Descriptor.path) r t
  entries : r.entries.map Prod.fst = (before ++ ds.map Descriptor.path).eraseDups

/-- One descriptor resolved, and then the others. -/
theorem RunsThrough.cons {before : List SensorPath} {d : Descriptor} {ds : List Descriptor}
    {u : Store} {r : Resolution} (hs : s.Integrity) (hst : Evolves [d.path] s t)
    {x : SensorRow} (hx : x ∈ t.sensors) (hpath : t.sensorPath? x = some d.path)
    (h : RunsThrough (before ++ [d.path]) ds t r u) : RunsThrough before (d :: ds) s r u := by
  have hone := hst.grows.completesInOrder hs (hst.integrity hs) ⟨x, hx, hpath⟩
  have happend : before ++ (d :: ds).map Descriptor.path =
      before ++ [d.path] ++ ds.map Descriptor.path := by simp
  refine ⟨h.integrity, ?_, ?_, happend ▸ h.maps, happend ▸ h.entries⟩
  · exact (hst.grows.mono (by simp)).trans (h.grows.mono (by simp))
  · exact hone.trans h.completes hs (hst.integrity hs) hst.grows h.grows

/-- Descriptors are resolved in turn, unless there is no room for so many rows. -/
theorem run_reconcileFrom (hs : s.Integrity) (ds : List Descriptor) {before : List SensorPath}
    {r : Resolution} (hr : Maps before r s) (hentries : r.entries.map Prod.fst = before.eraseDups) :
    (∃ r' t, run (reconcileFrom r ds) s = (.ok r', t) ∧ RunsThrough before ds s r' t) ∨
      ¬s.HasRoomFor ds.length ∧ ∃ t, run (reconcileFrom r ds) s = (.error oversizedKey, t) := by
  induction ds generalizing before r s with
  | nil =>
    refine Or.inl ⟨r, s, rfl, hs, .refl s, completesInOrder_nil s, ?_, ?_⟩
    · simpa using hr
    · simpa using hentries
  | cons d ds ih =>
    obtain ⟨t, hst, ⟨x, hx, hrun, hpath⟩ | ⟨hrun, hfull⟩⟩ := run_resolvePath hs d.path
    · have hr' := (hr.evolves hst).insert hx hpath
      have hentries' : (r.insert d.path x.id).entries.map Prod.fst =
          (before ++ [d.path]).eraseDups := by
        rw [Resolution.insert, Resolution.map_fst_setEntry, hentries, eraseDups_concat]
      rw [reconcileFrom, run_bind_of_ok hrun]
      rcases ih (hst.integrity hs) hr' hentries' with ⟨r', u, hrest, h⟩ | ⟨hfull, u, hrest⟩
      · exact Or.inl ⟨r', u, hrest, h.cons hs hst hx hpath⟩
      · exact Or.inr ⟨fun hroom => hfull (hst.hasRoomFor hs hroom), u, hrest⟩
    · refine Or.inr ⟨fun hroom => hfull (hroom.mono (by simp)), t, ?_⟩
      rw [reconcileFrom, run_bind_of_error hrun]

/-- Sensors that are all there are resolved without a change. -/
theorem run_reconcileFrom_of_present (hs : s.Integrity) (ds : List Descriptor)
    (hds : ∀ d ∈ ds, s.HasSensor d.path) (r : Resolution) :
    ∃ r', run (reconcileFrom r ds) s = (.ok r', s) := by
  induction ds generalizing r with
  | nil => exact ⟨r, rfl⟩
  | cons d ds ih =>
    obtain ⟨x, hx, hpath⟩ := hds d List.mem_cons_self
    rw [reconcileFrom, run_bind_of_ok (run_resolvePath_of_mem hs hx hpath)]
    exact ih (fun d' hd' => hds d' (List.mem_cons_of_mem d hd')) _

/-- What a reconciliation of the list over `s` comes to : the resolution `r` and the
tables `t`. -/
structure Reconciled (ds : List Descriptor) (s : Store) (r : Resolution) (t : Store) : Prop where
  completes : CompletesInOrder (ds.map Descriptor.path) s t
  /-- Every path is resolved once. -/
  entries : r.entries.map Prod.fst = (ds.map Descriptor.path).eraseDups
  /-- A path has the id of the sensor that is found for it. -/
  found : ∀ p ∈ ds.map Descriptor.path,
    ∃ x, t.sensorByPath? p = some x ∧ r.idFor? p = some (x.id : Int)
  /-- Different paths have different ids. -/
  injective : ∀ p q id, r.idFor? p = some id → r.idFor? q = some id → p = q
  /-- Descriptors are the same afterwards but for their ids. -/
  applied : r.apply ds =
    ds.map fun d => { d with id := (t.sensorByPath? d.path).map fun x => (x.id : Int) }
  /-- Reconciling the same paths again, in any order, changes nothing. -/
  again : ∀ ds' : List Descriptor,
    (∀ p, p ∈ ds'.map Descriptor.path ↔ p ∈ ds.map Descriptor.path) →
      ∃ r', run (reconcile ds') t = (.ok r', t) ∧ (∀ p, r'.idFor? p = r.idFor? p) ∧
        r'.entries.Perm r.entries

theorem run_reconcile (hs : s.Integrity) (ds : List Descriptor) :
    (∃ r t, run (reconcile ds) s = (.ok r, t) ∧ RunsThrough [] ds s r t) ∨
      ¬s.HasRoomFor ds.length ∧ ∃ t, run (reconcile ds) s = (.error oversizedKey, t) :=
  run_reconcileFrom hs ds (maps_nil s) rfl

theorem RunsThrough.of_run {ds : List Descriptor} {r : Resolution} (hs : s.Integrity)
    (h : run (reconcile ds) s = (.ok r, t)) : RunsThrough [] ds s r t := by
  rcases run_reconcile hs ds with ⟨r', t', hrun, hthrough⟩ | ⟨-, t', hrun⟩
  · obtain ⟨hr, rfl⟩ := Prod.mk.inj (h.symm.trans hrun)
    rwa [Except.ok.inj hr]
  · cases (Prod.mk.inj (h.symm.trans hrun)).1

namespace RunsThrough

variable {ds : List Descriptor} {r : Resolution} (h : RunsThrough [] ds s r t)
include h

theorem nodup_entries : (r.entries.map Prod.fst).Nodup :=
  h.entries ▸ nodup_eraseDups _

theorem found {p : SensorPath} (hp : p ∈ ds.map Descriptor.path) :
    ∃ x, t.sensorByPath? p = some x ∧ r.idFor? p = some (x.id : Int) := by
  obtain ⟨x, hx, hpath, hid⟩ := (h.maps p).1 hp
  exact ⟨x, h.integrity.sensorByPath?_eq_some_iff.2 ⟨hx, hpath⟩, hid⟩

/-- Over tables that have its paths, another list gives the same ids. -/
theorem again {ds' : List Descriptor}
    (hds : ∀ p, p ∈ ds'.map Descriptor.path ↔ p ∈ ds.map Descriptor.path) :
    ∃ r', run (reconcile ds') t = (.ok r', t) ∧ (∀ p, r'.idFor? p = r.idFor? p) ∧
      r'.entries.Perm r.entries := by
  have hpresent : ∀ d ∈ ds', t.HasSensor d.path := by
    intro d hd
    obtain ⟨x, hx, hpath, -⟩ := (h.maps d.path).1 ((hds d.path).1 (List.mem_map_of_mem hd))
    exact ⟨x, hx, hpath⟩
  obtain ⟨r', hrun⟩ := run_reconcileFrom_of_present h.integrity ds' hpresent .empty
  have h' : RunsThrough [] ds' t r' t := .of_run h.integrity hrun
  have hids : ∀ p, r'.idFor? p = r.idFor? p := by
    intro p
    by_cases hp : p ∈ ds.map Descriptor.path
    · obtain ⟨x, hx, hid⟩ := h.found hp
      obtain ⟨x', hx', hid'⟩ := h'.found ((hds p).2 hp)
      rw [hid, hid', Option.some.inj (hx.symm.trans hx')]
    · rw [(h.maps p).2 hp, (h'.maps p).2 (mt (hds p).1 hp)]
  exact ⟨r', hrun, hids, Resolution.perm_of_idFor?_eq h.nodup_entries h'.nodup_entries hids⟩

theorem reconciled : Reconciled ds s r t where
  completes := h.completes
  entries := h.entries
  found _ hp := h.found hp
  injective p q id hp hq := by
    obtain ⟨x, hx, hpath, hxid⟩ := h.maps.exists_sensor hp
    obtain ⟨y, hy, hpath', hyid⟩ := h.maps.exists_sensor hq
    obtain rfl := h.integrity.sensorIds.eq_of_id_eq hx hy (by omega)
    exact Option.some.inj (hpath.symm.trans hpath')
  applied := by
    refine List.map_congr_left fun d hd => ?_
    obtain ⟨x, hx, hid⟩ := h.found (List.mem_map_of_mem hd)
    rw [Resolution.applyTo, hid, hx]
    rfl
  again _ hds := h.again hds

end RunsThrough

/-- Over reachable tables a reconciliation makes exactly what is missing and reports it, as long as
the ids that it needs fit the database. -/
theorem reconciled_of_reachable (hs : s.Reachable) (ds : List Descriptor) :
    (∃ r t, run (reconcile ds) s = (.ok r, t) ∧ Reconciled ds s r t) ∨
      ¬s.HasRoomFor ds.length ∧ ∃ t, run (reconcile ds) s = (.error oversizedKey, t) :=
  (run_reconcile hs.integrity ds).imp_left fun ⟨r, t, hrun, h⟩ => ⟨r, t, hrun, h.reconciled⟩

/-- The list names one sensor twice, and one that is there, whose topic is its own and whose id is
not the one that the list has. -/
theorem reconciled_repeated :
    let s := (answer (.insertSensor (some "pump") (some 1) (some "elsewhere"))
      (answer (.insertModule (some "east") (some 1))
        (answer (.insertSection (some "hall")) empty).2).2).2
    let pump : Descriptor := ⟨"pump", none, "yard", "east", 0⟩
    let ds := [pump, ⟨"pump", some 7, "hall", "east", 0⟩, { pump with id := some 1 }]
    let r : Resolution := ⟨[(pump.path, 2), (⟨"hall", "east", "pump"⟩, 1)]⟩
    let t := (run (reconcile ds) s).2
    Reconciled ds s r t ∧
      t.sensors = [⟨1, "pump", 1, "elsewhere"⟩, ⟨2, "pump", 2, "yard/east/pump"⟩] := by
  intro s pump ds r t
  have hs : s.Reachable := .request _ (.request _ (.request _ .empty))
  have hrun : run (reconcile ds) s = (.ok r, t) := by decide +kernel
  rcases reconciled_of_reachable hs ds with ⟨r', t', hrun', h⟩ | ⟨hfull, -⟩
  · obtain ⟨hr, rfl⟩ := Prod.mk.inj (hrun.symm.trans hrun')
    exact ⟨Except.ok.inj hr ▸ h, by decide +kernel⟩
  · exact (hfull ⟨by decide +kernel, by decide +kernel⟩).elim

end Store

end SensorRelay
