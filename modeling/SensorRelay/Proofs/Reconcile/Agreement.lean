import SensorRelay.Proofs.Reconcile.Resolving

/-!
# Concurrent reconciliations agree

Any number of reconciliations, each of its own list, run over the same tables, and a schedule
says whose request comes next (`interleaved`). `Agreement` is what they can rely on, whatever
the schedule : none of them fails as long as the tables have room, each maps its paths to the
sensors that have them, so no two disagree, and when all are through, exactly what was missing
has been made. `agreement_interleaved` proves it from the promise of a single reconciliation in
company (`settles_reconcile`).
-/

namespace SensorRelay

namespace Resolution

theorem find?_setEntry (path p : SensorPath) (id : Int) (entries : List (SensorPath × Int)) :
    ((setEntry path id entries).find? fun e => e.1 = p) =
      if path = p then some (path, id) else entries.find? fun e => e.1 = p := by
  induction entries with
  | nil => by_cases h : path = p <;> simp [setEntry, h]
  | cons e entries ih =>
    unfold setEntry
    split
    · rename_i he
      by_cases h : path = p
      · simp [h]
      · simp [h, he]
    · rename_i he
      rw [List.find?_cons, List.find?_cons, ih]
      by_cases h : path = p
      · have hep : e.1 ≠ p := fun hep => he (hep.trans h.symm)
        simp [h, hep]
      · simp [h]

/-- A path that is resolved has its new id, other paths have the ids that they had. -/
theorem idFor?_insert (r : Resolution) (path p : SensorPath) (id : Int) :
    (r.insert path id).idFor? p = if path = p then some id else r.idFor? p := by
  unfold idFor? insert
  rw [find?_setEntry]
  by_cases h : path = p <;> simp [h]

end Resolution

namespace Store

variable {wanted : List SensorPath} {full : Prop} {s t : Store}

/-- The resolution maps the paths, and no others, to the ids of the sensors that have them. -/
def Maps (paths : List SensorPath) (r : Resolution) (t : Store) : Prop :=
  ∀ p, (p ∈ paths → ∃ x ∈ t.sensors, t.sensorPath? x = some p ∧ r.idFor? p = some (x.id : Int)) ∧
    (p ∉ paths → r.idFor? p = none)

theorem maps_nil (t : Store) : Maps [] Resolution.empty t :=
  fun _ => ⟨fun h => absurd h List.not_mem_nil, fun _ => rfl⟩

theorem Maps.evolves {paths : List SensorPath} {r : Resolution} (h : Maps paths r s)
    (hst : Evolves wanted s t) : Maps paths r t := by
  refine fun p => ⟨fun hp => ?_, (h p).2⟩
  obtain ⟨x, hx, hpath, hid⟩ := (h p).1 hp
  exact ⟨x, hst.mem_sensors hx, hst.grows.sensorPath? hpath, hid⟩

theorem Maps.insert {paths : List SensorPath} {r : Resolution} (h : Maps paths r t)
    {x : SensorRow} (hx : x ∈ t.sensors) {path : SensorPath} (hpath : t.sensorPath? x = some path) :
    Maps (paths ++ [path]) (r.insert path x.id) t := by
  intro p
  rw [Resolution.idFor?_insert, List.mem_append, List.mem_singleton]
  by_cases hp : path = p
  · subst hp
    exact ⟨fun _ => ⟨x, hx, hpath, if_pos rfl⟩, fun hnot => (hnot (Or.inr rfl)).elim⟩
  · rw [if_neg hp]
    exact ⟨fun hmem => (h p).1 (hmem.resolve_right (Ne.symm hp)),
      fun hnot => (h p).2 fun hmem => hnot (Or.inl hmem)⟩

/-- An id that a resolution has is the id of a sensor with the path. -/
theorem Maps.exists_sensor {paths : List SensorPath} {r : Resolution} (h : Maps paths r t)
    {p : SensorPath} {id : Int} (hid : r.idFor? p = some id) :
    ∃ x ∈ t.sensors, t.sensorPath? x = some p ∧ id = x.id := by
  have hp : p ∈ paths := by
    by_contra hnot
    rw [(h p).2 hnot] at hid
    cases hid
  obtain ⟨x, hx, hpath, hxid⟩ := (h p).1 hp
  exact ⟨x, hx, hpath, Option.some.inj (hid.symm.trans hxid)⟩

/-- Two resolutions have no different ids for a path. -/
theorem Maps.id_eq {paths paths' : List SensorPath} {r r' : Resolution} (h : Maps paths r t)
    (ht : t.Integrity) (h' : Maps paths' r' t) {p : SensorPath} {id id' : Int}
    (hid : r.idFor? p = some id) (hid' : r'.idFor? p = some id') : id = id' := by
  obtain ⟨x, hx, hpath, rfl⟩ := h.exists_sensor hid
  obtain ⟨y, hy, hpath', rfl⟩ := h'.exists_sensor hid'
  rw [ht.sensor_eq_of_path_eq hx hy hpath hpath']

/-! ## One reconciliation -/

/-- Descriptors are resolved in turn, with at most nine requests for each. -/
theorem settles_reconcileFrom (hs : Steady wanted full s) (ds : List Descriptor)
    (hds : ∀ d ∈ ds, d.path ∈ wanted) {paths : List SensorPath} {r : Resolution}
    (hr : Maps paths r s) : SettlesAmong wanted full (Maps (paths ++ ds.map Descriptor.path))
      (9 * ds.length) (reconcileFrom r ds) s := by
  induction ds generalizing paths r s with
  | nil => exact Program.Settles.done (by simpa using hr)
  | cons d ds ih =>
    have hbound : 9 * (d :: ds).length = 9 + 9 * ds.length := by
      rw [List.length_cons]
      omega
    rw [hbound]
    refine (settles_resolvePath hs (hds d List.mem_cons_self)).bind .trans .refl fun x t ht hx => ?_
    have hrt := (hr.evolves ht).insert hx.1 hx.2
    have hnext := ih (hs.evolves ht) (fun d' hd' => hds d' (List.mem_cons_of_mem d hd')) hrt
    rwa [List.append_assoc, List.singleton_append] at hnext

/-- In company a reconciliation maps its paths to the sensors that have them. -/
theorem settles_reconcile (hs : Steady wanted full s) (ds : List Descriptor)
    (hds : ∀ d ∈ ds, d.path ∈ wanted) : SettlesAmong wanted full (Maps (ds.map Descriptor.path))
      (9 * ds.length) (reconcile ds) s :=
  settles_reconcileFrom hs ds hds (maps_nil s)

/-! ## Many reconciliations -/

/-- Reconciliations of the lists over shared tables, after the turns of a schedule. -/
def interleaved (lists : List (List Descriptor)) (s : Store) (schedule : List Nat) :
    Interleaving storeInterface Resolution Store :=
  Interleaving.run (fun c t => answer c t) ⟨lists.map reconcile, s⟩ schedule

/-- What reconciliations of the lists, begun over `s`, can rely on after the schedule. A list
is through when its program is done. -/
structure Agreement (lists : List (List Descriptor)) (s : Store) (schedule : List Nat)
    (w : Interleaving storeInterface Resolution Store) : Prop where
  /-- A failure is for want of room and of nothing else. -/
  not_aborted : ∀ (i : Nat) (f : Failure), w.programs[i]? = some (.raise f) →
    f = oversizedKey ∧ ¬s.HasRoomFor lists.flatten.length
  /-- After nine turns for each descriptor a list is through or has failed. -/
  ended : ∀ (i : Nat) (ds : List Descriptor), lists[i]? = some ds →
    9 * ds.length ≤ schedule.count i →
    (∃ r, w.programs[i]? = some (.done r)) ∨ ∃ f, w.programs[i]? = some (.raise f)
  /-- A list that is through knows the ids of its paths : those of the only sensors there. -/
  maps : ∀ (i : Nat) (ds : List Descriptor) (r : Resolution), lists[i]? = some ds →
    w.programs[i]? = some (.done r) →
    ∀ p, (p ∈ ds.map Descriptor.path →
        ∃ x, (∀ y, y ∈ w.state.sensors ∧ w.state.sensorPath? y = some p ↔ y = x) ∧
          r.idFor? p = some (x.id : Int)) ∧
      (p ∉ ds.map Descriptor.path → r.idFor? p = none)
  /-- No two lists have different ids for a path. -/
  agree : ∀ (i j : Nat) (r r' : Resolution), w.programs[i]? = some (.done r) →
    w.programs[j]? = some (.done r') →
    ∀ p id id', r.idFor? p = some id → r'.idFor? p = some id' → id = id'
  /-- When all are through, exactly what was missing has been made. -/
  completes : (∀ p ∈ w.programs, ∃ r, p = .done r) →
    Completes (lists.flatten.map Descriptor.path) s w.state

/-- The promise of every single reconciliation, after the turns of the schedule. -/
theorem settles_interleaved (hs : s.Integrity) (lists : List (List Descriptor))
    (schedule : List Nat) :
    Evolves (lists.flatten.map Descriptor.path) s (interleaved lists s schedule).state ∧
      ∀ (i : Nat) (p : Program storeInterface Resolution) (ds : List Descriptor),
        lists[i]? = some ds → (interleaved lists s schedule).programs[i]? = some p →
        SettlesAmong (lists.flatten.map Descriptor.path) (¬s.HasRoomFor lists.flatten.length)
          (Maps (ds.map Descriptor.path)) (9 * ds.length - schedule.count i) p
          (interleaved lists s schedule).state := by
  have hsteady := hs.steady (lists.flatten.map Descriptor.path)
  rw [List.length_map] at hsteady
  have hstart : ∀ (i : Nat) (p : Program storeInterface Resolution),
      (lists.map reconcile)[i]? = some p →
      SettlesAmong (lists.flatten.map Descriptor.path) (¬s.HasRoomFor lists.flatten.length)
        (Maps ((lists[i]?.getD []).map Descriptor.path)) (9 * (lists[i]?.getD []).length) p s := by
    intro i p hp
    rw [List.getElem?_map] at hp
    obtain ⟨ds, hds, rfl⟩ := Option.map_eq_some_iff.1 hp
    rw [hds]
    refine settles_reconcile hsteady ds fun d hd => List.mem_map_of_mem ?_
    exact List.mem_flatten_of_mem (List.mem_of_getElem? hds) hd
  have hrun := Interleaving.settles_run (R := Evolves (lists.flatten.map Descriptor.path)) .refl
    .trans ?_ schedule (w := ⟨lists.map reconcile, s⟩) hstart
  · refine ⟨hrun.1, fun i p ds hds hp => ?_⟩
    have hsettled := hrun.2 i p hp
    rwa [hds] at hsettled
  · exact fun i r t u htu h => h.evolves htu

theorem length_programs_interleaved (lists : List (List Descriptor)) (schedule : List Nat) :
    (interleaved lists s schedule).programs.length = lists.length :=
  (Interleaving.length_programs_run _ schedule).trans (List.length_map reconcile)

theorem exists_list_of_program {lists : List (List Descriptor)} {schedule : List Nat} {i : Nat}
    {p : Program storeInterface Resolution}
    (hp : (interleaved lists s schedule).programs[i]? = some p) : ∃ ds, lists[i]? = some ds := by
  have hi := (List.getElem?_eq_some_iff.1 hp).1
  rw [length_programs_interleaved] at hi
  exact ⟨lists[i], List.getElem?_eq_getElem hi⟩

theorem exists_program_of_list {lists : List (List Descriptor)} (schedule : List Nat) {i : Nat}
    {ds : List Descriptor} (hds : lists[i]? = some ds) :
    ∃ p, (interleaved lists s schedule).programs[i]? = some p := by
  have hi := (List.getElem?_eq_some_iff.1 hds).1
  rw [← length_programs_interleaved (s := s) lists schedule] at hi
  exact ⟨_, List.getElem?_eq_getElem hi⟩

/-- Over reachable tables, any number of reconciliations agree under every schedule. -/
theorem agreement_interleaved (hs : s.Reachable) (lists : List (List Descriptor))
    (schedule : List Nat) :
    Agreement lists s schedule (interleaved lists s schedule) := by
  obtain ⟨hevolves, hsettles⟩ := settles_interleaved hs.integrity lists schedule
  have ht := hevolves.integrity hs.integrity
  have hmaps : ∀ (i : Nat) (ds : List Descriptor) (r : Resolution), lists[i]? = some ds →
      (interleaved lists s schedule).programs[i]? = some (.done r) →
      Maps (ds.map Descriptor.path) r (interleaved lists s schedule).state :=
    fun i ds r hds hr => (hsettles i _ ds hds hr).of_done
  refine ⟨?_, ?_, ?_, ?_, ?_⟩
  · intro i f hf
    obtain ⟨ds, hds⟩ := exists_list_of_program hf
    exact (hsettles i _ ds hds hf).of_raise
  · intro i ds hds hcount
    obtain ⟨p, hp⟩ := exists_program_of_list (s := s) schedule hds
    have hsettled := hsettles i p ds hds hp
    rw [Nat.sub_eq_zero_of_le hcount] at hsettled
    rw [hp]
    simpa using hsettled.ended
  · intro i ds r hds hr p
    refine ⟨fun hp => ?_, (hmaps i ds r hds hr p).2⟩
    obtain ⟨x, hx, hpath, hid⟩ := (hmaps i ds r hds hr p).1 hp
    refine ⟨x, fun y => ⟨fun hy => ?_, fun hy => hy ▸ ⟨hx, hpath⟩⟩, hid⟩
    exact ht.sensor_eq_of_path_eq hy.1 hx hy.2 hpath
  · intro i j r r' hr hr' p id id' hid hid'
    obtain ⟨ds, hds⟩ := exists_list_of_program hr
    obtain ⟨ds', hds'⟩ := exists_list_of_program hr'
    exact (hmaps i ds r hds hr).id_eq ht (hmaps j ds' r' hds' hr') hid hid'
  · intro hdone
    refine hevolves.grows.completes hs.integrity ht fun p hp => ?_
    obtain ⟨d, hd, rfl⟩ := List.mem_map.1 hp
    obtain ⟨ds, hds, hmem⟩ := List.mem_flatten.1 hd
    obtain ⟨i, hi⟩ := List.mem_iff_getElem?.1 hds
    obtain ⟨q, hq⟩ := exists_program_of_list (s := s) schedule hi
    obtain ⟨r, rfl⟩ := hdone q (List.mem_of_getElem? hq)
    obtain ⟨x, hx, hpath, -⟩ := (hmaps i ds r hi hq d.path).1 (List.mem_map_of_mem hmem)
    exact ⟨x, hx, hpath⟩

/-- Two lists with a sensor in common, requesting by turns below a section that exists. Each
finds the module and the sensor absent before one of them makes it. -/
theorem agreement_by_turns :
    let s := (answer (.insertSection (some "hall")) empty).2
    let pump : Descriptor := ⟨"pump", none, "hall", "east", 0⟩
    let fan : Descriptor := ⟨"fan", none, "hall", "east", 1⟩
    let schedule := (List.replicate 9 [0, 1]).flatten
    let w := interleaved [[pump, fan], [pump]] s schedule
    s.HasRoomFor 3 ∧ Agreement [[pump, fan], [pump]] s schedule w ∧
      w.state.sensors = [⟨1, "pump", 1, "hall/east/pump"⟩, ⟨2, "fan", 1, "hall/east/fan"⟩] :=
  ⟨⟨by decide +kernel, by decide +kernel⟩,
    agreement_interleaved (.request (.insertSection (some "hall")) .empty) _ _, by decide +kernel⟩

end Store
end SensorRelay
