import SensorRelay.Proofs.Command.WriteBack

/-!
# The inventory answers as the resolution

After a reconciliation two parties know the ids of the sensors, the resolution and the inventory in
which the ids have been written. The inventory takes the first descriptor of a path that has an id,
whatever other descriptors of the path there are. But all of them have been given the id of the
resolution, in place of any id that they had before (`Inventory.idFor?_apply_of_mem`), so the two
give the same answers (`Inventory.AnswersAs`). The inventory still does so when it has been dumped
and loaded again, since it is then the same (`Store.writtenBack_of_reachable`).
-/

namespace SensorRelay

theorem Resolution.id_applyTo {r : Resolution} {d : Descriptor} {id : Int}
    (hid : r.idFor? d.path = some id) : (r.applyTo d).id = some id := by
  rw [applyTo, hid]

namespace Inventory

variable {c : Inventory} {r : Resolution} {ds : List Descriptor} {p : SensorPath}

/-! ## Single paths -/

theorem idFor?_eq_none_of_not_mem (hp : p ∉ c.sensors.map Descriptor.path) :
    c.idFor? p = none := by
  refine List.findSome?_eq_none_iff.2 fun d hd => if_neg ?_
  rintro rfl
  exact hp (List.mem_map_of_mem hd)

/-- The first descriptor of the path has the id of the resolution. -/
theorem idFor?_apply_of_mem {id : Int} (hid : r.idFor? p = some id)
    (hp : p ∈ ds.map Descriptor.path) : (⟨r.apply ds⟩ : Inventory).idFor? p = some id := by
  induction ds with
  | nil => cases hp
  | cons d ds ih =>
    unfold idFor? Resolution.apply
    rw [List.map_cons, List.findSome?_cons, r.path_applyTo]
    by_cases hd : d.path = p
    · -- Whatever id it had before, the search ends here.
      rw [if_pos hd, Resolution.id_applyTo (hd ▸ hid)]
    · rw [if_neg hd]
      exact ih ((List.mem_cons.1 hp).resolve_left (Ne.symm hd))

theorem idFor_eq_ok_iff {id : Int} : c.idFor p = .ok id ↔ c.idFor? p = some id := by
  unfold idFor
  cases c.idFor? p <;> simp

/-- A path without an id is an unknown sensor. -/
theorem unknownSensor_iff :
    (∃ e, c.idFor p = .error e ∧ e.kind = .unknownSensor) ↔ c.idFor? p = none := by
  unfold idFor
  cases c.idFor? p <;> simp

/-! ## All paths -/

/-- The inventory gives the ids of the resolution, and it does not know the sensors that the
resolution has no id for. -/
structure AnswersAs (c : Inventory) (r : Resolution) : Prop where
  known : ∀ p id, c.idFor p = .ok id ↔ r.idFor? p = some id
  unknown : ∀ p, (∃ e, c.idFor p = .error e ∧ e.kind = .unknownSensor) ↔ r.idFor? p = none

theorem answersAs_of_idFor?_eq (h : ∀ p, c.idFor? p = r.idFor? p) : c.AnswersAs r where
  known p id := by rw [idFor_eq_ok_iff, h]
  unknown p := by rw [unknownSensor_iff, h]

end Inventory

namespace Store

variable {s t : Store} {r : Resolution} {ds : List Descriptor}

/-- What an inventory comes to when the ids of the resolution have been written in it. -/
structure WrittenBack (ds : List Descriptor) (r : Resolution) (t : Store) : Prop where
  /-- Just the paths of the inventory have ids. -/
  resolved : ∀ p, (∃ id, r.idFor? p = some id) ↔ p ∈ ds.map Descriptor.path
  answers : ((⟨ds⟩ : Inventory).withSensors (r.apply ds)).AnswersAs r
  /-- What is read from its document is the same inventory, if ids and types are within 64 bits. -/
  readsBack : fitsSigned 64 (t.sensors.length : Int) = true →
    (∀ d ∈ ds, Json.isWireInt d.typeCode = true) →
    ((⟨ds⟩ : Inventory).withSensors (r.apply ds)).ReadsBack

namespace RunsThrough

variable (h : RunsThrough [] ds s r t)
include h

theorem isSome_idFor?_iff (p : SensorPath) :
    (∃ id, r.idFor? p = some id) ↔ p ∈ ds.map Descriptor.path := by
  constructor
  · rintro ⟨id, hid⟩
    by_contra hp
    rw [(h.maps p).2 hp] at hid
    cases hid
  · intro hp
    obtain ⟨x, -, -, hid⟩ := (h.maps p).1 hp
    exact ⟨_, hid⟩

theorem idFor?_apply (p : SensorPath) : (⟨r.apply ds⟩ : Inventory).idFor? p = r.idFor? p := by
  by_cases hp : p ∈ ds.map Descriptor.path
  · obtain ⟨id, hid⟩ := (h.isSome_idFor?_iff p).2 hp
    rw [hid, Inventory.idFor?_apply_of_mem hid hp]
  · rw [(h.maps p).2 hp]
    exact Inventory.idFor?_eq_none_of_not_mem ((r.map_path_apply ds).symm ▸ hp)

theorem writtenBack (hvalid : ∀ d ∈ ds, d.isValid = true) : WrittenBack ds r t where
  resolved := h.isSome_idFor?_iff
  answers := Inventory.answersAs_of_idFor?_eq h.idFor?_apply
  readsBack hids htypes := h.readsBack hids hvalid htypes

end RunsThrough

/-- After a reconciliation of valid descriptors the inventory with the ids answers as the
resolution, and so does what is loaded from its document. -/
theorem writtenBack_of_reachable (hs : s.Reachable) (hvalid : ∀ d ∈ ds, d.isValid = true) :
    (∃ r t, run (reconcile ds) s = (.ok r, t) ∧ WrittenBack ds r t) ∨
      ¬s.HasRoomFor ds.length ∧ ∃ t, run (reconcile ds) s = (.error oversizedKey, t) :=
  (run_reconcile hs.integrity ds).imp_left fun ⟨r, t, hrun, h⟩ => ⟨r, t, hrun, h.writtenBack hvalid⟩

/-- One sensor stands in the list twice, without an id and with that of another sensor, and the
other one is there under an id that the list does not have. -/
theorem writtenBack_stale_ids :
    let s := (run (reconcile [⟨"pump", none, "hall", "east", 0⟩]) empty).2
    let fan : Descriptor := ⟨"fan", none, "hall", "east", 3⟩
    let ds := [fan, ⟨"pump", some 7, "hall", "east", 0⟩, { fan with id := some 1 }]
    let r : Resolution := ⟨[(fan.path, 2), (⟨"hall", "east", "pump"⟩, 1)]⟩
    let c := (⟨ds⟩ : Inventory).withSensors (r.apply ds)
    (run (reconcile ds) s).1 = .ok r ∧ c.AnswersAs r ∧ c.ReadsBack ∧
      c.sensors.map Descriptor.id = [some 2, some 1, some 2] := by
  intro s fan ds r c
  have hs : s.Reachable := Reachable.empty.run _
  have hrun : run (reconcile ds) s = (.ok r, (run (reconcile ds) s).2) := by decide +kernel
  rcases writtenBack_of_reachable hs (by decide : ∀ d ∈ ds, d.isValid = true) with
    ⟨r', t, hrun', h⟩ | ⟨hfull, -⟩
  · obtain ⟨hr, rfl⟩ := Prod.mk.inj (hrun.symm.trans hrun')
    obtain rfl := Except.ok.inj hr
    exact ⟨congrArg Prod.fst hrun, h.answers, h.readsBack (by decide +kernel) (by decide),
      by decide +kernel⟩
  · exact (hfull ⟨by decide +kernel, by decide +kernel⟩).elim

end Store

end SensorRelay
