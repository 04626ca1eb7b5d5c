import SensorRelay.Inventory.Document
import SensorRelay.Proofs.Pipeline.Storing
import SensorRelay.Proofs.Reconcile.Alone
import SensorRelay.Proofs.Topic

/-!
# Topics of reconciled sensors

Over empty tables a reconciliation gives every sensor the topic of its path, and a lookup by topic
then comes to the first descriptor that has the topic (`RunsThrough.idByTopic_eq`). Where the names
of a path hold no slash no other path has its topic, so what arrives on the topic reaches this
sensor and no other (`reachesOwn_of_isPlain`). Names with slashes are accepted as well, and two
paths may then have one topic (`misled_by_slash`).
-/

namespace SensorRelay

/-- A row stands first among those with a property exactly if its key does so among the keys. -/
theorem find?_bind_eq_find? {α κ : Type} {key : α → Option κ} {p : α → Bool} {q : κ → Bool}
    {rows : List α} {keys : List κ} (h : rows.map key = keys.map some)
    (hpq : ∀ a ∈ rows, ∀ k, key a = some k → p a = q k) :
    (rows.find? p).bind key = keys.find? q := by
  induction rows generalizing keys with
  | nil =>
    obtain rfl : keys = [] := List.map_eq_nil_iff.1 h.symm
    rfl
  | cons a rows ih =>
    obtain ⟨k, keys, rfl⟩ : ∃ k keys', keys = k :: keys' := by
      cases keys with
      | nil => cases h
      | cons k keys => exact ⟨k, keys, rfl⟩
    obtain ⟨ha, hrows⟩ := List.cons.inj h
    have hpa := hpq a List.mem_cons_self k ha
    cases hqk : q k with
    | true =>
      rw [List.find?_cons_of_pos (hpa.trans hqk), List.find?_cons_of_pos hqk]
      exact ha
    | false =>
      rw [List.find?_cons_of_neg (by simp [hpa, hqk]), List.find?_cons_of_neg (by simp [hqk])]
      exact ih hrows fun b hb => hpq b (List.mem_cons_of_mem a hb)

theorem find?_eraseDups {α : Type} [DecidableEq α] (p : α → Bool) (l : List α) :
    l.eraseDups.find? p = l.find? p := by
  induction l using List.reverseRecOn with
  | nil => rfl
  | append_singleton l a ih =>
    rw [eraseDups_concat, List.find?_append]
    split
    · rename_i ha
      rw [ih]
      cases h : l.find? p with
      | some b => rfl
      | none =>
        have hpa := List.find?_eq_none.1 h a (List.mem_eraseDups.1 ha)
        rw [List.find?_cons_of_neg hpa]
        rfl
    · rw [List.find?_append, ih]

namespace Store

variable {ds : List Descriptor} {r : Resolution} {t : Store}

/-- The sensors that a reconciliation makes of empty tables have the paths of the list and their
topics. -/
theorem RunsThrough.sensors_of_empty (h : RunsThrough [] ds empty r t) :
    t.sensors.map t.sensorPath? = (ds.map Descriptor.path).eraseDups.map some ∧
      ∀ x ∈ t.sensors, ∃ p, t.sensorPath? x = some p ∧ x.topic = p.topic := by
  obtain ⟨new, hnew, hpaths, -⟩ := h.completes.sensors
  have hmissing : (ds.map Descriptor.path).filter (fun p => (empty.sensorByPath? p).isNone) =
      ds.map Descriptor.path :=
    List.filter_eq_self.2 fun p _ => rfl
  have hsensors : t.sensors = new := hnew
  rw [hmissing] at hpaths
  exact ⟨hsensors ▸ hpaths, fun x hx => h.completes.topics x hx List.not_mem_nil⟩

/-- The tables have no sensor but those of the resolution. -/
theorem RunsThrough.idFor?_of_empty (h : RunsThrough [] ds empty r t) {x : SensorRow}
    (hx : x ∈ t.sensors) {p : SensorPath} (hp : t.sensorPath? x = some p) :
    r.idFor? p = some (x.id : Int) := by
  have hmem : p ∈ ds.map Descriptor.path := by
    have hsome : some p ∈ t.sensors.map t.sensorPath? := hp ▸ List.mem_map_of_mem hx
    rw [h.sensors_of_empty.1] at hsome
    simpa using hsome
  obtain ⟨y, hy, hpath, hid⟩ := (h.maps p).1 hmem
  rw [hid, h.integrity.sensor_eq_of_path_eq hy hx hpath hp]

/-- A lookup by topic gives the id of the first descriptor with the topic. -/
theorem RunsThrough.idByTopic_eq (h : RunsThrough [] ds empty r t) (topic : String) :
    Lookup.byTopic.find? t topic =
      ((ds.map Descriptor.path).find? fun p => p.topic = topic).bind r.idFor? := by
  obtain ⟨hpaths, htopics⟩ := h.sensors_of_empty
  have hfirst : (t.sensorByTopic? topic).bind t.sensorPath? =
      (ds.map Descriptor.path).find? fun p => p.topic = topic := by
    rw [← find?_eraseDups]
    refine find?_bind_eq_find? hpaths fun x hx p hp => ?_
    obtain ⟨p', hp', htopic⟩ := htopics x hx
    rw [Option.some.inj (hp.symm.trans hp'), htopic]
    rfl
  rw [← hfirst, Lookup.find?]
  cases hx : t.sensorByTopic? topic with
  | none => rfl
  | some x =>
    have hmem := List.mem_of_find?_eq_some hx
    obtain ⟨p, hp, -⟩ := htopics x hmem
    simp [hp, h.idFor?_of_empty hmem hp]

/-- What is sent to the topic of a descriptor reaches its own sensor. -/
structure ReachesOwn (ds : List Descriptor) (r : Resolution) (t : Store) (d : Descriptor) :
    Prop where
  /-- The lookup by topic gives the id that the resolution has. -/
  resolved : ∃ id, r.idFor? d.path = some id ∧
    run (Lookup.byTopic.resolve d.path.topic) t = (.ok id, t)
  /-- No descriptor of another path has the topic. -/
  distinct : ∀ d' ∈ ds, d'.path.topic = d.path.topic → d'.path = d.path
  /-- The topic is stored for no other sensor. -/
  stored : ∀ x ∈ t.sensors, x.topic = d.path.topic → t.sensorPath? x = some d.path
  /-- After any deliveries, one to the topic is recorded for no other sensor. -/
  recorded : ∀ (vs : List Delivery) (v : Delivery), v.lookup = .byTopic →
    remainder? v.stage v.message.topic = some d.path.topic →
    ∀ row ∈ (deliver v (intake vs t).store).2.records, row ∉ (intake vs t).store.records →
      r.idFor? d.path = some (row.sensorId : Int)

/-- When an inventory has been reconciled over empty tables, what is sent to the topic of a plain
path reaches the sensor of the path. -/
theorem reachesOwn_of_isPlain (hrun : run (reconcile ds) empty = (.ok r, t)) {d : Descriptor}
    (hd : d ∈ ds) (hplain : d.path.IsPlain) : ReachesOwn ds r t d := by
  have hthrough := RunsThrough.of_run integrity_empty hrun
  have hunique : ∀ p : SensorPath, p.topic = d.path.topic → p = d.path :=
    fun p h => SensorPath.eq_of_topic_eq hplain h
  have hmem : d.path ∈ ds.map Descriptor.path := List.mem_map_of_mem hd
  have hfind : Lookup.byTopic.find? t d.path.topic = r.idFor? d.path := by
    have hfirst : ((ds.map Descriptor.path).find? fun p => p.topic = d.path.topic) =
        some d.path := by
      refine (find?_eq_some_iff_of_unique fun p hp q hq hpt hqt => ?_).2 ⟨hmem, by simp⟩
      rw [hunique p (of_decide_eq_true hpt), hunique q (of_decide_eq_true hqt)]
    rw [hthrough.idByTopic_eq, hfirst]
    rfl
  refine ⟨?_, fun d' _ h => hunique d'.path h, fun x hx htopic => ?_, ?_⟩
  · obtain ⟨x, -, hid⟩ := hthrough.found hmem
    exact ⟨x.id, hid, run_resolve_byTopic (hfind.trans hid)⟩
  · obtain ⟨p, hp, hptopic⟩ := hthrough.sensors_of_empty.2 x hx
    rw [hp, hunique p (hptopic.symm.trans htopic)]
  · intro vs v hlookup hstage row hrow hnew
    have ht : t.Reachable := by
      have hreachable := Reachable.empty.run (reconcile ds)
      rwa [hrun] at hreachable
    have hw := faithful_intake ht vs
    obtain ⟨result, u, hdeliver, hcomes⟩ := exists_comesOf hw.reachable.integrity v
    rw [hdeliver] at hrow
    cases hcomes with
    | refused hr => exact absurd hrow hnew
    | @recorded _ _ _ hstage' _ _ hid _ _ =>
      have hnewest := (List.mem_append.1 hrow).resolve_left hnew
      obtain rfl := Option.some.inj (hstage.symm.trans hstage')
      have hsame : Lookup.byTopic.find? (intake vs t).store d.path.topic =
          Lookup.byTopic.find? t d.path.topic := by
        rw [Lookup.find?, Lookup.find?, sensorByTopic?, sensorByTopic?, hw.store]
      rw [hlookup, hsame, hfind] at hid
      rw [hid, List.mem_singleton.1 hnewest]

/-- The names of the second path hold a slash, those of the first do not. -/
theorem reachesOwn_beside_slash :
    let document := Text.utf8 ("\x7b\"sensors\":[" ++
      "\x7b\"section\":\"a\",\"module\":\"b\",\"name\":\"c\"\x7d," ++
      "\x7b\"section\":\"a\",\"module\":\"b\",\"name\":\"c/d\"\x7d]\x7d")
    let plain : Descriptor := ⟨"c", none, "a", "b", 0⟩
    let ds := [plain, ⟨"c/d", none, "a", "b", 0⟩]
    let r : Resolution := ⟨[(⟨"a", "b", "c"⟩, 1), (⟨"a", "b", "c/d"⟩, 2)]⟩
    Inventory.read document = .ok ⟨ds⟩ ∧ ReachesOwn ds r (run (reconcile ds) empty).2 plain := by
  intro document plain ds r
  have hrun : run (reconcile ds) empty = (.ok r, (run (reconcile ds) empty).2) := by
    decide +kernel
  exact ⟨by decide +kernel, reachesOwn_of_isPlain hrun List.mem_cons_self (by decide +kernel)⟩

/-- Both paths have the same topic, and what is sent to it reaches the first sensor, whichever of
the two it is meant for. -/
theorem misled_by_slash :
    let document := Text.utf8 ("\x7b\"sensors\":[" ++
      "\x7b\"section\":\"a\",\"module\":\"b\",\"name\":\"c/d\"\x7d," ++
      "\x7b\"section\":\"a\",\"module\":\"b/c\",\"name\":\"d\"\x7d]\x7d")
    let second : Descriptor := ⟨"d", none, "a", "b/c", 0⟩
    let ds := [⟨"c/d", none, "a", "b", 0⟩, second]
    let r : Resolution := ⟨[(⟨"a", "b", "c/d"⟩, 1), (⟨"a", "b/c", "d"⟩, 2)]⟩
    let t := (run (reconcile ds) empty).2
    Inventory.read document = .ok ⟨ds⟩ ∧ run (reconcile ds) empty = (.ok r, t) ∧
      t.topics = ["a/b/c/d", "a/b/c/d"] ∧ r.idFor? second.path = some 2 ∧
      run (Lookup.byTopic.resolve second.path.topic) t = (.ok 1, t) := by
  decide +kernel

end Store

end SensorRelay
