import SensorRelay.Proofs.Reconcile.Topics

/-!
# Two ways to look up a sensor

A sensor is looked up by the topic that the tables have for it, or by its path in a resolution.
Where a reconciliation has given every sensor the topic of its path, and the names of the paths
hold no slash, the two are inverse ways around the same rows : a remainder is the topic of a path
exactly if it is taken apart into that path (`SensorPath.ofRemainder?_eq_ok_iff`). So both come to
the id of the descriptor with the topic, and neither knows a sensor where there is none
(`lookups_agree`). Records, and reconciliations of paths that are there, add no sensor (`Later`), so
this stays so.
-/

namespace SensorRelay.Store

variable {ds : List Descriptor} {r : Resolution} {s t u : Store}

/-! ## One lookup -/

/-- A lookup ends with the id that it has, or it does not know the sensor. -/
theorem run_resolve (lookup : Lookup) (s : Store) (remainder : String) :
    match lookup.find? s remainder with
    | some id => run (lookup.resolve remainder) s = (.ok id, s)
    | none => ∃ e, e.kind = .unknownSensor ∧
        run (lookup.resolve remainder) s = (.error (.pipeline e), s) := by
  cases lookup with
  | byTopic =>
    rw [Lookup.find?]
    cases hx : s.sensorByTopic? remainder with
    | some x => exact run_resolve_byTopic (by rw [Lookup.find?, hx]; rfl)
    | none =>
      have hanswer : answer (.sensorByTopic remainder) s = (.ok none, s) := by
        rw [answer, hx]
      exact ⟨_, rfl, run_ask hanswer _⟩
  | byResolution known =>
    rw [Lookup.find?, Lookup.resolve]
    cases hpath : SensorPath.ofRemainder? remainder with
    | error e => exact ⟨e, SensorPath.kind_of_ofRemainder?_error hpath, rfl⟩
    | ok path =>
      dsimp only
      cases known.idFor? path with
      | some id => rfl
      | none => exact ⟨_, rfl, rfl⟩

/-- Both lookups end with the id of the descriptor that has the topic, or there is none and neither
knows the sensor. No lookup changes the tables. -/
def LookupsAgree (ds : List Descriptor) (r : Resolution) (t : Store) (remainder : String) : Prop :=
  (∃ d ∈ ds, d.path.topic = remainder ∧ ∃ id, r.idFor? d.path = some id ∧
    run (Lookup.byTopic.resolve remainder) t = (.ok id, t) ∧
    run ((Lookup.byResolution r).resolve remainder) t = (.ok id, t)) ∨
  (∀ d ∈ ds, d.path.topic ≠ remainder) ∧
    ∃ e e' : PipelineError, e.kind = .unknownSensor ∧ e'.kind = .unknownSensor ∧
      run (Lookup.byTopic.resolve remainder) t = (.error (.pipeline e), t) ∧
      run ((Lookup.byResolution r).resolve remainder) t = (.error (.pipeline e'), t)

/-! ## After a reconciliation -/

/-- Every descriptor names a sensor, its section and its module without a slash. -/
def PlainlyNamed (ds : List Descriptor) : Prop :=
  ∀ d ∈ ds, d.isValid = true ∧ d.path.IsPlain

instance (ds : List Descriptor) : Decidable (PlainlyNamed ds) :=
  inferInstanceAs (Decidable (∀ d ∈ ds, d.isValid = true ∧ d.path.IsPlain))

theorem PlainlyNamed.ofRemainder?_topic (h : PlainlyNamed ds) {p : SensorPath}
    (hp : p ∈ ds.map Descriptor.path) : SensorPath.ofRemainder? p.topic = .ok p := by
  obtain ⟨d, hd, rfl⟩ := List.mem_map.1 hp
  obtain ⟨hvalid, hplain⟩ := h d hd
  refine SensorPath.ofRemainder?_eq_ok_iff.2 ⟨hplain, ?_, rfl⟩
  simp only [Descriptor.isValid, Bool.and_eq_true, Bool.not_eq_true'] at hvalid
  exact ⟨hvalid.1.2, hvalid.2, hvalid.1.1⟩

/-- When an inventory has been reconciled over empty tables, both lookups have the same ids. -/
theorem RunsThrough.find?_eq (h : RunsThrough [] ds empty r t) (hnames : PlainlyNamed ds)
    (remainder : String) :
    Lookup.byTopic.find? t remainder = (Lookup.byResolution r).find? t remainder := by
  rw [h.idByTopic_eq, Lookup.find?]
  cases hfind : (ds.map Descriptor.path).find? fun p => p.topic = remainder with
  | some p =>
    have hp := List.mem_of_find?_eq_some hfind
    have htopic : p.topic = remainder := by simpa using List.find?_some hfind
    rw [← htopic, hnames.ofRemainder?_topic hp]
    rfl
  | none =>
    cases hpath : SensorPath.ofRemainder? remainder with
    | error e => rfl
    | ok p =>
      -- The path has the remainder as its topic, so it is none of the list.
      obtain ⟨-, -, htopic⟩ := SensorPath.ofRemainder?_eq_ok_iff.1 hpath
      have hp : p ∉ ds.map Descriptor.path := fun hp =>
        List.find?_eq_none.1 hfind p hp (decide_eq_true htopic)
      exact ((h.maps p).2 hp).symm

/-- A topic is known exactly if a descriptor has it, and then by the id of the descriptor. -/
theorem RunsThrough.find?_byTopic_cases (h : RunsThrough [] ds empty r t) (topic : String) :
    (∃ d ∈ ds, d.path.topic = topic ∧ ∃ id, r.idFor? d.path = some id ∧
        Lookup.byTopic.find? t topic = some id) ∨
      (∀ d ∈ ds, d.path.topic ≠ topic) ∧ Lookup.byTopic.find? t topic = none := by
  rw [h.idByTopic_eq]
  cases hfind : (ds.map Descriptor.path).find? fun p => p.topic = topic with
  | some p =>
    have hmem := List.mem_of_find?_eq_some hfind
    obtain ⟨x, -, -, hid⟩ := (h.maps p).1 hmem
    obtain ⟨d, hd, rfl⟩ := List.mem_map.1 hmem
    exact Or.inl ⟨d, hd, by simpa using List.find?_some hfind, x.id, hid, hid⟩
  | none =>
    refine Or.inr ⟨fun d hd htopic => ?_, rfl⟩
    exact List.find?_eq_none.1 hfind d.path (List.mem_map_of_mem hd) (decide_eq_true htopic)

/-- The lookups agree about tables whose sensors are those of the reconciliation. -/
theorem RunsThrough.lookupsAgree (h : RunsThrough [] ds empty r t) (hnames : PlainlyNamed ds)
    (hsensors : u.sensors = t.sensors) (remainder : String) : LookupsAgree ds r u remainder := by
  have hsame : Lookup.byTopic.find? u remainder = Lookup.byTopic.find? t remainder := by
    rw [Lookup.find?, Lookup.find?, sensorByTopic?, sensorByTopic?, hsensors]
  have htopic := run_resolve .byTopic u remainder
  have hresolution : match Lookup.byTopic.find? u remainder with
      | some id => run ((Lookup.byResolution r).resolve remainder) u = (.ok id, u)
      | none => ∃ e, e.kind = .unknownSensor ∧
          run ((Lookup.byResolution r).resolve remainder) u = (.error (.pipeline e), u) := by
    rw [hsame, h.find?_eq hnames]
    exact run_resolve (.byResolution r) u remainder
  rcases h.find?_byTopic_cases remainder with ⟨d, hd, hd', id, hid, hfind⟩ | ⟨hnone, hfind⟩
  · rw [hsame, hfind] at htopic hresolution
    exact Or.inl ⟨d, hd, hd', id, hid, htopic, hresolution⟩
  · rw [hsame, hfind] at htopic hresolution
    obtain ⟨e, he, htopic⟩ := htopic
    obtain ⟨e', he', hresolution⟩ := hresolution
    exact Or.inr ⟨hnone, e, e', he, he', htopic, hresolution⟩

/-! ## Later tables -/

/-- What may become of tables without a new sensor : records are asked for, messages come to the
store stage, and some of the descriptors of `ds` are reconciled again. -/
inductive Later (ds : List Descriptor) (s : Store) : Store → Prop
  | refl : Later ds s s
  | record {t : Store} (sensorId : Option Int) (value : Quantity) (createdAt : Option Timestamp) :
    Later ds s t → Later ds s (answer (.insertRecord sensorId value createdAt) t).2
  | message {t : Store} (v : Delivery) : Later ds s t → Later ds s (deliver v t).2
  | reconcile {t : Store} {part : List Descriptor} : part ⊆ ds → Later ds s t →
    Later ds s (run (reconcile part) t).2

/-- A request for a record changes nothing but the records. -/
theorem exists_records_of_answer (sensorId : Option Int) (value : Quantity)
    (createdAt : Option Timestamp) (s : Store) :
    ∃ records, (answer (.insertRecord sensorId value createdAt) s).2 = { s with records } := by
  rw [answer]
  cases hadd : (do s.addRecord sensorId (← value.toBinary64) createdAt) with
  | error f => exact ⟨s.records, rfl⟩
  | ok added =>
    obtain ⟨row, t⟩ := added
    obtain ⟨x, -, hadd⟩ := bind_eq_ok_iff.1 hadd
    exact ⟨_, addRecord_eq hadd⟩

/-- A message at the store stage changes nothing but the records. -/
theorem exists_records_of_deliver (hs : s.Integrity) (v : Delivery) :
    ∃ records, (deliver v s).2 = { s with records } := by
  obtain ⟨result, t, hdeliver, hcomes⟩ := exists_comesOf hs v
  rw [hdeliver]
  cases hcomes with
  | refused _ => exact ⟨s.records, rfl⟩
  | recorded => exact ⟨_, rfl⟩

/-- Later tables differ in their records alone. -/
theorem Later.exists_records (ht : t.Reachable)
    (hpresent : ∀ d ∈ ds, t.HasSensor d.path) (h : Later ds t u) :
    u.Reachable ∧ ∃ records, u = { t with records } := by
  induction h with
  | refl => exact ⟨ht, t.records, rfl⟩
  | @record u sensorId value createdAt _ ih =>
    obtain ⟨hu, records, rfl⟩ := ih
    exact ⟨hu.request _, exists_records_of_answer sensorId value createdAt _⟩
  | @message u v _ ih =>
    obtain ⟨hu, records, rfl⟩ := ih
    exact ⟨deliver_reachable hu v, exists_records_of_deliver hu.integrity v⟩
  | @reconcile u part hpart _ ih =>
    obtain ⟨hu, records, rfl⟩ := ih
    obtain ⟨r', hrun⟩ := run_reconcileFrom_of_present hu.integrity part
      (fun d hd => hpresent d (hpart hd)) .empty
    have hsame : (run (SensorRelay.reconcile part) { t with records }).2 = { t with records } :=
      congrArg Prod.snd hrun
    rw [hsame]
    exact ⟨hu, records, rfl⟩

/-- When an inventory of plain names has been reconciled over empty tables, a lookup by topic and
one by resolution agree about every remainder, then and later. -/
theorem lookups_agree (hnames : PlainlyNamed ds) (hrun : run (reconcile ds) empty = (.ok r, t))
    (hlater : Later ds t u) (remainder : String) : LookupsAgree ds r u remainder := by
  have hthrough := RunsThrough.of_run integrity_empty hrun
  have ht : t.Reachable := by
    have hreachable := Reachable.empty.run (reconcile ds)
    rwa [hrun] at hreachable
  have hpresent : ∀ d ∈ ds, t.HasSensor d.path := by
    intro d hd
    obtain ⟨x, hx, hpath, -⟩ := (hthrough.maps d.path).1 (List.mem_map_of_mem hd)
    exact ⟨x, hx, hpath⟩
  obtain ⟨-, records, rfl⟩ := hlater.exists_records ht hpresent
  exact hthrough.lookupsAgree (u := { t with records }) hnames rfl remainder

/-- Two sensors of one name, after a record, a message and a second reconciliation. The second
remainder has three segments, but one of them is empty. -/
theorem lookups_agree_with_empty_segment :
    let pump : Descriptor := ⟨"pump", none, "hall", "east", 0⟩
    let other : Descriptor := { pump with moduleName := "west", id := some 9 }
    let ds := [pump, other]
    let r : Resolution := ⟨[(pump.path, 1), (other.path, 2)]⟩
    let t := (run (reconcile ds) empty).2
    let stored := (answer (.insertRecord (some 2) (.whole 7) (some ⟨⟨0, by decide⟩, none⟩)) t).2
    let v : Delivery := ⟨"", .byResolution r, ⟨"hall/east/pump",
      Text.utf8 "\x7b\"value\":1,\"timestamp\":\"2026-01-01T00:00\"\x7d"⟩, []⟩
    let u := (run (reconcile [other, other]) (deliver v stored).2).2
    PlainlyNamed ds ∧ run (reconcile ds) empty = (.ok r, t) ∧ Later ds t u ∧
      u.records.length = 2 ∧ LookupsAgree ds r u "hall/west/pump" ∧
      LookupsAgree ds r u "hall//pump" := by
  intro pump other ds r t stored v u
  have hnames : PlainlyNamed ds := by decide +kernel
  have hrun : run (reconcile ds) empty = (.ok r, t) := by decide +kernel
  have hlater : Later ds t u := .reconcile (by simp [ds]) (.message v (.record _ _ _ .refl))
  exact ⟨hnames, hrun, hlater, by decide +kernel, lookups_agree hnames hrun hlater _,
    lookups_agree hnames hrun hlater _⟩

end SensorRelay.Store
