import SensorRelay.Proofs.Pipeline.Stages
import SensorRelay.Proofs.Store.History

/-!
# Deliveries to the store stage

A delivery is a message with the stage and the lookup that it meets, and with the faults that the
requests about it meet. All that can come of it is one record, with the value and the wall clock
of its payload, for the sensor that the lookup has for its remainder (`exists_comesOf`).

An `Intake` is what a sequence of deliveries comes to : the tables, and a log of the accepted
samples. The log has the whole timestamp of each sample beside the record that was made of it, of
which the tables keep the wall clock alone (`faithful_intake`).
-/

namespace SensorRelay

/-- The id that a lookup has for a remainder. -/
def Lookup.find? (lookup : Lookup) (s : Store) (remainder : String) : Option Int :=
  match lookup with
  | .byTopic => (s.sensorByTopic? remainder).map fun x => (x.id : Int)
  | .byResolution r =>
    match SensorPath.ofRemainder? remainder with
    | .ok path => r.idFor? path
    | .error _ => none

namespace Store

variable {s t : Store}

/-! ## Work under a plan -/

/-- The tables reply to the requests of the store stage, except where the plan has faults. -/
abbrev runStage {α : Type} (p : Pipeline α) (plan : FaultPlan) (s : Store) :
    Except Failure α × FaultPlan × Store :=
  p.run (fun q w => answerEffect q w) (plan, s)

theorem runStage_ask {α : Type} {c : StoreCall} {plan plan' : FaultPlan}
    {r : Except Failure c.Reply} (h : answerUnder c (plan, s) = (r, plan', t))
    (next : Except Failure c.Reply → Pipeline α) :
    runStage (.ask (Effect.store c) next) plan s = runStage (next r) plan' t := by
  have hstep : runStage (.ask (Effect.store c) next) plan s =
      runStage (next (answerUnder c (plan, s)).1) (answerUnder c (plan, s)).2.1
        (answerUnder c (plan, s)).2.2 := rfl
  rw [hstep, h]

/-- The sample is recorded for the sensor of the id, or nothing comes of it. -/
theorem runStage_persist (hs : s.Integrity) (r : HandlerResult) (id : Int) (sample : Sample)
    (plan : FaultPlan) :
    (∃ f plan', runStage (Handler.persist r id sample) plan s = (.ok (r, some f), plan', s)) ∨
      ∃ x ∈ s.sensors, id = x.id ∧ ∃ plan', runStage (Handler.persist r id sample) plan s =
        (.ok ({ r with recordId := some (s.records.length + 1) }.push .persisted, none), plan',
          s.withRecord x.id sample.value.plusZero sample.timestamp.wall) := by
  rcases answerUnder_cases
    (.insertRecord (some id) (.double sample.value) (some sample.timestamp)) plan s
    with ⟨fault, hreply⟩ | hreply
  · refine Or.inl ?_
    cases fault with
    | failure f => exact ⟨f, plan.tail, runStage_ask hreply _⟩
    | absent => exact ⟨.missingRow, plan.tail, runStage_ask hreply _⟩
  · rcases hs.answer_insertRecord_cases id sample.value sample.timestamp
      with ⟨f, hf⟩ | ⟨x, hx, hid, hrow⟩
    · rw [hf] at hreply
      exact Or.inl ⟨f, plan.tail, runStage_ask hreply _⟩
    · rw [hrow] at hreply
      exact Or.inr ⟨x, hx, hid, plan.tail, runStage_ask hreply _⟩

/-- A lookup changes nothing, and an id that it gives is the one it has. -/
theorem runStage_resolve (lookup : Lookup) (remainder : String) (plan : FaultPlan) :
    ∃ r plan', runStage (Pipeline.ofStore (lookup.resolve remainder)).attempt plan s =
        (.ok r, plan', s) ∧ ∀ id, r = .ok id → lookup.find? s remainder = some id := by
  cases lookup with
  | byTopic =>
    rcases answerUnder_cases (.sensorByTopic remainder) plan s with ⟨fault, hreply⟩ | hreply
    · cases fault with
      | failure f => exact ⟨.error f, plan.tail, runStage_ask hreply _, fun id h => by cases h⟩
      | absent => exact ⟨_, plan.tail, runStage_ask hreply _, fun id h => by cases h⟩
    · cases hx : s.sensorByTopic? remainder with
      | none =>
        rw [Store.answer, hx] at hreply
        exact ⟨_, plan.tail, runStage_ask hreply _, fun id h => by cases h⟩
      | some x =>
        rw [Store.answer, hx] at hreply
        refine ⟨_, plan.tail, runStage_ask hreply _, fun id h => ?_⟩
        rw [Lookup.find?, hx]
        exact congrArg some (Except.ok.inj h)
  | byResolution known =>
    rw [Lookup.resolve, Lookup.find?]
    cases SensorPath.ofRemainder? remainder with
    | error e => exact ⟨_, plan, rfl, fun id h => by cases h⟩
    | ok path =>
      dsimp only
      cases known.idFor? path with
      | none => exact ⟨_, plan, rfl, fun id h => by cases h⟩
      | some id => exact ⟨.ok id, plan, rfl, fun _ h => congrArg some (Except.ok.inj h)⟩

/-- Undisturbed, a lookup by topic comes to the id that it has. -/
theorem run_resolve_byTopic {remainder : String} {id : Int}
    (h : Lookup.byTopic.find? s remainder = some id) :
    run (Lookup.byTopic.resolve remainder) s = (.ok id, s) := by
  obtain ⟨x, hx, rfl⟩ := Option.map_eq_some_iff.1 h
  have hanswer : answer (.sensorByTopic remainder) s = (.ok (some x), s) := by
    rw [answer, hx]
  exact run_ask hanswer _

/-- The store stage records the sample of a payload for the sensor that the lookup has, or
nothing comes of it. -/
theorem runStage_record (hs : s.Integrity) (lookup : Lookup) (r : HandlerResult)
    (remainder : String) (payload : Bytes) (plan : FaultPlan) :
    (∃ r' f plan', runStage (Handler.record lookup r remainder payload) plan s =
        (.ok (r', some f), plan', s)) ∨
      ∃ sample, Sample.decode payload = .ok sample ∧ ∃ x ∈ s.sensors,
        lookup.find? s remainder = some (x.id : Int) ∧ ∃ r' plan',
          runStage (Handler.record lookup r remainder payload) plan s = (.ok (r', none), plan',
            s.withRecord x.id sample.value.plusZero sample.timestamp.wall) ∧
          r'.recordId = some (s.records.length + 1) := by
  rw [Handler.record]
  cases hdecode : Sample.decode payload with
  | error e => exact Or.inl ⟨_, _, plan, rfl⟩
  | ok sample =>
    obtain ⟨found, plan', hlookup, hfound⟩ := runStage_resolve lookup remainder plan (s := s)
    dsimp only
    rw [runStage, Program.run_bind_of_ok hlookup]
    cases found with
    | error f => exact Or.inl ⟨_, _, _, rfl⟩
    | ok id =>
      rcases runStage_persist hs ((r.push .decoded).push .transformed) id sample plan'
        with ⟨f, plan'', hpersist⟩ | ⟨x, hx, rfl, plan'', hpersist⟩
      · exact Or.inl ⟨_, f, plan'', hpersist⟩
      · exact Or.inr ⟨sample, rfl, x, hx, hfound _ rfl, _, plan'', hpersist, rfl⟩

/-! ## Deliveries -/

/-- A message on its way to the store stage. -/
structure Delivery where
  stage : String
  lookup : Lookup
  message : Message
  plan : FaultPlan

/-- The result of a delivery, and the tables afterwards. -/
def deliver (v : Delivery) (s : Store) : Except Failure HandlerResult × Store :=
  let (r, _, t) := runStage ((Handler.store v.stage v.lookup).handle v.message) v.plan s
  (r, t)

/-- What can come of a delivery : nothing, or one record. -/
inductive ComesOf (v : Delivery) (s : Store) : HandlerResult → Store → Prop
  | refused {r : HandlerResult} (hr : r.isAcked = false) : ComesOf v s r s
  | recorded {r : HandlerResult} {remainder : String} {sample : Sample} {x : SensorRow}
      (hstage : remainder? v.stage v.message.topic = some remainder)
      (hsample : Sample.decode v.message.payload = .ok sample) (hx : x ∈ s.sensors)
      (hlookup : v.lookup.find? s remainder = some (x.id : Int)) (hr : r.isAcked = true)
      (hrow : r.recordId = some (s.records.length + 1)) :
      ComesOf v s r (s.withRecord x.id sample.value.plusZero sample.timestamp.wall)

/-- Work that ends is concluded by the result of the delivery. -/
theorem deliver_of_work {v : Delivery} {remainder : String}
    (hstage : remainder? v.stage v.message.topic = some remainder) {p : Handler.Progress}
    {plan : FaultPlan}
    (hwork : runStage (Handler.record v.lookup ((HandlerResult.received v.message.topic
      (Handler.store v.stage v.lookup).name).push .matched) remainder v.message.payload) v.plan s =
        (.ok p, plan, t)) : deliver v s = (.ok (Handler.conclude p), t) := by
  have hrun : runStage ((Handler.store v.stage v.lookup).handle v.message) v.plan s =
      (.ok (Handler.conclude p), plan, t) := by
    rw [Handler.handle, Handler.stage, hstage]
    exact Program.run_bind_of_ok hwork _
  rw [deliver, hrun]

/-- A delivery has a result, and one of the two things comes of it. -/
theorem exists_comesOf (hs : s.Integrity) (v : Delivery) :
    ∃ r t, deliver v s = (.ok r, t) ∧ ComesOf v s r t := by
  cases hstage : remainder? v.stage v.message.topic with
  | none =>
    have hrun := Handler.handle_of_none (h := .store v.stage v.lookup) hstage
    refine ⟨_, s, by rw [deliver, hrun]; rfl, .refused ?_⟩
    simp [HandlerResult.isAcked]
  | some remainder =>
    rcases runStage_record hs v.lookup _ remainder v.message.payload v.plan
      with ⟨r, f, plan, hwork⟩ | ⟨sample, hsample, x, hx, hlookup, r, plan, hwork, hrow⟩
    · refine ⟨_, s, deliver_of_work hstage hwork, .refused ?_⟩
      simp [Handler.conclude, HandlerResult.isAcked]
    · exact ⟨_, _, deliver_of_work hstage hwork,
        .recorded hstage hsample hx hlookup (Handler.isAcked_conclude r) hrow⟩

theorem deliver_reachable (hs : s.Reachable) (v : Delivery) : (deliver v s).2.Reachable :=
  perform_reachable v.plan hs (.message v.stage v.lookup v.message)

/-! ## Sequences of deliveries -/

/-- The record and the timestamp of a sample that is accepted. -/
def accepted? (v : Delivery) (s : Store) : Option (RecordRow × Timestamp) :=
  match deliver v s, Sample.decode v.message.payload with
  | (.ok r, t), .ok sample =>
    if r.isAcked then
      (t.records.find? fun row => r.recordId = some row.id).map fun row => (row, sample.timestamp)
    else none
  | _, _ => none

theorem accepted?_eq_none {v : Delivery} {r : HandlerResult} (h : deliver v s = (.ok r, t))
    (hr : r.isAcked = false) : accepted? v s = none := by
  rw [accepted?, h]
  cases Sample.decode v.message.payload with
  | error e => rfl
  | ok sample => exact if_neg (by simp [hr])

theorem accepted?_eq_some {v : Delivery} {r : HandlerResult} {sample : Sample} {row : RecordRow}
    (h : deliver v s = (.ok r, t)) (hr : r.isAcked = true)
    (hsample : Sample.decode v.message.payload = .ok sample) (ht : t.Integrity)
    (hrow : row ∈ t.records) (hid : r.recordId = some row.id) :
    accepted? v s = some (row, sample.timestamp) := by
  have hfind : (t.records.find? fun row => r.recordId = some row.id) = some row := by
    refine (find?_eq_some_iff_of_unique fun a ha b hb hab hbb => ?_).2 ⟨hrow, by simp [hid]⟩
    refine ht.recordIds.eq_of_id_eq ha hb (Option.some.inj ?_)
    exact (of_decide_eq_true hab).symm.trans (of_decide_eq_true hbb)
  rw [accepted?, h, hsample]
  refine (if_pos hr).trans ?_
  rw [hfind]
  rfl

/-- The tables, and the records and timestamps of the samples that have been accepted. -/
structure Intake where
  store : Store
  log : List (RecordRow × Timestamp)

/-- One more delivery. -/
def Intake.take (w : Intake) (v : Delivery) : Intake :=
  ⟨(deliver v w.store).2, w.log ++ (accepted? v w.store).toList⟩

/-- Deliveries one after the other. -/
def intake (vs : List Delivery) (s : Store) : Intake :=
  vs.foldl Intake.take ⟨s, []⟩

/-- The tables are those of `s` with the records of the log, and these have the wall clocks of
their samples. -/
structure Intake.Faithful (s : Store) (w : Intake) : Prop where
  reachable : w.store.Reachable
  store : w.store = { s with records := s.records ++ w.log.map Prod.fst }
  walls : ∀ e ∈ w.log, e.1.wall = e.2.wall

theorem Intake.Faithful.take {w : Intake} (h : w.Faithful s) (v : Delivery) :
    (w.take v).Faithful s := by
  have hreachable := deliver_reachable h.reachable v
  obtain ⟨r, t, hdeliver, hcomes⟩ := exists_comesOf h.reachable.integrity v
  rw [hdeliver] at hreachable
  cases hcomes with
  | refused hr =>
    rw [Intake.take, hdeliver, accepted?_eq_none hdeliver hr, Option.toList_none, List.append_nil]
    exact h
  | @recorded _ sample x _ hsample _ _ hr hid =>
    have haccepted := accepted?_eq_some hdeliver hr hsample hreachable.integrity
      (List.mem_append_right _ (List.mem_singleton_self _)) hid
    rw [Intake.take, hdeliver, haccepted]
    refine ⟨hreachable, ?_, forall_mem_concat h.walls rfl⟩
    rw [withRecord, h.store]
    simp

theorem faithful_intake (hs : s.Reachable) (vs : List Delivery) : (intake vs s).Faithful s := by
  have hstart : Intake.Faithful s ⟨s, []⟩ := ⟨hs, by simp, by simp⟩
  rw [intake]
  generalize (⟨s, []⟩ : Intake) = w at hstart
  induction vs generalizing w with
  | nil => exact hstart
  | cons v vs ih => exact ih _ (hstart.take v)

end Store
end SensorRelay
