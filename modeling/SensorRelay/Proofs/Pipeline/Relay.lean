import SensorRelay.Proofs.Number.Whole
import SensorRelay.Proofs.Pipeline.Stages
import SensorRelay.Proofs.Sample.Raw
import SensorRelay.Proofs.Sample.RoundTrip
import SensorRelay.Proofs.Topic

/-!
# From raw payloads to records

A `Relay` is a dispatcher at work. It relays a message by dispatching it and then, in turn, all
that was published on account of it (`Relay.relay`). With one handler for each of the two stages,
built for the same unit and the same stage of samples (`Relay.Serves`), every raw payload that
is accepted makes one publication and one record, with the very number and time of the payload, for
the first sensor with the topic; nothing else changes the tables (`Relays`). Relaying one message
leaves the relay as it has to be for the next (`Serves.relay`), so this holds of each message of a
sequence (`relays_after`).
-/

namespace SensorRelay

/-! ## Relaying -/

/-- A dispatcher and the environment it works in. -/
structure Relay where
  dispatcher : Dispatcher
  environment : Environment

/-- A message on a raw topic. -/
def rawMessage (remainder : String) (payload : Bytes) : Message :=
  ⟨"raw/" ++ remainder, payload⟩

/-- A publication as it is delivered. -/
def Publication.message (p : Publication) : Message :=
  ⟨p.topic, p.payload⟩

namespace Relay

/-- What came of a message : its own result, what was published on account of it and the results
of the messages published. -/
structure Outcome where
  result : Except Failure HandlerResult
  published : List Publication
  deliveries : List (Except Failure HandlerResult)

/-- Dispatches a message. -/
def dispatch (w : Relay) (m : Message) : Except Failure HandlerResult × Relay :=
  let (r, d, e) := w.environment.dispatch w.dispatcher m
  (r, ⟨d, e⟩)

/-- Dispatches messages, one after the other. -/
def dispatchAll (w : Relay) : List Message → List (Except Failure HandlerResult) × Relay
  | [] => ([], w)
  | m :: ms =>
    let (r, w) := w.dispatch m
    let (rs, w) := w.dispatchAll ms
    (r :: rs, w)

/-- Dispatches a message, and then the messages that were published meanwhile. -/
def relay (w : Relay) (m : Message) : Outcome × Relay :=
  let (r, w') := w.dispatch m
  let published := w'.environment.published.drop w.environment.published.length
  let (rs, w'') := w'.dispatchAll (published.map Publication.message)
  (⟨r, published, rs⟩, w'')

/-- The relay after raw payloads, each with the remainder of its topic. -/
def after (w : Relay) (inputs : List (String × Bytes)) : Relay :=
  inputs.foldl (fun w i => (w.relay (rawMessage i.1 i.2)).2) w

/-- One handler for each stage, made for one stage of samples and one unit, over reachable tables
in an environment where nothing fails. -/
structure Serves (stage : String) (unit : TimestampUnit) (w : Relay) (s : Store) : Prop where
  handlers : ∃ timeout, w.dispatcher.handlers.Perm
    [.raw stage timeout unit.name, .store stage .byTopic]
  environment : w.environment.Holds s
  reachable : s.Reachable

end Relay

/-! ## What has to come of a message -/

/-- The message was acknowledged. -/
def Acked (result : Except Failure HandlerResult) : Prop :=
  ∃ r, result = .ok r ∧ r.isAcked = true

/-- The message failed with this error. -/
def FailedWith (e : PipelineError) (result : Except Failure HandlerResult) : Prop :=
  ∃ r, result = .ok r ∧ r.isFailed = true ∧ r.error = some e

/-- What comes of the sample of a reading below `remainder`, from the tables `s` to `t`. -/
inductive Delivered (remainder : String) (reading : RawSample) (s t : Store)
    (result : Except Failure HandlerResult) : Prop
  | recorded {x : SensorRow} {value : Binary64} (first : s.IsFirstWithTopic remainder x)
    (exact_value : value.Is reading.value) (acked : Acked result)
    (one_record : t = s.withRecord x.id value reading.timestamp.wall)
  | unknown {e : PipelineError} (absent : ∀ x ∈ s.sensors, x.topic ≠ remainder)
    (failed : FailedWith e result) (kind : e.kind = .unknownSensor) (unchanged : t = s)
  /-- No database holds that many sensors : the ids have more than 64 bits. -/
  | oversized (full : fitsSigned 64 (s.sensors.length : Int) = false)
    (failed : FailedWith oversizedKey.asPipelineError result) (unchanged : t = s)

/-- What comes of a raw payload : nothing but a failure if it is rejected, and one publication of
the sample if it is accepted. -/
def Relays (stage : String) (unit : TimestampUnit) (remainder : String) (payload : Bytes)
    (w : Relay) (o : Relay.Outcome) (w' : Relay) : Prop :=
  match RawSample.decode unit payload with
  | .error e =>
    FailedWith e o.result ∧ e.kind = .malformedPayload ∧ o.published = [] ∧ o.deliveries = [] ∧
      w'.environment.published = w.environment.published ∧
      w'.environment.database = w.environment.database
  | .ok reading =>
    reading.value = ofSignedBytes (payload.drop 8) ∧
      reading.timestamp.offset = some UtcOffset.utc ∧ Acked o.result ∧
      ∃ p result s t, p.topic = stage ++ "/" ++ remainder ∧ o.published = [p] ∧
        w'.environment.published = w.environment.published ++ [p] ∧ o.deliveries = [result] ∧
        w.environment.database = some s ∧ w'.environment.database = some t ∧
        Delivered remainder reading s t result

/-! ## Readings on their way -/

variable {stage : String} {unit : TimestampUnit} {remainder : String} {payload : Bytes}
  {e : Environment} {s : Store}

theorem natAbs_value_lt {reading : RawSample} (h : RawSample.decode unit payload = .ok reading) :
    reading.value.natAbs < 2 ^ 53 := by
  have := RawSample.value_bounds h
  omega

/-- What is published of a reading is read as the reading, widened. -/
theorem decode_encode_widen {reading : RawSample}
    (h : RawSample.decode unit payload = .ok reading) :
    Sample.decode reading.widen.encode = .ok reading.widen := by
  have hoffset := (RawSample.decode_ok h).2.2
  have hfinite := Binary64.isFinite_ofInt (natAbs_value_lt h)
  have hutc : UtcOffset.utc.asRead = UtcOffset.utc := UtcOffset.asRead_eq (Or.inl rfl)
  have hread := @Sample.decode_encode_asRead reading.widen hfinite
  have htimestamp : reading.widen.timestamp = reading.timestamp := rfl
  rw [hread, htimestamp, hoffset, Option.getD_some, hutc, ← hoffset]
  rfl

/-- A reading is recorded with its own number and the wall clock of its time. -/
theorem run_persist_reading (he : e.Holds s) (hs : s.Reachable) {x : SensorRow}
    (hx : x ∈ s.sensors) (hkey : checkKey x.id = .ok ()) {reading : RawSample}
    (h : RawSample.decode unit payload = .ok reading) (r : HandlerResult) :
    let t := s.withRecord x.id (Binary64.ofInt reading.value) reading.timestamp.wall
    e.run (Handler.persist r x.id reading.widen) =
        (.ok ({ r with recordId := some (s.records.length + 1) }.push .persisted, none),
          { e with database := some t }) ∧ t.Reachable := by
  have hvalue := natAbs_value_lt h
  have hnumber : reading.widen.value.isNaN = false :=
    Binary64.isNaN_of_isFinite (Binary64.isFinite_ofInt hvalue)
  have hpersist := Handler.run_persist he hs.integrity hx hkey hnumber r
  have hreachable := hs.withRecord hx hkey hnumber reading.widen.timestamp
  have hzero : reading.widen.value.plusZero = Binary64.ofInt reading.value :=
    Binary64.plusZero_ofInt hvalue
  rw [hzero] at hpersist hreachable
  exact ⟨hpersist, hreachable⟩

/-- The store stage makes of a reading what has to come of it. -/
theorem exists_delivered (he : e.Holds s) (hs : s.Reachable) {reading : RawSample}
    (h : RawSample.decode unit payload = .ok reading) (remainder : String) (r : HandlerResult) :
    ∃ p e' t, e.run (Handler.record .byTopic r remainder reading.widen.encode) = (.ok p, e') ∧
      e'.Holds t ∧ e'.published = e.published ∧ t.Reachable ∧
      Delivered remainder reading s t (.ok (Handler.conclude p)) := by
  have hrun := Handler.run_record he r remainder (decode_encode_widen h)
  cases hx : s.sensorByTopic? remainder with
  | none =>
    rw [hx] at hrun
    refine ⟨_, e, s, hrun, he, rfl, hs, ?_⟩
    exact .unknown (Store.sensorByTopic?_eq_none_iff.1 hx) ⟨_, rfl, Handler.isFailed_conclude _ _⟩
      rfl rfl
  | some x =>
    rw [hx] at hrun
    have hfirst := hs.integrity.isFirst_of_sensorByTopic? hx
    rcases Store.checkKey_cases (hs.integrity.sensorIds.id_le hfirst.1)
        (em (fitsSigned 64 (s.sensors.length : Int) = true)).symm with hkey | ⟨hkey, hfull⟩
    · obtain ⟨hpersist, hreachable⟩ :=
        run_persist_reading he hs hfirst.1 hkey h ((r.push .decoded).push .transformed)
      refine ⟨_, _, _, hrun.trans hpersist, he.withTables _, rfl, hreachable, ?_⟩
      exact .recorded hfirst (Binary64.is_ofInt (natAbs_value_lt h))
        ⟨_, rfl, Handler.isAcked_conclude _⟩ rfl
    · have hpersist := Handler.run_persist_oversized he hkey reading.widen
        ((r.push .decoded).push .transformed)
      refine ⟨_, e, s, hrun.trans hpersist, he, rfl, hs, ?_⟩
      exact .oversized (by simpa using hfull) ⟨_, rfl, Handler.isFailed_conclude _ _⟩ rfl

/-! ## Stages of samples -/

/-- The stages that samples are published under. -/
def IsSampleStage (stage : String) : Prop :=
  stage = processedStage ∨ stage = "clean"

theorem rawStage_spec : rawStage.isEmpty = false ∧ '/' ∉ rawStage.toList := by
  decide

theorem IsSampleStage.spec (h : IsSampleStage stage) :
    stage.isEmpty = false ∧ '/' ∉ stage.toList ∧ stage ≠ rawStage := by
  rcases h with rfl | rfl
  · exact ⟨by decide, by decide, by decide⟩
  · exact ⟨by decide, by decide, by decide⟩

theorem rawMessage_eq (remainder : String) (payload : Bytes) :
    rawMessage remainder payload = ⟨stageTopic rawStage remainder, payload⟩ := by
  rw [stageTopic]
  rfl

theorem stageTopic_eq (h : IsSampleStage stage) (remainder : String) :
    stageTopic stage remainder = stage ++ "/" ++ remainder := by
  rw [stageTopic, h.spec.1]
  rfl

/-! ## Relaying one message -/

namespace Relay

variable {w : Relay}

/-- The two handlers have different stages, with names that have no slash. -/
theorem stage_of_perm (hstage : IsSampleStage stage) {timeout : Binary64}
    {handlers : List Handler}
    (hperm : handlers.Perm [.raw stage timeout unit.name, .store stage .byTopic]) :
    (∀ h ∈ handlers, h.stage.isEmpty = false ∧ '/' ∉ h.stage.toList) ∧
      ∀ h ∈ handlers, ∀ other ∈ handlers, other ≠ h → other.stage ≠ h.stage := by
  obtain ⟨hnonempty, hslash, hne⟩ := hstage.spec
  have hcases : ∀ h ∈ handlers, h = .raw stage timeout unit.name ∨ h = .store stage .byTopic := by
    intro h hmem
    have hmem' := hperm.mem_iff.1 hmem
    rwa [List.mem_cons, List.mem_singleton] at hmem'
  constructor
  · intro h hmem
    rcases hcases h hmem with rfl | rfl
    · exact rawStage_spec
    · exact ⟨hnonempty, hslash⟩
  · intro h hmem other hother hnot
    rcases hcases h hmem with rfl | rfl
    · obtain rfl := (hcases other hother).resolve_left hnot
      exact hne
    · obtain rfl := (hcases other hother).resolve_right hnot
      exact hne.symm

/-- A message below the stage of a handler comes to what the work of this handler comes to. -/
theorem dispatch_stageTopic (hstage : IsSampleStage stage) {timeout : Binary64}
    (hperm : w.dispatcher.handlers.Perm [.raw stage timeout unit.name, .store stage .byTopic])
    {h : Handler} (hmem : h ∈ w.dispatcher.handlers) (remainder : String) (payload : Bytes)
    {p : Handler.Progress} {e' : Environment} (he' : e'.Holds s)
    (hwork : w.environment.run (h.work ((HandlerResult.received (stageTopic h.stage remainder)
      h.name).push .matched) remainder payload) = (.ok p, e')) :
    ∃ w', w.dispatch ⟨stageTopic h.stage remainder, payload⟩ = (.ok (Handler.conclude p), w') ∧
      w'.environment.Holds s ∧ w'.dispatcher.handlers = w.dispatcher.handlers ∧
      w'.environment.published = e'.published ∧ w'.environment.database = e'.database := by
  obtain ⟨hnames, hdiffer⟩ := stage_of_perm hstage hperm
  have honly : ∀ other ∈ w.dispatcher.handlers, other ≠ h →
      remainder? other.stage (stageTopic h.stage remainder) = none := by
    intro other hother hnot
    exact remainder?_stageTopic_of_ne (hnames other hother).1 (hnames h hmem).1
      (hnames other hother).2 (hnames h hmem).2 (hdiffer h hmem other hother hnot) remainder
  have htopic := remainder?_stageTopic (hnames h hmem).1 remainder
  obtain ⟨d', posted, hdispatch, hhandlers⟩ :=
    @Environment.dispatch_of_only _ _ _ hmem ⟨stageTopic h.stage remainder, payload⟩ honly _ htopic
      _ _ _ he' hwork
  refine ⟨⟨d', _⟩, ?_, he'.withPostings (e'.postings ++ posted), hhandlers, rfl, rfl⟩
  rw [dispatch, hdispatch]

/-- The raw stage does its work on a raw message. -/
theorem dispatch_rawMessage (hstage : IsSampleStage stage) {timeout : Binary64}
    (hperm : w.dispatcher.handlers.Perm [.raw stage timeout unit.name, .store stage .byTopic])
    (remainder : String) (payload : Bytes) {p : Handler.Progress} {e' : Environment}
    (he' : e'.Holds s)
    (hwork : w.environment.run (Handler.republish stage timeout unit.name
      ((HandlerResult.received (stageTopic rawStage remainder) "raw").push .matched)
      remainder payload) = (.ok p, e')) :
    ∃ w', w.dispatch (rawMessage remainder payload) = (.ok (Handler.conclude p), w') ∧
      w'.environment.Holds s ∧ w'.dispatcher.handlers = w.dispatcher.handlers ∧
      w'.environment.published = e'.published ∧ w'.environment.database = e'.database := by
  rw [rawMessage_eq]
  exact dispatch_stageTopic hstage hperm (hperm.mem_iff.2 List.mem_cons_self) remainder payload he'
    hwork

/-- The store stage does its work on a message of the stage of samples. -/
theorem dispatch_sampleMessage (hstage : IsSampleStage stage) {timeout : Binary64}
    (hperm : w.dispatcher.handlers.Perm [.raw stage timeout unit.name, .store stage .byTopic])
    (remainder : String) (payload : Bytes) {p : Handler.Progress} {e' : Environment}
    (he' : e'.Holds s)
    (hwork : w.environment.run (Handler.record .byTopic
      ((HandlerResult.received (stageTopic stage remainder) "store").push .matched)
      remainder payload) = (.ok p, e')) :
    ∃ w', w.dispatch ⟨stageTopic stage remainder, payload⟩ = (.ok (Handler.conclude p), w') ∧
      w'.environment.Holds s ∧ w'.dispatcher.handlers = w.dispatcher.handlers ∧
      w'.environment.published = e'.published ∧ w'.environment.database = e'.database := by
  have hname : (Handler.store stage .byTopic).name = "store" := by
    rw [Handler.name, hstage.spec.1]
    rfl
  have hmem := hperm.mem_iff.2 (List.mem_cons_of_mem _ List.mem_cons_self)
  rw [← hname] at hwork
  exact dispatch_stageTopic hstage hperm hmem remainder payload he' hwork

theorem relay_of_silent {m : Message} {r : Except Failure HandlerResult} {w' : Relay}
    (h : w.dispatch m = (r, w'))
    (hpublished : w'.environment.published = w.environment.published) :
    w.relay m = (⟨r, [], []⟩, w') := by
  rw [relay, h]
  dsimp only
  rw [hpublished, List.drop_length, List.map_nil, dispatchAll]

theorem relay_of_one {m : Message} {p : Publication} {r r' : Except Failure HandlerResult}
    {w' w'' : Relay} (h : w.dispatch m = (r, w'))
    (hpublished : w'.environment.published = w.environment.published ++ [p])
    (h' : w'.dispatch p.message = (r', w'')) : w.relay m = (⟨r, [p], [r']⟩, w'') := by
  rw [relay, h]
  dsimp only
  rw [hpublished, List.drop_left, List.map_singleton, dispatchAll, h']
  rfl

/-- A payload that is rejected leaves no trace but a failure. -/
theorem Serves.relay_rejected (hw : w.Serves stage unit s) (hstage : IsSampleStage stage)
    (remainder : String) {error : PipelineError}
    (h : RawSample.decode unit payload = .error error) :
    ∃ o w', w.relay (rawMessage remainder payload) = (o, w') ∧ w'.Serves stage unit s ∧
      Relays stage unit remainder payload w o w' := by
  obtain ⟨⟨timeout, hperm⟩, he, hs⟩ := hw
  have hwork := Handler.run_republish he stage timeout unit.name
    ((HandlerResult.received (stageTopic rawStage remainder) "raw").push .matched)
    remainder payload
  rw [RawSample.decodeNamed_name, h] at hwork
  obtain ⟨w', hdispatch, hholds, hhandlers, hpublished, hdatabase⟩ :=
    dispatch_rawMessage hstage hperm remainder payload he hwork
  refine ⟨_, w', relay_of_silent hdispatch hpublished,
    ⟨⟨timeout, hhandlers ▸ hperm⟩, hholds, hs⟩, ?_⟩
  rw [Relays, h]
  exact ⟨⟨_, rfl, Handler.isFailed_conclude _ _⟩, RawSample.kind_of_decode_error h, rfl, rfl,
    hpublished, hdatabase⟩

/-- The result of a raw message whose sample has been published. -/
def republished (stage remainder : String) : HandlerResult :=
  ⟨stageTopic rawStage remainder, "raw",
    [.received, .matched, .decoded, .transformed, .republished, .acked], none,
    some (stageTopic stage remainder), none⟩

/-- A payload that is accepted is published once. -/
theorem dispatch_accepted (hstage : IsSampleStage stage) {timeout : Binary64}
    (hperm : w.dispatcher.handlers.Perm [.raw stage timeout unit.name, .store stage .byTopic])
    (he : w.environment.Holds s) (remainder : String) {reading : RawSample}
    (h : RawSample.decode unit payload = .ok reading) :
    ∃ w', w.dispatch (rawMessage remainder payload) = (.ok (republished stage remainder), w') ∧
      w'.environment.Holds s ∧ w'.dispatcher.handlers = w.dispatcher.handlers ∧
      w'.environment.published = w.environment.published ++
        [⟨stageTopic stage remainder, reading.widen.encode, timeout⟩] := by
  have hwork := Handler.run_republish he stage timeout unit.name
    ((HandlerResult.received (stageTopic rawStage remainder) "raw").push .matched)
    remainder payload
  rw [RawSample.decodeNamed_name, h] at hwork
  obtain ⟨w', hdispatch, hholds, hhandlers, hpublished, -⟩ :=
    dispatch_rawMessage hstage hperm remainder payload (he.keep _) hwork
  exact ⟨w', hdispatch, hholds, hhandlers, hpublished⟩

/-- A payload that is accepted is published once, and the delivery does what has to come of the
sample. -/
theorem Serves.relay_accepted (hw : w.Serves stage unit s) (hstage : IsSampleStage stage)
    (remainder : String) {reading : RawSample}
    (h : RawSample.decode unit payload = .ok reading) :
    ∃ o w' t, w.relay (rawMessage remainder payload) = (o, w') ∧ w'.Serves stage unit t ∧
      Relays stage unit remainder payload w o w' := by
  obtain ⟨⟨timeout, hperm⟩, he, hs⟩ := hw
  obtain ⟨w', hdispatch, hholds, hhandlers, hpublished⟩ :=
    dispatch_accepted hstage hperm he remainder h
  obtain ⟨p, e', t, hrun, he', hsame, ht, hdelivered⟩ := exists_delivered hholds hs h remainder
    ((HandlerResult.received (stageTopic stage remainder) "store").push .matched)
  obtain ⟨w'', hdelivery, hholds', hhandlers', hpublished', hdatabase'⟩ :=
    dispatch_sampleMessage hstage (hhandlers ▸ hperm) remainder _ he' hrun
  refine ⟨_, w'', t, relay_of_one hdispatch hpublished hdelivery,
    ⟨⟨timeout, (hhandlers'.trans hhandlers) ▸ hperm⟩, hholds', ht⟩, ?_⟩
  obtain ⟨-, hvalue, hoffset⟩ := RawSample.decode_ok h
  rw [Relays, h]
  refine ⟨hvalue, hoffset, ⟨_, rfl, rfl⟩, _, _, s, t,
    stageTopic_eq hstage remainder, rfl, ?_, rfl, he.database, hholds'.database, hdelivered⟩
  exact hpublished'.trans (hsame.trans hpublished)

/-- Relaying a raw message does what has to come of it, and leaves the relay ready for the next. -/
theorem Serves.relay (hw : w.Serves stage unit s) (hstage : IsSampleStage stage)
    (remainder : String) (payload : Bytes) :
    (∃ t, (w.relay (rawMessage remainder payload)).2.Serves stage unit t) ∧
      Relays stage unit remainder payload w (w.relay (rawMessage remainder payload)).1
        (w.relay (rawMessage remainder payload)).2 := by
  cases hdecode : RawSample.decode unit payload with
  | error f =>
    obtain ⟨o, w', hrelay, hserves, hrelays⟩ := hw.relay_rejected hstage remainder hdecode
    rw [hrelay]
    exact ⟨⟨s, hserves⟩, hrelays⟩
  | ok reading =>
    obtain ⟨o, w', t, hrelay, hserves, hrelays⟩ := hw.relay_accepted hstage remainder hdecode
    rw [hrelay]
    exact ⟨⟨t, hserves⟩, hrelays⟩

/-! ## Relaying many messages -/

/-- After any raw messages the relay is ready for the next. -/
theorem Serves.after (hw : w.Serves stage unit s) (hstage : IsSampleStage stage)
    (inputs : List (String × Bytes)) : ∃ t, (w.after inputs).Serves stage unit t := by
  induction inputs generalizing w s with
  | nil => exact ⟨s, hw⟩
  | cons i inputs ih =>
    obtain ⟨⟨t, ht⟩, -⟩ := hw.relay hstage i.1 i.2
    exact ih ht

/-- Of each message in a sequence comes what has to. -/
theorem relays_after (hw : w.Serves stage unit s) (hstage : IsSampleStage stage)
    (earlier : List (String × Bytes)) (remainder : String) (payload : Bytes) :
    Relays stage unit remainder payload (w.after earlier)
      ((w.after earlier).relay (rawMessage remainder payload)).1
      (w.after (earlier ++ [(remainder, payload)])) := by
  obtain ⟨t, ht⟩ := hw.after hstage earlier
  have hlast : w.after (earlier ++ [(remainder, payload)]) =
      ((w.after earlier).relay (rawMessage remainder payload)).2 := by
    rw [Relay.after, List.foldl_append]
    rfl
  rw [hlast]
  exact (ht.relay hstage remainder payload).2

/-- Of two payloads the first is a byte short, and the second is recorded with its negative number
and its time, a microsecond after 1970 began. -/
theorem relays_short_and_whole :
    let tables := (Store.answer (.insertSensor (some "pump") (some 1) (some "hall/east/pump"))
      (Store.answer (.insertModule (some "east") (some 1))
        (Store.answer (.insertSection (some "hall")) .empty).2).2).2
    let w : Relay := ⟨.new [.raw "clean" (Binary64.ofInt 10) "ns", .store "clean" .byTopic] none,
      { Environment.new with database := some tables }⟩
    let payload : Bytes := [0, 0, 0, 0, 0, 0, 3, 232, 255, 255, 255, 214]
    let earlier := [("hall/east/pump", payload.take 11)]
    let w' := w.after (earlier ++ [("hall/east/pump", payload)])
    Relays "clean" .nanoseconds "hall/east/pump" payload (w.after earlier)
        ((w.after earlier).relay (rawMessage "hall/east/pump" payload)).1 w' ∧
      w'.environment.database =
        some (tables.withRecord 1 (Binary64.ofInt (-42)) ⟨62135596800000001, by decide⟩) := by
  intro tables w payload earlier w'
  have hserves : w.Serves "clean" .nanoseconds tables :=
    ⟨⟨Binary64.ofInt 10, .refl _⟩, ⟨rfl, rfl, rfl, nofun⟩,
      .request _ (.request _ (.request _ .empty))⟩
  refine ⟨relays_after hserves (Or.inr rfl) earlier _ payload, ?_⟩
  decide +kernel

end Relay

end SensorRelay
