import SensorRelay.Bench.Environment
import SensorRelay.Proofs.Program.Run
import SensorRelay.Proofs.Store.Recording

/-!
# Stages in a working environment

In an environment where nothing fails (`Environment.Holds`) the work of each stage is told by what
its payload is read as : the raw stage publishes one message or none (`run_republish`), the store
stage makes one record or none (`run_record`). A message that only one handler of a dispatcher
takes comes to the result of this handler (`Environment.dispatch_of_only`); all that a dispatcher
adds is a dead letter.
-/

namespace SensorRelay

/-! ## Results -/

@[simp] theorem HandlerResult.status_push (r : HandlerResult) (status : MessageStatus) :
    (r.push status).status = status := by
  simp [HandlerResult.status, HandlerResult.push]

theorem HandlerResult.isIgnored_push_ignored (r : HandlerResult) :
    (r.push .ignored).isIgnored = true := by
  simp [HandlerResult.isIgnored]

namespace Handler

theorem isAcked_conclude (r : HandlerResult) : (conclude (r, none)).isAcked = true := by
  simp [conclude, HandlerResult.isAcked]

theorem isFailed_conclude (r : HandlerResult) (f : Failure) :
    (conclude (r, some f)).isFailed = true ∧
      (conclude (r, some f)).error = some f.asPipelineError := by
  refine ⟨?_, rfl⟩
  simp [conclude, HandlerResult.isFailed]

theorem isIgnored_conclude (p : Progress) : (conclude p).isIgnored = false := by
  obtain ⟨r, f⟩ := p
  cases f with
  | none => simp [conclude, HandlerResult.isIgnored]
  | some f => simp [conclude, HandlerResult.isIgnored]

end Handler

namespace Environment

/-! ## Replies -/

/-- Nothing fails in the environment, and these are its tables. -/
structure Holds (e : Environment) (s : Store) : Prop where
  database : e.database = some s
  faults : e.faults = []
  publisher : e.publisher = .works
  sink : ∀ f, e.sink ≠ .breaks f

variable {e : Environment} {s : Store}

theorem answer_store (he : e.Holds s) (c : StoreCall) :
    answer (.store c) e =
      ((Store.answer c s).1, { e with database := some (Store.answer c s).2 }) := by
  have hfault : e.dueFault? c.method = none := by
    rw [dueFault?, he.faults]
    rfl
  rw [answer, answerStore, hfault, he.database]
  rfl

theorem answer_publish (he : e.Holds s) (topic : String) (payload : Bytes) (timeout : Binary64) :
    answer (.publish topic payload timeout) e = (.ok (), e.keep ⟨topic, payload, timeout⟩) := by
  rw [answer, answerPublish, he.publisher]
  rfl

/-- A sink that does not break down has an answer, and may keep the letter. -/
theorem answer_post (he : e.Holds s) (p : Posting) : ∃ taken posted,
    answer (.post p) e = (.ok taken, { e with postings := e.postings ++ posted }) := by
  rw [answer]
  cases hmode : e.sink with
  | works =>
    refine ⟨true, [p], ?_⟩
    rw [answerPost, hmode]
    rfl
  | refuses =>
    have hrefused : answerPost p e = (.ok false, e) := by
      rw [answerPost, hmode]
    refine ⟨false, [], hrefused.trans ?_⟩
    rw [List.append_nil, ← hmode]
    rfl
  | breaks f => exact absurd hmode (he.sink f)

theorem Holds.keep (he : e.Holds s) (p : Publication) : (e.keep p).Holds s :=
  ⟨he.database, he.faults, he.publisher, he.sink⟩

theorem Holds.withTables (he : e.Holds s) (t : Store) :
    Holds { e with database := some t } t :=
  ⟨rfl, he.faults, he.publisher, he.sink⟩

theorem Holds.withPostings (he : e.Holds s) (ps : List Posting) :
    Holds { e with postings := ps } s :=
  ⟨he.database, he.faults, he.publisher, he.sink⟩

theorem withTables_self (he : e.Holds s) : { e with database := some s } = e := by
  rw [← he.database]

/-! ## Runs -/

theorem run_done {α : Type} (a : α) (e : Environment) : e.run (.done a) = (.ok a, e) :=
  rfl

/-- A request is made, and the computation goes on with the reply. -/
theorem run_ask {α : Type} {q : Effect} {r : Except Failure q.Reply} {e' : Environment}
    (h : answer q e = (r, e')) (next : Except Failure q.Reply → Pipeline α) :
    e.run (.ask q next) = e'.run (next r) := by
  have hstep : e.run (.ask q next) = (answer q e).2.run (next (answer q e).1) := rfl
  rw [hstep, h]

/-- After a computation that ends with a result, the next one goes on where it ended. -/
theorem run_bind {α β : Type} {p : Pipeline α} {a : α} {e' : Environment}
    (h : e.run p = (.ok a, e')) (k : α → Pipeline β) : e.run (p >>= k) = e'.run (k a) :=
  Program.run_bind_of_ok h k

end Environment

open Environment

variable {e : Environment} {s : Store}

/-! ## The raw stage -/

namespace Handler

/-- The raw stage fails without a trace, or publishes the sample under the next stage. -/
theorem run_republish (he : e.Holds s) (processed : String) (timeout : Binary64) (unit : String)
    (r : HandlerResult) (remainder : String) (payload : Bytes) :
    e.run (republish processed timeout unit r remainder payload) =
      match RawSample.decodeNamed unit payload with
      | .error f => (.ok (r, some f), e)
      | .ok reading =>
        (.ok ({ (r.push .decoded).push .transformed with
            nextTopic := some (stageTopic processed remainder) }.push .republished, none),
          e.keep ⟨stageTopic processed remainder, reading.widen.encode, timeout⟩) := by
  rw [republish]
  cases RawSample.decodeNamed unit payload with
  | error f => rfl
  | ok reading =>
    exact run_ask (answer_publish he _ _ _) _

/-! ## The store stage -/

/-- A sample is recorded for a sensor, if the id of the sensor is a key. -/
theorem run_persist (he : e.Holds s) (hs : s.Integrity) {x : SensorRow} (hx : x ∈ s.sensors)
    (hkey : checkKey x.id = .ok ()) {sample : Sample} (hvalue : sample.value.isNaN = false)
    (r : HandlerResult) :
    e.run (persist r x.id sample) =
      (.ok ({ r with recordId := some (s.records.length + 1) }.push .persisted, none),
        { e with
          database := some (s.withRecord x.id sample.value.plusZero sample.timestamp.wall) }) := by
  have hreply := answer_store he (.insertRecord (some (x.id : Int)) (.double sample.value)
    (some sample.timestamp))
  rw [hs.answer_insertRecord hx hkey hvalue] at hreply
  exact run_ask hreply _

theorem run_persist_oversized (he : e.Holds s) {sensorId : Int}
    (hkey : checkKey sensorId = .error oversizedKey) (sample : Sample) (r : HandlerResult) :
    e.run (persist r sensorId sample) = (.ok (r, some oversizedKey), e) := by
  have hreply := answer_store he (.insertRecord (some sensorId) (.double sample.value)
    (some sample.timestamp))
  rw [Store.answer_insertRecord_oversized hkey, withTables_self he] at hreply
  exact run_ask hreply _

/-- The store stage looks for the sensor with the topic and goes on with its id. -/
theorem run_record (he : e.Holds s) (r : HandlerResult) (remainder : String) {payload : Bytes}
    {sample : Sample} (hread : Sample.decode payload = .ok sample) :
    e.run (record .byTopic r remainder payload) =
      match s.sensorByTopic? remainder with
      | none => (.ok (r.push .decoded, some (unknownSensor
          ("sensor not found for topic " ++ Text.quoted remainder))), e)
      | some x => e.run (persist ((r.push .decoded).push .transformed) x.id sample) := by
  have hlookup : e.run (Pipeline.ofStore (Lookup.byTopic.resolve remainder)).attempt =
      (.ok (match s.sensorByTopic? remainder with
        | none => .error (unknownSensor ("sensor not found for topic " ++ Text.quoted remainder))
        | some x => .ok (x.id : Int)), e) := by
    have hreply := answer_store he (.sensorByTopic remainder)
    rw [Store.answer, withTables_self he] at hreply
    refine (run_ask hreply _).trans ?_
    cases s.sensorByTopic? remainder with
    | none => rfl
    | some x => rfl
  rw [record, hread]
  dsimp only
  rw [run_bind hlookup]
  cases s.sensorByTopic? remainder with
  | none => rfl
  | some x => rfl

/-- A message of the stage is handled by the work of the stage. -/
theorem run_handle {h : Handler} {m : Message} {remainder : String}
    (hstage : remainder? h.stage m.topic = some remainder) {p : Progress} {e' : Environment}
    (hwork : e.run (h.work ((HandlerResult.received m.topic h.name).push .matched) remainder
      m.payload) = (.ok p, e')) : e.run (h.handle m) = (.ok (conclude p), e') := by
  rw [handle, hstage]
  dsimp only
  rw [run_bind hwork]
  rfl

theorem handle_of_none {h : Handler} {m : Message} (hstage : remainder? h.stage m.topic = none) :
    h.handle m = .done ((HandlerResult.received m.topic h.name).push .ignored) := by
  rw [handle, hstage]

end Handler

/-! ## The dispatcher -/

namespace Dispatcher

/-- Among handlers of which only one takes the message, it is the one that decides. -/
theorem run_offer {handlers : List Handler} {h : Handler} (hmem : h ∈ handlers) {m : Message}
    (honly : ∀ other ∈ handlers, other ≠ h → remainder? other.stage m.topic = none)
    {p : Handler.Progress} {e' : Environment}
    (hhandle : e.run (h.handle m) = (.ok (Handler.conclude p), e')) :
    e.run (offer m handlers) = (.ok (some (Handler.conclude p)), e') := by
  induction handlers with
  | nil => exact absurd hmem List.not_mem_nil
  | cons other handlers ih =>
    rw [offer]
    by_cases heq : other = h
    · subst heq
      rw [run_bind hhandle, Handler.isIgnored_conclude]
      rfl
    · have hskip := Handler.handle_of_none (honly other List.mem_cons_self heq)
      rw [hskip, Program.done_bind, HandlerResult.isIgnored_push_ignored]
      exact ih ((List.mem_cons.1 hmem).resolve_left (Ne.symm heq))
        fun o ho => honly o (List.mem_cons_of_mem other ho)

/-- Sending a dead letter does not break down, and changes nothing but the postings. -/
theorem run_send (he : e.Holds s) (q : DeadLetterQueue) (letter : DeadLetter) :
    ∃ taken q' posted, e.run (q.send letter) =
      (.ok (.ok taken, q'), { e with postings := e.postings ++ posted }) := by
  rw [DeadLetterQueue.send]
  by_cases henabled : q.enabled = true
  · obtain ⟨taken, posted, hreply⟩ := answer_post he (q.posting letter)
    refine ⟨taken, q.count taken, posted, ?_⟩
    rw [henabled]
    exact run_ask hreply _
  · refine ⟨false, q, [], ?_⟩
    rw [Bool.not_eq_true] at henabled
    rw [henabled, List.append_nil]
    rfl

theorem run_bury (he : e.Holds s) (d : Dispatcher) (m : Message) (r : HandlerResult) :
    ∃ d' posted, e.run (d.bury m r) =
        (.ok (.ok r, d'), { e with postings := e.postings ++ posted }) ∧
      d'.handlers = d.handlers := by
  rw [bury]
  split
  · rename_i error q _ _
    obtain ⟨taken, q', posted, hsend⟩ := run_send he q (letterAbout m r error)
    refine ⟨{ d with deadLetters := some q' }, posted, ?_, rfl⟩
    rw [run_bind hsend]
    rfl
  · refine ⟨d, [], ?_, rfl⟩
    rw [List.append_nil]
    rfl

/-- A report leaves the result as it is, and changes nothing but the dead letters. -/
theorem run_report (he : e.Holds s) (d : Dispatcher) (m : Message) (r : HandlerResult) :
    ∃ d' posted, e.run (d.report m r) =
        (.ok (.ok r, d'), { e with postings := e.postings ++ posted }) ∧
      d'.handlers = d.handlers := by
  rw [report]
  split
  · exact run_bury he { d with counts := d.counts.add r } m r
  · refine ⟨{ d with counts := d.counts.add r }, [], ?_, rfl⟩
    rw [List.append_nil]
    rfl

end Dispatcher

/-- A message that one handler takes comes to what the work of the handler comes to. Besides its
work only dead letters may be posted. -/
theorem Environment.dispatch_of_only {d : Dispatcher} {h : Handler} (hmem : h ∈ d.handlers)
    {m : Message} (honly : ∀ other ∈ d.handlers, other ≠ h → remainder? other.stage m.topic = none)
    {remainder : String} (hstage : remainder? h.stage m.topic = some remainder)
    {p : Handler.Progress} {e' : Environment} {t : Store} (he' : e'.Holds t)
    (hwork : e.run (h.work ((HandlerResult.received m.topic h.name).push .matched) remainder
      m.payload) = (.ok p, e')) :
    ∃ d' posted, e.dispatch d m = (.ok (Handler.conclude p), d',
        { e' with postings := e'.postings ++ posted }) ∧ d'.handlers = d.handlers := by
  have hoffer := Dispatcher.run_offer hmem honly (Handler.run_handle hstage hwork)
  obtain ⟨d', posted, hreport, hhandlers⟩ := Dispatcher.run_report he' d m (Handler.conclude p)
  have hrun : e.run (d.dispatch m) =
      (.ok (.ok (Handler.conclude p), d'), { e' with postings := e'.postings ++ posted }) := by
    rw [Dispatcher.dispatch, run_bind hoffer]
    exact hreport
  exact ⟨d', posted, by rw [dispatch, hrun], hhandlers⟩

end SensorRelay
