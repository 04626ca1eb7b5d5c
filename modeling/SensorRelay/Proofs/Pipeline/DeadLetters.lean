import SensorRelay.Proofs.Pipeline.Deployment
import SensorRelay.Proofs.Pipeline.Dispatching
import SensorRelay.Proofs.Text.Base64

/-!
# Dead letters account for the failures

A sink may take a letter or refuse it, but let it never break down (`SinkAnswers`). Then every
message that is dispatched comes to a result, is counted once, and is settled
(`Dispatched.Settled`) : nothing is posted about a message that is acknowledged or ignored, and one
letter about a failure, which tells whose failure it is (`DeadLetter.Tells`). The payload in base 64
is read back from the letter up to the limit, since base 64 loses nothing, and so is the letter from
the fields that the sink keeps (`DeadLetter.ofFields?_entry`).

One dispatch is described by `Dispatcher.ends_dispatch`, which gives the dispatcher afterwards as a
value. `Dispatcher.ends_dispatchAll` does the same for any number of messages, by induction, and
`Dispatcher.accounts_dispatchAll` reads the accounts off it : the counts of the dispatcher, those of
its queue, and the letters that the sink keeps.
-/

namespace SensorRelay

open Program

/-! ## What is posted -/

namespace Effect

/-- The posting of an exchange with the sink, and whether it was taken. -/
def posted : Exchange pipelineInterface → List (Posting × Bool)
  | ⟨Effect.post p, reply⟩ =>
    match (reply : Except Failure Bool) with
    | .ok taken => [(p, taken)]
    | .error _ => []
  | ⟨Effect.store _, _⟩ | ⟨Effect.publish _ _ _, _⟩ => []

theorem posted_of_not_isPost {x : Exchange pipelineInterface} (h : ¬IsPost x.1) :
    posted x = [] := by
  obtain ⟨q, reply⟩ := x
  cases q with
  | store c => rfl
  | publish topic payload timeout => rfl
  | post p => exact absurd ⟨p, rfl⟩ h

end Effect

/-- The postings that were taken. -/
def Posting.accepted (posted : List (Posting × Bool)) : List Posting :=
  (posted.filter Prod.snd).map Prod.fst

/-- The posting of an exchange with the sink, if it was taken. -/
def Effect.accepted (x : Exchange pipelineInterface) : List Posting :=
  Posting.accepted (Effect.posted x)

theorem Effect.flatMap_accepted (log : List (Exchange pipelineInterface)) :
    log.flatMap Effect.accepted = Posting.accepted (log.flatMap Effect.posted) := by
  rw [Posting.accepted, List.filter_flatMap, List.map_flatMap]
  rfl

/-- A posting is taken or not. -/
theorem Posting.length_accepted (posted : List (Posting × Bool)) :
    (accepted posted).length + (posted.countP fun x => !x.2) = posted.length := by
  rw [accepted, List.length_map, ← List.countP_eq_length_filter]
  simpa using (List.length_eq_countP_add_countP Prod.snd).symm

variable {σ : Type} {answer : Answerer σ}

/-- The sink takes a letter or refuses it. -/
def SinkAnswers (answer : Answerer σ) : Prop :=
  ∀ p w, ∃ taken, (answer (Effect.post p) w).1 = .ok taken

/-- The sink keeps what it takes, and nothing else. -/
def SinkKeeps (answer : Answerer σ) (kept : σ → List Posting) : Prop :=
  ∀ q w, kept (answer q w).2 = kept w ++ Effect.accepted ⟨q, (answer q w).1⟩

theorem SinkKeeps.kept_run {α : Type} {kept : σ → List Posting} (h : SinkKeeps answer kept)
    (p : Pipeline α) (w : σ) : kept (run answer p w).2 =
      kept w ++ Posting.accepted ((exchanges answer p w).flatMap Effect.posted) := by
  rw [← Effect.flatMap_accepted]
  exact book_run h p w

/-! ## Letters -/

/-- The letter tells which message has failed where, and why. -/
structure DeadLetter.Tells (letter : DeadLetter) (m : Message) (r : HandlerResult) : Prop where
  topic : letter.topic = m.topic
  source : letter.source = r.stage
  error : ∃ e, r.error = some e ∧ letter.errorType = e.kind.label ∧
    letter.error.toList = e.message.toList.take 1000
  payload : Text.ofBase64Chars? letter.payloadText.toList = some (m.payload.take 5000)

theorem Dispatcher.tells_letterAbout {m : Message} {r : HandlerResult} {e : PipelineError}
    (h : r.error = some e) : (letterAbout m r e).Tells m r where
  topic := rfl
  source := rfl
  error := ⟨e, h, rfl, String.toList_ofList⟩
  payload := by
    rw [DeadLetter.payloadText, Text.toBase64, String.toList_ofList]
    exact Text.ofBase64Chars?_base64Chars _

/-- The letter in the fields that the sink keeps. -/
def DeadLetter.ofFields? (fields : List (String × String)) : Option DeadLetter := do
  let topic ← fields.lookup "topic"
  let text ← fields.lookup "payload_b64"
  let payload ← Text.ofBase64Chars? text.toList
  let error ← fields.lookup "error"
  let errorType ← fields.lookup "error_type"
  let source ← fields.lookup "source"
  return ⟨topic, payload, error, errorType, source⟩

/-- A letter is read back from what the sink keeps of it, whenever it was sent. -/
theorem DeadLetter.ofFields?_entry (d : DeadLetter) (timestamp createdAt : String) :
    ofFields? (d.entry timestamp createdAt) = some d := by
  have hpayload : Text.ofBase64Chars? d.payloadText.toList = some d.payload := by
    rw [payloadText, Text.toBase64, String.toList_ofList]
    exact Text.ofBase64Chars?_base64Chars _
  simp [ofFields?, entry, fieldNames, List.lookup_cons, hpayload]

namespace DeadLetterQueue

variable {q : DeadLetterQueue}

/-- The queue once these postings are counted. -/
def counted (q : DeadLetterQueue) (posted : List (Posting × Bool)) : DeadLetterQueue :=
  posted.foldl (fun q x => q.count x.2) q

theorem counted_append (q : DeadLetterQueue) (posted more : List (Posting × Bool)) :
    q.counted (posted ++ more) = (q.counted posted).counted more :=
  List.foldl_append

theorem counted_eq (q : DeadLetterQueue) (posted : List (Posting × Bool)) :
    q.counted posted = { q with
      sent := q.sent + (Posting.accepted posted).length
      errors := q.errors + posted.countP fun x => !x.2 } := by
  induction posted generalizing q with
  | nil => rfl
  | cons x posted ih =>
    obtain ⟨p, taken⟩ := x
    rw [counted, List.foldl_cons]
    refine (ih _).trans ?_
    cases taken <;> simp [count, Posting.accepted, Nat.add_assoc, Nat.add_comm 1]

/-- A letter that is sent is posted, and what becomes of it is counted. -/
theorem ends_send (hq : q.enabled = true) (hsink : SinkAnswers answer) (letter : DeadLetter)
    (w : σ) : Ends answer (q.send letter) w fun x log =>
      ∃ taken, log.flatMap Effect.posted = [(q.posting letter, taken)] ∧
        x = (.ok taken, q.count taken) := by
  obtain ⟨taken, hreply⟩ := hsink (q.posting letter) w
  have hopen : ¬(!q.enabled) = true := by simp [hq]
  rw [send, if_neg hopen]
  exact .ask_of_reply (Prod.ext hreply rfl) (.done ⟨taken, rfl, rfl⟩)

end DeadLetterQueue

/-! ## One message -/

/-- A message with the result of its dispatch, and what was posted about it. -/
structure Dispatched where
  message : Message
  result : HandlerResult
  posted : List (Posting × Bool)

/-- The message has come to an end, and one letter was posted about it if that is a failure, none
otherwise. -/
structure Dispatched.Settled (posting : DeadLetter → Posting) (x : Dispatched) : Prop where
  final : x.result.status.isFinal = true
  silent : x.result.isFailed = false → x.posted = []
  buried : x.result.isFailed = true →
    ∃ letter taken, x.posted = [(posting letter, taken)] ∧ letter.Tells x.message x.result

namespace Dispatcher

variable {d : Dispatcher} {q : DeadLetterQueue}

/-- No handler posts letters. -/
theorem asks_offer_not_isPost (m : Message) (hs : List Handler) :
    (offer m hs).Asks fun q => ¬Effect.IsPost q := by
  refine asks_offer fun h _ => ?_
  cases h with
  | raw processed timeout unit =>
    have hasks : ((Handler.raw processed timeout unit).handle m).Asks Effect.IsPublish :=
      Handler.asks_handle (Handler.asks_republish processed timeout unit) m
    refine hasks.mono ?_
    rintro q ⟨topic, payload, timeout, rfl⟩ ⟨p, ⟨⟩⟩
  | store stage lookup =>
    have hasks : ((Handler.store stage lookup).handle m).Asks Effect.IsStore :=
      Handler.asks_handle (Handler.asks_record lookup) m
    refine hasks.mono ?_
    rintro q ⟨c, rfl⟩ ⟨p, ⟨⟩⟩

/-- Offering a message comes to a result that is final and has an error exactly if it is failed. -/
theorem ends_offer (answer : Answerer σ) (m : Message) (hs : List Handler) (w : σ) :
    Ends answer (offer m hs) w fun found log => log.flatMap Effect.posted = [] ∧
      (found.getD (unclaimed m)).status.isFinal = true ∧
      (found.getD (unclaimed m)).error.isSome = (found.getD (unclaimed m)).isFailed := by
  have hposted : (exchanges answer (offer m hs) w).flatMap Effect.posted = [] := by
    refine List.flatMap_eq_nil_iff.2 fun x hx => Effect.posted_of_not_isPost ?_
    exact (asks_offer_not_isPost m hs).forall_mem_exchanges w x hx
  rw [offer_eq] at hposted ⊢
  split at hposted
  · exact ⟨none, rfl, hposted, rfl, rfl⟩
  · rename_i h _
    obtain ⟨r, t, hrun, htruth, -⟩ := Handler.truthful_handle answer h m w
    refine ⟨some r, ?_, hposted, htruth.final, htruth.error_isSome⟩
    rw [run_bind_of_ok hrun]
    rfl

/-- Reporting a result counts it, and settles the message. -/
theorem ends_report (hd : d.deadLetters = some q) (hq : q.enabled = true)
    (hsink : SinkAnswers answer) (m : Message) {r : HandlerResult}
    (hfinal : r.status.isFinal = true) (herror : r.error.isSome = r.isFailed) (w : σ) :
    Ends answer (d.report m r) w fun x log =>
      Dispatched.Settled q.posting ⟨m, r, log.flatMap Effect.posted⟩ ∧
        x = (.ok r, { d with
          counts := d.counts.add r
          deadLetters := some (q.counted (log.flatMap Effect.posted)) }) := by
  rw [report]
  split
  · rename_i hfailed
    obtain ⟨e, he⟩ := Option.isSome_iff_exists.1 (herror.trans hfailed)
    rw [bury, he, hd]
    refine .map ?_
    obtain ⟨x, hrun, taken, hposted, rfl⟩ := q.ends_send hq hsink (letterAbout m r e) w
    refine ⟨_, hrun, ⟨hfinal, ?_, ?_⟩, ?_⟩
    · exact fun hopen => absurd (hfailed.symm.trans hopen) (by decide)
    · exact fun _ => ⟨_, taken, hposted, tells_letterAbout he⟩
    · rw [hposted]
      rfl
  · rename_i hfailed
    refine .done ⟨⟨hfinal, fun _ => rfl, fun h => absurd h hfailed⟩, ?_⟩
    rw [hd]
    rfl

/-- A dispatch comes to a result, counts it, and settles the message. -/
theorem ends_dispatch (hd : d.deadLetters = some q) (hq : q.enabled = true)
    (hsink : SinkAnswers answer) (m : Message) (w : σ) :
    Ends answer (d.dispatch m) w fun x log => ∃ r,
      Dispatched.Settled q.posting ⟨m, r, log.flatMap Effect.posted⟩ ∧
        x = (.ok r, { d with
          counts := d.counts.add r
          deadLetters := some (q.counted (log.flatMap Effect.posted)) }) := by
  obtain ⟨found, hrun, hposted, hfinal, herror⟩ := ends_offer answer m d.handlers w
  have hreport := ends_report hd hq hsink m hfinal herror (run answer (offer m d.handlers) w).2
  refine .bind (Prod.ext hrun rfl) ?_
  simp only [List.flatMap_append, hposted, List.nil_append]
  obtain ⟨x, hx, hsettled⟩ := hreport
  cases found with
  | none => exact ⟨x, hx, _, hsettled⟩
  | some r => exact ⟨x, hx, _, hsettled⟩

end Dispatcher

/-! ## Many messages -/

namespace Dispatcher

variable {d : Dispatcher} {q : DeadLetterQueue}

/-- Dispatches the messages one after the other, whatever comes of each. -/
def dispatchAll (d : Dispatcher) :
    List Message → Pipeline (List (Except Failure HandlerResult) × Dispatcher)
  | [] => .done ([], d)
  | m :: ms => do
    let (result, d) ← d.dispatch m
    let (results, d) ← d.dispatchAll ms
    return (result :: results, d)

/-- The dispatcher once these messages are dispatched. -/
def having (d : Dispatcher) (q : DeadLetterQueue) (xs : List Dispatched) : Dispatcher :=
  { d with
    counts := (xs.map Dispatched.result).foldl Counts.add d.counts
    deadLetters := some (q.counted (xs.flatMap Dispatched.posted)) }

/-- Dispatching messages comes to a result for each, counts them, and settles them. -/
theorem ends_dispatchAll (hd : d.deadLetters = some q) (hq : q.enabled = true)
    (hsink : SinkAnswers answer) (ms : List Message) (w : σ) :
    Ends answer (d.dispatchAll ms) w fun x log => ∃ xs : List Dispatched,
      xs.map Dispatched.message = ms ∧ (∀ y ∈ xs, y.Settled q.posting) ∧
        log.flatMap Effect.posted = xs.flatMap Dispatched.posted ∧
        x = (xs.map fun y => .ok y.result, d.having q xs) := by
  induction ms generalizing d q w with
  | nil =>
    have hnone : d = d.having q [] := by
      obtain ⟨handlers, counts, deadLetters⟩ := d
      obtain rfl := hd
      rfl
    exact .done ⟨[], rfl, List.forall_mem_nil _, rfl, Prod.ext rfl hnone⟩
  | cons m ms ih =>
    obtain ⟨x, hrun, r, hsettled, rfl⟩ := ends_dispatch hd hq hsink m w
    set posted := (exchanges answer (d.dispatch m) w).flatMap Effect.posted with hposted
    have hcounted : (q.counted posted).enabled = true ∧ (q.counted posted).posting = q.posting := by
      rw [DeadLetterQueue.counted_eq]
      exact ⟨hq, rfl⟩
    refine .bind (Prod.ext hrun rfl) (.map ?_)
    obtain ⟨y, hrun', xs, hmessages, hxs, hlog, rfl⟩ :=
      ih (d := { d with counts := d.counts.add r, deadLetters := some (q.counted posted) }) rfl
        hcounted.1 (run answer (d.dispatch m) w).2
    refine ⟨_, hrun', ⟨m, r, posted⟩ :: xs, by rw [List.map_cons, hmessages], ?_, ?_, ?_⟩
    · rw [hcounted.2] at hxs
      exact List.forall_mem_cons.2 ⟨hsettled, hxs⟩
    · rw [List.flatMap_append, hlog, ← hposted, List.flatMap_cons]
    · rw [having, having, List.flatMap_cons, DeadLetterQueue.counted_append]
      rfl

end Dispatcher

/-! ## The accounts -/

/-- A final result counts in one of three places. -/
theorem Counts.add_of_isFinal {r : HandlerResult} (h : r.status.isFinal = true) (c : Counts) :
    c.add r = ⟨c.acked + if r.isAcked then 1 else 0, c.failed + if r.isFailed then 1 else 0,
      c.ignored + if r.isIgnored then 1 else 0⟩ := by
  unfold add HandlerResult.isAcked HandlerResult.isFailed HandlerResult.isIgnored
  generalize r.status = status at h ⊢
  cases status with
  | ignored | acked | failed => rfl
  | _ => cases h

theorem Counts.foldl_add {rs : List HandlerResult} (h : ∀ r ∈ rs, r.status.isFinal = true)
    (c : Counts) : rs.foldl Counts.add c =
      ⟨c.acked + rs.countP HandlerResult.isAcked, c.failed + rs.countP HandlerResult.isFailed,
        c.ignored + rs.countP HandlerResult.isIgnored⟩ := by
  induction rs generalizing c with
  | nil => rfl
  | cons r rs ih =>
    obtain ⟨hr, hrs⟩ := List.forall_mem_cons.1 h
    rw [List.foldl_cons, ih hrs, add_of_isFinal hr]
    simp only [List.countP_cons, Nat.add_assoc, Nat.add_comm (List.countP _ rs)]

/-- Every result is one more count. -/
theorem Counts.total_foldl_add (rs : List HandlerResult) (c : Counts) :
    (rs.foldl Counts.add c).total = c.total + rs.length := by
  induction rs generalizing c with
  | nil => rfl
  | cons r rs ih =>
    rw [List.foldl_cons, ih, Counts.add_eq, Counts.total_add, Counts.total_ofResult,
      List.length_cons, Nat.add_assoc, Nat.add_comm 1]

/-- One letter is posted for each failure. -/
theorem Dispatched.length_posted {posting : DeadLetter → Posting} {xs : List Dispatched}
    (h : ∀ x ∈ xs, x.Settled posting) : (xs.flatMap Dispatched.posted).length =
      (xs.map Dispatched.result).countP HandlerResult.isFailed := by
  induction xs with
  | nil => rfl
  | cons x xs ih =>
    obtain ⟨hx, hxs⟩ := List.forall_mem_cons.1 h
    rw [List.flatMap_cons, List.length_append, ih hxs, List.map_cons, List.countP_cons,
      Nat.add_comm]
    cases hfailed : x.result.isFailed with
    | false => rw [hx.silent hfailed]; rfl
    | true =>
      obtain ⟨letter, taken, hposted, -⟩ := hx.buried hfailed
      rw [hposted]
      rfl

/-- What the dispatcher and its queue count agrees with what has become of the messages. -/
structure Dispatcher.Accounts (d : Dispatcher) (q : DeadLetterQueue) (xs : List Dispatched) :
    Prop where
  acked : d.counts.acked = (xs.map Dispatched.result).countP HandlerResult.isAcked
  failed : d.counts.failed = (xs.map Dispatched.result).countP HandlerResult.isFailed
  ignored : d.counts.ignored = (xs.map Dispatched.result).countP HandlerResult.isIgnored
  /-- Every message is counted once. -/
  total : d.counts.acked + d.counts.failed + d.counts.ignored = xs.length
  queue : d.deadLetters = some q
  sent : q.sent = (Posting.accepted (xs.flatMap Dispatched.posted)).length
  /-- Every failure is counted once by the queue, sent or not. -/
  posted : q.sent + q.errors = d.counts.failed

theorem Dispatcher.accounts_having {posting : DeadLetter → Posting} {xs : List Dispatched}
    (h : ∀ x ∈ xs, x.Settled posting) (handlers : List Handler) (stream : String)
    (maxLength : Int) :
    let q := DeadLetterQueue.new stream maxLength true
    ((Dispatcher.new handlers (some q)).having q xs).Accounts
      (q.counted (xs.flatMap Dispatched.posted)) xs := by
  intro q
  have hfinal : ∀ r ∈ xs.map Dispatched.result, r.status.isFinal = true :=
    List.forall_mem_map.2 fun x hx => (h x hx).final
  have hcounts := Counts.foldl_add hfinal .zero
  have htotal := Counts.total_foldl_add (xs.map Dispatched.result) .zero
  have hqueue := q.counted_eq (xs.flatMap Dispatched.posted)
  have hlength : (Posting.accepted (xs.flatMap Dispatched.posted)).length +
      (xs.flatMap Dispatched.posted).countP (fun x => !x.2) =
        (xs.map Dispatched.result).countP HandlerResult.isFailed := by
    rw [← Dispatched.length_posted h]
    exact Posting.length_accepted _
  rw [List.length_map] at htotal
  exact
    { acked := by rw [having, new, hcounts]; exact Nat.zero_add _
      failed := by rw [having, new, hcounts]; exact Nat.zero_add _
      ignored := by rw [having, new, hcounts]; exact Nat.zero_add _
      total := htotal.trans (Nat.zero_add _)
      queue := rfl
      sent := by rw [hqueue]; exact Nat.zero_add _
      posted := by
        rw [hqueue, having, new, hcounts]
        simpa [q, DeadLetterQueue.new, Counts.zero] using hlength }

/-- Whatever messages are dispatched so far, and whichever letters the sink refuses : each dispatch
comes to a result, the counts account for all messages and those of the queue for all failures, and
the letters that the sink keeps are those about the failures, in order, less those that it has
refused. -/
theorem Dispatcher.accounts_dispatchAll (handlers : List Handler) (stream : String)
    (maxLength : Int) (ms : List Message) {σ : Type} (answer : Answerer σ)
    (hsink : SinkAnswers answer) (w : σ) :
    ∃ (xs : List Dispatched) (d : Dispatcher) (q : DeadLetterQueue) (t : σ),
      let start := Dispatcher.new handlers (some (.new stream maxLength true))
      run answer (start.dispatchAll ms) w = (.ok (xs.map fun x => .ok x.result, d), t) ∧
        xs.map Dispatched.message = ms ∧
        (∀ x ∈ xs, x.Settled fun letter => ⟨stream, maxLength, letter⟩) ∧
        d.Accounts q xs ∧
        (exchanges answer (start.dispatchAll ms) w).flatMap Effect.posted =
          xs.flatMap Dispatched.posted ∧
        ∀ kept, SinkKeeps answer kept →
          kept t = kept w ++ Posting.accepted (xs.flatMap Dispatched.posted) := by
  have hends := ends_dispatchAll (d := .new handlers (some (.new stream maxLength true))) rfl rfl
    hsink ms w
  obtain ⟨x, hrun, xs, hmessages, hsettled, hposted, rfl⟩ := hends
  refine ⟨xs, _, _, _, Prod.ext hrun rfl, hmessages, hsettled,
    accounts_having hsettled handlers stream maxLength, hposted, fun kept hkept => ?_⟩
  rw [hkept.kept_run, hposted]

/-- Of five messages three fail : on a short payload, for want of a sensor, and on a text that is not
a document. A sink that takes every other letter keeps the first and the third. -/
theorem Dispatcher.accounts_of_five_messages :
    let replies : Replies Unit Store (List Posting × Bool) :=
      ⟨fun _ _ _ publisher => (.ok (), publisher), Store.answer,
        fun p sink => (.ok sink.2, if sink.2 then sink.1 ++ [p] else sink.1, !sink.2)⟩
    let w : World Unit Store (List Posting × Bool) := ⟨(), .empty, [], true⟩
    let handlers : List Handler := [.raw "clean" (Binary64.ofInt 10) "ms", .store "clean" .byTopic]
    let start := Dispatcher.new handlers (some (.new "dlq:telemetry" 10000 true))
    let ms : List Message := [⟨"raw/hall/east/pump", [0, 255]⟩,
      ⟨"raw/hall/east/pump", [0, 0, 0, 0, 0, 0, 3, 232, 0, 0, 0, 1]⟩,
      ⟨"clean/hall/east/pump",
        Text.utf8 "\x7b\"value\":1,\"timestamp\":\"2026-01-01T00:00:00+00:00\"\x7d"⟩,
      ⟨"lobby", []⟩, ⟨"clean/hall/west/fan", []⟩]
    SinkAnswers replies.answer ∧ SinkKeeps replies.answer (fun w => w.sink.1) ∧
      ∃ xs d q t,
        run replies.answer (start.dispatchAll ms) w =
          (.ok (xs.map fun x => .ok x.result, d), t) ∧
        d.Accounts q xs ∧ d.counts = ⟨1, 3, 1⟩ ∧
        t.sink.1 = Posting.accepted (xs.flatMap Dispatched.posted) ∧
        (t.sink.1.map fun p => (p.letter.topic, p.letter.errorType, p.letter.payloadText)) =
          [("raw/hall/east/pump", "malformed_payload", "AP8="),
            ("clean/hall/west/fan", "malformed_payload", "")] := by
  intro replies w handlers start ms
  have hanswers : SinkAnswers replies.answer := fun p w => ⟨w.sink.2, rfl⟩
  have hkeeps : SinkKeeps replies.answer fun w => w.sink.1 := by
    intro q w
    match q with
    | Effect.store c => exact (List.append_nil _).symm
    | Effect.publish topic payload timeout => exact (List.append_nil _).symm
    | Effect.post p =>
      obtain ⟨publisher, database, kept, taken⟩ := w
      cases taken with
      | false => exact (List.append_nil _).symm
      | true => rfl
  obtain ⟨xs, d, q, t, hrun, -, -, haccounts, -, hkept⟩ :=
    accounts_dispatchAll handlers "dlq:telemetry" 10000 ms replies.answer hanswers w
  have hresult : (run replies.answer (start.dispatchAll ms) w).1.map (fun x => x.2.counts) =
      .ok ⟨1, 3, 1⟩ := by decide +kernel
  have hsink : ((run replies.answer (start.dispatchAll ms) w).2.sink.1.map fun p =>
      (p.letter.topic, p.letter.errorType, p.letter.payloadText)) =
        [("raw/hall/east/pump", "malformed_payload", "AP8="),
          ("clean/hall/west/fan", "malformed_payload", "")] := by decide +kernel
  rw [hrun] at hresult hsink
  exact ⟨hanswers, hkeeps, xs, d, q, t, hrun, haccounts, Except.ok.inj hresult, hkept _ hkeeps,
    hsink⟩

end SensorRelay
