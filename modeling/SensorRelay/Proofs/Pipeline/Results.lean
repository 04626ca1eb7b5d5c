import SensorRelay.Proofs.Pipeline.Stages
import SensorRelay.Proofs.Store.History

/-!
# What results tell

Whatever the publisher, the lookup and the database reply, a handler comes to a result, and the
result tells the truth (`Handler.truthful_handle`) : its history is a legal run of statuses that
ends in a final one, its error is what made the message fail, its next topic has been published
and its record has been stored. A handler asks for one write at most, with the sample that it has
read from the payload and after everything else (`Handler.owed`).

What a handler asks and is told is the log of its run (`Program.exchanges`). The outcomes of the
work on a message are listed once (`Handler.Worked`), and what a result has to tell is read off
this list.
-/

namespace SensorRelay

open Program

/-! ## Legal runs -/

/-- The statuses that may follow a status. -/
def MessageStatus.successors : MessageStatus → List MessageStatus
  | received => [ignored, matched]
  | matched => [decoded, failed]
  | decoded => [transformed, failed]
  | transformed => [republished, persisted, failed]
  | republished | persisted => [acked]
  | ignored | acked | failed => []

/-- Each status is found by its name, and nothing else is. -/
theorem MessageStatus.ofLabel_eq_ok_iff {name : String} {status : MessageStatus} :
    ofLabel name = .ok status ↔ status.label = name := by
  constructor
  · intro h
    rw [ofLabel] at h
    split at h
    · rename_i found hfind
      rw [← Except.ok.inj h]
      simpa using List.find?_some hfind
    · cases h
  · rintro rfl
    cases status <;> rfl

namespace Handler

/-- Is it the raw stage? -/
def isRaw : Handler → Bool
  | raw _ _ _ => true
  | store _ _ => false

/-- The statuses of a message from being matched to being acknowledged. -/
def course (h : Handler) : List MessageStatus :=
  [.decoded, .transformed, if h.isRaw then .republished else .persisted]

/-- The history of a message that has come to the first `n` statuses of the course. -/
def historyAfter (h : Handler) (n : Nat) : List MessageStatus :=
  [.received, .matched] ++ h.course.take n ++ [if n = h.course.length then .acked else .failed]

/-- The result of a message that is at the `n`-th status of the course, with nothing to tell yet. -/
def reached (h : Handler) (m : Message) (n : Nat) : HandlerResult :=
  { HandlerResult.received m.topic h.name with history := [.received, .matched] ++ h.course.take n }

end Handler

/-! ## Writes -/

/-- Does a request ask for a row? -/
def StoreCall.isInsertion : StoreCall → Bool
  | .insertSection _ | .insertModule _ _ | .insertSensor _ _ _ | .insertRecord _ _ _ => true
  | _ => false

/-- Does a request ask for more than a reply? -/
def Effect.isWrite : Effect → Bool
  | .store c => c.isInsertion
  | .publish _ _ _ | .post _ => true

/-- The rows that have been recorded by a request, as the reply tells. -/
def Effect.recordedRows : Exchange pipelineInterface → List RecordRow
  | ⟨Effect.store c, reply⟩ => Store.recordedRows c reply
  | ⟨Effect.publish _ _ _, _⟩ | ⟨Effect.post _, _⟩ => []

/-- The reply tells that a request has failed, or that there is no row where one was asked for. -/
inductive Refusal : Exchange pipelineInterface → Failure → Prop
  | failure (q : pipelineInterface.Request) (f : Failure) : Refusal ⟨q, .error f⟩ f
  | absent (sensorId : Option Int) (value : Quantity) (createdAt : Option Timestamp) :
    Refusal ⟨Effect.store (.insertRecord sensorId value createdAt),
      .ok (none : Option RecordRow)⟩ .missingRow

/-- The failure that is the outcome. -/
def failure? {α : Type} : Except Failure α → Option Failure
  | .ok _ => none
  | .error f => some f

/-- Requests that write nothing, and of which `f?` is the failure. -/
def Reads (f? : Option Failure) (log : List (Exchange pipelineInterface)) : Prop :=
  ∀ x ∈ log, Effect.isWrite x.1 = false ∧ ∀ f, x.2 = .error f → f? = some f

theorem Refusal.recordedRows {x : Exchange pipelineInterface} {f : Failure} (h : Refusal x f) :
    Effect.recordedRows x = [] := by
  cases h with
  | failure q f => cases q with
    | store c => cases c <;> rfl
    | publish topic payload timeout => rfl
    | post p => rfl
  | absent sensorId value createdAt => rfl

theorem Refusal.eq {x : Exchange pipelineInterface} {f g : Failure} (hf : Refusal x f)
    (hg : Refusal x g) : f = g := by
  cases hf <;> cases hg <;> rfl

theorem Refusal.ne_published {x : Exchange pipelineInterface} {f : Failure} (h : Refusal x f)
    (next : String) (payload : Bytes) (timeout : Binary64) :
    x ≠ ⟨Effect.publish next payload timeout, .ok ()⟩ := by
  rintro rfl
  cases h

namespace Reads

variable {f? : Option Failure} {log : List (Exchange pipelineInterface)}

theorem recordedRows (h : Reads f? log) : log.flatMap Effect.recordedRows = [] := by
  refine List.flatMap_eq_nil_iff.2 fun x hx => ?_
  have hread := (h x hx).1
  obtain ⟨q, reply⟩ := x
  cases q with
  | store c => cases c <;> first | rfl | cases hread
  | publish topic payload timeout => rfl
  | post p => rfl

theorem eq_of_refusal (h : Reads f? log) {x : Exchange pipelineInterface} (hx : x ∈ log)
    {f : Failure} (hf : Refusal x f) : f? = some f := by
  cases hf with
  | failure q f => exact (h _ hx).2 f rfl
  | absent sensorId value createdAt => exact nomatch (h _ hx).1

theorem ne_published (h : Reads f? log) {x : Exchange pipelineInterface} (hx : x ∈ log)
    (next : String) (payload : Bytes) (timeout : Binary64) :
    x ≠ ⟨Effect.publish next payload timeout, .ok ()⟩ := by
  rintro rfl
  exact nomatch (h _ hx).1

end Reads

/-- What replies to the requests of the pipeline, with a state of its own. -/
abbrev Answerer (σ : Type) :=
  (q : pipelineInterface.Request) → σ → Except Failure (pipelineInterface.Reply q) × σ

variable {σ : Type} {answer : Answerer σ} {s : σ}

/-- Can a handler read the payload? -/
def Handler.decodes (h : Handler) (payload : Bytes) : Bool :=
  match h with
  | .raw _ _ unit => (RawSample.decodeNamed unit payload).isOk
  | .store _ _ => (Sample.decode payload).isOk

/-- The write that a handler owes to a payload, or why it owes none : the sample that is read from
the payload goes to the next topic, or to the sensor that the lookup tells. -/
def Handler.owed (answer : Answerer σ) (s : σ) (h : Handler) (remainder : String)
    (payload : Bytes) : Except Failure Effect :=
  match h with
  | .raw processed timeout unit => (RawSample.decodeNamed unit payload).map fun reading =>
      .publish (stageTopic processed remainder) reading.widen.encode timeout
  | .store _ lookup =>
    match Sample.decode payload with
    | .error e => .error (.pipeline e)
    | .ok sample => (run answer (Pipeline.ofStore (lookup.resolve remainder)) s).1.map fun id =>
        .store (.insertRecord (some id) (.double sample.value) (some sample.timestamp))

/-- Nothing but a reply with the row is behind a record : a request for one that fails or gives no
row has recorded nothing. -/
def RecordsFollow (answer : Answerer σ) (records : σ → List RecordRow) : Prop :=
  ∀ q s, records (answer q s).2 = records s ++ Effect.recordedRows ⟨q, (answer q s).1⟩

/-! ## The truth about a message -/

/-- The result is that of a legal run of the handler on the message. -/
structure LegalRun (h : Handler) (m : Message) (r : HandlerResult) : Prop where
  topic : r.topic = m.topic
  stage : r.stage = h.name
  ignored_iff : r.history = [.received, .ignored] ↔ remainder? h.stage m.topic = none
  taken : ∀ remainder, remainder? h.stage m.topic = some remainder →
    ∃ n ≤ h.course.length, r.history = h.historyAfter n
  legal : r.history.IsChain fun a b => b ∈ a.successors
  final : r.status.isFinal = true
  error_isSome : r.error.isSome = r.isFailed

/-- What a result tells is what the requests in the log have come to. -/
structure Truthful (answer : Answerer σ) (s : σ) (h : Handler) (m : Message) (r : HandlerResult)
    (log : List (Exchange pipelineInterface)) : Prop extends LegalRun h m r where
  silent : remainder? h.stage m.topic = none → log = []
  decoded_iff : .decoded ∈ r.history ↔
    (remainder? h.stage m.topic).isSome = true ∧ h.decodes m.payload = true
  /-- The write that is owed comes last, once the sample has been decoded and transformed. -/
  written : ∀ remainder q, remainder? h.stage m.topic = some remainder →
    h.owed answer s remainder m.payload = .ok q →
    .transformed ∈ r.history ∧ ∃ reads reply, log = reads ++ [⟨q, reply⟩] ∧ Reads none reads
  /-- Nothing is written where nothing is owed. -/
  unwritten : ∀ remainder f, remainder? h.stage m.topic = some remainder →
    h.owed answer s remainder m.payload = .error f →
    .transformed ∉ r.history ∧ r.error = some f.asPipelineError ∧ Reads (some f) log
  error_of_refusal : ∀ x ∈ log, ∀ f, Refusal x f → r.error = some f.asPipelineError
  nextTopic_isSome : r.nextTopic.isSome = (r.isAcked && h.isRaw)
  published_iff : ∀ next, r.nextTopic = some next ↔
    ∃ payload timeout, ⟨Effect.publish next payload timeout, .ok ()⟩ ∈ log
  recordId_isSome : r.recordId.isSome = (r.isAcked && !h.isRaw)
  recorded : (log.flatMap Effect.recordedRows).map RecordRow.id = r.recordId.toList

namespace Handler

/-- How the work on a message may end, with the log of its requests. -/
inductive Worked (answer : Answerer σ) (s : σ) (h : Handler) (m : Message) (remainder : String) :
    Progress → List (Exchange pipelineInterface) → Prop
  | undecoded {f : Failure} (unread : h.decodes m.payload = false)
      (owed : h.owed answer s remainder m.payload = .error f) :
    Worked answer s h m remainder (h.reached m 0, some f) []
  | unresolved {f : Failure} {reads : List (Exchange pipelineInterface)}
      (read : h.decodes m.payload = true) (owed : h.owed answer s remainder m.payload = .error f)
      (failure : Reads (some f) reads) : Worked answer s h m remainder (h.reached m 1, some f) reads
  | refused {f : Failure} {reads : List (Exchange pipelineInterface)}
      {x : Exchange pipelineInterface} (read : h.decodes m.payload = true)
      (owed : h.owed answer s remainder m.payload = .ok x.1) (reading : Reads none reads)
      (refusal : Refusal x f) :
    Worked answer s h m remainder (h.reached m 2, some f) (reads ++ [x])
  | republished {next : String} {payload : Bytes} {timeout : Binary64}
      (read : h.decodes m.payload = true)
      (owed : h.owed answer s remainder m.payload = .ok (.publish next payload timeout))
      (raw : h.isRaw = true) :
    Worked answer s h m remainder ({ h.reached m 3 with nextTopic := some next }, none)
      [⟨Effect.publish next payload timeout, .ok ()⟩]
  | persisted {reads : List (Exchange pipelineInterface)} {sensorId : Option Int}
      {value : Quantity} {createdAt : Option Timestamp} {row : RecordRow}
      (read : h.decodes m.payload = true)
      (owed : h.owed answer s remainder m.payload =
        .ok (.store (.insertRecord sensorId value createdAt)))
      (store : h.isRaw = false) (reading : Reads none reads) :
    Worked answer s h m remainder ({ h.reached m 3 with recordId := some row.id }, none)
      (reads ++ [⟨Effect.store (.insertRecord sensorId value createdAt),
        .ok (some row : Option RecordRow)⟩])

theorem worked_republish (processed : String) (timeout : Binary64) (unit : String) (m : Message)
    (remainder : String) (s : σ) :
    Ends answer (republish processed timeout unit ((raw processed timeout unit).reached m 0)
      remainder m.payload) s (Worked answer s (.raw processed timeout unit) m remainder) := by
  have hdecodes : (raw processed timeout unit).decodes m.payload =
      (RawSample.decodeNamed unit m.payload).isOk := rfl
  have howed : (raw processed timeout unit).owed answer s remainder m.payload =
      (RawSample.decodeNamed unit m.payload).map fun reading =>
        .publish (stageTopic processed remainder) reading.widen.encode timeout := rfl
  rw [republish]
  cases hread : RawSample.decodeNamed unit m.payload with
  | error f =>
    rw [hread] at hdecodes howed
    exact .done (.undecoded hdecodes howed)
  | ok reading =>
    rw [hread] at hdecodes howed
    have hreads : Reads none [] := List.forall_mem_nil _
    refine .ask fun reply t => ?_
    cases reply with
    | error f => exact .done (.refused hdecodes howed hreads (.failure _ f))
    | ok u => exact .done (.republished hdecodes howed rfl)

theorem worked_persist {stage : String} {lookup : Lookup} {m : Message} {remainder : String}
    {id : Int} {sample : Sample} (hdecodes : (store stage lookup).decodes m.payload = true)
    (howed : (store stage lookup).owed answer s remainder m.payload =
      .ok (.store (.insertRecord (some id) (.double sample.value) (some sample.timestamp))))
    {reads : List (Exchange pipelineInterface)} (hreads : Reads none reads) (t : σ) :
    Ends answer (persist ((store stage lookup).reached m 2) id sample) t fun p log =>
      Worked answer s (.store stage lookup) m remainder p (reads ++ log) := by
  rw [persist]
  refine .ask fun (reply : Except Failure (Option RecordRow)) u => ?_
  match reply with
  | .error f => exact .done (.refused hdecodes howed hreads (.failure _ f))
  | .ok none => exact .done (.refused hdecodes howed hreads (.absent _ _ _))
  | .ok (some row) => exact .done (.persisted hdecodes howed rfl hreads)

/-- A lookup writes nothing, and a request that fails is its failure. -/
theorem reads_resolve (lookup : Lookup) (remainder : String) (s : σ) :
    Comes answer (Pipeline.ofStore (lookup.resolve remainder)) s fun outcome log =>
      Reads (failure? outcome) log := by
  cases lookup with
  | byTopic =>
    refine .ask fun (reply : Except Failure (Option SensorRow)) t => ?_
    match reply with
    | .error f => exact List.forall_mem_singleton.2 ⟨rfl, by rintro g ⟨⟩; rfl⟩
    | .ok none => exact List.forall_mem_singleton.2 ⟨rfl, fun g hg => nomatch hg⟩
    | .ok (some x) => exact List.forall_mem_singleton.2 ⟨rfl, fun g hg => nomatch hg⟩
  | byResolution known =>
    rw [Lookup.resolve]
    cases SensorPath.ofRemainder? remainder with
    | error e => exact List.forall_mem_nil _
    | ok path =>
      dsimp only
      cases known.idFor? path with
      | none => exact List.forall_mem_nil _
      | some id => exact List.forall_mem_nil _

theorem worked_record (stage : String) (lookup : Lookup) (m : Message) (remainder : String)
    (s : σ) :
    Ends answer (record lookup ((store stage lookup).reached m 0) remainder m.payload) s
      (Worked answer s (.store stage lookup) m remainder) := by
  have hdecodes : (store stage lookup).decodes m.payload = (Sample.decode m.payload).isOk := rfl
  rw [record]
  cases hread : Sample.decode m.payload with
  | error e =>
    rw [hread] at hdecodes
    exact .done (.undecoded hdecodes (by rw [owed, hread]))
  | ok sample =>
    have howed : (store stage lookup).owed answer s remainder m.payload =
        (run answer (Pipeline.ofStore (lookup.resolve remainder)) s).1.map fun id =>
          .store (.insertRecord (some id) (.double sample.value) (some sample.timestamp)) := by
      rw [owed, hread]
    have hreads := @reads_resolve _ answer lookup remainder s
    rw [Comes] at hreads
    rw [hread] at hdecodes
    refine .bind (run_attempt _ s) ?_
    rw [exchanges_attempt]
    cases hid : (run answer (Pipeline.ofStore (lookup.resolve remainder)) s).1 with
    | error f =>
      rw [hid] at hreads howed
      refine .done ?_
      rw [List.append_nil]
      exact .unresolved hdecodes howed hreads
    | ok id =>
      rw [hid] at hreads howed
      exact worked_persist hdecodes howed hreads _

/-- The work of a handler ends in one of the listed ways. -/
theorem worked_work (h : Handler) (m : Message) (remainder : String) (s : σ) :
    Ends answer (h.work (h.reached m 0) remainder m.payload) s (Worked answer s h m remainder) := by
  cases h with
  | raw processed timeout unit => exact worked_republish processed timeout unit m remainder s
  | store stage lookup => exact worked_record stage lookup m remainder s

/-! ## The truth about every message -/

theorem isAcked_conclude_some (r : HandlerResult) (f : Failure) :
    (conclude (r, some f)).isAcked = false := by
  simp [conclude, HandlerResult.isAcked]

theorem isFailed_conclude_none (r : HandlerResult) : (conclude (r, none)).isFailed = false := by
  simp [conclude, HandlerResult.isFailed]

/-- Histories of messages that are taken are legal. -/
theorem legal_historyAfter (h : Handler) {n : Nat} (hn : n ≤ h.course.length) :
    ((h.historyAfter n).IsChain fun a b => b ∈ a.successors) ∧
      ((h.historyAfter n).getLastD .received).isFinal = true := by
  revert hn
  rw [historyAfter, course]
  cases h.isRaw with
  | true => revert n; decide
  | false => revert n; decide

/-- How far a message has come is told by its history. -/
theorem mem_historyAfter (h : Handler) {n : Nat} (hn : n ≤ h.course.length) :
    (.decoded ∈ h.historyAfter n ↔ 1 ≤ n) ∧ (.transformed ∈ h.historyAfter n ↔ 2 ≤ n) := by
  revert hn
  rw [historyAfter, course]
  cases h.isRaw with
  | true => revert n; decide
  | false => revert n; decide

variable {h : Handler} {m : Message} {remainder : String}
  (hremainder : remainder? h.stage m.topic = some remainder)
include hremainder

/-- A run that has come to the first statuses of the course is legal. -/
theorem legalRun_of_history {r : HandlerResult} {n : Nat} (hn : n ≤ h.course.length)
    (hhistory : r.history = h.historyAfter n) (htopic : r.topic = m.topic)
    (hstage : r.stage = h.name) (herror : r.error.isSome = r.isFailed) : LegalRun h m r where
  topic := htopic
  stage := hstage
  ignored_iff := by
    rw [hremainder, hhistory, historyAfter]
    simp
  taken := fun _ _ => ⟨n, hn, hhistory⟩
  legal := by
    rw [hhistory]
    exact (h.legal_historyAfter hn).1
  final := by
    rw [HandlerResult.status, hhistory]
    exact (h.legal_historyAfter hn).2
  error_isSome := herror

/-- A message that fails at one of the statuses of the course has nothing else to tell. -/
theorem truthful_of_failed {n : Nat} (hn : n < h.course.length) {f : Failure}
    {log : List (Exchange pipelineInterface)} (hdecodes : h.decodes m.payload = true ↔ 1 ≤ n)
    (hwritten : ∀ q, h.owed answer s remainder m.payload = .ok q →
      2 ≤ n ∧ ∃ reads reply, log = reads ++ [⟨q, reply⟩] ∧ Reads none reads)
    (hunwritten : ∀ g, h.owed answer s remainder m.payload = .error g →
      ¬2 ≤ n ∧ g = f ∧ Reads (some g) log)
    (hrefusal : ∀ x ∈ log, ∀ g, Refusal x g → g = f)
    (hrows : log.flatMap Effect.recordedRows = [])
    (hpublished : ∀ x ∈ log, ∀ next payload timeout,
      x ≠ ⟨Effect.publish next payload timeout, .ok ()⟩) :
    Truthful answer s h m (conclude (h.reached m n, some f)) log := by
  have hhistory : (conclude (h.reached m n, some f)).history = h.historyAfter n := by
    rw [historyAfter, if_neg (Nat.ne_of_lt hn)]
    rfl
  obtain ⟨hdecoded, htransformed⟩ := h.mem_historyAfter (Nat.le_of_lt hn)
  rw [← hhistory] at hdecoded htransformed
  have hacked := isAcked_conclude_some (h.reached m n) f
  exact
    { toLegalRun := legalRun_of_history hremainder (Nat.le_of_lt hn) hhistory rfl rfl
        (isFailed_conclude _ f).1.symm
      silent := fun hnone => nomatch hremainder.symm.trans hnone
      decoded_iff := by rw [hdecoded, ← hdecodes, hremainder]; simp
      written := fun remainder' q hremainder' howed => by
        obtain rfl := Option.some.inj (hremainder.symm.trans hremainder')
        exact ⟨htransformed.2 (hwritten q howed).1, (hwritten q howed).2⟩
      unwritten := fun remainder' g hremainder' howed => by
        obtain rfl := Option.some.inj (hremainder.symm.trans hremainder')
        obtain ⟨hstatus, rfl, hreads⟩ := hunwritten g howed
        exact ⟨mt htransformed.1 hstatus, rfl, hreads⟩
      error_of_refusal := fun x hx g hg => by rw [hrefusal x hx g hg]; rfl
      nextTopic_isSome := by rw [hacked]; rfl
      published_iff := fun next =>
        ⟨fun hnext => (nomatch hnext), fun ⟨_, _, hmem⟩ => absurd rfl (hpublished _ hmem _ _ _)⟩
      recordId_isSome := by rw [hacked]; rfl
      recorded := by rw [hrows]; rfl }

/-- A message that is acknowledged tells what the write has come to. -/
theorem truthful_of_acked {next : Option String} {id : Option Nat}
    {reads : List (Exchange pipelineInterface)} {x : Exchange pipelineInterface}
    (hdecodes : h.decodes m.payload = true) (howed : h.owed answer s remainder m.payload = .ok x.1)
    (hreads : Reads none reads) (hx : ∀ f, ¬Refusal x f) (hnext : next.isSome = h.isRaw)
    (hpublished : ∀ topic, next = some topic ↔
      ∃ payload timeout, x = ⟨Effect.publish topic payload timeout, .ok ()⟩)
    (hid : id.isSome = !h.isRaw) (hrows : (Effect.recordedRows x).map RecordRow.id = id.toList) :
    Truthful answer s h m (conclude ({ h.reached m 3 with nextTopic := next, recordId := id }, none))
      (reads ++ [x]) := by
  have hacked := isAcked_conclude { h.reached m 3 with nextTopic := next, recordId := id }
  obtain ⟨hdecoded, htransformed⟩ := h.mem_historyAfter (n := 3) (Nat.le_refl _)
  exact
    { toLegalRun := legalRun_of_history hremainder (Nat.le_refl _) rfl rfl rfl
        (isFailed_conclude_none _).symm
      silent := fun hnone => nomatch hremainder.symm.trans hnone
      decoded_iff := iff_of_true (hdecoded.2 (by decide)) ⟨by rw [hremainder]; rfl, hdecodes⟩
      written := fun remainder' q hremainder' howed' => by
        obtain rfl := Option.some.inj (hremainder.symm.trans hremainder')
        obtain rfl := Except.ok.inj (howed.symm.trans howed')
        exact ⟨htransformed.2 (by decide), reads, x.2, rfl, hreads⟩
      unwritten := fun remainder' f hremainder' howed' => by
        obtain rfl := Option.some.inj (hremainder.symm.trans hremainder')
        exact nomatch howed.symm.trans howed'
      error_of_refusal := fun y hy f hf => by
        rcases List.mem_append.1 hy with hy | hy
        · exact nomatch hreads.eq_of_refusal hy hf
        · exact absurd (List.mem_singleton.1 hy ▸ hf) (hx f)
      nextTopic_isSome := by rw [hacked, Bool.true_and]; exact hnext
      published_iff := fun topic => by
        refine (hpublished topic).trans ⟨?_, ?_⟩
        · rintro ⟨payload, timeout, rfl⟩
          exact ⟨payload, timeout, List.mem_append_right _ List.mem_cons_self⟩
        · rintro ⟨payload, timeout, hmem⟩
          rcases List.mem_append.1 hmem with hmem | hmem
          · exact absurd rfl (hreads.ne_published hmem _ _ _)
          · exact ⟨payload, timeout, (List.mem_singleton.1 hmem).symm⟩
      recordId_isSome := by rw [hacked, Bool.true_and]; exact hid
      recorded := by
        rw [List.flatMap_append, hreads.recordedRows, List.nil_append, List.flatMap_singleton]
        exact hrows }

/-- A result of the listed ways, once concluded, tells the truth. -/
theorem Worked.truthful {p : Progress} {log : List (Exchange pipelineInterface)}
    (hw : Worked answer s h m remainder p log) : Truthful answer s h m (conclude p) log := by
  have hlength : h.course.length = 3 := rfl
  cases hw with
  | @undecoded f unread owed =>
    refine truthful_of_failed hremainder (n := 0) (by omega) (by simp [unread])
      (fun q hq => nomatch owed.symm.trans hq) (fun g hg => ?_) (List.forall_mem_nil _) rfl
      (List.forall_mem_nil _)
    exact ⟨by omega, Except.error.inj (hg.symm.trans owed), List.forall_mem_nil _⟩
  | @unresolved f reads read owed failure =>
    refine truthful_of_failed hremainder (n := 1) (by omega) (by simp [read])
      (fun q hq => nomatch owed.symm.trans hq) (fun g hg => ?_)
      (fun x hx g hg => (Option.some.inj (failure.eq_of_refusal hx hg)).symm)
      failure.recordedRows fun x hx => failure.ne_published hx
    obtain rfl := Except.error.inj (hg.symm.trans owed)
    exact ⟨by omega, rfl, failure⟩
  | @refused f reads x read owed reading refusal =>
    refine truthful_of_failed hremainder (n := 2) (by omega) (by simp [read]) (fun q hq => ?_)
      (fun g hg => nomatch owed.symm.trans hg) ?_ ?_ ?_
    · obtain rfl := Except.ok.inj (owed.symm.trans hq)
      exact ⟨Nat.le_refl _, reads, x.2, rfl, reading⟩
    · refine List.forall_mem_append.2 ⟨fun y hy g hg => ?_, List.forall_mem_singleton.2 ?_⟩
      · exact nomatch reading.eq_of_refusal hy hg
      · exact fun g hg => hg.eq refusal
    · rw [List.flatMap_append, reading.recordedRows, List.nil_append, List.flatMap_singleton]
      exact refusal.recordedRows
    · exact List.forall_mem_append.2 ⟨fun y hy => reading.ne_published hy,
        List.forall_mem_singleton.2 refusal.ne_published⟩
  | republished read owed raw =>
    have hreads : Reads none [] := List.forall_mem_nil _
    refine truthful_of_acked hremainder read owed hreads (fun f hf => nomatch hf) raw.symm
      (fun topic => ?_) ?_ rfl
    · constructor
      · rintro ⟨⟩
        exact ⟨_, _, rfl⟩
      · rintro ⟨payload, timeout, hsame⟩
        cases hsame
        rfl
    · rw [raw]
      rfl
  | persisted read owed store reading =>
    refine truthful_of_acked hremainder read owed reading (fun f hf => nomatch hf) ?_
      (fun topic => ?_) ?_ rfl
    · rw [store]
      rfl
    · exact ⟨fun hnext => (nomatch hnext), fun ⟨_, _, hsame⟩ => nomatch hsame⟩
    · rw [store]
      rfl

omit hremainder in
/-- A message of another stage is ignored, and nothing is asked for. -/
theorem truthful_of_none (hnone : remainder? h.stage m.topic = none) :
    Truthful answer s h m ((HandlerResult.received m.topic h.name).push .ignored) [] where
  topic := rfl
  stage := rfl
  ignored_iff := iff_of_true rfl hnone
  taken := fun _ hsome => nomatch hnone.symm.trans hsome
  legal := (by decide : [MessageStatus.received, .ignored].IsChain fun a b => b ∈ a.successors)
  final := rfl
  error_isSome := rfl
  silent := fun _ => rfl
  decoded_iff := by rw [hnone]; simp [HandlerResult.push, HandlerResult.received]
  written := fun _ _ hsome => nomatch hnone.symm.trans hsome
  unwritten := fun _ _ hsome => nomatch hnone.symm.trans hsome
  error_of_refusal := List.forall_mem_nil _
  nextTopic_isSome := rfl
  published_iff := fun next => ⟨fun hnext => (nomatch hnext), fun ⟨_, _, hmem⟩ => nomatch hmem⟩
  recordId_isSome := rfl
  recorded := rfl

omit hremainder in
/-- A handler comes to a result, whatever replies, and the result tells the truth. Where records
follow from replies, what is recorded is the record of the result. -/
theorem truthful_handle (answer : Answerer σ) (h : Handler) (m : Message) (s : σ) :
    ∃ r t, run answer (h.handle m) s = (.ok r, t) ∧
      Truthful answer s h m r (exchanges answer (h.handle m) s) ∧
      ∀ records, RecordsFollow answer records →
        ∃ rows, records t = records s ++ rows ∧ rows.map RecordRow.id = r.recordId.toList := by
  have hends : Ends answer (h.handle m) s (Truthful answer s h m) := by
    rw [handle]
    cases hremainder : remainder? h.stage m.topic with
    | none => exact .done (truthful_of_none hremainder)
    | some remainder =>
      obtain ⟨p, hrun, hworked⟩ := @worked_work _ answer h m remainder s
      exact .map ⟨p, hrun, hworked.truthful hremainder⟩
  obtain ⟨r, hrun, htruth⟩ := hends
  refine ⟨r, _, Prod.ext hrun rfl, htruth, fun records hrecords => ?_⟩
  exact ⟨_, book_run hrecords (h.handle m) s, htruth.recorded⟩

end Handler

namespace Store

/-- Tables record a row only if they reply with it, also under a plan of faults. -/
theorem recordsFollow_answerEffect :
    RecordsFollow (fun q w => answerEffect q w) fun w : FaultPlan × Store => w.2.records := by
  intro q w
  cases q with
  | store c =>
    have hstep : (answerUnder c w).2.2.records =
        w.2.records ++ recordedRows c (answerUnder c w).1 := by
      rcases answerUnder_cases c w.1 w.2 with ⟨fault, hreply⟩ | hreply
      · rw [hreply]
        cases fault <;> cases c <;> exact (List.append_nil _).symm
      · rw [hreply]
        exact records_answer c w.2
    exact hstep
  | publish topic payload timeout => exact (List.append_nil _).symm
  | post p => exact (List.append_nil _).symm

/-- The database finds the sensor, and then it gives no row : nothing is recorded, and the result
says so. -/
theorem truthful_handle_without_row :
    let s := (run (reconcile [⟨"pump", none, "hall", "east", 0⟩]) empty).2
    let answer : Answerer (FaultPlan × Store) := fun q w => answerEffect q w
    let h : Handler := .store "processed" .byTopic
    let m : Message := ⟨"processed/hall/east/pump",
      Text.utf8 "\x7b\"value\":1,\"timestamp\":\"2026-01-01T00:00:00+00:00\"\x7d"⟩
    RecordsFollow answer (fun w => w.2.records) ∧
      ∃ r t, Program.run answer (h.handle m) ([none, some .absent], s) = (.ok r, t) ∧
        Truthful answer ([none, some .absent], s) h m r
          (exchanges answer (h.handle m) ([none, some .absent], s)) ∧
        r.history = [.received, .matched, .decoded, .transformed, .failed] ∧
        ∃ rows, t.2.records = s.records ++ rows ∧ rows.map RecordRow.id = r.recordId.toList := by
  intro s answer h m
  obtain ⟨r, t, hrun, htruth, hrecords⟩ :=
    Handler.truthful_handle answer h m ([none, some .absent], s)
  have hhistory : (Program.run answer (h.handle m) ([none, some .absent], s)).1.map
      HandlerResult.history =
        .ok [.received, .matched, .decoded, .transformed, .failed] := by
    decide +kernel
  rw [hrun] at hhistory
  exact ⟨recordsFollow_answerEffect, r, t, hrun, htruth, Except.ok.inj hhistory,
    hrecords _ recordsFollow_answerEffect⟩

end Store
end SensorRelay
