import SensorRelay.Mqtt.Receiver
import SensorRelay.Proofs.Pipeline.Dispatching
import SensorRelay.Proofs.Worker.Pool

/-!
# The accounts of a receiver

Three parties keep books about the same messages : the receiver about what has arrived, its pool
about what was accepted and what became of it, and the dispatcher that the workers of the pool share
about the results. A `World` is the three of them at work, with the hands in which the workers hold
messages, what the client has been asked for and the number of connections that succeeded.

The receiver is started, connected, disconnected and stopped, messages arrive, and each worker takes
a message, dispatches it in the moves of `Task.Move` and finishes it ; the steps of all of them may
come in any order (`World.Step`). `Books` says how the books agree at each point. The pool and the
dispatcher differ by what is in the hands (`Balanced`), so that they agree once the pool is drained.
A sink that breaks down makes no difference : the message is an error for the pool, but it has been
counted as failed before (`accounts_of_steps`). The receiver shows its counters on a line, which
tells all of them (`eq_of_line_eq`).
-/

namespace SensorRelay.Receiver

open Pool

/-- Is it a request for a subscription? -/
def isSubscription : ClientCall → Bool
  | .subscribe _ => true
  | _ => false

/-- A worker's hand : the message that it holds and how far it has come. -/
structure Hand where
  message : Message
  task : Task

/-- A receiver at work with its pool and the dispatcher of the pool. `given` is the pool that the
receiver is started with, `calls` is what the client has been asked for, and `connections` counts
the connections that succeeded. -/
structure World where
  receiver : Receiver
  given : Pool
  dispatcher : Dispatcher
  hands : List Hand
  calls : List ClientCall
  connections : Nat

namespace World

/-- A receiver that has not been started, and a dispatcher that has seen no message. -/
def new (settings : BrokerSettings) (capacity workersPerStart : Int) (handlers : List Handler)
    (deadLetters : Option DeadLetterQueue) : World :=
  ⟨.new settings, .new capacity workersPerStart, .new handlers deadLetters, [], [], 0⟩

/-- The pool, which the receiver has from its first start on. -/
def pool (w : World) : Pool := w.receiver.pool.getD w.given

/-- The receiver has its pool in another state. -/
def withPool (w : World) (p : Pool) : World :=
  { w with receiver := { w.receiver with pool := some p } }

/-- The client is asked for something. -/
def tell (w : World) (calls : List ClientCall) : World := { w with calls := w.calls ++ calls }

/-- The receiver starts the pool and asks for a connection. -/
def prepare (w : World) : World :=
  { w with receiver := w.receiver.prepare (some w.given) }.tell (connectCalls w.receiver.settings)

/-- The broker answers a connection. -/
def connack (w : World) (failure : Bool) : World :=
  { w with
    receiver := (w.receiver.onConnect failure).1
    calls := w.calls ++ (w.receiver.onConnect failure).2
    connections := if failure then w.connections else w.connections + 1 }

/-- The receiver stops taking messages. -/
def beginStop (w : World) : World :=
  { w with receiver := w.receiver.beginStop.1 }.tell w.receiver.beginStop.2

/-- One atomic step. Starting the receiver, stopping it and the work of each worker are several
steps, which may come in any order among those of the others, and a publisher may use the client
as well. -/
inductive Step (w : World) : World → Prop
  | prepare : Step w w.prepare
  | abandon : Step w { w with receiver := w.receiver.abandon }
  | markRunning : Step w { w with receiver := w.receiver.markRunning }
  | connack (failure : Bool) : Step w (w.connack failure)
  | disconnect : Step w { w with receiver := w.receiver.onDisconnect }
  | message (m : Message) (now : Binary64) :
    Step w { w with receiver := w.receiver.onMessage m now }
  | beginStop : Step w w.beginStop
  | close {p : Pool} (started : w.receiver.pool = some p) : Step w (w.withPool p.close)
  | dismiss {p : Pool} (started : w.receiver.pool = some p) : Step w (w.withPool p.dismiss)
  | tell (calls : List ClientCall) (others : calls.filter isSubscription = []) :
    Step w (w.tell calls)
  | take {p q : Pool} {m : Message} (started : w.receiver.pool = some p)
      (head : p.take = some (m, q)) :
    Step w { w.withPool q with hands := ⟨m, .asking⟩ :: w.hands }
  | move (before : List Hand) {after : List Hand} {m : Message} {t t' : Task} {d : Dispatcher}
      (hand : w.hands = before ++ ⟨m, t⟩ :: after) (move : Task.Move m w.dispatcher t d t') :
    Step w { w with dispatcher := d, hands := before ++ ⟨m, t'⟩ :: after }
  | finish {p : Pool} (before : List Hand) {after : List Hand} {m : Message}
      {result : Except Failure HandlerResult} (started : w.receiver.pool = some p)
      (hand : w.hands = before ++ ⟨m, .ended result⟩ :: after) :
    Step w { w.withPool (p.finish m (.of result)) with hands := before ++ after }

/-- What steps, one after the other, may lead to. -/
abbrev Steps : World → World → Prop := Relation.ReflTransGen Step

end World

/-! ## The books of the pool and the dispatcher -/

/-- How the pool, the hands of its workers and the counts of the dispatcher agree. -/
structure Balanced (p : Pool) (hands : List Hand) (counts : Counts) : Prop where
  held : p.held.Perm (hands.map Hand.message)
  conserved : p.enqueued = p.queue.length + hands.length + p.results.total
  /-- The dispatcher has counted what the pool has counted, and what is in the hands. -/
  counted : counts = p.results + (hands.map fun h => h.task.ahead).sum

namespace Balanced

variable {p q : Pool} {hands before after : List Hand} {counts : Counts} {m : Message}

theorem new (capacity workersPerStart : Int) : Balanced (.new capacity workersPerStart) [] 0 where
  held := .refl _
  conserved := rfl
  counted := rfl

theorem enqueue (h : Balanced p hands counts) (m : Message) :
    Balanced (p.enqueue m).2 hands counts := by
  cases hm : (p.enqueue m).1 with
  | true =>
    have hconserved := h.conserved
    rw [enqueue_of_true hm]
    refine { h with conserved := ?_ }
    change p.enqueued + 1 = (p.queue ++ [m]).length + hands.length + p.results.total
    rw [List.length_append, List.length_singleton]
    omega
  | false =>
    rw [enqueue_of_false hm]
    exact { h with }

/-- For a message that is taken nothing has been counted. -/
theorem take (h : Balanced p hands counts) (head : p.take = some (m, q)) :
    Balanced q (⟨m, .asking⟩ :: hands) counts := by
  obtain ⟨rest, hqueue, rfl⟩ := take_eq_some_iff.1 head
  have hconserved := h.conserved
  refine ⟨(List.perm_append_singleton _ _).trans (h.held.cons m), ?_, ?_⟩
  · change p.enqueued = rest.length + (hands.length + 1) + p.results.total
    rw [hqueue, List.length_cons] at hconserved
    omega
  · rw [List.map_cons, List.sum_cons, Task.ahead, zero_add]
    exact h.counted

/-- What the dispatcher counts in a move it counts for the message in the hand. -/
theorem move {d d' : Dispatcher} {t t' : Task}
    (h : Balanced p (before ++ ⟨m, t⟩ :: after) d.counts) (move : Task.Move m d t d' t') :
    Balanced p (before ++ ⟨m, t'⟩ :: after) d'.counts := by
  obtain ⟨c, hcounts, hahead⟩ := move.counts_eq
  have hcounted := h.counted
  refine ⟨by simpa using h.held, by simpa using h.conserved, ?_⟩
  simp only [List.map_append, List.map_cons, List.sum_append, List.sum_cons] at hcounted ⊢
  rw [hcounts, hcounted, hahead]
  ac_rfl

/-- The pool counts a message that is finished as the dispatcher has counted it. -/
theorem finish {result : Except Failure HandlerResult}
    (h : Balanced p (before ++ ⟨m, .ended result⟩ :: after) counts) :
    Balanced (p.finish m (.of result)) (before ++ after) counts := by
  obtain ⟨acked, failed, ignored, errors, hfinish⟩ := finish_eq p m (.of result)
  have hheld := h.held
  have hconserved := h.conserved
  have hcounted := h.counted
  have hresults := p.results_finish m result
  constructor
  · rw [hfinish]
    rw [List.map_append, List.map_cons] at hheld
    have herased := (hheld.trans List.perm_middle).erase m
    rwa [List.erase_cons_head, ← List.map_append] at herased
  · rw [hresults, Counts.total_add, Task.total_ahead_ended, hfinish]
    change p.enqueued = p.queue.length + _ + _
    simp only [List.length_append, List.length_cons] at hconserved ⊢
    omega
  · simp only [List.map_append, List.map_cons, List.sum_append, List.sum_cons] at hcounted ⊢
    rw [hresults, hcounted]
    ac_rfl

end Balanced

/-! ## The books of the receiver -/

/-- How the counters of a receiver agree with its pool. -/
structure Received (c : ReceiveCounters) (p : Pool) : Prop where
  received : c.received = c.enqueued + c.queueFull + c.notRunning
  enqueued : c.enqueued = p.enqueued
  queueFull : c.queueFull = p.dropped

/-- Every message that has arrived was handed to the pool or rejected. -/
theorem Received.received_eq {c : ReceiveCounters} {p : Pool} (h : Received c p) :
    c.received = p.enqueued + c.rejected := by
  rw [h.received, h.enqueued, ReceiveCounters.rejected, Nat.add_assoc]

/-- The subscription to all topics, if there are any. -/
def subscription (settings : BrokerSettings) : List ClientCall :=
  if settings.topics.isEmpty then []
  else [.subscribe (settings.topics.map fun t => (t, settings.qos))]

/-- How the books of the receiver, the pool and the dispatcher agree. -/
structure Books (settings : BrokerSettings) (w : World) : Prop where
  settings_eq : w.receiver.settings = settings
  received : Received w.receiver.counters w.pool
  everConnected : w.receiver.everConnected = decide (0 < w.connections)
  reconnects : w.receiver.counters.reconnects = w.connections - 1
  subscribed : w.calls.filter isSubscription =
    (List.replicate w.connections (subscription settings)).flatten
  balanced : Balanced w.pool w.hands w.dispatcher.counts

theorem filter_connectCalls (settings : BrokerSettings) :
    (connectCalls settings).filter isSubscription = [] := by
  unfold connectCalls
  split
  · split <;> rfl
  · rfl

theorem filter_subscription (settings : BrokerSettings) :
    (subscription settings).filter isSubscription = subscription settings := by
  unfold subscription
  split <;> rfl

theorem onConnect_false (r : Receiver) : r.onConnect false =
    ({ r with
      connected := true
      everConnected := true
      counters := { r.counters with
        reconnects := if r.everConnected then r.counters.reconnects + 1
          else r.counters.reconnects } }, subscription r.settings) := by
  unfold onConnect
  cases r.everConnected <;> rfl

namespace Books

variable {settings : BrokerSettings} {w w' : World}

theorem new (settings : BrokerSettings) (capacity workersPerStart : Int) (handlers : List Handler)
    (deadLetters : Option DeadLetterQueue) :
    Books settings (.new settings capacity workersPerStart handlers deadLetters) where
  settings_eq := rfl
  received := ⟨rfl, rfl, rfl⟩
  everConnected := rfl
  reconnects := rfl
  subscribed := rfl
  balanced := .new capacity workersPerStart

/-- Calls that are no subscriptions do not matter. -/
theorem tell (hw : Books settings w) {calls : List ClientCall}
    (hcalls : calls.filter isSubscription = []) : Books settings (w.tell calls) :=
  { hw with
    subscribed := by rw [World.tell, List.filter_append, hcalls, List.append_nil, hw.subscribed] }

/-- Starting the pool changes no count. -/
theorem prepare (hw : Books settings w) : Books settings w.prepare := by
  refine tell ?_ (filter_connectCalls _)
  obtain ⟨⟨_, _ | p, _, _, _, _⟩, _, _, _, _, _⟩ := w <;>
    exact { hw with received := { hw.received with }, balanced := { hw.balanced with } }

theorem abandon (hw : Books settings w) :
    Books settings { w with receiver := w.receiver.abandon } := by
  obtain ⟨⟨_, _ | p, _, _, _, _⟩, _, _, _, _, _⟩ := w <;>
    exact { hw with received := { hw.received with }, balanced := { hw.balanced with } }

/-- The first connection that succeeds is none that comes again. -/
theorem connack (hw : Books settings w) (failure : Bool) : Books settings (w.connack failure) := by
  cases failure with
  | true =>
    exact
      { hw with
        subscribed := by
          rw [World.connack, onConnect]
          simp [hw.subscribed] }
  | false =>
    have hreconnects := hw.reconnects
    rw [World.connack, onConnect_false]
    exact
      { hw with
        received := { hw.received with }
        everConnected := by simp
        reconnects := by
          rw [hw.everConnected, hreconnects]
          simp only [decide_eq_true_eq]
          split <;> simp <;> omega
        subscribed := by
          rw [List.filter_append, hw.subscribed, hw.settings_eq, filter_subscription]
          simp [List.replicate_succ'] }

/-- A message is counted by the pool as well, unless the receiver has none or is not running. -/
theorem message (hw : Books settings w) (m : Message) (now : Binary64) :
    Books settings { w with receiver := w.receiver.onMessage m now } := by
  obtain ⟨hreceived, henqueued, hqueueFull⟩ := hw.received
  have hbalanced := hw.balanced.enqueue m
  rw [onMessage]
  split
  · rename_i p _ hp
    have hpool : w.pool = p := by
      rw [World.pool, hp]
      rfl
    rw [hpool] at henqueued hqueueFull hbalanced
    cases hm : (p.enqueue m).1 with
    | true =>
      rw [enqueue_of_true hm] at hbalanced ⊢
      refine { hw with received := ⟨?_, congrArg (· + 1) henqueued, hqueueFull⟩, balanced := ?_ }
      · simp only [hreceived, if_true]
        omega
      · exact hbalanced
    | false =>
      rw [enqueue_of_false hm] at hbalanced ⊢
      refine { hw with received := ⟨?_, henqueued, congrArg (· + 1) hqueueFull⟩, balanced := ?_ }
      · simp only [hreceived, Bool.false_eq_true, if_false]
        omega
      · exact hbalanced
  · exact { hw with received := ⟨congrArg (· + 1) hreceived, henqueued, hqueueFull⟩ }

theorem beginStop (hw : Books settings w) : Books settings w.beginStop := by
  have hcalls : w.receiver.beginStop.2.filter isSubscription = [] := by
    unfold Receiver.beginStop
    split <;> rfl
  have hbegun : Books settings { w with receiver := w.receiver.beginStop.1 } := { hw with }
  exact hbegun.tell hcalls

/-- The pool goes into a state with the same accepted and refused messages. -/
theorem withPool (hw : Books settings w) {q : Pool} {hands : List Hand}
    (henqueued : q.enqueued = w.pool.enqueued) (hdropped : q.dropped = w.pool.dropped)
    (hbalanced : Balanced q hands w.dispatcher.counts) :
    Books settings { w.withPool q with hands } :=
  { hw with
    received := ⟨hw.received.received, hw.received.enqueued.trans henqueued.symm,
      hw.received.queueFull.trans hdropped.symm⟩
    balanced := hbalanced }

theorem step (hw : Books settings w) (h : World.Step w w') : Books settings w' := by
  have hpool : ∀ {p}, w.receiver.pool = some p → w.pool = p := by
    intro p hp
    rw [World.pool, hp]
    rfl
  cases h with
  | prepare => exact hw.prepare
  | abandon => exact hw.abandon
  | markRunning => exact { hw with }
  | connack failure => exact hw.connack failure
  | disconnect => exact { hw with }
  | message m now => exact hw.message m now
  | beginStop => exact hw.beginStop
  | close started =>
    obtain rfl := hpool started
    exact hw.withPool rfl rfl { hw.balanced with }
  | dismiss started =>
    obtain rfl := hpool started
    exact hw.withPool rfl rfl { hw.balanced with }
  | tell calls others => exact hw.tell others
  | take started head =>
    obtain rfl := hpool started
    obtain ⟨rest, -, rfl⟩ := take_eq_some_iff.1 head
    exact hw.withPool rfl rfl (hw.balanced.take head)
  | move before hand move =>
    have hbalanced := hw.balanced
    rw [hand] at hbalanced
    exact { hw with balanced := hbalanced.move move }
  | @finish p before after m result started hand =>
    obtain rfl := hpool started
    have hbalanced := hw.balanced
    rw [hand] at hbalanced
    obtain ⟨acked, failed, ignored, errors, hfinish⟩ := finish_eq w.pool m (.of result)
    exact hw.withPool (by rw [hfinish]) (by rw [hfinish]) hbalanced.finish

/-- The books agree after any steps. -/
theorem steps (hw : Books settings w) (h : World.Steps w w') : Books settings w' := by
  induction h with
  | refl => exact hw
  | tail _ hstep ih => exact ih.step hstep

end Books

/-! ## The counters on a line -/

/-- Each count on the line ends at a space or with the line. -/
theorem toList_line (c : ReceiveCounters) : c.line.toList =
    "received=".toList ++ (Text.natChars c.received ++
      ' ' :: ("enqueued=".toList ++ (Text.natChars c.enqueued ++
      ' ' :: ("queue_full=".toList ++ (Text.natChars c.queueFull ++
      ' ' :: ("not_running=".toList ++ (Text.natChars c.notRunning ++
      ' ' :: ("reconnects=".toList ++ Text.natChars c.reconnects)))))))) := by
  -- `rw` would first have to derive the equation of `line`, which takes long.
  delta ReceiveCounters.line
  simp only [String.toList_append, String.toList_ofList, List.append_assoc]
  rfl

/-- The line tells all the counts that are on it. -/
theorem eq_of_line_eq {c d : ReceiveCounters} (h : c.line = d.line) :
    c.received = d.received ∧ c.enqueued = d.enqueued ∧ c.queueFull = d.queueFull ∧
      c.notRunning = d.notRunning ∧ c.reconnects = d.reconnects := by
  have hchars := congrArg String.toList h
  rw [toList_line, toList_line] at hchars
  obtain ⟨hreceived, hchars⟩ := Text.natChars_append_inj (List.append_cancel_left hchars)
  obtain ⟨henqueued, hchars⟩ := Text.natChars_append_inj (List.append_cancel_left hchars)
  obtain ⟨hqueueFull, hchars⟩ := Text.natChars_append_inj (List.append_cancel_left hchars)
  obtain ⟨hnotRunning, hchars⟩ := Text.natChars_append_inj (List.append_cancel_left hchars)
  exact ⟨hreceived, henqueued, hqueueFull, hnotRunning,
    Text.natChars_injective (List.append_cancel_left hchars)⟩

/-! ## What the books say -/

/-- Each of the three counts every message, and where they count the same they agree. -/
structure Accounts (settings : BrokerSettings) (w : World) : Prop where
  received : w.receiver.counters.received = w.receiver.counters.enqueued +
    w.receiver.counters.queueFull + w.receiver.counters.notRunning
  enqueued : w.receiver.counters.enqueued = w.pool.enqueued
  queueFull : w.receiver.counters.queueFull = w.pool.dropped
  reconnects : w.receiver.counters.reconnects = w.connections - 1
  /-- Each connection that succeeds is followed by one subscription, to all topics. -/
  subscribed : settings.topics ≠ [] → w.calls.filter isSubscription =
    List.replicate w.connections (.subscribe (settings.topics.map fun t => (t, settings.qos)))
  unsubscribed : settings.topics = [] → w.calls.filter isSubscription = []
  isDrained_iff : w.pool.isDrained = true ↔ w.pool.queue = [] ∧ w.hands = []
  dispatched : w.pool.queue = [] → w.hands = [] →
    w.pool.enqueued = w.dispatcher.counts.acked + w.dispatcher.counts.failed +
      w.dispatcher.counts.ignored ∧
    w.pool.acked = w.dispatcher.counts.acked ∧
    w.pool.ignored = w.dispatcher.counts.ignored ∧
    w.pool.failed + w.pool.errors = w.dispatcher.counts.failed

theorem Books.accounts {settings : BrokerSettings} {w : World} (hw : Books settings w) :
    Accounts settings w where
  received := hw.received.received
  enqueued := hw.received.enqueued
  queueFull := hw.received.queueFull
  reconnects := hw.reconnects
  subscribed htopics := by
    rw [hw.subscribed, subscription, if_neg (by simpa using htopics)]
    simp
  unsubscribed htopics := by
    rw [hw.subscribed, subscription, if_pos (by simp [htopics])]
    simp
  isDrained_iff := by
    have hheld := hw.balanced.held.length_eq
    rw [List.length_map] at hheld
    rw [Pool.isDrained_iff, ← List.length_eq_zero_iff (l := w.hands), ← hheld,
      List.length_eq_zero_iff]
  dispatched hqueue hhands := by
    obtain ⟨-, hconserved, hcounted⟩ := hw.balanced
    rw [hqueue, hhands] at hconserved
    rw [hhands, List.map_nil, List.sum_nil, add_zero] at hcounted
    rw [hcounted]
    exact ⟨by simpa [Counts.total] using hconserved, rfl, rfl, rfl⟩

/-- The accounts hold after any steps of the receiver, the network and the workers, whatever the
handlers and the sink are told. -/
theorem accounts_of_steps {settings : BrokerSettings} {capacity workersPerStart : Int}
    {handlers : List Handler} {deadLetters : Option DeadLetterQueue} {w : World}
    (h : World.Steps (.new settings capacity workersPerStart handlers deadLetters) w) :
    Accounts settings w :=
  (Books.steps (.new settings capacity workersPerStart handlers deadLetters) h).accounts

/-- A queue of one is full at the second message. A worker has counted the first as failed when the
receiver stops, and the sink breaks down while the letter is posted ; after a restart the broker
connects again. -/
theorem accounts_of_broken_sink :
    ∃ (settings : BrokerSettings) (w : World),
      World.Steps (.new settings 1 1 [.raw "processed" (.ofInt 10) "ms"]
        (some (.new "dead" 10 true))) w ∧
      Accounts settings w ∧ w.pool.isDrained = true ∧ w.receiver.counters.received = 3 ∧
      w.receiver.counters.notRunning = 1 ∧ w.pool.dropped = 1 ∧ w.pool.errors = 1 ∧
      w.dispatcher.counts = ⟨0, 1, 0⟩ ∧ w.receiver.counters.reconnects = 1 := by
  let settings : BrokerSettings := ⟨"broker", 1883, none, none, 20, 1, ["raw/#"]⟩
  let m : Message := ⟨"raw/a", []⟩
  let h : Handler := .raw "processed" (.ofInt 10) "ms"
  let r : HandlerResult := ⟨"raw/a", "raw", [.received, .matched, .failed],
    some ⟨.malformedPayload, "invalid raw payload length: expected 12, got 0", []⟩, none, none⟩
  have hoffer : (Dispatcher.offer m [h]).MayCome (.ok (some r)) := by
    have hrun : (Program.run (fun _ s => (.error .databaseUnreachable, s))
        (Dispatcher.offer m [h]) ()).1 = .ok (some r) := by decide +kernel
    exact hrun ▸ Program.mayCome_run _ _ _
  have created : World.Steps (.new settings 1 1 [h] (some (.new "dead" 10 true))) _ := .refl
  have early := created.tail (.message m (.ofInt 1))
  have asked := (early.tail .prepare).tail (.tell [.loopStart] rfl)
  have started := (asked.tail (.connack true)).tail .markRunning
  have connected := started.tail (.connack false)
  have offered := (connected.tail (.message m (.ofInt 2))).tail (.message m (.ofInt 3))
  have taken := offered.tail (.take rfl rfl)
  have counted := taken.tail (.move [] rfl (.count hoffer))
  have stopping := (counted.tail .beginStop).tail (.close rfl)
  have broken := stopping.tail
    (.move [] rfl (.bury (.ask (.error .databaseUnreachable) (.done _))))
  have finished := broken.tail (.finish [] rfl rfl)
  have stopped := (finished.tail (.dismiss rfl)).tail (.tell endStopCalls rfl)
  have again := (stopped.tail .prepare).tail (.connack false)
  refine ⟨settings, _, again, accounts_of_steps again, ?_⟩
  decide +kernel

end SensorRelay.Receiver
