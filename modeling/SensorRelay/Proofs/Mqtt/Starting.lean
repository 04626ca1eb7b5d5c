import SensorRelay.Proofs.Mqtt.Station

/-!
# Messages while the receiver starts

A receiver is started in two steps : it starts the loop of the client, and then it notes that it is
running. From the first of them on the network delivers connections and messages, in any order and
also before the call has returned, while the workers of the pool are at work (`World.Meanwhile`).
The start at a station is one such run (`World.startsUp_startReceiver`), and all its steps are those
of which the books are kept (`World.StartsUp.steps`).

Once the receiver has noted that it is running, every message is handed to the pool, which refuses
it only if its queue is full, and none is counted as lost (`World.handedOver_of_startsUp`). A
message between the two steps is lost, although the broker may have been asked for it by then and
has its acknowledgement (`World.lost_after_subscription`). The note comes one step too late.
-/

namespace SensorRelay.Receiver

open Pool

/-- The message is handed to the pool `p`, and it is counted as the pool counts it. Only a full
queue makes the pool refuse it. -/
structure HandedOver (p : Pool) (m : Message) (r r' : Receiver) : Prop where
  before : r.pool = some p
  after : r'.pool = some (p.enqueue m).2
  taken_iff : (p.enqueue m).1 = true ↔ p.isFull = false
  received : r'.counters.received = r.counters.received + 1
  enqueued : r'.counters.enqueued = r.counters.enqueued + if (p.enqueue m).1 then 1 else 0
  queueFull : r'.counters.queueFull = r.counters.queueFull + if (p.enqueue m).1 then 0 else 1
  notRunning : r'.counters.notRunning = r.counters.notRunning

/-- The message is lost : it is counted, and the pool does not see it. -/
structure Lost (r r' : Receiver) : Prop where
  pool : r'.pool = r.pool
  received : r'.counters.received = r.counters.received + 1
  notRunning : r'.counters.notRunning = r.counters.notRunning + 1

section Deliveries

variable {r : Receiver} {p : Pool}

theorem pool_onConnect (r : Receiver) (failure : Bool) :
    (r.onConnect failure).1.pool = r.pool := by
  unfold onConnect
  split <;> rfl

theorem running_onConnect (r : Receiver) (failure : Bool) :
    (r.onConnect failure).1.running = r.running := by
  unfold onConnect
  split <;> rfl

theorem notRunning_onConnect (r : Receiver) (failure : Bool) :
    (r.onConnect failure).1.counters.notRunning = r.counters.notRunning := by
  unfold onConnect
  dsimp only
  split
  · rfl
  · split <;> rfl

theorem running_onMessage (r : Receiver) (m : Message) (now : Binary64) :
    (r.onMessage m now).running = r.running := by
  unfold onMessage
  dsimp only
  split <;> rfl

theorem onMessage_of_running (hr : r.running = true) (hp : r.pool = some p) (m : Message)
    (now : Binary64) : r.onMessage m now =
      { r with
        pool := some (p.enqueue m).2
        counters := { r.counters with
          received := r.counters.received + 1
          enqueued := r.counters.enqueued + if (p.enqueue m).1 then 1 else 0
          queueFull := r.counters.queueFull + if (p.enqueue m).1 then 0 else 1
          lastMessageAt := now } } := by
  unfold onMessage
  rw [hr, hp]
  dsimp only
  cases (p.enqueue m).1 <;> rfl

theorem handedOver_onMessage (hr : r.running = true) (hp : r.pool = some p)
    (haccepts : p.accepting = true) (m : Message) (now : Binary64) :
    HandedOver p m r (r.onMessage m now) := by
  have htaken : (p.enqueue m).1 = true ↔ p.isFull = false := by
    unfold enqueue
    cases p.isFull <;> simp [haccepts]
  rw [onMessage_of_running hr hp]
  exact ⟨hp, rfl, htaken, rfl, rfl, rfl, rfl⟩

theorem lost_onMessage (hr : r.running = false) (m : Message) (now : Binary64) :
    Lost r (r.onMessage m now) := by
  unfold onMessage
  rw [hr]
  exact ⟨rfl, rfl, rfl⟩

end Deliveries

namespace World

/-! ## While the client is heard -/

/-- A step of the network, of a worker or of a publisher, while nobody starts or stops the
receiver. -/
inductive Meanwhile (w : World) : World → Prop
  | connack (failure : Bool) : Meanwhile w (w.connack failure)
  | disconnect : Meanwhile w { w with receiver := w.receiver.onDisconnect }
  | message (m : Message) (now : Binary64) :
    Meanwhile w { w with receiver := w.receiver.onMessage m now }
  | tell (calls : List ClientCall) (others : calls.filter isSubscription = []) :
    Meanwhile w (w.tell calls)
  | take {p q : Pool} {m : Message} (started : w.receiver.pool = some p)
      (head : p.take = some (m, q)) :
    Meanwhile w { w.withPool q with hands := ⟨m, .asking⟩ :: w.hands }
  | move (before : List Hand) {after : List Hand} {m : Message} {t t' : Task} {d : Dispatcher}
      (hand : w.hands = before ++ ⟨m, t⟩ :: after) (move : Task.Move m w.dispatcher t d t') :
    Meanwhile w { w with dispatcher := d, hands := before ++ ⟨m, t'⟩ :: after }
  | finish {p : Pool} (before : List Hand) {after : List Hand} {m : Message}
      {result : Except Failure HandlerResult} (started : w.receiver.pool = some p)
      (hand : w.hands = before ++ ⟨m, .ended result⟩ :: after) :
    Meanwhile w { w.withPool (p.finish m (.of result)) with hands := before ++ after }

/-- What such steps, one after the other, may lead to. -/
abbrev Meanwhiles : World → World → Prop := Relation.ReflTransGen Meanwhile

/-- The receiver has asked for a connection and starts the loop of the client. -/
def startLoop (w : World) : World := w.prepare.tell [.loopStart]

/-- The receiver notes that it is running. -/
def markRunning (w : World) : World := { w with receiver := w.receiver.markRunning }

/-- A start from the loop of the client up to `w`. In `u` the receiver is about to note that it is
running. -/
structure StartsUp (before u w : World) : Prop where
  early : Meanwhiles before.startLoop u
  late : Meanwhiles u.markRunning w

/-- The pool of the receiver accepts messages. -/
def Accepts (w : World) : Prop := ∃ p, w.receiver.pool = some p ∧ p.accepting = true

variable {before u w w' : World}

/-- These are steps of which the books are kept. -/
theorem Meanwhile.step (h : Meanwhile w w') : Step w w' := by
  cases h with
  | connack failure => exact .connack failure
  | disconnect => exact .disconnect
  | message m now => exact .message m now
  | tell calls others => exact .tell calls others
  | take started head => exact .take started head
  | move before hand move => exact .move before hand move
  | finish before started hand => exact .finish before started hand

/-- So the books agree after them. -/
theorem StartsUp.steps (h : StartsUp before u w) : Steps before w := by
  have prepared : Steps before before.startLoop :=
    (Relation.ReflTransGen.single .prepare).tail (.tell [.loopStart] rfl)
  have marked : Steps u u.markRunning := .single .markRunning
  have early := Relation.ReflTransGen.mono (fun _ _ => Meanwhile.step) _ _ h.early
  have late := Relation.ReflTransGen.mono (fun _ _ => Meanwhile.step) _ _ h.late
  exact ((prepared.trans early).trans marked).trans late

/-! ## What the steps keep -/

theorem accepts_startLoop (w : World) : w.startLoop.Accepts := by
  obtain ⟨⟨_, _ | p, _, _, _, _⟩, _, _, _, _, _⟩ := w <;> exact ⟨_, rfl, rfl⟩

theorem Meanwhile.running_eq (h : Meanwhile w w') :
    w'.receiver.running = w.receiver.running := by
  cases h with
  | connack failure => exact running_onConnect w.receiver failure
  | message m now => exact running_onMessage w.receiver m now
  | disconnect | tell | take | move | finish => rfl

theorem accepts_onMessage (hw : w.Accepts) (m : Message) (now : Binary64) :
    Accepts { w with receiver := w.receiver.onMessage m now } := by
  obtain ⟨p, hp, haccepts⟩ := hw
  cases hr : w.receiver.running with
  | true =>
    have henqueued : (p.enqueue m).2.accepting = true := by
      unfold enqueue
      split <;> exact haccepts
    exact ⟨_, (handedOver_onMessage hr hp haccepts m now).after, henqueued⟩
  | false => exact ⟨p, (lost_onMessage hr m now).pool.trans hp, haccepts⟩

theorem Meanwhile.accepts (h : Meanwhile w w') (hw : w.Accepts) : w'.Accepts := by
  obtain ⟨p, hp, haccepts⟩ := hw
  cases h with
  | connack failure => exact ⟨p, (pool_onConnect w.receiver failure).trans hp, haccepts⟩
  | message m now => exact accepts_onMessage ⟨p, hp, haccepts⟩ m now
  | disconnect | tell | move => exact ⟨p, hp, haccepts⟩
  | take started head =>
    obtain rfl := Option.some.inj (started.symm.trans hp)
    obtain ⟨rest, -, rfl⟩ := take_eq_some_iff.1 head
    exact ⟨_, rfl, haccepts⟩
  | @finish p' before after m result started hand =>
    obtain rfl := Option.some.inj (started.symm.trans hp)
    obtain ⟨acked, failed, ignored, errors, hfinish⟩ := finish_eq p' m (.of result)
    exact ⟨_, rfl, by rw [hfinish]; exact haccepts⟩

/-- While the receiver is running no message is counted as lost. -/
theorem Meanwhile.notRunning_eq (h : Meanwhile w w') (hrunning : w.receiver.running = true)
    (hw : w.Accepts) :
    w'.receiver.counters.notRunning = w.receiver.counters.notRunning := by
  obtain ⟨p, hp, haccepts⟩ := hw
  cases h with
  | connack failure => exact notRunning_onConnect w.receiver failure
  | message m now => exact (handedOver_onMessage hrunning hp haccepts m now).notRunning
  | disconnect | tell | take | move | finish => rfl

theorem Meanwhiles.running_eq (h : Meanwhiles w w') :
    w'.receiver.running = w.receiver.running := by
  induction h with
  | refl => rfl
  | tail _ step ih => exact step.running_eq.trans ih

theorem Meanwhiles.accepts (h : Meanwhiles w w') (hw : w.Accepts) : w'.Accepts := by
  induction h with
  | refl => exact hw
  | tail _ step ih => exact step.accepts ih

theorem Meanwhiles.notRunning_eq (h : Meanwhiles w w') (hrunning : w.receiver.running = true)
    (hw : w.Accepts) :
    w'.receiver.counters.notRunning = w.receiver.counters.notRunning := by
  induction h with
  | refl => rfl
  | tail steps step ih =>
    have hrunning' := (Meanwhiles.running_eq steps).trans hrunning
    exact (step.notRunning_eq hrunning' (Meanwhiles.accepts steps hw)).trans ih

/-! ## Starting at a station -/

theorem ofStation_waitFor (given : Pool) (connections : Nat) (r : Receiver) (timeout : Binary64)
    (n : Nat) (waited : Binary64) (s : Station) :
    ofStation given connections r (s.waitFor timeout n waited) =
      ofStation given connections r s := by
  obtain ⟨clock, naps, hwait⟩ := waitFor_eq timeout n waited s
  rw [hwait]
  rfl

theorem meanwhiles_answerConnect (given : Pool) (connections : Nat) (reply : ConnectReply)
    (r : Receiver) (s : Station) : ∃ connections', Meanwhiles (ofStation given connections r s)
      (ofStation given connections' (s.answerConnect reply r).1 (s.answerConnect reply r).2) := by
  cases reply with
  | accepted => exact ⟨_, .single (.connack false)⟩
  | declined => exact ⟨_, .single (.connack true)⟩
  | refused | silent => exact ⟨connections, .refl⟩

/-- A receiver that is started at a station starts up in this way, if the connection is not
refused at once. -/
theorem startsUp_startReceiver (given : Pool) (connections : Nat) {reply : ConnectReply}
    (hreply : reply ≠ .refused) (timeout : Binary64) (r : Receiver) (s : Station) :
    ∃ u connections', StartsUp (ofStation given connections r s) u
      (ofStation given connections' (s.startReceiver reply timeout (some given) r).2.1
        (s.startReceiver reply timeout (some given) r).2.2) := by
  obtain ⟨connections', hanswered⟩ := meanwhiles_answerConnect given connections reply
    (r.prepare (some given)) ((s.tell (connectCalls r.settings)).tell [.loopStart])
  refine ⟨_, connections', hanswered, ?_⟩
  rw [Station.startReceiver]
  dsimp only
  rw [if_neg hreply]
  split
  · exact .refl
  · -- The receiver only waits for the connection.
    rw [ofStation_waitFor]
    exact .refl

/-! ## Messages -/

/-- From the note on a message is handed to the pool. -/
theorem handedOver_of_startsUp (h : StartsUp before u w) (m : Message) (now : Binary64) :
    (∃ p, HandedOver p m w.receiver (w.receiver.onMessage m now)) ∧
      w.receiver.counters.notRunning = u.receiver.counters.notRunning := by
  have hu : u.Accepts := Meanwhiles.accepts h.early (accepts_startLoop before)
  have hmarked : u.markRunning.Accepts := hu
  obtain ⟨p, hp, haccepts⟩ := Meanwhiles.accepts h.late hmarked
  have hrunning : w.receiver.running = true := Meanwhiles.running_eq h.late
  have hcounted := Meanwhiles.notRunning_eq h.late rfl hmarked
  exact ⟨⟨p, handedOver_onMessage hrunning hp haccepts m now⟩, hcounted⟩

/-- The broker is connected before the note. The first message after it fills the queue, and the
second is refused by the pool, not lost. -/
theorem handedOver_to_full_queue :
    let settings : BrokerSettings := ⟨"broker", 1883, none, none, 20, 1, ["raw/#"]⟩
    let before := World.new settings 1 4 [] none
    let m : Message := ⟨"raw/hall/east/pump", []⟩
    let u := before.startLoop.connack false
    let w := { u.markRunning with receiver := u.markRunning.receiver.onMessage m (.ofInt 1) }
    StartsUp before u w ∧ (∃ p, HandedOver p m w.receiver (w.receiver.onMessage m (.ofInt 2))) ∧
      w.receiver.counters.notRunning = 0 ∧ w.receiver.counters.enqueued = 1 ∧
      (w.receiver.onMessage m (.ofInt 2)).counters.queueFull = 1 := by
  intro settings before m u w
  have h : StartsUp before u w := ⟨.single (.connack false), .single (.message m (.ofInt 1))⟩
  obtain ⟨hover, hcounted⟩ := handedOver_of_startsUp h m (.ofInt 2)
  exact ⟨h, hover, hcounted, rfl, rfl⟩

/-- Up to the note every message is lost, unless the receiver was running before. -/
theorem lost_of_early (hbefore : before.receiver.running = false)
    (h : Meanwhiles before.startLoop u) (m : Message) (now : Binary64) :
    Lost u.receiver (u.receiver.onMessage m now) :=
  lost_onMessage ((Meanwhiles.running_eq h).trans hbefore) m now

/-- The broker answers the connection and delivers a message to the new subscription, both before
the note. The message is lost, and the receiver has started well. -/
theorem lost_after_subscription :
    let settings : BrokerSettings := ⟨"broker", 1883, none, none, 20, 1, ["raw/#"]⟩
    let before := World.new settings 1000 4 [] none
    let m : Message := ⟨"raw/hall/east/pump", []⟩
    let subscribed := before.startLoop.connack false
    let u := { subscribed with receiver := subscribed.receiver.onMessage m (.ofInt 1) }
    StartsUp before u u.markRunning ∧
      subscribed.calls.filter isSubscription = [.subscribe [("raw/#", 1)]] ∧
      Lost subscribed.receiver u.receiver ∧ u.receiver.counters.notRunning = 1 ∧
      u.markRunning.receiver.isHealthy = true := by
  intro settings before m subscribed u
  have connected : Meanwhiles before.startLoop subscribed := .single (.connack false)
  have h : StartsUp before u u.markRunning := ⟨connected.tail (.message m (.ofInt 1)), .refl⟩
  exact ⟨h, rfl, lost_of_early rfl connected m (.ofInt 1), rfl, rfl⟩

end World

end SensorRelay.Receiver
