import SensorRelay.Bench.Station
import SensorRelay.Proofs.Mqtt.Accounts

/-!
# A station takes these steps

A station performs whole events : a receiver is started or stopped, a message arrives, the workers
do some rounds. Each event is a run of the atomic steps that the accounts are about
(`leads_perform`), a round of a worker with all its moves, the draining of a pool with the rounds
in it. So the accounts hold of what a station performs, whatever its publisher, its database and
its sink reply (`accounts_of_events`).
-/

namespace SensorRelay

/-! ## Calls of a publisher -/

namespace Environment

open Receiver (isSubscription)

theorem filter_publish (script : ClientScript) (qos : Int) (topic : String) (payload : Bytes)
    (timeout : Binary64) :
    (script.publish qos topic payload timeout).2.filter isSubscription = [] := by
  refine Program.run_keeps (P := fun log : List ClientCall => log.filter isSubscription = []) ?_ _
    rfl
  intro q log hlog
  cases q <;> simpa [ClientScript.answer, isSubscription] using hlog

/-- These calls have been made since, none of them for a subscription. -/
def CallsSince (e e' : Environment) : Prop :=
  ∃ calls, e'.calls = e.calls ++ calls ∧ calls.filter isSubscription = []

theorem CallsSince.note {e e' : Environment} (h : e.CallsSince e') {calls : List ClientCall}
    (hcalls : calls.filter isSubscription = []) : e.CallsSince (e'.note calls) := by
  obtain ⟨before, hbefore, hnone⟩ := h
  refine ⟨before ++ calls, ?_, by rw [List.filter_append, hnone, hcalls, List.append_nil]⟩
  rw [Environment.note, hbefore, List.append_assoc]

theorem callsSince_answer {e e' : Environment} (q : Effect) (h : e.CallsSince e') :
    e.CallsSince (answer q e').2 := by
  cases q with
  | store c =>
    rw [answer, answerStore]
    split <;> exact h
  | publish topic payload timeout =>
    rw [answer, answerPublish]
    split
    · exact h
    · exact h
    · exact h
    · rename_i qos _
      have hcalls := filter_publish .obliging qos topic payload timeout
      split <;>
      · rename_i calls hpublish
        rw [hpublish] at hcalls
        exact h.note hcalls
  | post p =>
    rw [answer, answerPost]
    split <;> exact h

theorem callsSince_run {α : Type} (p : Pipeline α) (e : Environment) :
    e.CallsSince (e.run p).2 :=
  Program.run_keeps (P := e.CallsSince) (fun q _ h => callsSince_answer q h) p
    ⟨[], (List.append_nil _).symm, rfl⟩

end Environment

namespace Receiver.World

open Station

/-! ## Rounds -/

/-- The receiver at a station where no worker holds a message. -/
def ofStation (given : Pool) (connections : Nat) (r : Receiver) (s : Station) : World :=
  ⟨r, given, s.dispatcher, [], s.env.calls, connections⟩

variable {given : Pool} {connections : Nat} {r : Receiver} {s : Station}

/-- Moves that no others come between are steps. -/
theorem steps_moves (w : World) {m : Message} (others : List Hand) {x y : Dispatcher × Task}
    (h : Task.Moves m x y) :
    Steps { w with dispatcher := x.1, hands := ⟨m, x.2⟩ :: others }
      { w with dispatcher := y.1, hands := ⟨m, y.2⟩ :: others } := by
  induction h with
  | refl => exact .refl
  | tail _ hmove ih => exact ih.tail (.move [] rfl hmove)

/-- Steps lead from one receiver at its station to another. No topic may break the dispatcher by
itself, which is no doing of a handler. -/
def Leads (given : Pool) (x y : Receiver × Station) : Prop :=
  x.2.brittle = none → y.2.brittle = none ∧
    ∀ n, ∃ n', Steps (ofStation given n x.1 x.2) (ofStation given n' y.1 y.2)

theorem Leads.refl (x : Receiver × Station) : Leads given x x :=
  fun hx => ⟨hx, fun n => ⟨n, .refl⟩⟩

theorem Leads.trans {x y z : Receiver × Station} (hxy : Leads given x y) (hyz : Leads given y z) :
    Leads given x z := by
  intro hx
  obtain ⟨hy, hxy⟩ := hxy hx
  obtain ⟨hz, hyz⟩ := hyz hy
  refine ⟨hz, fun n => ?_⟩
  obtain ⟨n', hxy⟩ := hxy n
  obtain ⟨n'', hyz⟩ := hyz n'
  exact ⟨n'', hxy.trans hyz⟩

/-- One step that leaves the workers alone. -/
theorem leads_of_step {r' : Receiver} {s' : Station} (hs : s'.brittle = s.brittle)
    (h : ∀ n, ∃ n', Step (ofStation given n r s) (ofStation given n' r' s')) :
    Leads given (r, s) (r', s') := by
  refine fun hx => ⟨hs.trans hx, fun n => ?_⟩
  obtain ⟨n', hstep⟩ := h n
  exact ⟨n', .single hstep⟩

/-- In a round a worker takes a message, dispatches it and finishes it, or there is none. -/
theorem leads_workOnce (r : Receiver) (p : Pool) (s : Station) :
    Leads given ({ r with pool := some p }, s)
      ({ r with pool := some (p.workOnce dispatch s).1 }, (p.workOnce dispatch s).2) := by
  intro hs
  rw [Pool.workOnce]
  cases htake : p.take with
  | none => exact ⟨hs, fun n => ⟨n, .refl⟩⟩
  | some taken =>
    obtain ⟨m, q⟩ := taken
    obtain ⟨result, d, hrun, hmoves⟩ := Dispatcher.moves_of_dispatch
      (Program.mayCome_run (fun q e => Environment.answer q e) (s.dispatcher.dispatch m) s.env)
    obtain ⟨calls, hcalls, hnone⟩ := Environment.callsSince_run (s.dispatcher.dispatch m) s.env
    have hdispatch : dispatch m s =
        (result, { s with dispatcher := d, env := (s.env.run (s.dispatcher.dispatch m)).2 }) := by
      have henv : s.env.run (s.dispatcher.dispatch m) =
          (.ok (result, d), (s.env.run (s.dispatcher.dispatch m)).2) := Prod.ext hrun rfl
      rw [dispatch, hs, Environment.dispatch, henv]
      rfl
    dsimp only
    rw [hdispatch]
    refine ⟨hs, fun n => ⟨n, ?_⟩⟩
    have taken := (Relation.ReflTransGen.refl (r := Step)
      (a := ofStation given n { r with pool := some p } s)).tail (.take rfl htake)
    have dispatched : Steps (ofStation given n { r with pool := some p } s)
        ⟨{ r with pool := some q }, given, d, [⟨m, .ended result⟩], s.env.calls ++ calls, n⟩ :=
      (taken.trans (steps_moves _ [] hmoves)).tail (.tell calls hnone)
    rw [← hcalls] at dispatched
    exact dispatched.tail (.finish [] rfl rfl)

theorem leads_work (n : Nat) (r : Receiver) (p : Pool) (s : Station) :
    Leads given ({ r with pool := some p }, s)
      ({ r with pool := some (s.work n p).1 }, (s.work n p).2) := by
  induction n generalizing p s with
  | zero => exact .refl _
  | succ n ih => exact (leads_workOnce r p s).trans (ih _ _)

/-! ## Stopping -/

/-- While the pool is drained its workers do their rounds. -/
theorem leads_drainUntil (deadline : Option Binary64) (n : Nat) (r : Receiver) (p : Pool)
    (s : Station) : Leads given ({ r with pool := some p }, s)
      ({ r with pool := some (drainUntil deadline n p s).1 }, (drainUntil deadline n p s).2) := by
  induction n generalizing p s with
  | zero => exact .refl _
  | succ n ih =>
    rw [drainUntil]
    split
    · exact .refl _
    · dsimp only
      split
      · exact (leads_workOnce r p (s.sleep drainNap)).trans (ih _ _)
      · exact ih p (s.sleep drainNap)

theorem leads_drain (timeout : Option Binary64) (r : Receiver) (p : Pool) (s : Station) :
    Leads given ({ r with pool := some p }, s)
      ({ r with pool := some (s.drain timeout p).1 }, (s.drain timeout p).2) :=
  leads_drainUntil _ _ r p s

theorem leads_stopPool (timeout : Option Binary64) (r : Receiver) (p : Pool) (s : Station) :
    Leads given ({ r with pool := some p }, s)
      ({ r with pool := some (s.stopPool true timeout p).1 }, (s.stopPool true timeout p).2) := by
  have closed : Leads given ({ r with pool := some p }, s) ({ r with pool := some p.close }, s) :=
    leads_of_step rfl fun n => ⟨n, .close rfl⟩
  exact (closed.trans (leads_drain timeout r p.close s)).trans
    (leads_of_step rfl fun n => ⟨n, .dismiss rfl⟩)

theorem leads_tell (calls : List ClientCall) (hcalls : calls.filter isSubscription = [])
    (r : Receiver) (s : Station) : Leads given (r, s) (r, s.tell calls) :=
  leads_of_step rfl fun n => ⟨n, .tell calls hcalls⟩

theorem leads_stopReceiver (timeout : Option Binary64) (r : Receiver) (s : Station) :
    Leads given (r, s) (s.stopReceiver timeout r) := by
  rw [stopReceiver]
  split
  · exact .refl _
  · have begun : Leads given (r, s) (r.beginStop.1, s.tell r.beginStop.2) :=
      leads_of_step rfl fun n => ⟨n, .beginStop⟩
    refine (begun.trans ?_).trans (leads_tell endStopCalls rfl _ _)
    dsimp only
    split
    · exact .refl _
    · rename_i p hp
      have hreceiver : r.beginStop.1 = { r.beginStop.1 with pool := some p } := by
        rw [← hp]
        rfl
      rw [hreceiver]
      exact leads_stopPool timeout r.beginStop.1 p (s.tell r.beginStop.2)

/-! ## Starting -/

theorem leads_connack (failure : Bool) (r : Receiver) (s : Station) :
    Leads given (r, s) (s.connack failure r) :=
  leads_of_step rfl fun _ => ⟨_, .connack failure⟩

theorem leads_answerConnect (reply : ConnectReply) (r : Receiver) (s : Station) :
    Leads given (r, s) (s.answerConnect reply r) := by
  cases reply with
  | accepted => exact leads_connack false r s
  | declined => exact leads_connack true r s
  | refused | silent => exact .refl _

theorem leads_markRunning (r : Receiver) (s : Station) : Leads given (r, s) (r.markRunning, s) :=
  leads_of_step rfl fun n => ⟨n, .markRunning⟩

/-- Waiting moves nothing but the clock. -/
theorem waitFor_eq (timeout : Binary64) (n : Nat) (waited : Binary64) (s : Station) :
    ∃ clock naps, s.waitFor timeout n waited = { s with clock, naps } := by
  induction n generalizing waited s with
  | zero => exact ⟨s.clock, s.naps, rfl⟩
  | succ n ih =>
    rw [waitFor]
    split
    · exact ih _ (s.sleep connectNap)
    · exact ⟨s.clock, s.naps, rfl⟩

theorem leads_waitFor (timeout : Binary64) (n : Nat) (waited : Binary64) (r : Receiver)
    (s : Station) : Leads given (r, s) (r, s.waitFor timeout n waited) := by
  obtain ⟨clock, naps, hwait⟩ := waitFor_eq timeout n waited s
  rw [hwait]
  exact fun hs => ⟨hs, fun n => ⟨n, .refl⟩⟩

theorem leads_startReceiver (reply : ConnectReply) (timeout : Binary64) (r : Receiver)
    (s : Station) : Leads given (r, s) (s.startReceiver reply timeout (some given) r).2 := by
  have prepared : Leads given (r, s) (r.prepare (some given), s.tell (connectCalls r.settings)) :=
    leads_of_step rfl fun n => ⟨n, .prepare⟩
  rw [startReceiver]
  dsimp only
  split
  · exact prepared.trans (leads_of_step rfl fun n => ⟨n, .abandon⟩)
  · have answered := (prepared.trans (leads_tell [.loopStart] rfl _ _)).trans
      (leads_answerConnect reply _ _)
    have running := answered.trans (leads_markRunning _ _)
    split
    · exact running
    · exact running.trans (leads_waitFor _ _ _ _ _)

/-! ## Events -/

/-- What happens at a station. -/
inductive Event where
  | start (reply : ConnectReply) (timeout : Binary64)
  | connack (failure : Bool)
  | disconnect
  | message (m : Message)
  | work (rounds : Nat)
  | stop (timeout : Option Binary64)

/-- A receiver and its station after an event. Each start comes with the same pool. -/
def Event.perform (given : Pool) : Receiver × Station → Event → Receiver × Station
  | (r, s), .start reply timeout => (s.startReceiver reply timeout (some given) r).2
  | (r, s), .connack failure => s.connack failure r
  | (r, s), .disconnect => (r.onDisconnect, s)
  | (r, s), .message m => (s.deliver m r, s)
  | (r, s), .work rounds =>
    match r.pool with
    | none => (r, s)
    | some p => ({ r with pool := some (s.work rounds p).1 }, (s.work rounds p).2)
  | (r, s), .stop timeout => s.stopReceiver timeout r

/-- Each event is a run of steps. -/
theorem leads_perform (x : Receiver × Station) (e : Event) :
    Leads given x (e.perform given x) := by
  obtain ⟨r, s⟩ := x
  cases e with
  | start reply timeout => exact leads_startReceiver reply timeout r s
  | connack failure => exact leads_connack failure r s
  | disconnect => exact leads_of_step rfl fun n => ⟨n, .disconnect⟩
  | message m => exact leads_of_step rfl fun n => ⟨n, .message m s.clock⟩
  | work rounds =>
    rw [Event.perform]
    split
    · exact .refl _
    · rename_i p hp
      obtain ⟨settings, _, running, connected, everConnected, counters⟩ := r
      obtain rfl : _ = some p := hp
      exact leads_work rounds _ p s
  | stop timeout => exact leads_stopReceiver timeout r s

theorem leads_foldl (events : List Event) (x : Receiver × Station) :
    Leads given x (events.foldl (Event.perform given) x) := by
  induction events generalizing x with
  | nil => exact .refl _
  | cons e events ih => exact (leads_perform x e).trans (ih _)

/-- The accounts hold after any events at a station, however its publisher, its database and its
sink behave. -/
theorem accounts_of_events (settings : BrokerSettings) (capacity workersPerStart : Int)
    {handlers : List Handler} {deadLetters : Option DeadLetterQueue} {s : Station}
    (hnew : s.dispatcher = .new handlers deadLetters) (hcalls : s.env.calls = [])
    (hs : s.brittle = none) (events : List Event) :
    let given := Pool.new capacity workersPerStart
    let x := events.foldl (Event.perform given) (.new settings, s)
    ∃ n, Accounts settings (ofStation given n x.1 x.2) := by
  intro given x
  obtain ⟨-, hsteps⟩ := leads_foldl events (.new settings, s) hs
  obtain ⟨n, hsteps⟩ := hsteps 0
  have hstart : ofStation given 0 (.new settings) s =
      World.new settings capacity workersPerStart handlers deadLetters := by
    rw [ofStation, hnew, hcalls]
    rfl
  rw [hstart] at hsteps
  exact ⟨n, (Books.steps (.new _ _ _ _ _) hsteps).accounts⟩

end Receiver.World
end SensorRelay
