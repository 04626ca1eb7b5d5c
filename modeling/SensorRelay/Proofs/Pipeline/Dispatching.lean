import Mathlib.Algebra.BigOperators.Group.List.Basic
import SensorRelay.Pipeline.Dispatcher
import SensorRelay.Proofs.Program.Run
import SensorRelay.Worker.Pool

/-!
# A dispatcher in many hands

The workers of a pool share one dispatcher. A worker asks the handlers about its message, counts
the result and, if that is a failure, posts a dead letter; in between the others may do the same.
A `Task` is how far a worker has come with a message, and `Task.Move` what it may do next : the
moves are the parts of `Dispatcher.dispatch`, with any replies to their requests.

A handler does not fail, whatever it is told (`Handler.neverFails_handle`), so that all that can
still break down is the posting of a letter, after the failure has been counted. At each point the
dispatcher is ahead of the pool by what it has counted for messages that are not finished
(`Task.ahead`). Every move keeps this (`Task.Move.counts_eq`), and the pool catches up when the
message is finished (`Pool.results_finish`).
-/

namespace SensorRelay

/-! ## Outcomes of programs -/

namespace Program

variable {I : Interface} {α β σ : Type}

/-- Some replies bring the program to this outcome. -/
inductive MayCome : Program I α → Except Failure α → Prop
  | done (a : α) : MayCome (.done a) (.ok a)
  | raise (f : Failure) : MayCome (.raise f) (.error f)
  | ask {q : I.Request} {next : Except Failure (I.Reply q) → Program I α} {o : Except Failure α}
      (r : Except Failure (I.Reply q)) (h : MayCome (next r) o) : MayCome (.ask q next) o

theorem mayCome_run (answer : (q : I.Request) → σ → Except Failure (I.Reply q) × σ)
    (p : Program I α) (s : σ) : p.MayCome (run answer p s).1 := by
  induction p generalizing s with
  | done a => exact .done a
  | raise f => exact .raise f
  | ask q next ih => exact .ask _ (ih _ _)

/-- A program one after another comes to its end after the first one has come to a result, unless
the first one fails. -/
theorem mayCome_of_bind {p : Program I α} {k : α → Program I β} {o : Except Failure β}
    (h : (p >>= k).MayCome o) :
    (∃ a, p.MayCome (.ok a) ∧ (k a).MayCome o) ∨ ∃ f, p.MayCome (.error f) := by
  induction p with
  | done a => exact Or.inl ⟨a, .done a, h⟩
  | raise f => exact Or.inr ⟨f, .raise f⟩
  | ask q next ih =>
    obtain _ | _ | ⟨r, hr⟩ := h
    rcases ih r hr with ⟨a, ha, hk⟩ | ⟨f, hf⟩
    · exact Or.inl ⟨a, .ask r ha, hk⟩
    · exact Or.inr ⟨f, .ask r hf⟩

/-- Whatever is replied, the program comes to a result. -/
def NeverFails (p : Program I α) : Prop :=
  ∀ f, ¬p.MayCome (.error f)

namespace NeverFails

theorem done (a : α) : (.done a : Program I α).NeverFails := by
  rintro f ⟨⟩

theorem ask {q : I.Request} {next : Except Failure (I.Reply q) → Program I α}
    (h : ∀ r, (next r).NeverFails) : (Program.ask q next).NeverFails := by
  rintro f (_ | _ | ⟨r, hr⟩)
  exact h r f hr

theorem bind {p : Program I α} {k : α → Program I β} (hp : p.NeverFails)
    (hk : ∀ a, (k a).NeverFails) : (p >>= k).NeverFails := by
  induction p with
  | done a => exact hk a
  | raise f => exact absurd (.raise f) (hp f)
  | ask q next ih => exact ask fun r => ih r fun f hf => hp f (.ask r hf)

theorem attempt (p : Program I α) : p.attempt.NeverFails := by
  induction p with
  | done a => exact done _
  | raise f => exact done _
  | ask q next ih => exact ask ih

end NeverFails
end Program

/-! ## Handlers -/

namespace Handler

open Program

theorem neverFails_republish (processed : String) (timeout : Binary64) (unit : String)
    (r : HandlerResult) (remainder : String) (payload : Bytes) :
    (republish processed timeout unit r remainder payload).NeverFails := by
  rw [republish]
  split
  · exact .done _
  · refine .ask fun reply => ?_
    cases reply <;> exact .done _

theorem neverFails_persist (r : HandlerResult) (sensorId : Int) (s : Sample) :
    (persist r sensorId s).NeverFails := by
  refine .ask fun (reply : Except Failure (Option RecordRow)) => ?_
  match reply with
  | .error _ | .ok none | .ok (some _) => exact .done _

theorem neverFails_record (lookup : Lookup) (r : HandlerResult) (remainder : String)
    (payload : Bytes) : (record lookup r remainder payload).NeverFails := by
  rw [record]
  split
  · exact .done _
  · refine .bind (.attempt _) fun found => ?_
    cases found with
    | error f => exact .done _
    | ok id => exact neverFails_persist _ _ _

/-- A handler comes to a result, whatever the publisher, the lookup and the database reply. -/
theorem neverFails_handle (h : Handler) (m : Message) : (h.handle m).NeverFails := by
  rw [handle]
  split
  · exact .done _
  · refine .bind ?_ fun _ => .done _
    cases h with
    | raw processed timeout unit => exact neverFails_republish _ _ _ _ _ _
    | store stage lookup => exact neverFails_record _ _ _ _

end Handler

namespace Dispatcher

theorem neverFails_offer (m : Message) (handlers : List Handler) :
    (offer m handlers).NeverFails := by
  induction handlers with
  | nil => exact .done _
  | cons h hs ih =>
    refine .bind (h.neverFails_handle m) fun r => ?_
    split
    · exact ih
    · exact .done _

/-- Posting a letter changes no more than the queue for letters, and the result is the same unless
the sink breaks down. -/
theorem mayCome_bury {d : Dispatcher} {m : Message} {r : HandlerResult}
    {o : Except Failure (Except Failure HandlerResult × Dispatcher)} (h : (d.bury m r).MayCome o) :
    ∃ result deadLetters, o = .ok (result, { d with deadLetters }) ∧
      (result = .ok r ∨ ∃ f, result = .error f) := by
  unfold bury at h
  split at h
  · unfold DeadLetterQueue.send at h
    split at h
    · cases h
      exact ⟨_, _, rfl, Or.inl rfl⟩
    · cases h with
      | ask reply h =>
        match reply, h with
        | .ok taken, .done _ => exact ⟨_, _, rfl, Or.inl rfl⟩
        | .error f, .done _ => exact ⟨_, _, rfl, Or.inr ⟨f, rfl⟩⟩
  · cases h
    exact ⟨_, d.deadLetters, rfl, Or.inl rfl⟩

end Dispatcher

/-! ## Counts -/

namespace Counts

attribute [ext] Counts

instance : Zero Counts := ⟨zero⟩

instance : Add Counts :=
  ⟨fun c d => ⟨c.acked + d.acked, c.failed + d.failed, c.ignored + d.ignored⟩⟩

theorem add_def (c d : Counts) :
    c + d = ⟨c.acked + d.acked, c.failed + d.failed, c.ignored + d.ignored⟩ :=
  rfl

instance : AddCommMonoid Counts where
  add_assoc c d e := by simp [add_def, Nat.add_assoc]
  zero_add c := by ext <;> exact Nat.zero_add _
  add_zero c := rfl
  add_comm c d := by simp [add_def, Nat.add_comm]
  nsmul := nsmulRec

/-- All messages that are counted. -/
def total (c : Counts) : Nat := c.acked + c.failed + c.ignored

theorem total_add (c d : Counts) : (c + d).total = c.total + d.total := by
  simp only [total, add_def]
  omega

/-- A result is one more count. -/
def ofResult (r : HandlerResult) : Counts := zero.add r

theorem add_eq (c : Counts) (r : HandlerResult) : c.add r = c + ofResult r := by
  unfold ofResult add
  split
  · rfl
  · split <;> rfl

theorem total_ofResult (r : HandlerResult) : (ofResult r).total = 1 := by
  unfold ofResult add
  split
  · rfl
  · split <;> rfl

/-- A failed result counts as one failure. -/
theorem ofResult_of_isFailed {r : HandlerResult} (h : r.isFailed = true) :
    ofResult r = ⟨0, 1, 0⟩ := by
  have hacked : r.isAcked = false := by
    rw [HandlerResult.isAcked, beq_iff_eq.1 h]
    rfl
  rw [ofResult, add, hacked, h]
  rfl

end Counts

/-- What the pool has counted, in the terms of a dispatcher : a dispatch that broke down had failed
before. -/
def Pool.results (p : Pool) : Counts := ⟨p.acked, p.failed + p.errors, p.ignored⟩

/-! ## Tasks -/

/-- How far a worker has come with a message : it asks the handlers, it has a letter to post about
a failure that is counted, or the dispatch has ended. -/
inductive Task where
  | asking
  | burying (r : HandlerResult) (failed : r.isFailed = true)
  | ended (result : Except Failure HandlerResult)

namespace Task

/-- A result that has been counted. -/
def reported (r : HandlerResult) : Task :=
  if failed : r.isFailed = true then .burying r failed else .ended (.ok r)

/-- What is counted by the dispatcher and not by the pool. -/
def ahead : Task → Counts
  | asking => 0
  | burying r _ => .ofResult r
  | ended (.ok r) => .ofResult r
  | ended (.error _) => ⟨0, 1, 0⟩

/-- What a worker may do next about its message, with what the dispatcher is before and after. -/
inductive Move (m : Message) (d : Dispatcher) : Task → Dispatcher → Task → Prop
  | breakDown {f : Failure} (h : (Dispatcher.offer m d.handlers).MayCome (.error f)) :
    Move m d .asking d (.ended (.error f))
  | count {found : Option HandlerResult}
      (h : (Dispatcher.offer m d.handlers).MayCome (.ok found)) :
    Move m d .asking { d with counts := d.counts.add (found.getD (Dispatcher.unclaimed m)) }
      (.reported (found.getD (Dispatcher.unclaimed m)))
  | bury {r : HandlerResult} {failed : r.isFailed = true} {result : Except Failure HandlerResult}
      {d' : Dispatcher} (h : (d.bury m r).MayCome (.ok (result, d'))) :
    Move m d (.burying r failed) d' (.ended result)
  | lose {r : HandlerResult} {failed : r.isFailed = true} {f : Failure}
      (h : (d.bury m r).MayCome (.error f)) :
    Move m d (.burying r failed) d (.ended (.error f))

/-- Moves that no others come between. -/
abbrev Moves (m : Message) : Dispatcher × Task → Dispatcher × Task → Prop :=
  Relation.ReflTransGen fun x y => Move m x.1 x.2 y.1 y.2

theorem reported_of_isFailed {r : HandlerResult} (failed : r.isFailed = true) :
    reported r = .burying r failed :=
  dif_pos failed

theorem reported_of_not_isFailed {r : HandlerResult} (h : ¬r.isFailed = true) :
    reported r = .ended (.ok r) :=
  dif_neg h

theorem ahead_reported (r : HandlerResult) : (reported r).ahead = .ofResult r := by
  unfold reported
  split <;> rfl

theorem total_ahead_ended (result : Except Failure HandlerResult) :
    (ended result).ahead.total = 1 := by
  cases result with
  | error f => rfl
  | ok r => exact Counts.total_ofResult r

variable {m : Message} {d d' : Dispatcher} {t t' : Task}

/-- A move counts for the dispatcher just what its task comes to be ahead. -/
theorem Move.counts_eq (h : Move m d t d' t') :
    ∃ c, d'.counts = d.counts + c ∧ t'.ahead = t.ahead + c := by
  cases h with
  | breakDown h => exact absurd h (Dispatcher.neverFails_offer _ _ _)
  | count h => exact ⟨_, Counts.add_eq _ _, by rw [ahead_reported, ahead, zero_add]⟩
  | @bury r failed result d' h =>
    obtain ⟨result, deadLetters, ho, hresult⟩ := Dispatcher.mayCome_bury h
    obtain ⟨rfl, rfl⟩ := Prod.mk.inj (Except.ok.inj ho)
    refine ⟨0, (add_zero _).symm, ?_⟩
    rcases hresult with rfl | ⟨f, rfl⟩
    · exact (add_zero _).symm
    · rw [ahead, ahead, Counts.ofResult_of_isFailed failed, add_zero]
  | @lose r failed f h =>
    refine ⟨0, (add_zero _).symm, ?_⟩
    rw [ahead, ahead, Counts.ofResult_of_isFailed failed, add_zero]

end Task

/-- A dispatch is moves that no others come between, and ends as they do. -/
theorem Dispatcher.moves_of_dispatch {d : Dispatcher} {m : Message}
    {o : Except Failure (Except Failure HandlerResult × Dispatcher)}
    (h : (d.dispatch m).MayCome o) :
    ∃ result d', o = .ok (result, d') ∧ Task.Moves m (d, .asking) (d', .ended result) := by
  obtain ⟨found, hfound, h⟩ | ⟨f, hf⟩ := Program.mayCome_of_bind h
  · have hreport : (d.report m (found.getD (unclaimed m))).MayCome o := by
      cases found <;> exact h
    have counted : Task.Moves m (d, .asking)
        ({ d with counts := d.counts.add (found.getD (unclaimed m)) },
          .reported (found.getD (unclaimed m))) := .single (.count hfound)
    unfold report at hreport
    dsimp only at hreport
    split at hreport
    · rename_i hfailed
      rw [Task.reported_of_isFailed hfailed] at counted
      obtain ⟨result, deadLetters, rfl, -⟩ := mayCome_bury hreport
      exact ⟨_, _, rfl, counted.tail (.bury hreport)⟩
    · rename_i hfailed
      rw [Task.reported_of_not_isFailed hfailed] at counted
      cases hreport
      exact ⟨_, _, rfl, counted⟩
  · exact absurd hf (neverFails_offer _ _ _)

/-- When a message is finished, the pool counts what the dispatcher was ahead by. -/
theorem Pool.results_finish (p : Pool) (m : Message) (result : Except Failure HandlerResult) :
    (p.finish m (.of result)).results = p.results + (Task.ended result).ahead := by
  cases result with
  | error f => rfl
  | ok r =>
    unfold Outcome.of Task.ahead Counts.ofResult Counts.add
    dsimp only
    split
    · rfl
    · split
      · simp [finish, count, results, Counts.add_def, Counts.zero, Nat.add_right_comm]
      · rfl

end SensorRelay
