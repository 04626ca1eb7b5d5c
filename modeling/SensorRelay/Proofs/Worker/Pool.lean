import Mathlib.Data.List.Nodup
import SensorRelay.Proofs.Text.Digit
import SensorRelay.Worker.Pool

/-!
# The accounts of a pool

A pool is used by many parties in turn : it is started and stopped, messages are offered to it, and
each of its threads takes a message, dispatches it and is done with it. A `World` is the pool among
all the threads that were ever started, with books that the pool itself does not keep : the
attempts to enqueue a message, the messages that were accepted and those that were taken, each in
order, and the outcome of each. Messages may be alike, so the books tell them apart by their numbers
in the order of taking.

Stopping closes the pool, and sends its workers home at once, when the pool is drained or when a
deadline has passed. Threads may outlive that with a message in hand, and go on beside the threads
of the next start. Whatever the order of the steps, no message is lost and none is dispatched
twice (`Accounts`, `accounts_of_reachable`). Messages in a row are accepted up to the capacity
(`enqueueAll_eq`), and workers that were started together have names of their own (`names_start`).
-/

namespace SensorRelay.Pool

/-! ## Steps of a pool -/

/-- A message with its number among those that were taken. -/
abbrev Ticket := Message × Nat

/-- A pool at work. `hands` tells which thread holds which message, and `unfinished` is the count of
the queue itself, one up for each message put and one down for each that is done. -/
structure World where
  pool : Pool
  threads : Nat
  hands : List (Nat × Ticket)
  unfinished : Nat
  attempts : Nat
  accepted : List Message
  taken : List Message
  done : List (Ticket × Outcome)

namespace World

/-- A pool that has not been started. -/
def new (capacity workersPerStart : Int) : World :=
  ⟨.new capacity workersPerStart, 0, [], 0, 0, [], [], []⟩

/-- The pool is started, with more threads. -/
def start (w : World) : World :=
  { w with pool := w.pool.start, threads := w.threads + w.pool.workersPerStart.toNat }

/-- A message is offered to the pool. -/
def enqueue (w : World) (m : Message) : World :=
  let (taken, pool) := w.pool.enqueue m
  { w with
    pool
    attempts := w.attempts + 1
    unfinished := if taken then w.unfinished + 1 else w.unfinished
    accepted := if taken then w.accepted ++ [m] else w.accepted }

/-- A thread has taken a message out of the queue, which leaves `pool`. -/
def take (w : World) (thread : Nat) (m : Message) (pool : Pool) : World :=
  { w with
    pool
    hands := (thread, m, w.taken.length) :: w.hands
    taken := w.taken ++ [m] }

/-- A thread is done with the message it holds. -/
def finish (w : World) (thread : Nat) (ticket : Ticket) (o : Outcome) : World :=
  { w with
    pool := w.pool.finish ticket.1 o
    hands := w.hands.erase (thread, ticket)
    unfinished := w.unfinished - 1
    done := w.done ++ [(ticket, o)] }

/-- One atomic step. A thread holds one message at a time, and its dispatch may have any
outcome. -/
inductive Step (w : World) : World → Prop
  | start : Step w w.start
  | enqueue (m : Message) : Step w (w.enqueue m)
  | take (thread : Nat) {m : Message} {pool : Pool} (started : thread < w.threads)
      (free : thread ∉ w.hands.map Prod.fst) (head : w.pool.take = some (m, pool)) :
    Step w (w.take thread m pool)
  | finish (thread : Nat) (ticket : Ticket) (o : Outcome) (holds : (thread, ticket) ∈ w.hands) :
    Step w (w.finish thread ticket o)
  | close : Step w { w with pool := w.pool.close }
  | dismiss : Step w { w with pool := w.pool.dismiss }

/-- What any steps, one after the other, make of a new pool. -/
inductive Reachable (capacity workersPerStart : Int) : World → Prop
  | new : Reachable capacity workersPerStart (new capacity workersPerStart)
  | step {w w' : World} : Reachable capacity workersPerStart w → Step w w' →
    Reachable capacity workersPerStart w'

end World

/-! ## What the operations do -/

variable {p : Pool} {m : Message}

/-- The number of messages with this outcome. -/
def counter (p : Pool) : Outcome → Nat
  | .acked => p.acked
  | .failed => p.failed
  | .ignored => p.ignored
  | .broken => p.errors

theorem counter_finish (p : Pool) (m : Message) (o o' : Outcome) :
    (p.finish m o).counter o' = p.counter o' + if o = o' then 1 else 0 := by
  cases o <;> cases o' <;> rfl

theorem finish_eq (p : Pool) (m : Message) (o : Outcome) :
    ∃ acked failed ignored errors,
      p.finish m o = { p with held := p.held.erase m, acked, failed, ignored, errors } := by
  cases o <;> exact ⟨_, _, _, _, rfl⟩

theorem take_eq_some_iff {q : Pool} : p.take = some (m, q) ↔
    ∃ rest, p.queue = m :: rest ∧ q = { p with queue := rest, held := p.held ++ [m] } := by
  rw [take]
  split <;> simp_all [eq_comm]

theorem isFull_iff : p.isFull = true ↔ 0 < p.capacity ∧ p.capacity ≤ p.queue.length := by
  simp [isFull]

/-- A message is refused exactly by a pool that is closed or full. -/
theorem enqueue_eq_false_iff : (p.enqueue m).1 = false ↔
    p.accepting = false ∨ 0 < p.capacity ∧ p.capacity ≤ p.queue.length := by
  rw [← isFull_iff, enqueue]
  cases p.accepting <;> cases p.isFull <;> simp

theorem enqueue_of_true (h : (p.enqueue m).1 = true) :
    p.enqueue m = (true, { p with queue := p.queue ++ [m], enqueued := p.enqueued + 1 }) := by
  rw [enqueue] at h ⊢
  split <;> simp_all

theorem enqueue_of_false (h : (p.enqueue m).1 = false) :
    p.enqueue m = (false, { p with dropped := p.dropped + 1 }) := by
  rw [enqueue] at h ⊢
  split <;> simp_all

theorem isDrained_iff : p.isDrained = true ↔ p.queue = [] ∧ p.held = [] := by
  simp [isDrained]

/-- How many of so many messages in a row are accepted. -/
def room (p : Pool) (n : Nat) : Nat :=
  if p.accepting = false then 0
  else if 0 < p.capacity then min n (p.capacity.toNat - p.queue.length) else n

theorem room_of_true (h : (p.enqueue m).1 = true) (n : Nat) :
    p.room (n + 1) = (p.enqueue m).2.room n + 1 := by
  have hopen : ¬(p.accepting = false ∨ 0 < p.capacity ∧ p.capacity ≤ p.queue.length) := by
    rw [← enqueue_eq_false_iff (m := m), h]
    decide
  rw [enqueue_of_true h, room, room]
  dsimp only
  rw [if_neg fun haccepting => hopen (Or.inl haccepting),
    if_neg fun haccepting => hopen (Or.inl haccepting), List.length_append, List.length_singleton]
  split_ifs
  · omega
  · rfl

theorem room_of_false (h : (p.enqueue m).1 = false) (n : Nat) : p.room n = 0 := by
  rw [room]
  rcases enqueue_eq_false_iff.1 h with haccepting | ⟨hlimit, hfull⟩
  · rw [if_pos haccepting]
  · split_ifs
    · rfl
    · omega

/-- A pool accepts messages as long as it has room, and drops the rest. -/
theorem enqueueAll_eq (p : Pool) (ms : List Message) : p.enqueueAll ms =
    (List.replicate (p.room ms.length) true ++ List.replicate (ms.length - p.room ms.length) false,
      { p with
        queue := p.queue ++ ms.take (p.room ms.length)
        enqueued := p.enqueued + p.room ms.length
        dropped := p.dropped + (ms.length - p.room ms.length) }) := by
  induction ms generalizing p with
  | nil =>
    have hroom : p.room 0 = 0 := by
      rw [room]
      split_ifs <;> simp
    simp [enqueueAll, hroom]
  | cons m ms ih =>
    rw [enqueueAll]
    cases henqueue : (p.enqueue m).1 with
    | true =>
      rw [List.length_cons, room_of_true henqueue, enqueue_of_true henqueue]
      dsimp only
      rw [ih]
      simp [List.replicate_succ, Nat.add_assoc, Nat.add_comm 1]
    | false =>
      have hroom : room { p with dropped := p.dropped + 1 } ms.length = 0 :=
        room_of_false henqueue ms.length
      rw [List.length_cons, room_of_false henqueue, enqueue_of_false henqueue]
      dsimp only
      rw [ih, hroom]
      simp [List.replicate_succ, Nat.add_assoc, Nat.add_comm 1]

/-! ## Workers -/

theorem workerName_injective : Function.Injective workerName := by
  intro m n h
  have htext := congrArg String.toList h
  simp only [workerName, String.toList_append, String.toList_ofList] at htext
  exact Text.natChars_injective (List.append_cancel_left htext)

/-- A pool that is started at rest has as many workers as it is told, and tells them apart by their
names. -/
theorem names_start (h : p.workers = []) :
    (p.start.workers.map workerName).Nodup ∧
      p.start.workers.length = p.workersPerStart.toNat := by
  have hworkers : p.start.workers = List.range p.workersPerStart.toNat := by
    rw [start, h, List.nil_append]
  rw [hworkers]
  exact ⟨List.Nodup.map workerName_injective List.nodup_range, List.length_range⟩

/-! ## The books -/

/-- How the books of a pool agree with it. -/
structure Books (capacity : Int) (w : World) : Prop where
  capacity_eq : w.pool.capacity = capacity
  attempts : w.attempts = w.pool.enqueued + w.pool.dropped
  enqueued : w.pool.enqueued = w.accepted.length
  /-- Messages leave the queue in the order in which they were accepted. -/
  order : w.taken ++ w.pool.queue = w.accepted
  /-- Each message that was taken is in one hand or has been dispatched, once. -/
  tickets : (w.hands.map Prod.snd ++ w.done.map Prod.fst).Perm w.taken.zipIdx
  threads : (w.hands.map Prod.fst).Nodup
  held : w.pool.held.Perm (w.hands.map fun x => x.2.1)
  counted : ∀ o, w.pool.counter o = (w.done.map Prod.snd).count o
  unfinished : w.unfinished = w.pool.queue.length + w.hands.length
  bounded : 0 < capacity → w.pool.queue.length ≤ capacity

namespace Books

variable {capacity : Int} {w : World}

theorem new (capacity workersPerStart : Int) : Books capacity (.new capacity workersPerStart) where
  capacity_eq := rfl
  attempts := rfl
  enqueued := rfl
  order := rfl
  tickets := .refl _
  threads := List.nodup_nil
  held := .refl _
  counted := fun o => by cases o <;> rfl
  unfinished := rfl
  bounded := Int.le_of_lt

theorem start (hw : Books capacity w) : Books capacity w.start :=
  { hw with }

theorem close (hw : Books capacity w) : Books capacity { w with pool := w.pool.close } :=
  { hw with }

theorem dismiss (hw : Books capacity w) : Books capacity { w with pool := w.pool.dismiss } :=
  { hw with }

/-- A message that is accepted finds room in the queue. -/
theorem enqueue (hw : Books capacity w) (m : Message) : Books capacity (w.enqueue m) := by
  cases hm : (w.pool.enqueue m).1 with
  | false =>
    rw [World.enqueue, enqueue_of_false hm]
    exact
      { hw with
        attempts := by simp only [hw.attempts, Nat.add_assoc] }
  | true =>
    have hroom : ¬(w.pool.accepting = false ∨
        0 < w.pool.capacity ∧ w.pool.capacity ≤ w.pool.queue.length) := fun hfull =>
      nomatch hm.symm.trans (enqueue_eq_false_iff.2 hfull)
    rw [hw.capacity_eq] at hroom
    rw [World.enqueue, enqueue_of_true hm]
    exact
      { hw with
        attempts := by simp only [hw.attempts]; omega
        enqueued := by simp [hw.enqueued]
        order := by simp [← hw.order]
        unfinished := by simp [hw.unfinished]; omega
        bounded := fun hpos => by simp; omega }

/-- A message that is taken gets the next number. -/
theorem take (hw : Books capacity w) {thread : Nat} {pool : Pool}
    (free : thread ∉ w.hands.map Prod.fst) (head : w.pool.take = some (m, pool)) :
    Books capacity (w.take thread m pool) := by
  obtain ⟨rest, hqueue, rfl⟩ := take_eq_some_iff.1 head
  have hnumber : (w.taken ++ [m]).zipIdx = w.taken.zipIdx ++ [(m, w.taken.length)] := by
    simp [List.zipIdx_append]
  exact
    { hw with
      order := by simp [World.take, ← hw.order, hqueue]
      tickets := by
        rw [World.take, hnumber]
        exact (hw.tickets.cons _).trans (List.perm_append_singleton _ _).symm
      threads := List.nodup_cons.2 ⟨free, hw.threads⟩
      held := (List.perm_append_singleton _ _).trans (hw.held.cons m)
      unfinished := by
        simp [World.take, hw.unfinished, hqueue]
        omega
      bounded := fun hpos => by
        have := hw.bounded hpos
        simp [World.take, hqueue] at this ⊢
        omega }

/-- The ticket of a message that is done goes from the hands into the book of what is done. -/
theorem finish (hw : Books capacity w) {thread : Nat} {ticket : Ticket}
    (holds : (thread, ticket) ∈ w.hands) (o : Outcome) :
    Books capacity (w.finish thread ticket o) := by
  obtain ⟨acked, failed, ignored, errors, hfinish⟩ := finish_eq w.pool ticket.1 o
  have hcounter := counter_finish w.pool ticket.1 o
  have hhands := List.perm_cons_erase holds
  have hmoved : ((w.hands.erase (thread, ticket)).map Prod.snd ++
      (w.done ++ [(ticket, o)]).map Prod.fst).Perm
        (w.hands.map Prod.snd ++ w.done.map Prod.fst) := by
    rw [List.map_append, List.map_singleton, ← List.append_assoc]
    exact (List.perm_append_singleton _ _).trans ((hhands.map Prod.snd).symm.append_right _)
  have hlength := hhands.length_eq
  have hunfinished := hw.unfinished
  rw [World.finish]
  rw [hfinish] at hcounter ⊢
  exact
    { hw with
      tickets := hmoved.trans hw.tickets
      threads := hw.threads.sublist (List.erase_sublist.map _)
      held := by
        have hheld := (hw.held.trans (hhands.map fun x => x.2.1)).erase ticket.1
        rwa [List.map_cons, List.erase_cons_head] at hheld
      counted := fun o' => by
        rw [hcounter, hw.counted, List.map_append, List.count_append, List.map_singleton,
          List.count_singleton]
        simp
      unfinished := by
        simp only [List.length_cons] at hlength
        simp only
        omega }

theorem step {w' : World} (hw : Books capacity w) (h : World.Step w w') : Books capacity w' := by
  cases h with
  | start => exact hw.start
  | enqueue m => exact hw.enqueue m
  | take thread started free head => exact hw.take free head
  | finish thread ticket o holds => exact hw.finish holds o
  | close => exact hw.close
  | dismiss => exact hw.dismiss

end Books

/-- The books agree with the pool after any steps. -/
theorem World.Reachable.books {capacity workersPerStart : Int} {w : World}
    (h : w.Reachable capacity workersPerStart) : Books capacity w := by
  induction h with
  | new => exact .new capacity workersPerStart
  | step _ hstep ih => exact ih.step hstep

/-! ## Rounds of a worker -/

namespace World.Reachable

variable {capacity workersPerStart : Int} {σ : Type}
  (dispatch : Message → σ → Except Failure HandlerResult × σ)

/-- A round of a worker is the steps of a thread that takes a message and is done with it. -/
theorem workOnce {w : World} (h : w.Reachable capacity workersPerStart) {thread : Nat}
    (started : thread < w.threads) (free : thread ∉ w.hands.map Prod.fst) (s : σ) :
    ∃ w' : World, w'.Reachable capacity workersPerStart ∧
      w'.pool = (w.pool.workOnce dispatch s).1 ∧ w'.threads = w.threads ∧ w'.hands = w.hands := by
  rw [Pool.workOnce]
  cases htake : w.pool.take with
  | none => exact ⟨w, h, rfl, rfl, rfl⟩
  | some taken =>
    obtain ⟨m, pool⟩ := taken
    have holding := h.step (.take thread started free htake)
    have finished := holding.step
      (.finish thread (m, w.taken.length) (.of (dispatch m s).1) List.mem_cons_self)
    exact ⟨_, finished, rfl, rfl, List.erase_cons_head _ _⟩

/-- So are several rounds. -/
theorem work {w : World} (h : w.Reachable capacity workersPerStart) {thread : Nat}
    (started : thread < w.threads) (free : thread ∉ w.hands.map Prod.fst) (n : Nat) (s : σ) :
    ∃ w' : World, w'.Reachable capacity workersPerStart ∧
      w'.pool = (w.pool.work dispatch n s).1 := by
  induction n generalizing w s with
  | zero => exact ⟨w, h, rfl⟩
  | succ n ih =>
    obtain ⟨w', h', hpool, hthreads, hhands⟩ := h.workOnce dispatch started free s
    have hrest := ih h' (hthreads ▸ started) (hhands ▸ free) (w.pool.workOnce dispatch s).2
    rwa [hpool] at hrest

end World.Reachable

/-! ## What the books say -/

/-- Nothing is lost and nothing is dispatched twice : the books agree with the pool, and they account
for every message that was accepted. -/
structure Accounts (capacity : Int) (w : World) : Prop extends Books capacity w where
  conserved : w.pool.enqueued = w.pool.queue.length + w.hands.length +
    w.pool.acked + w.pool.failed + w.pool.ignored + w.pool.errors
  refused_iff : ∀ m, (w.pool.enqueue m).1 = false ↔
    w.pool.accepting = false ∨ 0 < capacity ∧ capacity ≤ w.pool.queue.length
  drained_iff : w.pool.isDrained = true ↔ w.unfinished = 0
  dispatched : w.pool.isDrained = true → (w.done.map Prod.fst).Perm w.accepted.zipIdx

theorem length_eq_sum_counts (os : List Outcome) :
    os.length = os.count .acked + os.count .failed + os.count .ignored + os.count .broken := by
  induction os with
  | nil => rfl
  | cons o os ih =>
    simp only [List.length_cons, ih, List.count_cons]
    cases o <;> simp <;> omega

namespace Books

variable {capacity : Int} {w : World} (hw : Books capacity w)
include hw

/-- Every message that was accepted is in the queue, in a hand or counted by its outcome. -/
theorem conserved : w.pool.enqueued = w.pool.queue.length + w.hands.length +
    w.pool.acked + w.pool.failed + w.pool.ignored + w.pool.errors := by
  have horder := congrArg List.length hw.order
  have htickets := hw.tickets.length_eq
  have hdone := length_eq_sum_counts (w.done.map Prod.snd)
  rw [← hw.counted, ← hw.counted, ← hw.counted, ← hw.counted] at hdone
  simp only [List.length_append, List.length_map, List.length_zipIdx] at horder htickets hdone
  simp only [counter] at hdone
  rw [hw.enqueued]
  omega

theorem hands_eq_nil_iff : w.hands = [] ↔ w.pool.held = [] := by
  have hheld := hw.held.length_eq
  rw [List.length_map] at hheld
  rw [← List.length_eq_zero_iff, ← hheld, List.length_eq_zero_iff]

theorem drained_iff : w.pool.isDrained = true ↔ w.unfinished = 0 := by
  rw [isDrained_iff, ← hw.hands_eq_nil_iff, hw.unfinished, Nat.add_eq_zero_iff,
    List.length_eq_zero_iff, List.length_eq_zero_iff]

/-- When the pool is drained all that was accepted has been dispatched. -/
theorem dispatched (h : w.pool.isDrained = true) :
    (w.done.map Prod.fst).Perm w.accepted.zipIdx := by
  obtain ⟨hqueue, hheld⟩ := isDrained_iff.1 h
  have htickets := hw.tickets
  rw [hw.hands_eq_nil_iff.2 hheld] at htickets
  rwa [← hw.order, hqueue, List.append_nil]

end Books

/-- The accounts hold after any steps of any number of threads, across restarts. -/
theorem accounts_of_reachable {capacity workersPerStart : Int} {w : World}
    (h : w.Reachable capacity workersPerStart) : Accounts capacity w := by
  have hw := h.books
  exact
    { toBooks := hw
      conserved := hw.conserved
      refused_iff := fun m => by rw [enqueue_eq_false_iff, hw.capacity_eq]
      drained_iff := hw.drained_iff
      dispatched := hw.dispatched }

/-- In a queue of two the third message is refused. A stop gives up on the message that a thread
holds, and after the next start a new thread takes the other one, while the dispatch of the first
breaks down at last. -/
theorem accounts_of_restart :
    ∃ w, World.Reachable 2 2 w ∧ Accounts 2 w ∧ w.threads = 4 ∧ w.pool.dropped = 1 ∧
      w.pool.isDrained = true ∧
      w.done.map (fun x => (x.1.2, x.2)) = [(1, .acked), (0, .broken)] := by
  let m : Message := ⟨"raw/hall/east/pump", []⟩
  have created : World.Reachable 2 2 (.new 2 2) := .new
  have offered := (((created.step .start).step (.enqueue m)).step (.enqueue m)).step (.enqueue m)
  have stopped := ((offered.step (.take 0 (by decide) (by decide) rfl)).step .close).step .dismiss
  have drained := (((stopped.step .start).step (.take 3 (by decide) (by decide) rfl)).step
    (.finish 3 (m, 1) .acked (by decide))).step (.finish 0 (m, 0) .broken (by decide))
  exact ⟨_, drained, accounts_of_reachable drained, by decide, by decide, by decide, by decide⟩

end SensorRelay.Pool
