import Mathlib.Data.List.Basic
import SensorRelay.Proofs.Program.Run

/-!
# Interleaved programs

Several programs over one interface may share a state. In each turn one of them makes its next
request, which is answered at once, and a schedule says whose turn it is (`Interleaving.run`).

`Program.Settles` is what a program promises in such company. Let `R` be the changes that the
requests of the programs may make to the state, one after the other. A program settles within
`n` requests if, whatever changes of `R` come between its requests, each of its own is a change
of `R`, it makes at most `n` of them and it ends with a result that satisfies the
postcondition or with an excused failure. Programs that settle alone settle together :
`Interleaving.settles_run` gives the promise of every program after every schedule, with the
requests it has made taken off its bound.
-/

namespace SensorRelay

variable {I : Interface} {α β σ : Type}

/-- Makes the next request of a program; one that has ended makes none. -/
def Program.step (answer : (q : I.Request) → σ → Except Failure (I.Reply q) × σ) :
    Program I α → σ → Program I α × σ
  | .ask q next, s => (next (answer q s).1, (answer q s).2)
  | p, s => (p, s)

/-- Programs and the state that they share. -/
structure Interleaving (I : Interface) (α σ : Type) where
  programs : List (Program I α)
  state : σ

namespace Interleaving

variable (answer : (q : I.Request) → σ → Except Failure (I.Reply q) × σ)

/-- The turn of the program at place `i`. -/
def turn (w : Interleaving I α σ) (i : Nat) : Interleaving I α σ :=
  match w.programs[i]? with
  | none => w
  | some p => ⟨w.programs.set i (p.step answer w.state).1, (p.step answer w.state).2⟩

/-- The turns of a schedule, one after the other. -/
def run (w : Interleaving I α σ) (schedule : List Nat) : Interleaving I α σ :=
  schedule.foldl (turn answer) w

end Interleaving

namespace Program

variable (answer : (q : I.Request) → σ → Except Failure (I.Reply q) × σ) (R : σ → σ → Prop)
  (excused : Failure → Prop)

/-- With changes of `R` before each request, the program makes at most `n` requests, which are
changes of `R` themselves, and ends with a result as in `post` or with an excused failure. -/
def Settles (post : α → σ → Prop) : Nat → Program I α → σ → Prop
  | _, .done a, s => post a s
  | _, .raise f, _ => excused f
  | 0, .ask _ _, _ => False
  | n + 1, .ask q next, s => ∀ t, R s t →
      R t (answer q t).2 ∧ Settles post n (next (answer q t).1) (answer q t).2

namespace Settles

variable {answer : (q : I.Request) → σ → Except Failure (I.Reply q) × σ} {R : σ → σ → Prop}
  {excused : Failure → Prop} {post post' : α → σ → Prop} {n m : Nat} {p : Program I α} {s t : σ}

theorem done {a : α} (h : post a s) : Settles answer R excused post n (.done a) s := by
  cases n <;> exact h

theorem of_done {a : α} (h : Settles answer R excused post n (.done a) s) : post a s := by
  cases n <;> exact h

theorem raise {f : Failure} (h : excused f) : Settles answer R excused post n (.raise f) s := by
  cases n <;> exact h

theorem of_raise {f : Failure} (h : Settles answer R excused post n (.raise f) s) : excused f := by
  cases n <;> exact h

/-- Without requests left, a program has ended. -/
theorem ended (h : Settles answer R excused post 0 p s) :
    (∃ a, p = .done a) ∨ ∃ f, p = .raise f := by
  cases p with
  | done a => exact Or.inl ⟨a, rfl⟩
  | raise f => exact Or.inr ⟨f, rfl⟩
  | ask q next => exact h.elim

theorem mono (hnm : n ≤ m) (hpost : ∀ a t, post a t → post' a t)
    (h : Settles answer R excused post n p s) : Settles answer R excused post' m p s := by
  induction n generalizing m p s with
  | zero =>
    obtain ⟨a, rfl⟩ | ⟨f, rfl⟩ := ended h
    · exact done (hpost a s (of_done h))
    · exact raise (of_raise h)
  | succ n ih =>
    cases p with
    | done a => exact done (hpost a s (of_done h))
    | raise f => exact raise (of_raise h)
    | ask q next =>
      obtain ⟨k, rfl⟩ : ∃ k, m = k + 1 := ⟨m - 1, by omega⟩
      intro t ht
      obtain ⟨hR, hnext⟩ := h t ht
      exact ⟨hR, ih (by omega) hnext⟩

section Transitive

variable (trans : ∀ s t u, R s t → R t u → R s u)
include trans

/-- The promise outlasts the changes of others. -/
theorem stable (hpost : ∀ a s t, R s t → post a s → post a t) (hR : R s t)
    (h : Settles answer R excused post n p s) : Settles answer R excused post n p t := by
  cases p with
  | done a => exact done (hpost a s t hR (of_done h))
  | raise f => exact raise (of_raise h)
  | ask q next =>
    cases n with
    | zero => exact h.elim
    | succ n => exact fun u hu => h u (trans s t u hR hu)

/-- One program after another : the bounds add up. -/
theorem bind {mid : α → σ → Prop} {post : β → σ → Prop} {k : α → Program I β}
    (h : Settles answer R excused mid n p s) (refl : ∀ s, R s s)
    (hk : ∀ a t, R s t → mid a t → Settles answer R excused post m (k a) t) :
    Settles answer R excused post (n + m) (p >>= k) s := by
  induction n generalizing p s with
  | zero =>
    obtain ⟨a, rfl⟩ | ⟨f, rfl⟩ := ended h
    · rw [Nat.zero_add]
      exact hk a s (refl s) (of_done h)
    · exact raise (of_raise h)
  | succ n ih =>
    cases p with
    | done a => exact mono (by omega) (fun _ _ h => h) (hk a s (refl s) (of_done h))
    | raise f => exact raise (of_raise h)
    | ask q next =>
      rw [Nat.add_right_comm]
      intro t ht
      obtain ⟨hR, hnext⟩ := h t ht
      refine ⟨hR, ih hnext fun a u hu hmid => hk a u ?_ hmid⟩
      exact trans s t u ht (trans t _ u hR hu)

end Transitive

/-- A single request. -/
theorem call {q : I.Request} {post : I.Reply q → σ → Prop}
    (h : ∀ t, R s t → R t (answer q t).2 ∧
      ∃ a, (answer q t).1 = .ok a ∧ post a (answer q t).2) :
    Settles answer R excused post 1 (.call q) s := by
  intro t ht
  obtain ⟨hR, a, ha, hpost⟩ := h t ht
  refine ⟨hR, ?_⟩
  rw [ha]
  exact done hpost

/-- Without company a program runs by changes of `R` to a result or to an excused failure. -/
theorem run (refl : ∀ s, R s s) (trans : ∀ s t u, R s t → R t u → R s u)
    (h : Settles answer R excused post n p s) :
    ∃ t, R s t ∧ ((∃ a, p.run answer s = (.ok a, t) ∧ post a t) ∨
      ∃ f, p.run answer s = (.error f, t) ∧ excused f) := by
  induction n generalizing p s with
  | zero =>
    obtain ⟨a, rfl⟩ | ⟨f, rfl⟩ := ended h
    · exact ⟨s, refl s, Or.inl ⟨a, rfl, of_done h⟩⟩
    · exact ⟨s, refl s, Or.inr ⟨f, rfl, of_raise h⟩⟩
  | succ n ih =>
    cases p with
    | done a => exact ⟨s, refl s, Or.inl ⟨a, rfl, of_done h⟩⟩
    | raise f => exact ⟨s, refl s, Or.inr ⟨f, rfl, of_raise h⟩⟩
    | ask q next =>
      obtain ⟨hR, hnext⟩ := h s (refl s)
      obtain ⟨t, ht, hrun⟩ := ih hnext
      exact ⟨t, trans s _ t hR ht, hrun⟩

/-- In its turn a program makes a change of `R` and is left with one request less. -/
theorem step (refl : ∀ s, R s s) (h : Settles answer R excused post n p s) :
    R s (p.step answer s).2 ∧
      Settles answer R excused post (n - 1) (p.step answer s).1 (p.step answer s).2 := by
  cases p with
  | done a => exact ⟨refl s, done (of_done h)⟩
  | raise f => exact ⟨refl s, raise (of_raise h)⟩
  | ask q next =>
    cases n with
    | zero => exact h.elim
    | succ n => exact h s (refl s)

end Settles

end Program

namespace Interleaving

variable {answer : (q : I.Request) → σ → Except Failure (I.Reply q) × σ} {R : σ → σ → Prop}
  {excused : Failure → Prop} {post : Nat → α → σ → Prop}

/-- Every program keeps its promise in a turn, and the one whose turn it is has one request
less to make. -/
theorem settles_turn (refl : ∀ s, R s s) (trans : ∀ s t u, R s t → R t u → R s u)
    (hpost : ∀ i a s t, R s t → post i a s → post i a t) {bound : Nat → Nat}
    {w : Interleaving I α σ} (i : Nat)
    (h : ∀ j (p : Program I α), w.programs[j]? = some p →
      p.Settles answer R excused (post j) (bound j) w.state) :
    R w.state (w.turn answer i).state ∧
      ∀ j (p : Program I α), (w.turn answer i).programs[j]? = some p →
        p.Settles answer R excused (post j) (bound j - if j = i then 1 else 0)
          (w.turn answer i).state := by
  unfold turn
  split
  · refine ⟨refl _, fun j p hp => ?_⟩
    rename_i hi
    obtain hj : j ≠ i := fun e => by simp [e, hi] at hp
    simpa [hj] using h j p hp
  · rename_i q hq
    obtain ⟨hR, hstep⟩ := (h i q hq).step refl
    refine ⟨hR, fun j p hp => ?_⟩
    have hi := (List.getElem?_eq_some_iff.1 hq).1
    by_cases hj : j = i
    · subst hj
      rw [List.getElem?_set_self hi] at hp
      obtain rfl := Option.some.inj hp
      simpa using hstep
    · rw [List.getElem?_set_ne (Ne.symm hj)] at hp
      simpa [hj] using (h j p hp).stable trans (hpost j) hR

/-- Every program keeps its promise through every schedule. -/
theorem settles_run (refl : ∀ s, R s s) (trans : ∀ s t u, R s t → R t u → R s u)
    (hpost : ∀ i a s t, R s t → post i a s → post i a t) (schedule : List Nat)
    {bound : Nat → Nat} {w : Interleaving I α σ}
    (h : ∀ j (p : Program I α), w.programs[j]? = some p →
      p.Settles answer R excused (post j) (bound j) w.state) :
    R w.state (w.run answer schedule).state ∧
      ∀ j (p : Program I α), (w.run answer schedule).programs[j]? = some p →
        p.Settles answer R excused (post j) (bound j - schedule.count j)
          (w.run answer schedule).state := by
  induction schedule generalizing w bound with
  | nil => exact ⟨refl _, by simpa [run] using h⟩
  | cons i schedule ih =>
    obtain ⟨hturn, hnext⟩ := settles_turn refl trans hpost i h
    obtain ⟨hrun, hall⟩ := ih hnext
    refine ⟨trans _ _ _ hturn hrun, fun j p hp => ?_⟩
    refine (hall j p hp).mono ?_ fun _ _ h => h
    rw [List.count_cons]
    by_cases hj : j = i
    · simp [hj, Nat.sub_sub, Nat.add_comm]
    · simp [hj, Ne.symm hj]

@[simp] theorem length_programs_run (w : Interleaving I α σ) (schedule : List Nat) :
    (w.run answer schedule).programs.length = w.programs.length := by
  induction schedule generalizing w with
  | nil => rfl
  | cons i schedule ih =>
    refine (ih (w.turn answer i)).trans ?_
    unfold turn
    split <;> simp

end Interleaving

end SensorRelay
