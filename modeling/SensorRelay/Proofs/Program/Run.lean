import SensorRelay.Program

/-!
# Runs of programs

A run makes the requests of a program one after the other. What every single reply keeps, a
whole run keeps (`Program.run_keeps`), and a run of one program after another is a run of the
first and then of the second (`Program.run_bind`). `Program.requests` counts what a run asks for,
and `Program.exchanges` tells what it asks and what it is told.
-/

namespace SensorRelay

@[simp] theorem ok_bind {ε α β : Type} (a : α) (f : α → Except ε β) :
    (Except.ok a : Except ε α) >>= f = f a :=
  rfl

theorem bind_eq_ok_iff {ε α β : Type} {x : Except ε α} {f : α → Except ε β} {b : β} :
    x >>= f = .ok b ↔ ∃ a, x = .ok a ∧ f a = .ok b := by
  cases x <;> simp [bind, Except.bind]

namespace Program

variable {I : Interface} {α β σ : Type}
  {answer : (q : I.Request) → σ → Except Failure (I.Reply q) × σ}

@[simp] theorem pure_eq_done (a : α) : (pure a : Program I α) = .done a :=
  rfl

@[simp] theorem done_bind (a : α) (k : α → Program I β) : (.done a : Program I α) >>= k = k a :=
  rfl

@[simp] theorem raise_bind (f : Failure) (k : α → Program I β) :
    (.raise f : Program I α) >>= k = .raise f :=
  rfl

@[simp] theorem ask_bind (q : I.Request) (next : Except Failure (I.Reply q) → Program I α)
    (k : α → Program I β) : (.ask q next : Program I α) >>= k = .ask q fun r => next r >>= k :=
  rfl

/-- Programs one after the other may be grouped in any way. -/
theorem bind_assoc {γ : Type} (p : Program I α) (k : α → Program I β) (l : β → Program I γ) :
    p >>= k >>= l = p >>= fun a => k a >>= l := by
  induction p with
  | done a => rfl
  | raise f => rfl
  | ask q next ih => exact congrArg (Program.ask q) (funext ih)

@[simp] theorem run_done (a : α) (s : σ) : run answer (.done a) s = (.ok a, s) :=
  rfl

@[simp] theorem run_raise (f : Failure) (s : σ) :
    run answer (.raise f : Program I α) s = (.error f, s) :=
  rfl

@[simp] theorem run_ask (q : I.Request) (next : Except Failure (I.Reply q) → Program I α) (s : σ) :
    run answer (.ask q next) s = run answer (next (answer q s).1) (answer q s).2 :=
  rfl

/-- What every reply keeps, a whole run keeps. -/
theorem run_keeps {P : σ → Prop} (h : ∀ q s, P s → P (answer q s).2) (p : Program I α) {s : σ}
    (hs : P s) : P (run answer p s).2 := by
  induction p generalizing s with
  | done a => exact hs
  | raise f => exact hs
  | ask q next ih => exact ih _ (h q s hs)

/-- After a program that ends with a result, the next one goes on from the state it left. -/
theorem run_bind (p : Program I α) (k : α → Program I β) (s : σ) :
    run answer (p >>= k) s =
      match run answer p s with
      | (.ok a, t) => run answer (k a) t
      | (.error f, t) => (.error f, t) := by
  induction p generalizing s with
  | done a => rfl
  | raise f => rfl
  | ask q next ih => exact ih _ _

theorem run_bind_of_ok {p : Program I α} {a : α} {s t : σ} (h : run answer p s = (.ok a, t))
    (k : α → Program I β) : run answer (p >>= k) s = run answer (k a) t := by
  rw [run_bind, h]

theorem run_bind_of_error {p : Program I α} {f : Failure} {s t : σ}
    (h : run answer p s = (.error f, t)) (k : α → Program I β) :
    run answer (p >>= k) s = (.error f, t) := by
  rw [run_bind, h]

/-- An attempt ends with the outcome, in the state that the program left. -/
theorem run_attempt (p : Program I α) (s : σ) :
    run answer p.attempt s = (.ok (run answer p s).1, (run answer p s).2) := by
  induction p generalizing s with
  | done a => rfl
  | raise f => rfl
  | ask q next ih => exact ih _ _

/-- The number of requests of a run. -/
def requests (answer : (q : I.Request) → σ → Except Failure (I.Reply q) × σ) :
    Program I α → σ → Nat
  | .done _, _ => 0
  | .raise _, _ => 0
  | .ask q next, s => requests answer (next (answer q s).1) (answer q s).2 + 1

/-! ## Logs of runs -/

/-- A request and the reply to it. -/
abbrev Exchange (I : Interface) := (q : I.Request) × Except Failure (I.Reply q)

/-- The requests of a run with their replies, in order. -/
def exchanges (answer : (q : I.Request) → σ → Except Failure (I.Reply q) × σ) :
    Program I α → σ → List (Exchange I)
  | .done _, _ => []
  | .raise _, _ => []
  | .ask q next, s =>
    ⟨q, (answer q s).1⟩ :: exchanges answer (next (answer q s).1) (answer q s).2

@[simp] theorem exchanges_ask (q : I.Request) (next : Except Failure (I.Reply q) → Program I α)
    (s : σ) : exchanges answer (.ask q next) s =
      ⟨q, (answer q s).1⟩ :: exchanges answer (next (answer q s).1) (answer q s).2 :=
  rfl

/-- After a program that ends with a result, the log goes on with that of the next. -/
theorem exchanges_bind_of_ok {p : Program I α} {a : α} {s t : σ}
    (h : run answer p s = (.ok a, t)) (k : α → Program I β) :
    exchanges answer (p >>= k) s = exchanges answer p s ++ exchanges answer (k a) t := by
  induction p generalizing s with
  | done b =>
    obtain ⟨hb, rfl⟩ := Prod.mk.inj h
    rw [Except.ok.inj hb]
    rfl
  | raise f => cases (Prod.mk.inj h).1
  | ask q next ih => exact congrArg (List.cons _) (ih _ h)

theorem exchanges_attempt (p : Program I α) (s : σ) :
    exchanges answer p.attempt s = exchanges answer p s := by
  induction p generalizing s with
  | done a => rfl
  | raise f => rfl
  | ask q next ih => exact congrArg (List.cons _) (ih _ _)

/-- What a run comes to : `P` holds of its outcome and its log. -/
def Comes (answer : (q : I.Request) → σ → Except Failure (I.Reply q) × σ) (p : Program I α)
    (s : σ) (P : Except Failure α → List (Exchange I) → Prop) : Prop :=
  P (run answer p s).1 (exchanges answer p s)

/-- The run ends with a result, and `P` holds of the result and the log. -/
def Ends (answer : (q : I.Request) → σ → Except Failure (I.Reply q) × σ) (p : Program I α)
    (s : σ) (P : α → List (Exchange I) → Prop) : Prop :=
  Comes answer p s fun outcome log => ∃ a, outcome = .ok a ∧ P a log

theorem Comes.ask {q : I.Request} {next : Except Failure (I.Reply q) → Program I α} {s : σ}
    {P : Except Failure α → List (Exchange I) → Prop}
    (h : ∀ r t, Comes answer (next r) t fun outcome log => P outcome (⟨q, r⟩ :: log)) :
    Comes answer (.ask q next) s P :=
  h (answer q s).1 (answer q s).2

namespace Ends

variable {p : Program I α} {s : σ} {P : α → List (Exchange I) → Prop}

theorem done {a : α} (h : P a []) : Ends answer (.done a) s P :=
  ⟨a, rfl, h⟩

theorem ask {q : I.Request} {next : Except Failure (I.Reply q) → Program I α}
    (h : ∀ r t, Ends answer (next r) t fun a log => P a (⟨q, r⟩ :: log)) :
    Ends answer (.ask q next) s P :=
  Comes.ask h

/-- What is asked first, if the reply is known. -/
theorem ask_of_reply {q : I.Request} {next : Except Failure (I.Reply q) → Program I α}
    {r : Except Failure (I.Reply q)} {t : σ} (hreply : answer q s = (r, t))
    (h : Ends answer (next r) t fun a log => P a (⟨q, r⟩ :: log)) :
    Ends answer (.ask q next) s P := by
  rw [Ends, Comes, run_ask, exchanges_ask, hreply]
  exact h

theorem bind {k : α → Program I β} {Q : β → List (Exchange I) → Prop} {a : α} {t : σ}
    (hp : run answer p s = (.ok a, t))
    (hk : Ends answer (k a) t fun b log => Q b (exchanges answer p s ++ log)) :
    Ends answer (p >>= k) s Q := by
  obtain ⟨b, hrun, hQ⟩ := hk
  refine ⟨b, ?_, ?_⟩
  · rw [run_bind_of_ok hp, hrun]
  · rwa [exchanges_bind_of_ok hp]

/-- What follows a result without a request keeps the log. -/
theorem map {f : α → β} {Q : β → List (Exchange I) → Prop}
    (h : Ends answer p s fun a log => Q (f a) log) :
    Ends answer (p >>= fun a => .done (f a)) s Q := by
  obtain ⟨a, hrun, hQ⟩ := h
  refine bind (Prod.ext hrun rfl) (done ?_)
  rwa [List.append_nil]

/-- An attempt at what ends with a result ends with this result. -/
theorem attempt (h : Ends answer p s P) :
    Ends answer p.attempt s fun outcome log => ∃ a, outcome = .ok a ∧ P a log := by
  obtain ⟨a, hrun, hP⟩ := h
  refine ⟨.ok a, ?_, a, rfl, ?_⟩
  · rw [run_attempt, hrun]
  · rwa [exchanges_attempt]

end Ends

/-- If every exchange adds its entries to a book, a whole run adds those of its log. -/
theorem book_run {ε : Type} {book : σ → List ε} {entries : Exchange I → List ε}
    (h : ∀ q s, book (answer q s).2 = book s ++ entries ⟨q, (answer q s).1⟩)
    (p : Program I α) (s : σ) :
    book (run answer p s).2 = book s ++ (exchanges answer p s).flatMap entries := by
  induction p generalizing s with
  | done a => exact (List.append_nil _).symm
  | raise f => exact (List.append_nil _).symm
  | ask q next ih =>
    rw [run_ask, ih, h, exchanges_ask, List.flatMap_cons, List.append_assoc]

end Program

end SensorRelay
