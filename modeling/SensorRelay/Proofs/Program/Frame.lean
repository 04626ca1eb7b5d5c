import SensorRelay.Proofs.Program.Run

/-!
# Programs that make only some requests

`Program.Asks P p` says that the program `p` makes no requests but those of `P`, whatever it is
told. What these requests leave alone, a run of the program leaves alone (`Asks.run_frame`). If
their replies depend on a part of the state only, and change it in the same way whatever the rest
is, the outcome of a run depends on this part only as well (`Asks.run_congr`). The log of a run holds
no others (`Asks.forall_mem_exchanges`).
-/

namespace SensorRelay.Program

variable {I J : Interface} {α β σ τ υ : Type} {P : I.Request → Prop}

/-- Whatever it is told, the program makes no requests but those of `P`. -/
def Asks (P : I.Request → Prop) : Program I α → Prop
  | .done _ => True
  | .raise _ => True
  | .ask q next => P q ∧ ∀ r, Asks P (next r)

namespace Asks

theorem bind {p : Program I α} {k : α → Program I β} (h : p.Asks P) (hk : ∀ a, (k a).Asks P) :
    (p >>= k).Asks P := by
  induction p with
  | done a => exact hk a
  | raise f => trivial
  | ask q next ih => exact ⟨h.1, fun r => ih r (h.2 r)⟩

theorem attempt {p : Program I α} (h : p.Asks P) : p.attempt.Asks P := by
  induction p with
  | done a => trivial
  | raise f => trivial
  | ask q next ih => exact ⟨h.1, fun r => ih r (h.2 r)⟩

/-- A program that is taken into a larger interface makes the requests that it is given there. -/
theorem within {inject : J.Request → I.Request}
    {reply : (q : J.Request) → I.Reply (inject q) → J.Reply q} (h : ∀ q, P (inject q))
    (p : Program J α) : (p.within inject reply).Asks P := by
  induction p with
  | done a => trivial
  | raise f => trivial
  | ask q next ih => exact ⟨h q, fun r => ih _⟩

theorem mono {Q : I.Request → Prop} {p : Program I α} (h : p.Asks P) (hPQ : ∀ q, P q → Q q) :
    p.Asks Q := by
  induction p with
  | done a => trivial
  | raise f => trivial
  | ask q next ih => exact ⟨hPQ q h.1, fun r => ih r (h.2 r)⟩

variable {answer : (q : I.Request) → σ → Except Failure (I.Reply q) × σ}
  {answer' : (q : I.Request) → τ → Except Failure (I.Reply q) × τ}

theorem forall_mem_exchanges {p : Program I α} (h : p.Asks P) (s : σ) :
    ∀ x ∈ exchanges answer p s, P x.1 := by
  induction p generalizing s with
  | done a => exact List.forall_mem_nil _
  | raise f => exact List.forall_mem_nil _
  | ask q next ih => exact List.forall_mem_cons.2 ⟨h.1, ih _ (h.2 _) _⟩

/-- What the requests leave alone, the run leaves alone. -/
theorem run_frame {view : σ → υ} (hview : ∀ q, P q → ∀ s, view (answer q s).2 = view s)
    {p : Program I α} (h : p.Asks P) (s : σ) : view (run answer p s).2 = view s := by
  induction p generalizing s with
  | done a => rfl
  | raise f => rfl
  | ask q next ih => exact (ih _ (h.2 _) _).trans (hview q h.1 s)

/-- Where the parts that matter to the requests agree, the outcomes agree, and so do these parts
afterwards. -/
theorem run_congr {view : σ → υ} {view' : τ → υ}
    (hview : ∀ q, P q → ∀ s t, view s = view' t →
      (answer q s).1 = (answer' q t).1 ∧ view (answer q s).2 = view' (answer' q t).2)
    {p : Program I α} (h : p.Asks P) {s : σ} {t : τ} (hst : view s = view' t) :
    (run answer p s).1 = (run answer' p t).1 ∧
      view (run answer p s).2 = view' (run answer' p t).2 := by
  induction p generalizing s t with
  | done a => exact ⟨rfl, hst⟩
  | raise f => exact ⟨rfl, hst⟩
  | ask q next ih =>
    obtain ⟨hreply, hnext⟩ := hview q h.1 s t hst
    rw [run_ask, run_ask, hreply]
    exact ih _ (h.2 _) hnext

end Asks

end SensorRelay.Program
