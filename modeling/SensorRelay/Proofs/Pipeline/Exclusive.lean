import Mathlib.Data.List.Nodup
import SensorRelay.Command.Roles
import SensorRelay.Proofs.Pipeline.Results
import SensorRelay.Proofs.Topic

/-!
# Handlers that exclude each other

Whether a handler ignores a message is decided by the topic alone (`Handler.ignores`), whatever the
database and the publisher reply (`Handler.isIgnored_handle`). Of the handlers that are built for a
process at most one does not ignore a topic (`Settings.length_takers_le`), because their stages
differ. Hence the order of the handlers is of no account : offering a message to them is the same
program in every order (`Dispatcher.offer_eq_of_perm`), and dispatching differs in the handlers that
the dispatcher keeps, and in nothing else (`Dispatcher.dispatch_reordered`).
-/

namespace SensorRelay

open Program

/-! ## Lists with one candidate -/

/-- If an element is the only one that can be found, it is found in every order. -/
theorem find?_eq_of_perm {α : Type} {p : α → Bool} {xs ys : List α} (hperm : xs.Perm ys)
    (hone : (ys.filter p).length ≤ 1) : xs.find? p = ys.find? p := by
  have hfilter := hperm.filter p
  rw [← List.head?_filter, ← List.head?_filter]
  match hys : ys.filter p with
  | [] => rw [hys] at hfilter; rw [hfilter.eq_nil]
  | [y] => rw [hys] at hfilter; rw [hfilter.eq_singleton]
  | _ :: _ :: _ => simp [hys] at hone

/-! ## Topics that a handler ignores -/

namespace Handler

/-- Does the handler ignore messages on the topic? -/
def ignores (h : Handler) (topic : String) : Bool :=
  (remainder? h.stage topic).isNone

/-- A handler comes to a result, which is to ignore the message exactly if its topic is one that the
handler ignores. -/
theorem isIgnored_handle {σ : Type} (answer : Answerer σ) (h : Handler) (m : Message) (w : σ) :
    ∃ r t, run answer (h.handle m) w = (.ok r, t) ∧ r.isIgnored = h.ignores m.topic := by
  cases hremainder : remainder? h.stage m.topic with
  | none =>
    rw [handle_of_none hremainder]
    refine ⟨_, w, rfl, ?_⟩
    rw [HandlerResult.isIgnored_push_ignored, ignores, hremainder]
    rfl
  | some remainder =>
    obtain ⟨p, hrun, -⟩ := @worked_work _ answer h m remainder w
    rw [handle, hremainder]
    refine ⟨conclude p, _, run_bind_of_ok (Prod.ext hrun rfl) _, ?_⟩
    rw [isIgnored_conclude, ignores, hremainder]
    rfl

end Handler

/-! ## Offering a message -/

namespace Dispatcher

variable {m : Message} {hs order : List Handler}

/-- A message is handled by the first handler that does not ignore its topic. -/
theorem offer_eq (m : Message) (hs : List Handler) : offer m hs =
    match hs.find? fun h => !h.ignores m.topic with
    | none => .done none
    | some h => h.handle m >>= fun r => .done (some r) := by
  induction hs with
  | nil => rfl
  | cons h hs ih =>
    rw [offer]
    cases hremainder : remainder? h.stage m.topic with
    | none =>
      have hignores : h.ignores m.topic = true := by rw [Handler.ignores, hremainder]; rfl
      rw [Handler.handle_of_none hremainder, done_bind, HandlerResult.isIgnored_push_ignored,
        List.find?_cons_of_neg (by simp [hignores])]
      exact ih
    | some remainder =>
      have hignores : h.ignores m.topic = false := by rw [Handler.ignores, hremainder]; rfl
      rw [List.find?_cons_of_pos (by simp [hignores])]
      simp only [Handler.handle, hremainder, Program.bind_assoc, pure_eq_done, done_bind,
        Handler.isIgnored_conclude, Bool.false_eq_true, if_false]

/-- Where one handler at most does not ignore the topic, the order is of no account. -/
theorem offer_eq_of_perm (hperm : order.Perm hs)
    (hone : (hs.filter fun h => !h.ignores m.topic).length ≤ 1) : offer m order = offer m hs := by
  rw [offer_eq, offer_eq, find?_eq_of_perm hperm hone]

/-! ## Reporting -/

/-- The handlers play no part in a report, and it keeps them. -/
theorem report_withHandlers (order : List Handler) (d : Dispatcher) (r : HandlerResult) :
    { d with handlers := order }.report m r =
      d.report m r >>= fun x => .done (x.1, { x.2 with handlers := order }) := by
  rw [report, report]
  split
  · rw [bury, bury]
    cases r.error with
    | none => rfl
    | some e => cases d.deadLetters with
      | none => rfl
      | some q => simp only [Program.bind_assoc, pure_eq_done, done_bind]
  · rfl

/-- A dispatcher whose handlers stand in another order makes the same requests and comes to the same
result, if one handler at most does not ignore the topic. -/
theorem dispatch_reordered (d : Dispatcher) (hperm : order.Perm d.handlers)
    (hone : (d.handlers.filter fun h => !h.ignores m.topic).length ≤ 1) :
    { d with handlers := order }.dispatch m =
      d.dispatch m >>= fun x => .done (x.1, { x.2 with handlers := order }) := by
  rw [dispatch, dispatch, offer_eq_of_perm hperm hone, Program.bind_assoc]
  congr 1
  funext found
  cases found with
  | none => exact report_withHandlers _ d _
  | some r => exact report_withHandlers _ d r

end Dispatcher

/-! ## The handlers of a process -/

/-- Of handlers for different stages one at most does not ignore a topic. -/
theorem length_takers_le_of_nodup {hs : List Handler}
    (hstages : ∀ h ∈ hs, h.stage ∈ "" :: stageNames) (hdiffer : (hs.map Handler.stage).Nodup)
    (topic : String) : (hs.filter fun h => !h.ignores topic).length ≤ 1 := by
  have htaker : ∀ h ∈ hs.filter fun h => !h.ignores topic,
      h ∈ hs ∧ ∃ remainder, remainder? h.stage topic = some remainder := by
    intro h hmem
    obtain ⟨hmem, htakes⟩ := List.mem_filter.1 hmem
    rw [Handler.ignores, Bool.not_eq_true', Option.isNone_eq_false_iff,
      Option.isSome_iff_exists] at htakes
    exact ⟨hmem, htakes⟩
  have hnodup : ((hs.filter fun h => !h.ignores topic).map Handler.stage).Nodup :=
    hdiffer.sublist (List.filter_sublist.map _)
  generalize (hs.filter fun h => !h.ignores topic) = takers at htaker hnodup ⊢
  match takers with
  | [] => exact Nat.zero_le 1
  | [_] => exact Nat.le_refl 1
  | h :: other :: rest =>
    obtain ⟨hh, remainder, htakes⟩ := htaker h List.mem_cons_self
    obtain ⟨hother, remainder', htakes'⟩ :=
      htaker other (List.mem_cons_of_mem h List.mem_cons_self)
    have hne : h.stage ≠ other.stage := by
      intro heq
      simp [heq] at hnodup
    exact nomatch (remainder?_eq_none_of_ne (hstages h hh) (hstages other hother) hne
      htakes).symm.trans htakes'

namespace Settings

open Config

/-- A process has one handler at most for a stage. -/
theorem stages_handlers (s : Settings) (roles : Roles) (lookup : Lookup) :
    (∀ h ∈ s.handlers roles lookup, h.stage ∈ "" :: stageNames) ∧
      ((s.handlers roles lookup).map Handler.stage).Nodup := by
  have hsublist : ((s.handlers roles lookup).map Handler.stage).Sublist
      [rawStage, s.processedStage.name, ""] := by
    rw [handlers, storeHandlers]
    cases roles.raw <;> cases roles.store <;> cases s.acceptsBareTopics <;>
      simp [rawHandler, Handler.stage]
  have hstages : (∀ stage ∈ [rawStage, s.processedStage.name, ""], stage ∈ "" :: stageNames) ∧
      [rawStage, s.processedStage.name, ""].Nodup := by
    cases s.processedStage <;> decide
  refine ⟨fun h hmem => hstages.1 _ ?_, hstages.2.sublist hsublist⟩
  exact hsublist.subset (List.mem_map_of_mem hmem)

/-- Of the handlers of a process one at most does not ignore a topic. -/
theorem length_takers_le (s : Settings) (roles : Roles) (lookup : Lookup) (topic : String) :
    ((s.handlers roles lookup).filter fun h => !h.ignores topic).length ≤ 1 :=
  length_takers_le_of_nodup (s.stages_handlers roles lookup).1 (s.stages_handlers roles lookup).2
    topic

end Settings

end SensorRelay
