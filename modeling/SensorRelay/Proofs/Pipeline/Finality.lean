import SensorRelay.Proofs.Pipeline.Stages

/-!
# Calls on a result

Whoever handles a message moves its result on by calls (`ResultCall`) : to a status, or to failure
with an error. What one call does is said once. A result that has come to a final status refuses
every call (`HandlerResult.perform_of_isFinal`), any other takes it and goes on to the status of the
call (`HandlerResult.perform_of_not_isFinal`). Hence a history holds a final status at its end only
(`HandlerResult.EndsOnce.after`), and from then on it stays as it is
(`HandlerResult.after_of_isFinal`).

A call to fail notes its error before it asks whether the result is final. So a refused call leaves
all of the result as it was but for the error, and a refused failure leaves its own error behind,
also in a result that is acknowledged (`HandlerResult.error_of_refused_failure`).
-/

namespace SensorRelay

/-- A call on a result. -/
inductive ResultCall where
  | advance (status : MessageStatus)
  | fail (error : PipelineError)

namespace ResultCall

/-- The status that the call moves to. -/
def target : ResultCall → MessageStatus
  | advance status => status
  | fail _ => .failed

/-- The error that the call brings. -/
def error? : ResultCall → Option PipelineError
  | advance _ => none
  | fail error => some error

end ResultCall

namespace HandlerResult

/-! ## One call -/

/-- What comes of a call, and the result afterwards. -/
def perform (r : HandlerResult) : ResultCall → Except Failure Unit × HandlerResult
  | .advance status => r.advance status
  | .fail error => r.fail error

/-- The result with the error of a call, if the call brings one. -/
def note (r : HandlerResult) (c : ResultCall) : HandlerResult :=
  { r with error := c.error?.or r.error }

variable {r : HandlerResult}

/-- A final result refuses the call and keeps no more of it than the error. -/
theorem perform_of_isFinal (h : r.status.isFinal = true) (c : ResultCall) :
    r.perform c = (.error (r.alreadyFinal c.target), r.note c) := by
  cases c with
  | advance status => exact if_pos h
  | fail error => exact if_pos h

/-- Any other result takes the call. -/
theorem perform_of_not_isFinal (h : r.status.isFinal = false) (c : ResultCall) :
    r.perform c = (.ok (), (r.note c).push c.target) := by
  have hopen : ¬r.status.isFinal = true := by simp [h]
  cases c with
  | advance status => exact if_neg hopen
  | fail error => exact if_neg hopen

theorem isFinal_of_refused {c : ResultCall} {f : Failure} (h : (r.perform c).1 = .error f) :
    r.status.isFinal = true := by
  by_contra hopen
  rw [perform_of_not_isFinal (by simpa using hopen)] at h
  cases h

/-- A handler that concludes its work calls on the result, and is not refused. -/
theorem conclude_eq_perform (h : r.status.isFinal = false) (f? : Option Failure) :
    (.ok (), Handler.conclude (r, f?)) = r.perform
      (match f? with
        | none => .advance .acked
        | some f => .fail f.asPipelineError) := by
  cases f? with
  | none => exact (perform_of_not_isFinal h (.advance .acked)).symm
  | some f => exact (perform_of_not_isFinal h (.fail f.asPipelineError)).symm

/-! ## Many calls -/

/-- The result after some calls, whatever came of each. -/
def after (r : HandlerResult) (calls : List ResultCall) : HandlerResult :=
  calls.foldl (fun r c => (r.perform c).2) r

theorem after_cons (r : HandlerResult) (c : ResultCall) (calls : List ResultCall) :
    r.after (c :: calls) = (r.perform c).2.after calls :=
  rfl

/-- A history ends with the status of the result. -/
theorem mem_dropLast_or_eq_status {status : MessageStatus} (h : status ∈ r.history) :
    status ∈ r.history.dropLast ∨ status = r.status := by
  rcases List.eq_nil_or_concat r.history with hnil | ⟨passed, last, hhistory⟩
  · rw [hnil] at h
    exact absurd h List.not_mem_nil
  · rw [List.concat_eq_append] at hhistory
    rw [hhistory, List.mem_append, List.mem_singleton] at h
    rw [HandlerResult.status, hhistory, List.dropLast_concat, List.getLastD_concat]
    exact h

/-- All statuses before the last one are passed, not final. -/
def EndsOnce (r : HandlerResult) : Prop :=
  ∀ status ∈ r.history.dropLast, status.isFinal = false

namespace EndsOnce

theorem perform (h : r.EndsOnce) (c : ResultCall) : (r.perform c).2.EndsOnce := by
  cases hfinal : r.status.isFinal with
  | true =>
    rw [perform_of_isFinal hfinal]
    exact h
  | false =>
    rw [perform_of_not_isFinal hfinal]
    intro status hstatus
    rw [push, List.dropLast_concat] at hstatus
    -- the last status so far was not final, or the call would have been refused
    rcases mem_dropLast_or_eq_status hstatus with hstatus | rfl
    · exact h status hstatus
    · exact hfinal

theorem after (h : r.EndsOnce) (calls : List ResultCall) : (r.after calls).EndsOnce := by
  induction calls generalizing r with
  | nil => exact h
  | cons c calls ih => exact ih (h.perform c)

end EndsOnce

/-- The error that calls leave is that of the last one that brings any. -/
theorem error_after (r : HandlerResult) (calls : List ResultCall) :
    (r.after calls).error = (calls.filterMap ResultCall.error?).getLast?.or r.error := by
  have hperform : ∀ (r : HandlerResult) c, (r.perform c).2.error = c.error?.or r.error := by
    intro r c
    cases hfinal : r.status.isFinal with
    | true => rw [perform_of_isFinal hfinal, note]
    | false => rw [perform_of_not_isFinal hfinal, note, push]
  induction calls generalizing r with
  | nil => rfl
  | cons c calls ih =>
    rw [after_cons, ih, hperform]
    cases herror : c.error? with
    | none => rw [List.filterMap_cons_none herror, Option.none_or]
    | some e =>
      rw [List.filterMap_cons_some herror, List.getLast?_cons, Option.some_or, Option.some_or]
      cases (calls.filterMap ResultCall.error?).getLast? <;> rfl

/-- Calls on a final result change its error and nothing else. -/
theorem after_of_isFinal (h : r.status.isFinal = true) (calls : List ResultCall) :
    r.after calls = { r with error := (r.after calls).error } := by
  induction calls generalizing r with
  | nil => rfl
  | cons c calls ih =>
    have hnote : (r.note c).status.isFinal = true := h
    rw [after_cons, perform_of_isFinal h]
    exact ih hnote

/-! ## The guarantee -/

/-- What a result that some calls have led to has been through, and what any further calls on it come
to. -/
structure Closes (r : HandlerResult) : Prop where
  /-- A final status comes at most once, and last. -/
  endsOnce : ∀ status ∈ r.history.dropLast, status.isFinal = false
  taken : r.status.isFinal = false → ∀ c, r.perform c =
    (.ok (), { r with history := r.history ++ [c.target], error := c.error?.or r.error })
  /-- After a final status nothing is taken any more. -/
  closed : r.status.isFinal = true → ∀ calls c,
    (r.after calls).history = r.history ∧
      ((r.after calls).perform c).1 = .error (r.alreadyFinal c.target)
  /-- A refused call leaves no more behind than the error that it brings. -/
  refused : ∀ c f, (r.perform c).1 = .error f →
    (r.perform c).2 = { r with error := c.error?.or r.error }
  error : ∀ calls,
    (r.after calls).error = (calls.filterMap ResultCall.error?).getLast?.or r.error

theorem EndsOnce.closes (h : r.EndsOnce) : r.Closes where
  endsOnce := h
  taken hopen c := perform_of_not_isFinal hopen c
  closed hfinal calls c := by
    have hafter := after_of_isFinal hfinal calls
    have hsame : (r.after calls).history = r.history := by rw [hafter]
    have hstatus : (r.after calls).status = r.status := by rw [hafter]; rfl
    refine ⟨hsame, ?_⟩
    rw [perform_of_isFinal (by rw [hstatus, hfinal]), alreadyFinal, hstatus]
    rfl
  refused c f hrefused := by
    rw [perform_of_isFinal (isFinal_of_refused hrefused)]
    rfl
  error := r.error_after

/-- Whatever calls are made on a result whose message has just been received, its history is closed
by the first final status, and a refused call changes nothing but the error. -/
theorem closes_after (r : HandlerResult) (calls : List ResultCall) :
    (after { r with history := [.received] } calls).Closes := by
  have hstart : EndsOnce { r with history := [.received] } := fun _ hnone =>
    absurd hnone List.not_mem_nil
  exact (hstart.after calls).closes

/-- A result that is acknowledged refuses to fail, and has an error from then on. -/
theorem error_of_refused_failure :
    let r := (received "raw/hall/east/pump" "raw").after [.advance .acked]
    let e : PipelineError := ⟨.malformedPayload, "bad", []⟩
    r.isAcked = true ∧ r.error = none ∧
      (r.perform (.fail e)).1 = .error (r.alreadyFinal .failed) ∧
      (r.perform (.fail e)).2.isAcked = true ∧ (r.perform (.fail e)).2.error = some e :=
  ⟨rfl, rfl, rfl, rfl, rfl⟩

end HandlerResult
end SensorRelay
