import Mathlib.Data.List.Induction
import SensorRelay.Api.Server
import SensorRelay.Proofs.Pipeline.Dispatching
import SensorRelay.Proofs.Text.Percent

/-!
# Responses of the interface

A request is always answered, whatever the database replies, and the code of the response goes with
what it holds (`Response.IsProper`, `run_serve_isProper`) : a success holds a document, a refusal
says what is wrong, and only an internal error is told in plain text. What is asked for by `HEAD`
holds nothing (`run_serve_head`).

A target without escapes and dots is its own path (`Target.of_plain`), and parameters that are set
come in place of earlier ones (`Target.param?_withParams`).
-/

namespace SensorRelay

/-! ## Results of programs -/

namespace Program

variable {I : Interface} {α β : Type} {P : α → Prop}

/-- Whatever is replied, what the program results in has the property. -/
def Yields (p : Program I α) (P : α → Prop) : Prop :=
  ∀ a, p.MayCome (.ok a) → P a

theorem yields_done {a : α} (h : P a) : (.done a : Program I α).Yields P := by
  rintro _ ⟨⟩
  exact h

/-- The last program counts, whatever comes before it. -/
theorem yields_bind (p : Program I β) {k : β → Program I α} (h : ∀ b, (k b).Yields P) :
    (p >>= k).Yields P := by
  induction p with
  | done b => exact h b
  | raise f => rintro a ⟨⟩
  | ask q next ih =>
    rintro a (_ | _ | ⟨r, hr⟩)
    exact ih r a hr

end Program

namespace Api

open Program Text

/-! ## Responses -/

/-- Does what a response holds go with its code? -/
def Response.IsProper (insertedAt : String) (r : Response) : Prop :=
  r.code = 200 ∧ (r.body.json? insertedAt).isSome ∨
    r.code ∈ [404, 405, 422, 503] ∧
      ((r.body.json? insertedAt).bind (Json.field? · "detail")).isSome ∨
    r.code = 307 ∧ r.body = .nothing ∨
    r.code = 500 ∧ r.body.json? insertedAt = none ∧ r.body.text = "Internal Server Error"

variable {insertedAt : String} {ready : Bool} {method : String} {target : Target}

theorem isProper_refused (code : Nat) (hcode : code ∈ [404, 405, 422, 503]) (text : String) :
    (⟨code, .detail text⟩ : Response).IsProper insertedAt :=
  Or.inr (Or.inl ⟨hcode, rfl⟩)

theorem isProper_problems (ps : List ParamProblem) :
    (⟨422, .problems ps⟩ : Response).IsProper insertedAt :=
  Or.inr (Or.inl ⟨List.mem_of_elem_eq_true rfl, rfl⟩)

theorem yields_foundOr {α : Type} (missing : String) {body : α → Body}
    (hbody : ∀ a, ((body a).json? insertedAt).isSome) (p : Program storeInterface (Option α)) :
    (foundOr missing body p).Yields (Response.IsProper insertedAt) := by
  refine yields_bind p fun found => ?_
  cases found with
  | some a => exact yields_done (Or.inl ⟨rfl, hbody a⟩)
  | none => exact yields_done (isProper_refused 404 (by decide) missing)

theorem yields_sensorDetail (id : Int) (earliest latest : Option Timestamp) :
    (sensorDetail id earliest latest).Yields (Response.IsProper insertedAt) := by
  rw [sensorDetail]
  split
  · exact yields_done (isProper_refused 422 (by decide) _)
  · refine yields_bind _ fun found => ?_
    cases (found : Option SensorRow) with
    | none => exact yields_done (isProper_refused 404 (by decide) _)
    | some sensor => exact yields_bind _ fun records => yields_done (Or.inl ⟨rfl, rfl⟩)

theorem yields_answerRoute (ready : Bool) (target : Target) (route : Route) :
    (answerRoute ready target route).Yields (Response.IsProper insertedAt) := by
  cases route with
  | health => exact yields_done (Or.inl ⟨rfl, rfl⟩)
  | readiness =>
    cases ready with
    | true => exact yields_done (Or.inl ⟨rfl, rfl⟩)
    | false => exact yields_done (isProper_refused 503 (by decide) _)
  | sections => exact yields_bind _ fun trees => yields_done (Or.inl ⟨rfl, rfl⟩)
  | sectionOf text =>
    rw [answerRoute]
    split
    · exact yields_done (isProper_problems _)
    · exact yields_foundOr _ (fun _ => rfl) _
  | moduleOf text =>
    rw [answerRoute]
    split
    · exact yields_done (isProper_problems _)
    · exact yields_foundOr _ (fun _ => rfl) _
  | sensor text =>
    rw [answerRoute]
    split
    · exact yields_sensorDetail _ _ _
    · exact yields_done (isProper_problems _)
  | topics => exact yields_bind _ fun names => yields_done (Or.inl ⟨rfl, rfl⟩)

theorem yields_answerRequest (hmethod : method ≠ "HEAD") :
    (answerRequest ready method target).Yields (Response.IsProper insertedAt) := by
  rw [answerRequest]
  split
  · split
    · exact yields_answerRoute _ _ _
    · exact yields_done (isProper_refused 405 (by decide) _)
  · split
    · exact yields_done (Or.inr (Or.inr (Or.inl ⟨rfl, rfl⟩)))
    · exact yields_done (isProper_refused 404 (by decide) _)

section Runs

variable {σ : Type} {s t : σ}
  {answer : (q : storeInterface.Request) → σ → Except Failure (storeInterface.Reply q) × σ}

/-- A failure of the database becomes an internal error. -/
theorem run_serve_of_run {outcome : Except Failure Response}
    (h : Program.run answer (answerRequest ready method target) s = (outcome, t)) :
    Program.run answer (serve ready method target) s =
      (.ok (match outcome with
        | .ok r => r
        | .error _ => ⟨500, if method = "HEAD" then .nothing else .internalError⟩), t) := by
  have hattempt : Program.run answer (answerRequest ready method target).attempt s =
      (.ok outcome, t) := by
    rw [run_attempt, h]
  rw [serve, run_bind_of_ok hattempt]
  cases outcome <;> rfl

variable (answer s)

/-- Every request is answered, and the response goes with its code. -/
theorem run_serve_isProper (hmethod : method ≠ "HEAD") : ∃ r t,
    Program.run answer (serve ready method target) s = (.ok r, t) ∧ r.IsProper insertedAt := by
  have hcomes := mayCome_run answer (answerRequest ready method target) s
  cases hrun : Program.run answer (answerRequest ready method target) s with
  | mk outcome t =>
    rw [hrun] at hcomes
    refine ⟨_, t, run_serve_of_run hrun, ?_⟩
    cases outcome with
    | ok r => exact yields_answerRequest hmethod r hcomes
    | error f =>
      rw [if_neg hmethod]
      exact Or.inr (Or.inr (Or.inr ⟨rfl, rfl, rfl⟩))

/-- A request for the head alone is answered without a body. -/
theorem run_serve_head : ∃ code t, code ≠ 200 ∧
    Program.run answer (serve ready "HEAD" target) s = (.ok ⟨code, .nothing⟩, t) := by
  have hyields : (answerRequest ready "HEAD" target).Yields
      fun r => r.code ≠ 200 ∧ r.body = .nothing := by
    rw [answerRequest]
    split
    · exact yields_done ⟨by decide, rfl⟩
    · split
      · exact yields_done ⟨by decide, rfl⟩
      · exact yields_done ⟨by decide, rfl⟩
  have hcomes := mayCome_run answer (answerRequest ready "HEAD" target) s
  cases hrun : Program.run answer (answerRequest ready "HEAD" target) s with
  | mk outcome t =>
    rw [hrun] at hcomes
    cases outcome with
    | ok r =>
      obtain ⟨hcode, hbody⟩ := hyields r hcomes
      refine ⟨r.code, t, hcode, ?_⟩
      rw [run_serve_of_run hrun, ← hbody]
    | error f => exact ⟨500, t, by decide, run_serve_of_run hrun⟩

end Runs

/-! ## Targets -/

namespace Target

/-- A parameter that is set has its last value, and others have the values that they had. -/
theorem param?_withParams (t : Target) (params : List (String × String)) (name : String) :
    (t.withParams params).param? name =
      ((params.reverse.find? fun p => p.1 == name).map Prod.snd).or (t.param? name) := by
  simp only [param?, withParams, List.reverse_append, List.find?_append, ← List.filter_reverse,
    List.find?_filter]
  cases hset : params.reverse.find? fun p => p.1 == name with
  | some p => rfl
  | none =>
    have hnone : ∀ p ∈ params, p.1 ≠ name := by simpa using hset
    refine congrArg (Option.map Prod.snd) (congrArg (List.find? · _) (funext fun q => ?_))
    rw [Bool.eq_iff_iff]
    simp only [decide_eq_true_eq, List.all_eq_true, bne_iff_ne, beq_iff_eq, and_iff_right_iff_imp]
    rintro rfl p hp
    exact hnone p hp

theorem withoutDots_of_plain {segments : List (List Char)}
    (h : ∀ s ∈ segments, s ≠ ['.'] ∧ s ≠ ['.', '.']) : withoutDots segments = segments := by
  induction segments using List.reverseRecOn with
  | nil => rfl
  | append_singleton segments s ih =>
    obtain ⟨hone, htwo⟩ := h s (by simp)
    have hrest := ih fun s' hs' => h s' (List.mem_append_left _ hs')
    rw [withoutDots] at hrest
    rw [withoutDots, List.foldl_append, hrest, List.foldl_cons, List.foldl_nil, if_neg hone,
      if_neg htwo]

/-- A target of plain segments is its own path. -/
theorem of_plain {text : String} {rest : List Char} (htext : text.toList = '/' :: rest)
    (hrest : rest.head? ≠ some '/') (hmarks : '#' ∉ rest ∧ '?' ∉ rest)
    (hescape : holdsEscape text.toList = false)
    (hdots : ∀ s ∈ splitOn '/' rest, s ≠ ['.'] ∧ s ≠ ['.', '.']) : of text = ⟨text, []⟩ := by
  have hsharp : '#' ∉ '/' :: rest := by simp [hmarks.1]
  have hsent : text.toList.takeWhile (· != '#') = '/' :: rest := by
    rw [htext, List.takeWhile_eq_self_iff]
    intro c hc
    rw [bne_iff_ne]
    rintro rfl
    exact hsharp hc
  have hquery : cutFirst? '?' ('/' :: rest) = none :=
    cutFirst?_of_not_mem (by simp [hmarks.2])
  have hslash : ('/' :: rest).dropWhile (· == '/') = rest := by
    rw [List.dropWhile_cons_of_pos (by decide)]
    cases rest with
    | nil => rfl
    | cons c cs => exact List.dropWhile_cons_of_neg (by simpa using hrest)
  have hsegments : withoutDots (splitOn '/' ('/' :: rest)) = splitOn '/' ('/' :: rest) := by
    refine withoutDots_of_plain ?_
    rw [splitOn, if_pos rfl, List.forall_mem_cons]
    exact ⟨by decide, hdots⟩
  have hpath : String.ofList ('/' :: rest) = text := by rw [← htext, String.ofList_toList]
  rw [of]
  simp only [hsent, hquery, hslash, hsegments, joinWith_splitOn, hpath,
    percentDecode_eq_self_iff.2 hescape]

end Target

end Api
end SensorRelay
