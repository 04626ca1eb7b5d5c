import SensorRelay.Api.Server
import SensorRelay.Proofs.Store.Listing
import SensorRelay.Proofs.Store.Paths
import SensorRelay.Reconcile

/-!
# Rows asked for by their ids

The read interface shows a section, a module or a sensor of which the id stands in the path. Ids are
integers of any size and any sign. The row with the id is shown if there is one, and else it is said
to be missing (`answersById_of_reachable`).

An id that the database cannot hold is the id of no row either, but here it is the request that
fails, and the interface answers with an internal error (`internal_error_beyond_ids`).
-/

namespace SensorRelay

namespace Api

open Store

variable {s t : Store} {target : Target} {ready : Bool}

/-- What is answered when a request has come to this. -/
def responseTo : Except Failure Response → Response
  | .ok r => r
  | .error _ => ⟨500, .internalError⟩

/-- What is answered when a row has been looked for. -/
def rowResponse (missing : String) {α : Type} (body : α → Body) : Option α → Response
  | some a => ⟨200, body a⟩
  | none => ⟨404, .detail missing⟩

/-- How the row with an id is asked for : it is shown if there is one, else it is missing. Ids that
the database cannot hold are not looked for. -/
structure AnswersById {α : Type} (table : List α) (idOf : α → Nat) (id : Int) (body : α → Body)
    (missing : String) (s : Store) (reply : Except Failure Response × Store) : Prop where
  shown : fitsSigned 64 id = true → ∀ a ∈ table, (idOf a : Int) = id →
    reply = (.ok ⟨200, body a⟩, s)
  missing : fitsSigned 64 id = true → (∀ a ∈ table, (idOf a : Int) ≠ id) →
    reply = (.ok ⟨404, .detail missing⟩, s)
  oversized : fitsSigned 64 id = false → reply = (.ok ⟨500, .internalError⟩, s)

/-! ## Runs of the interface -/

/-- What becomes of a request is what becomes of its resource. -/
theorem run_serve {route : Route} (hroute : Route.of? target.path = some route)
    {outcome : Except Failure Response}
    (h : run (answerRoute ready target route) s = (outcome, t)) :
    run (serve ready "GET" target) s = (.ok (responseTo outcome), t) := by
  have hrequest : answerRequest ready "GET" target = answerRoute ready target route := by
    rw [answerRequest, hroute]
    exact if_pos rfl
  have hattempt : run (answerRequest ready "GET" target).attempt s = (.ok outcome, t) := by
    rw [hrequest]
    refine (Program.run_attempt _ s).trans ?_
    exact congrArg (fun x => (Except.ok x.1, x.2)) h
  rw [serve, run_bind_of_ok hattempt]
  cases outcome <;> rfl

theorem run_foundOr {α : Type} {missing : String} {body : α → Body}
    {p : Program storeInterface (Option α)} {outcome : Except Failure (Option α)}
    (h : run p s = (outcome, t)) :
    run (foundOr missing body p) s = (outcome.map (rowResponse missing body), t) := by
  cases outcome with
  | ok found =>
    rw [foundOr, run_bind_of_ok h]
    cases found <;> rfl
  | error f => exact run_bind_of_error h _

/-! ## Rows and ids -/

/-- What is answered about a tree that is looked for by its id. -/
theorem answersById_of_foundOr {α β : Type} {table : List α} {idOf : α → Nat}
    (hids : Numbered idOf table) {view : α → β} {body : β → Body} {missing : String} {id : Int}
    {route : Route} (hroute : Route.of? target.path = some route)
    {p : Program storeInterface (Option β)}
    (hread : answerRoute ready target route = foundOr missing body p)
    (hp : run p s = s.byKey id ((table.find? fun a => (idOf a : Int) = id).map view)) :
    AnswersById table idOf id (body ∘ view) missing s (run (serve ready "GET" target) s) := by
  have hserve : ∀ {outcome}, run p s = (outcome, s) →
      run (serve ready "GET" target) s =
        (.ok (responseTo (outcome.map (rowResponse missing body))), s) :=
    fun hrun => run_serve hroute (hread ▸ run_foundOr hrun)
  constructor
  case shown =>
    intro hfits a ha hkey
    rw [byKey_eq (checkKey_of_fits hfits), hids.find?_eq_some_iff.2 ⟨ha, hkey⟩] at hp
    exact hserve hp
  case missing =>
    intro hfits hnone
    have hfind : table.find? (fun a => (idOf a : Int) = id) = none := by simpa using hnone
    rw [byKey_eq (checkKey_of_fits hfits), hfind] at hp
    exact hserve hp
  case oversized =>
    intro hfits
    rw [byKey_oversized (checkKey_of_not_fits hfits)] at hp
    exact hserve hp

/-! ## Routes -/

theorem answersById_section (hs : s.Integrity) {text : String} {id : Int}
    (hid : laxNumeral text = .ok id) (hroute : Route.of? target.path = some (.sectionOf text)) :
    AnswersById s.sections SectionRow.id id (.oneSection ∘ s.sectionTree) "section not found" s
      (run (serve ready "GET" target) s) := by
  have hread : answerRoute ready target (.sectionOf text) =
      foundOr "section not found" .oneSection (StoreCall.ask (.sectionTree id)) := by
    rw [answerRoute, readId, hid]
    rfl
  exact answersById_of_foundOr hs.sectionIds hroute hread (run_call rfl)

theorem answersById_module (hs : s.Integrity) {text : String} {id : Int}
    (hid : laxNumeral text = .ok id) (hroute : Route.of? target.path = some (.moduleOf text)) :
    AnswersById s.modules ModuleRow.id id (.oneModule ∘ s.moduleTree) "module not found" s
      (run (serve ready "GET" target) s) := by
  have hread : answerRoute ready target (.moduleOf text) =
      foundOr "module not found" .oneModule (StoreCall.ask (.moduleTree id)) := by
    rw [answerRoute, readId, hid]
    rfl
  exact answersById_of_foundOr hs.moduleIds hroute hread (run_call rfl)

/-- A sensor is shown with its records in the window. -/
theorem run_sensorDetail_of_mem (hs : s.Integrity) {x : SensorRow} (hx : x ∈ s.sensors)
    (hkey : checkKey x.id = .ok ()) {window : Window}
    (horder : isReversed window.earliest window.latest = false) :
    run (sensorDetail x.id window.earliest window.latest) s =
      (.ok ⟨200, .oneSensor x (s.recordsOf x.id window)⟩, s) := by
  have hrow : answer (.sensorById x.id) s = (.ok (some x), s) := by
    refine (byKey_eq hkey s (s.sensorById? x.id)).trans ?_
    rw [hs.sensorById?_eq_some hx]
    rfl
  have hrecords : run (listed (StoreCall.ask (.records x.id window))) s =
      (.ok (s.recordsOf x.id window), s) :=
    run_bind_of_ok (run_call (answer_records hkey s window)) _
  rw [sensorDetail, horder, if_neg Bool.false_ne_true, run_bind_of_ok (run_call hrow)]
  exact run_bind_of_ok hrecords _

theorem answersById_sensor (hs : s.Integrity) {text : String} {id : Int}
    (hid : laxNumeral text = .ok id) (hroute : Route.of? target.path = some (.sensor text))
    (hsince : target.param? "since" = none) (huntil : target.param? "until" = none) :
    AnswersById s.sensors SensorRow.id id (fun x => .oneSensor x (s.recordsOf id .all))
      "sensor not found" s (run (serve ready "GET" target) s) := by
  have hread : answerRoute ready target (.sensor text) = sensorDetail id none none := by
    rw [answerRoute, readId, readBound, readBound, hid, hsince, huntil]
    rfl
  have hserve : ∀ {outcome}, run (sensorDetail id none none) s = (outcome, s) →
      run (serve ready "GET" target) s = (.ok (responseTo outcome), s) :=
    fun hdetail => run_serve hroute (hread ▸ hdetail)
  constructor
  case shown =>
    rintro hfits x hx rfl
    have hall : isReversed Window.all.earliest Window.all.latest = false := rfl
    have hdetail := run_sensorDetail_of_mem hs hx (checkKey_of_fits hfits) hall
    exact hserve hdetail
  case missing =>
    intro hfits hnone
    have hfind : s.sensorById? id = none := by simpa [sensorById?] using hnone
    have hrow : answer (.sensorById id) s = (.ok none, s) :=
      (byKey_eq (checkKey_of_fits hfits) s (s.sensorById? id)).trans (by rw [hfind]; rfl)
    exact hserve (run_bind_of_ok (run_call hrow) _)
  case oversized =>
    intro hfits
    have hrow : answer (.sensorById id) s = (.error oversizedKey, s) :=
      byKey_oversized (checkKey_of_not_fits hfits) s _
    exact hserve (run_bind_of_error (run_call hrow) _)

/-- A section, a module or a sensor is asked for by any integer : it is shown if there is one with
this id, and else it is missing. -/
theorem answersById_of_reachable (hs : s.Reachable) {text : String} {id : Int}
    (hid : laxNumeral text = .ok id) (ready : Bool) (target : Target) :
    (Route.of? target.path = some (.sectionOf text) →
      AnswersById s.sections SectionRow.id id (.oneSection ∘ s.sectionTree) "section not found" s
        (run (serve ready "GET" target) s)) ∧
    (Route.of? target.path = some (.moduleOf text) →
      AnswersById s.modules ModuleRow.id id (.oneModule ∘ s.moduleTree) "module not found" s
        (run (serve ready "GET" target) s)) ∧
    (Route.of? target.path = some (.sensor text) →
      target.param? "since" = none → target.param? "until" = none →
      AnswersById s.sensors SensorRow.id id (fun x => .oneSensor x (s.recordsOf id .all))
        "sensor not found" s (run (serve ready "GET" target) s)) :=
  ⟨answersById_section hs.integrity hid, answersById_module hs.integrity hid,
    answersById_sensor hs.integrity hid⟩

/-- There is one module, and the only sensor has another id. -/
theorem answersById_beside_pump :
    let s := (run (reconcile [⟨"pump", none, "hall", "east", 0⟩]) empty).2
    run (serve true "GET" ⟨"/modules/1", []⟩) s =
        (.ok ⟨200, .oneModule ⟨⟨1, "east", 1⟩, [⟨1, "pump", 1, "hall/east/pump"⟩]⟩⟩, s) ∧
      run (serve true "GET" ⟨"/sensors/-7", []⟩) s =
        (.ok ⟨404, .detail "sensor not found"⟩, s) := by
  intro s
  have hs : s.Reachable := Reachable.empty.run _
  have hmodule : Route.of? "/modules/1" = some (.moduleOf "1") := by
    have hsplit : Text.splitOn '/' "/modules/1".toList = [[], "modules".toList, ['1']] := by
      decide +kernel
    rw [Route.of?, hsplit]
    rfl
  have hsensor : Route.of? "/sensors/-7" = some (.sensor "-7") := by
    have hsplit : Text.splitOn '/' "/sensors/-7".toList = [[], "sensors".toList, ['-', '7']] := by
      decide +kernel
    rw [Route.of?, hsplit]
    rfl
  have hone : laxNumeral "1" = .ok 1 := rfl
  have hminus : laxNumeral "-7" = .ok (-7) := rfl
  obtain ⟨-, hfound, -⟩ := answersById_of_reachable hs hone true ⟨"/modules/1", []⟩
  obtain ⟨-, -, hmissing⟩ := answersById_of_reachable hs hminus true ⟨"/sensors/-7", []⟩
  constructor
  · exact (hfound hmodule).shown (by decide) ⟨1, "east", 1⟩ (by decide +kernel) rfl
  · exact (hmissing hsensor rfl rfl).missing (by decide) (by decide +kernel)

/-- Empty tables have no section with this id, but the answer is not that it is missing. -/
theorem internal_error_beyond_ids :
    let text := "9223372036854775808"
    let target : Target := ⟨"/sections/9223372036854775808", []⟩
    laxNumeral text = .ok 9223372036854775808 ∧
      Route.of? target.path = some (.sectionOf text) ∧
      (∀ r ∈ empty.sections, (r.id : Int) ≠ 9223372036854775808) ∧
      run (serve true "GET" target) empty = (.ok ⟨500, .internalError⟩, empty) := by
  intro text target
  have hid : laxNumeral text = .ok 9223372036854775808 := by decide +kernel
  have hroute : Route.of? target.path = some (.sectionOf text) := by
    have hsplit : Text.splitOn '/' target.path.toList = [[], "sections".toList, text.toList] := by
      decide +kernel
    have hempty : text.toList.isEmpty = false := by decide +kernel
    rw [Route.of?, hsplit]
    simp [hempty]
  refine ⟨hid, hroute, by simp [empty], ?_⟩
  exact (answersById_section integrity_empty hid hroute).oversized (by decide)

end Api
end SensorRelay
