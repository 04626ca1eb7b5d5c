import SensorRelay.Proofs.Api.ById
import SensorRelay.Proofs.Pipeline.Storing

/-!
# Windows of time

A record keeps the wall clock of its sample and not the offset from UTC, and it is by their wall
clocks that records are selected and ordered. As long as the accepted samples of a sensor and the
ends of the window have one offset in common, this is the selection and the order by instants
(`records_eq_byInstant`), and the read interface gives just these records. With different offsets
it is not : a sample from before the window may be found in it (`records_of_earlier_instant`).
-/

namespace SensorRelay.Store

variable {s t : Store}

/-! ## By instants -/

/-- Does the window hold the instant of the timestamp? -/
def Window.holdsInstant (w : Window) (time : Timestamp) : Bool :=
  w.earliest.all (fun a => a.instant ≤ time.instant)
    && w.latest.all (fun b => time.instant ≤ b.instant)

/-- The order of records by the instants of their samples, then by their ids. -/
def instantLe (a b : RecordRow × Timestamp) : Bool :=
  a.2.instant < b.2.instant || (a.2.instant == b.2.instant && a.1.id ≤ b.1.id)

/-- The records of a sensor of which the samples are in a window, in the order of their
instants. -/
def byInstant (log : List (RecordRow × Timestamp)) (sensorId : Nat) (w : Window) :
    List RecordRow :=
  ((log.filter fun e => e.1.sensorId == sensorId && w.holdsInstant e.2).mergeSort instantLe).map
    Prod.fst

/-- The ends of the window have the offset. -/
structure Window.HasOffset (w : Window) (z : UtcOffset) : Prop where
  earliest : ∀ a, w.earliest = some a → a.offset = some z
  latest : ∀ b, w.latest = some b → b.offset = some z

theorem instant_le_iff {a b : Timestamp} {z : UtcOffset} (ha : a.offset = some z)
    (hb : b.offset = some z) : a.instant ≤ b.instant ↔ a.wall.micros ≤ b.wall.micros := by
  rw [Timestamp.instant, Timestamp.instant, ha, hb]
  omega

/-- With one offset a window holds an instant exactly if it holds the wall clock. -/
theorem Window.HasOffset.holdsInstant_eq {w : Window} {z : UtcOffset} (hw : w.HasOffset z)
    {time : Timestamp} (htime : time.offset = some z) :
    w.holdsInstant time = w.holds time.wall := by
  obtain ⟨earliest, latest⟩ := w
  have hfirst : (earliest.all fun a => a.instant ≤ time.instant) =
      earliest.all fun a => a.wall.micros ≤ time.wall.micros := by
    cases earliest with
    | none => rfl
    | some a => simp [instant_le_iff (hw.earliest a rfl) htime]
  have hlast : (latest.all fun b => time.instant ≤ b.instant) =
      latest.all fun b => time.wall.micros ≤ b.wall.micros := by
    cases latest with
    | none => rfl
    | some b => simp [instant_le_iff htime (hw.latest b rfl)]
  rw [holdsInstant, holds, hfirst, hlast]

/-- With one offset the order of instants is that of the wall clocks. -/
theorem instantLe_eq {a b : RecordRow × Timestamp} {z : UtcOffset} (ha : a.1.wall = a.2.wall)
    (hb : b.1.wall = b.2.wall) (haz : a.2.offset = some z) (hbz : b.2.offset = some z) :
    instantLe a b = recordLe a.1 b.1 := by
  have hlt : a.2.instant < b.2.instant ↔ a.2.wall.micros < b.2.wall.micros := by
    rw [← Int.not_le, ← Nat.not_le, instant_le_iff hbz haz]
  have heq : a.2.instant = b.2.instant ↔ a.2.wall.micros = b.2.wall.micros := by
    rw [Int.le_antisymm_iff, Nat.le_antisymm_iff, instant_le_iff haz hbz, instant_le_iff hbz haz]
  rw [instantLe, recordLe, ha, hb, Bool.eq_iff_iff]
  simp [hlt, heq]

theorem natCast_beq (m n : Nat) : ((m : Int) == (n : Int)) = (m == n) := by
  rw [Bool.eq_iff_iff, beq_iff_eq, beq_iff_eq]
  exact Int.natCast_inj

/-- The tables select and order the records of a sensor by their instants, if the samples and the
window have one offset. -/
theorem recordsOf_eq_byInstant {w : Intake} (h : w.Faithful s) {id : Nat}
    (hnew : ∀ row ∈ s.records, row.sensorId ≠ id) {z : UtcOffset}
    (hlog : ∀ e ∈ w.log, e.1.sensorId = id → e.2.offset = some z) {window : Window}
    (hwindow : window.HasOffset z) :
    w.store.recordsOf id window = byInstant w.log id window := by
  have hold : s.records.filter (fun r => (r.sensorId : Int) == id && window.holds r.wall) = [] := by
    refine List.filter_eq_nil_iff.2 fun row hrow => ?_
    simp [natCast_beq, hnew row hrow]
  have hselected : w.log.filter ((fun r => (r.sensorId : Int) == id && window.holds r.wall) ∘
      Prod.fst) = w.log.filter fun e => e.1.sensorId == id && window.holdsInstant e.2 := by
    refine List.filter_congr fun e he => ?_
    by_cases hid : e.1.sensorId = id
    · simp [hid, h.walls e he, hwindow.holdsInstant_eq (hlog e he hid)]
    · simp only [Function.comp_apply, natCast_beq, beq_eq_false_iff_ne.2 hid, Bool.false_and]
  rw [recordsOf, h.store, List.filter_append, hold, List.nil_append, List.filter_map, hselected,
    byInstant]
  refine (List.map_mergeSort fun a ha b hb => ?_).symm
  rw [List.mem_filter, Bool.and_eq_true, beq_iff_eq] at ha hb
  exact instantLe_eq (h.walls a ha.1) (h.walls b hb.1) (hlog a ha.1 ha.2.1) (hlog b hb.1 hb.2.1)

/-! ## Answers -/

/-- The read interface gives a sensor with its records in a window. -/
theorem run_serve_sensor {x : SensorRow} (hs : s.Integrity) (hx : x ∈ s.sensors)
    (hkey : checkKey x.id = .ok ()) {window : Window} {target : Api.Target} {text : String}
    (hroute : Api.Route.of? target.path = some (.sensor text))
    (hid : Api.readId "sensor_id" text = .ok (x.id : Int))
    (hearliest : Api.readBound target "since" = .ok window.earliest)
    (hlatest : Api.readBound target "until" = .ok window.latest)
    (horder : Api.isReversed window.earliest window.latest = false) (ready : Bool) :
    run (Api.serve ready "GET" target) s =
      (.ok ⟨200, .oneSensor x (s.recordsOf x.id window)⟩, s) := by
  have hread : Api.answerRoute ready target (.sensor text) =
      Api.sensorDetail x.id window.earliest window.latest := by
    rw [Api.answerRoute, hid, hearliest, hlatest]
  exact Api.run_serve hroute (hread ▸ Api.run_sensorDetail_of_mem hs hx hkey horder)

/-- After any deliveries the records of a sensor are found by the instants of their samples, and
the read interface gives just these, if the samples and the ends of the window have one offset. -/
theorem records_eq_byInstant (hs : s.Reachable) {x : SensorRow} (hx : x ∈ s.sensors)
    (hkey : checkKey x.id = .ok ()) (hnew : ∀ row ∈ s.records, row.sensorId ≠ x.id)
    (vs : List Delivery) {z : UtcOffset}
    (hlog : ∀ e ∈ (intake vs s).log, e.1.sensorId = x.id → e.2.offset = some z) {window : Window}
    (hwindow : window.HasOffset z) :
    (intake vs s).Faithful s ∧
      answer (.records x.id window) (intake vs s).store =
        (.ok (some (byInstant (intake vs s).log x.id window)), (intake vs s).store) ∧
      ∀ (target : Api.Target) (text : String) (ready : Bool),
        Api.Route.of? target.path = some (.sensor text) →
        Api.readId "sensor_id" text = .ok (x.id : Int) →
        Api.readBound target "since" = .ok window.earliest →
        Api.readBound target "until" = .ok window.latest →
        Api.isReversed window.earliest window.latest = false →
        run (Api.serve ready "GET" target) (intake vs s).store =
          (.ok ⟨200, .oneSensor x (byInstant (intake vs s).log x.id window)⟩,
            (intake vs s).store) := by
  have hfaithful := faithful_intake hs vs
  have hrecords := recordsOf_eq_byInstant hfaithful hnew hlog hwindow
  have hx' : x ∈ (intake vs s).store.sensors := by
    rw [hfaithful.store]
    exact hx
  refine ⟨hfaithful, ?_, ?_⟩
  · rw [← hrecords]
    exact answer_records hkey _ window
  · intro target text ready hroute hid hearliest hlatest horder
    rw [← hrecords]
    exact run_serve_sensor hfaithful.reachable.integrity hx' hkey hroute hid hearliest hlatest
      horder ready

/-- Of two samples from two hours east of UTC one is a second beyond the window. -/
theorem records_two_hours_east :
    let s := (run (reconcile [⟨"pump", none, "hall", "east", 0⟩]) empty).2
    let x : SensorRow := ⟨1, "pump", 1, "hall/east/pump"⟩
    let arrival := fun time : String => (⟨"processed", .byTopic, ⟨"processed/hall/east/pump",
      Text.utf8 ("\x7b\"value\":1,\"timestamp\":\"" ++ time ++ "\"\x7d")⟩, []⟩ : Delivery)
    let vs := ["2026-01-01T02:00:01+02:00", "2026-01-01T02:00:00+02:00"].map arrival
    let w := intake vs s
    let target : Api.Target :=
      ⟨"/sensors/1", [("since", "2026-01-01T01:00+02:00"), ("until", "2026-01-01T02:00+02:00")]⟩
    let window : Window := ⟨(Timestamp.ofQuery? "2026-01-01T01:00+02:00").map Timestamp.asUtc,
      (Timestamp.ofQuery? "2026-01-01T02:00+02:00").map Timestamp.asUtc⟩
    run (Api.serve true "GET" target) w.store =
        (.ok ⟨200, .oneSensor x (byInstant w.log 1 window)⟩, w.store) ∧
      (byInstant w.log 1 window).map RecordRow.id = [2] := by
  intro s x arrival vs w target window
  have hs : s.Reachable := Reachable.empty.run _
  have hroute : Api.Route.of? target.path = some (.sensor "1") := by
    have hsplit : Text.splitOn '/' target.path.toList = [[], "sensors".toList, ['1']] := by
      decide +kernel
    rw [Api.Route.of?, hsplit]
    rfl
  have hbound : ∀ name text, target.param? name = some text →
      (Timestamp.ofQuery? text).isSome = true →
      Api.readBound target name = .ok ((Timestamp.ofQuery? text).map Timestamp.asUtc) := by
    intro name text hparam hsome
    obtain ⟨time, htime⟩ := Option.isSome_iff_exists.1 hsome
    rw [Api.readBound, hparam]
    dsimp only
    rw [htime]
    rfl
  have hsince := hbound "since" "2026-01-01T01:00+02:00" (by decide +kernel) (by decide +kernel)
  have huntil := hbound "until" "2026-01-01T02:00+02:00" (by decide +kernel) (by decide +kernel)
  have hwindow : window.HasOffset ⟨7200000000, by decide⟩ :=
    ⟨by decide +kernel, by decide +kernel⟩
  obtain ⟨-, -, hserve⟩ := records_eq_byInstant (x := x) hs (by decide +kernel) (by decide +kernel)
    (by decide +kernel) vs (by decide +kernel) hwindow
  exact ⟨hserve target "1" true hroute rfl hsince huntil (by decide +kernel), by decide +kernel⟩

/-- Where it is one o'clock two hours east of UTC, the year in UTC has an hour to go. The record is
found in a window that begins with the year. -/
theorem records_of_earlier_instant :
    let s := (run (reconcile [⟨"pump", none, "hall", "east", 0⟩]) empty).2
    let payload := Text.utf8 "\x7b\"value\":1,\"timestamp\":\"2026-01-01T01:00:00+02:00\"\x7d"
    let w := intake [⟨"processed", .byTopic, ⟨"processed/hall/east/pump", payload⟩, []⟩] s
    let window : Window := ⟨Timestamp.ofIso? "2026-01-01T00:00:00+00:00", none⟩
    (w.log.map fun e => (e.1.id, e.1.sensorId)) = [(1, 1)] ∧
      (w.store.recordsOf 1 window).map RecordRow.id = [1] ∧ byInstant w.log 1 window = [] := by
  decide +kernel

end SensorRelay.Store
