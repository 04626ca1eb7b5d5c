import SensorRelay.Proofs.Store.Paths

/-!
# Records of sensors found by topic

Topics are not unique, so `IsFirstWithTopic` says which sensor a lookup by topic finds : of all
with the topic the one with the smallest id (`Integrity.isFirst_of_sensorByTopic?`). A value that
is a number is recorded for an existing sensor as the one new row (`Integrity.answer_insertRecord`).
Only the id of a sensor may be refused, when the database cannot hold it.

Whatever is asked of the tables, their records grow by just the row that an insert of a record
replies with (`records_answer`).
-/

namespace SensorRelay.Store

/-- No sensor with the topic has a smaller id. -/
def IsFirstWithTopic (s : Store) (topic : String) (x : SensorRow) : Prop :=
  x ∈ s.sensors ∧ x.topic = topic ∧ ∀ y ∈ s.sensors, y.topic = topic → x.id ≤ y.id

/-- The tables with one more record. -/
def withRecord (s : Store) (sensorId : Nat) (value : Binary64) (wall : WallClock) : Store :=
  { s with records := s.records ++ [⟨s.records.length + 1, sensorId, value, wall⟩] }

variable {s : Store}

theorem Numbered.pairwise_lt {α : Type} {id : α → Nat} {rows : List α} (h : Numbered id rows) :
    rows.Pairwise fun a b => id a < id b := by
  have hrange : (rows.map id).Pairwise (· < ·) := by
    rw [h]
    exact List.pairwise_lt_range'
  exact List.pairwise_map.1 hrange

theorem toBinary64_double (x : Binary64) : (Quantity.double x).toBinary64 = .ok x :=
  rfl

/-- A lookup by topic finds nothing exactly if no sensor has the topic. -/
theorem sensorByTopic?_eq_none_iff {topic : String} :
    s.sensorByTopic? topic = none ↔ ∀ x ∈ s.sensors, x.topic ≠ topic := by
  simp [sensorByTopic?]

namespace Integrity

variable (hs : s.Integrity)
include hs

/-- A lookup by topic finds the sensor with the smallest id. -/
theorem isFirst_of_sensorByTopic? {topic : String} {x : SensorRow}
    (h : s.sensorByTopic? topic = some x) : s.IsFirstWithTopic topic x := by
  obtain ⟨htopic, before, after, hsensors, hbefore⟩ := List.find?_eq_some_iff_append.1 h
  have hsorted := hs.sensorIds.pairwise_lt
  rw [hsensors, List.pairwise_append, List.pairwise_cons] at hsorted
  obtain ⟨-, ⟨hafter, -⟩, -⟩ := hsorted
  refine ⟨List.mem_of_find?_eq_some h, by simpa using htopic, fun y hy hytopic => ?_⟩
  rw [hsensors, List.mem_append, List.mem_cons] at hy
  rcases hy with hy | rfl | hy
  · exact absurd hytopic (by simpa using hbefore y hy)
  · exact Nat.le_refl _
  · exact Nat.le_of_lt (hafter y hy)

/-- A number is recorded for an existing sensor, if the id of the sensor is a key. -/
theorem answer_insertRecord {x : SensorRow} (hx : x ∈ s.sensors)
    (hkey : checkKey x.id = .ok ()) {value : Binary64} (hvalue : value.isNaN = false)
    (t : Timestamp) :
    Store.answer (.insertRecord (some (x.id : Int)) (.double value) (some t)) s =
      (.ok (some ⟨s.records.length + 1, x.id, value.plusZero, t.wall⟩),
        s.withRecord x.id value.plusZero t.wall) := by
  have hinsert : Store.insertRecord s x.id value t.wall =
      Except.ok (⟨s.records.length + 1, x.id, value.plusZero, t.wall⟩,
        s.withRecord x.id value.plusZero t.wall) := by
    rw [Store.insertRecord, hkey, ok_bind, hvalue, hs.sensorById?_eq_some hx,
      if_neg Bool.false_ne_true]
    rfl
  have hadd : s.addRecord (some (x.id : Int)) value (some t) =
      Store.insertRecord s x.id value t.wall := by
    rw [addRecord, forM_some, hkey, ok_bind, hvalue, required, required,
      if_neg Bool.false_ne_true, ok_bind, ok_bind]
  rw [Store.answer, toBinary64_double, ok_bind, hadd, hinsert, inserted]
  rfl

/-- A record is refused, or it is made for the sensor that has the id. -/
theorem answer_insertRecord_cases (id : Int) (value : Binary64) (t : Timestamp) :
    (∃ f, Store.answer (.insertRecord (some id) (.double value) (some t)) s = (.error f, s)) ∨
      ∃ x ∈ s.sensors, id = x.id ∧
        Store.answer (.insertRecord (some id) (.double value) (some t)) s =
          (.ok (some ⟨s.records.length + 1, x.id, value.plusZero, t.wall⟩),
            s.withRecord x.id value.plusZero t.wall) := by
  cases hkey : checkKey id with
  | error f =>
    refine Or.inl ⟨f, ?_⟩
    rw [Store.answer, toBinary64_double, ok_bind, addRecord, forM_some, hkey]
    rfl
  | ok _ =>
    cases hvalue : value.isNaN with
    | true =>
      refine Or.inl ⟨emptyColumn "records" "value", ?_⟩
      rw [Store.answer, toBinary64_double, ok_bind, addRecord, forM_some, hkey, ok_bind, hvalue]
      rfl
    | false =>
      cases hx : s.sensorById? id with
      | none =>
        refine Or.inl ⟨missingParent, ?_⟩
        rw [Store.answer, toBinary64_double, ok_bind, addRecord, forM_some, hkey, ok_bind, hvalue,
          required, required, if_neg Bool.false_ne_true, ok_bind, ok_bind, Store.insertRecord, hkey,
          hvalue, hx]
        rfl
      | some x =>
        obtain ⟨hmem, rfl⟩ := mem_of_sensorById? hx
        exact Or.inr ⟨x, hmem, rfl, hs.answer_insertRecord hmem hkey hvalue t⟩

end Integrity

theorem Reachable.withRecord (hs : s.Reachable) {x : SensorRow} (hx : x ∈ s.sensors)
    (hkey : checkKey x.id = .ok ()) {value : Binary64} (hvalue : value.isNaN = false)
    (t : Timestamp) : (s.withRecord x.id value.plusZero t.wall).Reachable := by
  have hreachable := hs.request (.insertRecord (some (x.id : Int)) (.double value) (some t))
  rwa [hs.integrity.answer_insertRecord hx hkey hvalue] at hreachable

theorem answer_insertRecord_oversized {sensorId : Int}
    (hkey : checkKey sensorId = .error oversizedKey) (s : Store) (value : Binary64)
    (t : Timestamp) :
    answer (.insertRecord (some sensorId) (.double value) (some t)) s =
      (.error oversizedKey, s) := by
  have hadd : s.addRecord (some sensorId) value (some t) = .error oversizedKey := by
    rw [addRecord, forM_some, hkey]
    rfl
  rw [answer, toBinary64_double, ok_bind, hadd, inserted]
  rfl

/-! ## The growth of the records -/

/-- The rows that a request has recorded, as the reply tells. -/
def recordedRows : (c : StoreCall) → Except Failure c.Reply → List RecordRow
  | .insertRecord _ _ _ => fun reply =>
    match (reply : Except Failure (Option RecordRow)) with
    | .ok row? => row?.toList
    | .error _ => []
  | _ => fun _ => []

variable {t : Store}

theorem insertSection_records {name : String} {row : SectionRow}
    (h : s.insertSection name = .ok (row, t)) : t.records = s.records := by
  unfold insertSection at h
  split at h
  · cases h
  · cases h
    rfl

theorem insertModule_records {name : String} {sectionId : Int} {row : ModuleRow}
    (h : s.insertModule name sectionId = .ok (row, t)) : t.records = s.records := by
  obtain ⟨-, -, h⟩ := bind_eq_ok_iff.1 h
  split at h
  · cases h
  · split at h
    · cases h
    · cases h
      rfl

theorem insertSensor_records {name topic : String} {moduleId : Int} {row : SensorRow}
    (h : s.insertSensor name moduleId topic = .ok (row, t)) : t.records = s.records := by
  obtain ⟨-, -, h⟩ := bind_eq_ok_iff.1 h
  split at h
  · cases h
  · split at h
    · cases h
    · cases h
      rfl

theorem insertRecord_eq {sensorId : Int} {value : Binary64} {wall : WallClock}
    {row : RecordRow} (h : s.insertRecord sensorId value wall = .ok (row, t)) :
    t = { s with records := s.records ++ [row] } := by
  obtain ⟨-, -, h⟩ := bind_eq_ok_iff.1 h
  split at h
  · cases h
  · split at h
    · cases h
    · cases h
      rfl

theorem addRecord_eq {sensorId : Option Int} {value : Binary64} {createdAt : Option Timestamp}
    {row : RecordRow} (h : s.addRecord sensorId value createdAt = .ok (row, t)) :
    t = { s with records := s.records ++ [row] } := by
  obtain ⟨-, -, h⟩ := bind_eq_ok_iff.1 h
  split at h
  · cases h
  · obtain ⟨i, -, h⟩ := bind_eq_ok_iff.1 h
    obtain ⟨w, -, h⟩ := bind_eq_ok_iff.1 h
    exact insertRecord_eq h

/-- An insert into another table leaves the records as they are. -/
theorem inserted_records {α : Type} {r : Except Failure (α × Store)}
    (h : ∀ a t, r = .ok (a, t) → t.records = s.records) : (s.inserted r).2.records = s.records := by
  match r, h with
  | .ok (a, t), h => exact h a t rfl
  | .error _, _ => rfl

/-- The records grow by the rows that a request has recorded, and by nothing else. -/
theorem records_answer (c : StoreCall) (s : Store) :
    (answer c s).2.records = s.records ++ recordedRows c (answer c s).1 := by
  cases c with
  | insertSection name =>
    refine (inserted_records fun row t h => ?_).trans (List.append_nil _).symm
    obtain ⟨n, -, h⟩ := bind_eq_ok_iff.1 h
    exact insertSection_records h
  | insertModule name sectionId =>
    refine (inserted_records fun row t h => ?_).trans (List.append_nil _).symm
    obtain ⟨-, -, h⟩ := bind_eq_ok_iff.1 h
    obtain ⟨n, -, h⟩ := bind_eq_ok_iff.1 h
    obtain ⟨i, -, h⟩ := bind_eq_ok_iff.1 h
    exact insertModule_records h
  | insertSensor name moduleId topic =>
    refine (inserted_records fun row t h => ?_).trans (List.append_nil _).symm
    obtain ⟨-, -, h⟩ := bind_eq_ok_iff.1 h
    obtain ⟨n, -, h⟩ := bind_eq_ok_iff.1 h
    obtain ⟨i, -, h⟩ := bind_eq_ok_iff.1 h
    obtain ⟨p, -, h⟩ := bind_eq_ok_iff.1 h
    exact insertSensor_records h
  | insertRecord sensorId value createdAt =>
    rw [answer]
    cases hadd : (do s.addRecord sensorId (← value.toBinary64) createdAt) with
    | error f => exact (List.append_nil _).symm
    | ok added =>
      obtain ⟨row, t⟩ := added
      obtain ⟨x, -, hadd⟩ := bind_eq_ok_iff.1 hadd
      rw [addRecord_eq hadd]
      rfl
  | _ => exact (List.append_nil _).symm

end SensorRelay.Store
