import SensorRelay.Proofs.Pipeline.Relay
import SensorRelay.Proofs.Pipeline.Windows
import SensorRelay.Proofs.Store.Listing

/-!
# Records in capture order

Raw messages that can be decoded, on topics of sensors, are recorded one after the other, as they
arrive (`Relay.after_captured`). What the tables list for a sensor does not go by that : a capture
is listed where its time belongs, beside the records that were there before
(`listsCaptures_withCaptures`). Of the order of arrival no trace is left but the ids of records, if
the messages for a sensor were captured at different times (`Relay.queryable_in_capture_order`).

The window is one of instants. Raw messages have their times in UTC, so with ends in UTC it selects
by the wall clocks that are stored.
-/

namespace SensorRelay

open Store

/-! ## Captures -/

/-- What a raw message is about : the sensor that it is routed to, and the reading of its payload. -/
structure Capture where
  sensor : SensorRow
  reading : RawSample

namespace Capture

/-- The capture of a raw message, if its payload can be decoded and its topic is that of a sensor. -/
def of? (unit : TimestampUnit) (s : Store) (i : String × Bytes) : Option Capture := do
  let sensor ← s.sensorByTopic? i.1
  let reading ← (RawSample.decode unit i.2).toOption
  return ⟨sensor, reading⟩

/-- The record of a capture. -/
def row (c : Capture) (id : Nat) : RecordRow :=
  ⟨id, c.sensor.id, Binary64.ofInt c.reading.value, c.reading.timestamp.wall⟩

/-- The records of captures, with ids over `n`. -/
def rows : Nat → List Capture → List RecordRow
  | _, [] => []
  | n, c :: cs => c.row (n + 1) :: rows (n + 1) cs

theorem of?_eq_some_iff {unit : TimestampUnit} {s : Store} {i : String × Bytes} {c : Capture} :
    of? unit s i = some c ↔
      s.sensorByTopic? i.1 = some c.sensor ∧ RawSample.decode unit i.2 = .ok c.reading := by
  obtain ⟨sensor, reading⟩ := c
  rw [of?]
  cases s.sensorByTopic? i.1 with
  | none => simp
  | some x =>
    cases RawSample.decode unit i.2 with
    | error e => simp [Except.toOption]
    | ok r => simp [Except.toOption]

variable {unit : TimestampUnit} {s : Store} {c : Capture} {cs : List Capture} {n : Nat}

/-- The row is the record of the capture, with the very number and time of the reading. -/
structure IsRecord (c : Capture) (r : RecordRow) : Prop where
  sensorId : r.sensorId = c.sensor.id
  exact_value : r.value.Is c.reading.value
  wall : r.wall = c.reading.timestamp.wall

theorem lt_id_of_mem_rows {r : RecordRow} (hr : r ∈ rows n cs) : n < r.id := by
  induction cs generalizing n with
  | nil => cases hr
  | cons c cs ih =>
    rcases List.mem_cons.1 hr with rfl | hr
    · exact Nat.lt_succ_self n
    · exact Nat.lt_of_succ_lt (ih hr)

theorem pairwise_rows (n : Nat) (cs : List Capture) :
    (rows n cs).Pairwise fun a b => a.id < b.id := by
  induction cs generalizing n with
  | nil => exact .nil
  | cons c cs ih => exact .cons (fun r hr => lt_id_of_mem_rows hr) (ih (n + 1))

/-- Selected records are those of the selected captures, if ids play no part in the selection. -/
theorem forall₂_filter_rows {p : RecordRow → Bool} {q : Capture → Bool}
    (h : ∀ c ∈ cs, ∀ id, c.IsRecord (c.row id) ∧ p (c.row id) = q c) (n : Nat) :
    List.Forall₂ IsRecord (cs.filter q) ((rows n cs).filter p) := by
  induction cs generalizing n with
  | nil => exact .nil
  | cons c cs ih =>
    have ih := ih (fun d hd => h d (List.mem_cons_of_mem c hd)) (n + 1)
    obtain ⟨hrecord, hselect⟩ := h c List.mem_cons_self (n + 1)
    rw [rows, List.filter_cons, List.filter_cons, hselect]
    split
    · exact .cons hrecord ih
    · exact ih

theorem map_filter_rows {α : Type} {p : RecordRow → Bool} {f : RecordRow → α}
    (hp : ∀ (c : Capture) id, p (c.row id) = p (c.row 0))
    (hf : ∀ (c : Capture) id, f (c.row id) = f (c.row 0)) (n : Nat) (cs : List Capture) :
    ((rows n cs).filter p).map f =
      (cs.filter fun c => p (c.row 0)).map fun c => f (c.row 0) := by
  induction cs generalizing n with
  | nil => rfl
  | cons c cs ih =>
    rw [rows, List.filter_cons, List.filter_cons, hp]
    split
    · rw [List.map_cons, List.map_cons, hf, ih]
    · exact ih (n + 1)

/-- The record of a capture of raw messages is exact. -/
theorem isRecord_row {i : String × Bytes} (hc : of? unit s i = some c) (id : Nat) :
    c.IsRecord (c.row id) :=
  ⟨rfl, Binary64.is_ofInt (natAbs_value_lt (of?_eq_some_iff.1 hc).2), rfl⟩

theorem offset_of_of? {i : String × Bytes} (hc : of? unit s i = some c) :
    c.reading.timestamp.offset = some UtcOffset.utc :=
  (RawSample.decode_ok (of?_eq_some_iff.1 hc).2).2.2

end Capture

namespace Store

/-- The tables with the record of a capture. -/
def withCapture (s : Store) (c : Capture) : Store :=
  s.withRecord c.sensor.id (Binary64.ofInt c.reading.value) c.reading.timestamp.wall

/-- The tables with the records of captures, in order. -/
def withCaptures (s : Store) (cs : List Capture) : Store :=
  { s with records := s.records ++ Capture.rows s.records.length cs }

theorem withCaptures_cons (s : Store) (c : Capture) (cs : List Capture) :
    s.withCaptures (c :: cs) = (s.withCapture c).withCaptures cs := by
  simp [withCaptures, withCapture, withRecord, Capture.rows, Capture.row]

end Store

/-- What is related to the elements of a list, is related to one of them. -/
theorem exists_of_forall₂ {α β : Type} {R : α → β → Prop} {l : List α} {u : List β}
    (h : List.Forall₂ R l u) {b : β} (hb : b ∈ u) : ∃ a, R a b := by
  induction h with
  | nil => cases hb
  | cons hab _ ih =>
    rcases List.mem_cons.1 hb with rfl | hb
    · exact ⟨_, hab⟩
    · exact ih hb

namespace Relay

/-- What comes of a raw message of which the sample is recorded. -/
def Outcome.captured (stage remainder : String) (timeout : Binary64) (reading : RawSample)
    (recordId : Option Nat) : Outcome where
  result := .ok (republished stage remainder)
  published := [⟨stageTopic stage remainder, reading.widen.encode, timeout⟩]
  deliveries := [.ok ⟨stageTopic stage remainder, "store",
    [.received, .matched, .decoded, .transformed, .persisted, .acked], none, none, recordId⟩]

variable {stage : String} {unit : TimestampUnit} {s : Store} {w : Relay} {remainder : String}
  {payload : Bytes} {timeout : Binary64}

/-- A decodable message on the topic of a sensor is published and recorded. -/
theorem relay_captured (hstage : IsSampleStage stage)
    (hperm : w.dispatcher.handlers.Perm [.raw stage timeout unit.name, .store stage .byTopic])
    (he : w.environment.Holds s) (hs : s.Reachable) {i : String × Bytes} {c : Capture}
    (hc : Capture.of? unit s i = some c) (hkey : checkKey c.sensor.id = .ok ()) :
    ∃ w', w.relay (rawMessage i.1 i.2) =
        (.captured stage i.1 timeout c.reading (some (s.records.length + 1)), w') ∧
      w'.dispatcher.handlers = w.dispatcher.handlers ∧
      w'.environment.Holds (s.withCapture c) ∧ (s.withCapture c).Reachable := by
  obtain ⟨hx, h⟩ := Capture.of?_eq_some_iff.1 hc
  have hmem := (hs.integrity.isFirst_of_sensorByTopic? hx).1
  obtain ⟨w', hdispatch, hholds, hhandlers, hpublished⟩ := dispatch_accepted hstage hperm he i.1 h
  have hstore := Handler.run_record hholds
    ((HandlerResult.received (stageTopic stage i.1) "store").push .matched) i.1
    (decode_encode_widen h)
  rw [hx] at hstore
  obtain ⟨hpersist, hreachable⟩ := run_persist_reading hholds hs hmem hkey h
    ((((HandlerResult.received (stageTopic stage i.1) "store").push .matched).push .decoded).push
      .transformed)
  obtain ⟨w'', hdelivery, hholds', hhandlers', -, -⟩ := dispatch_sampleMessage hstage
    (hhandlers ▸ hperm) i.1 _ (hholds.withTables _) (hstore.trans hpersist)
  exact ⟨w'', relay_of_one hdispatch hpublished hdelivery, hhandlers'.trans hhandlers, hholds',
    hreachable⟩

/-- What came of each of the messages, one after the other. -/
def outcomes (w : Relay) : List (String × Bytes) → List Outcome
  | [] => []
  | i :: inputs =>
    (w.relay (rawMessage i.1 i.2)).1 :: (w.relay (rawMessage i.1 i.2)).2.outcomes inputs

/-- An outcome without the ids of records. -/
def Outcome.withoutIds (o : Outcome) : Outcome :=
  { o with result := o.result.map fun r => { r with recordId := none }
           deliveries := o.deliveries.map (Except.map fun r => { r with recordId := none }) }

/-- Decodable messages on the topics of sensors are all recorded, in the order of their arrival. -/
theorem after_captured (hstage : IsSampleStage stage)
    (hperm : w.dispatcher.handlers.Perm [.raw stage timeout unit.name, .store stage .byTopic])
    (he : w.environment.Holds s) (hs : s.Reachable)
    (hroom : fitsSigned 64 (s.sensors.length : Int) = true) (inputs : List (String × Bytes))
    (hinputs : ∀ i ∈ inputs, (Capture.of? unit s i).isSome = true) :
    (w.after inputs).environment.Holds
        (s.withCaptures (inputs.filterMap (Capture.of? unit s))) ∧
      (s.withCaptures (inputs.filterMap (Capture.of? unit s))).Reachable ∧
      List.Forall₂ (fun i o => ∃ c id, Capture.of? unit s i = some c ∧
        o = .captured stage i.1 timeout c.reading (some id)) inputs (w.outcomes inputs) := by
  induction inputs generalizing w s with
  | nil =>
    have hnothing : s.withCaptures [] = s := by simp [withCaptures, Capture.rows]
    rw [List.filterMap_nil, hnothing]
    exact ⟨he, hs, .nil⟩
  | cons i inputs ih =>
    obtain ⟨c, hc⟩ := Option.isSome_iff_exists.1 (hinputs i List.mem_cons_self)
    have hmem := (hs.integrity.isFirst_of_sensorByTopic? (Capture.of?_eq_some_iff.1 hc).1).1
    have hkey : checkKey c.sensor.id = .ok () :=
      if_pos (fitsSigned_of_le (hs.integrity.sensorIds.id_le hmem) hroom)
    obtain ⟨w', hrelay, hhandlers, hholds, hreachable⟩ :=
      relay_captured hstage hperm he hs hc hkey
    -- The new tables have the same sensors, so the other messages mean what they meant before.
    obtain ⟨ihholds, ihreachable, ihoutcomes⟩ := ih (hhandlers ▸ hperm) hholds hreachable hroom
      fun j hj => hinputs j (List.mem_cons_of_mem i hj)
    rw [List.filterMap_cons_some hc, withCaptures_cons, outcomes, after, List.foldl_cons, hrelay]
    exact ⟨ihholds, ihreachable, .cons ⟨c, _, hc, rfl⟩ ihoutcomes⟩

end Relay

/-! ## Listings -/

namespace Store

variable {unit : TimestampUnit} {s t : Store} {cs cs' : List Capture} {x : SensorRow}
  {window : Window}

/-- The tables `t` list for a sensor, besides the records that `s` lists, one record for each of the
captures of the sensor in the window, each of them where its time of capture belongs and, among
those of one time, where the order of storing puts it. -/
def ListsCaptures (s : Store) (cs : List Capture) (t : Store) (x : SensorRow) (window : Window) :
    Prop :=
  ∃ listed new, answer (.records x.id window) t = (.ok (some listed), t) ∧
    listed.Perm (s.recordsOf x.id window ++ new) ∧ listed.Pairwise RecordRow.Precedes ∧
    List.Forall₂ Capture.IsRecord (cs.filter fun c =>
      c.sensor.id == x.id && window.holdsInstant c.reading.timestamp) new ∧
    new.Pairwise (fun a b => a.id < b.id) ∧ ∀ r ∈ new, s.records.length < r.id

/-- The captures of a sensor were all made at different times. -/
def DistinctTimes (cs : List Capture) (x : SensorRow) : Prop :=
  ((cs.filter fun c => c.sensor.id == x.id).map fun c => c.reading.timestamp).Nodup

instance (cs : List Capture) (x : SensorRow) : Decidable (DistinctTimes cs x) :=
  inferInstanceAs (Decidable (List.Nodup _))

/-- With captures the tables list the records that they have listed, and those of captures. -/
theorem recordsOf_withCaptures_perm (s : Store) (cs : List Capture) (sensorId : Int)
    (window : Window) : ((s.withCaptures cs).recordsOf sensorId window).Perm
      (s.recordsOf sensorId window ++
        (Capture.rows s.records.length cs).filter (selects sensorId window)) := by
  refine (recordsOf_perm _ sensorId window).trans ?_
  rw [withCaptures, List.filter_append]
  exact (s.recordsOf_perm sensorId window).symm.append_right _

theorem selects_row (c : Capture) (id : Nat) (x : SensorRow) (window : Window) :
    selects x.id window (c.row id) =
      (c.sensor.id == x.id && window.holds c.reading.timestamp.wall) := by
  rw [← natCast_beq]
  rfl

/-- As all captures are in UTC, those at different times have different wall clocks. -/
theorem DistinctTimes.walls (h : DistinctTimes cs x)
    (hcs : ∀ c ∈ cs, ∃ i, Capture.of? unit s i = some c) :
    ((cs.filter fun c => c.sensor.id == x.id).map fun c => c.reading.timestamp.wall).Nodup := by
  have hwalls : (((cs.filter fun c => c.sensor.id == x.id).map
      fun c => c.reading.timestamp).map Timestamp.wall).Nodup := by
    refine List.Nodup.map_on (fun a ha b hb hab => ?_) h
    obtain ⟨c, hc, rfl⟩ := List.mem_map.1 ha
    obtain ⟨d, hd, rfl⟩ := List.mem_map.1 hb
    obtain ⟨i, hi⟩ := hcs c (List.mem_of_mem_filter hc)
    obtain ⟨j, hj⟩ := hcs d (List.mem_of_mem_filter hd)
    calc c.reading.timestamp = ⟨c.reading.timestamp.wall, c.reading.timestamp.offset⟩ := rfl
      _ = ⟨d.reading.timestamp.wall, d.reading.timestamp.offset⟩ := by
        rw [hab, Capture.offset_of_of? hi, Capture.offset_of_of? hj]
  rwa [List.map_map] at hwalls

theorem listsCaptures_withCaptures (ht : (s.withCaptures cs).Reachable)
    (hcs : ∀ c ∈ cs, ∃ i, Capture.of? unit s i = some c) (hkey : checkKey x.id = .ok ())
    (hwindow : window.HasOffset .utc) : ListsCaptures s cs (s.withCaptures cs) x window := by
  refine ⟨_, _, answer_records hkey _ window, recordsOf_withCaptures_perm s cs x.id window,
    ht.integrity.pairwise_recordsOf x.id window, ?_, ?_, ?_⟩
  · refine Capture.forall₂_filter_rows (fun c hc id => ?_) _
    obtain ⟨i, hi⟩ := hcs c hc
    rw [selects_row, hwindow.holdsInstant_eq (Capture.offset_of_of? hi)]
    exact ⟨Capture.isRecord_row hi id, rfl⟩
  · exact (Capture.pairwise_rows _ cs).sublist List.filter_sublist
  · exact fun r hr => Capture.lt_id_of_mem_rows (List.mem_of_mem_filter hr)

/-- Captures at different times are listed in one order, whatever the order in which they came. -/
theorem map_capture_recordsOf_eq (hs : s.Reachable) (ht : (s.withCaptures cs).Reachable)
    (ht' : (s.withCaptures cs').Reachable) (hperm : cs.Perm cs')
    (hcs : ∀ c ∈ cs, ∃ i, Capture.of? unit s i = some c) (hdistinct : DistinctTimes cs x)
    (window : Window) :
    ((s.withCaptures cs).recordsOf x.id window).map RecordRow.capture =
      ((s.withCaptures cs').recordsOf x.id window).map RecordRow.capture := by
  refine map_capture_eq (recordsOf_withCaptures_perm s cs x.id window)
    (recordsOf_withCaptures_perm s cs' x.id window) (ht.integrity.pairwise_recordsOf x.id window)
    (ht'.integrity.pairwise_recordsOf x.id window) (n := s.records.length) (fun r hr => ?_)
    (fun r hr => Capture.lt_id_of_mem_rows (List.mem_of_mem_filter hr))
    (fun r hr => Capture.lt_id_of_mem_rows (List.mem_of_mem_filter hr)) ?_ ?_
  · exact hs.integrity.recordIds.id_le
      (List.mem_of_mem_filter ((s.recordsOf_perm x.id window).mem_iff.1 hr))
  · rw [Capture.map_filter_rows (fun _ _ => rfl) (fun _ _ => rfl),
      Capture.map_filter_rows (fun _ _ => rfl) (fun _ _ => rfl)]
    exact (hperm.filter _).map _
  · have hselected : (cs.filter fun c => selects x.id window (c.row 0)) =
        (cs.filter fun c => c.sensor.id == x.id).filter fun c =>
          window.holds c.reading.timestamp.wall := by
      rw [List.filter_filter]
      exact List.filter_congr fun c _ => (selects_row c 0 x window).trans (Bool.and_comm _ _)
    rw [Capture.map_filter_rows (fun _ _ => rfl) (fun _ _ => rfl), hselected]
    exact (hdistinct.walls hcs).sublist (List.filter_sublist.map _)

end Store

/-! ## Orders of arrival -/

namespace Relay

variable {stage : String} {unit : TimestampUnit} {s : Store} {w : Relay}

/-- Raw messages that can be decoded, on topics of sensors, are all acknowledged and recorded, and
are listed in the order of their capture. In whatever order the same messages arrive, each has the
same outcome but for the ids of records, and a sensor of which the messages were captured at
different times has the same captures listed in the same order. Ids are keys of 64 bits, so no
database holds more sensors than these can count. -/
theorem queryable_in_capture_order (hw : w.Serves stage unit s) (hstage : IsSampleStage stage)
    (hroom : fitsSigned 64 (s.sensors.length : Int) = true) {inputs : List (String × Bytes)}
    (hinputs : ∀ i ∈ inputs, (∃ reading, RawSample.decode unit i.2 = .ok reading) ∧
      ∃ x ∈ s.sensors, x.topic = i.1) :
    let cs := inputs.filterMap (Capture.of? unit s)
    ∃ t, (w.after inputs).environment.database = some t ∧
      (∀ o ∈ w.outcomes inputs, Acked o.result ∧ ∃ d, o.deliveries = [d] ∧ Acked d) ∧
      (∀ x ∈ s.sensors, ∀ window : Window, window.HasOffset .utc →
        s.ListsCaptures cs t x window) ∧
      ∀ inputs', inputs.Perm inputs' →
        ∃ t', (w.after inputs').environment.database = some t' ∧
          (∀ i o o', (i, o) ∈ inputs.zip (w.outcomes inputs) →
            (i, o') ∈ inputs'.zip (w.outcomes inputs') → o.withoutIds = o'.withoutIds) ∧
          ∀ x ∈ s.sensors, DistinctTimes cs x → ∀ window, ∃ listed listed',
            answer (.records x.id window) t = (.ok (some listed), t) ∧
            answer (.records x.id window) t' = (.ok (some listed'), t') ∧
            listed.map RecordRow.capture = listed'.map RecordRow.capture := by
  intro cs
  obtain ⟨⟨timeout, hperm⟩, he, hs⟩ := hw
  have hsome : ∀ i ∈ inputs, (Capture.of? unit s i).isSome = true := by
    intro i hi
    obtain ⟨⟨reading, hreading⟩, x, hx, htopic⟩ := hinputs i hi
    cases hfound : s.sensorByTopic? i.1 with
    | none => exact absurd htopic (sensorByTopic?_eq_none_iff.1 hfound x hx)
    | some first =>
      have hc : Capture.of? unit s i = some ⟨first, reading⟩ :=
        Capture.of?_eq_some_iff.2 ⟨hfound, hreading⟩
      rw [hc]
      rfl
  have hcs : ∀ c ∈ cs, ∃ i, Capture.of? unit s i = some c := fun c hc =>
    (List.mem_filterMap.1 hc).imp fun _ hi => hi.2
  have hkey : ∀ x ∈ s.sensors, checkKey x.id = .ok () := fun x hx =>
    if_pos (fitsSigned_of_le (hs.integrity.sensorIds.id_le hx) hroom)
  obtain ⟨hholds, hreachable, houtcomes⟩ := after_captured hstage hperm he hs hroom inputs hsome
  refine ⟨_, hholds.database, ?_, ?_, fun inputs' hinputs' => ?_⟩
  · intro o ho
    obtain ⟨i, c, id, -, rfl⟩ := exists_of_forall₂ houtcomes ho
    exact ⟨⟨_, rfl, rfl⟩, _, rfl, _, rfl, rfl⟩
  · exact fun x hx window hwindow =>
      listsCaptures_withCaptures hreachable hcs (hkey x hx) hwindow
  · obtain ⟨hholds', hreachable', houtcomes'⟩ := after_captured hstage hperm he hs hroom inputs'
      fun i hi => hsome i (hinputs'.mem_iff.2 hi)
    refine ⟨_, hholds'.database, fun i o o' ho ho' => ?_, fun x hx hdistinct window => ?_⟩
    · obtain ⟨c, id, hc, rfl⟩ := (List.forall₂_iff_zip.1 houtcomes).2 ho
      obtain ⟨c', id', hc', rfl⟩ := (List.forall₂_iff_zip.1 houtcomes').2 ho'
      obtain rfl := Option.some.inj (hc.symm.trans hc')
      rfl
    · exact ⟨_, _, answer_records (hkey x hx) _ window, answer_records (hkey x hx) _ window,
        map_capture_recordsOf_eq hs hreachable hreachable' (hinputs'.filterMap _) hcs hdistinct
          window⟩

/-- Beside an old record from the first microsecond of 1970 a message from the second one arrives
before one from the first. The listings are the same as if it had arrived after it. -/
theorem capture_order_of_late_message :
    let tables := (Store.run (reconcile [⟨"pump", none, "hall", "east", 0⟩]) .empty).2
    let s := tables.withRecord 1 (Binary64.ofInt 7) ⟨62135596800000001, by decide⟩
    let x : SensorRow := ⟨1, "pump", 1, "hall/east/pump"⟩
    let w : Relay := ⟨.new [.store "clean" .byTopic, .raw "clean" (Binary64.ofInt 10) "ns"] none,
      { Environment.new with database := some s }⟩
    let late : String × Bytes :=
      ("hall/east/pump", [0, 0, 0, 0, 0, 0, 3, 232, 255, 255, 255, 214])
    let early : String × Bytes := ("hall/east/pump", [0, 0, 0, 0, 0, 0, 7, 208, 0, 0, 0, 1])
    let cs := [early, late].filterMap (Capture.of? .nanoseconds s)
    let window : Window := ⟨some ⟨⟨62135596800000001, by decide⟩, some .utc⟩, none⟩
    let times := fun t : Store => t.records.map fun r => r.wall.micros - 62135596800000000
    w.Serves "clean" .nanoseconds s ∧ cs.length = 2 ∧ DistinctTimes cs x ∧
      (w.after [early, late]).environment.database.map times = some [1, 2, 1] ∧
      (w.after [late, early]).environment.database.map times = some [1, 1, 2] ∧
      ∃ t t', (w.after [early, late]).environment.database = some t ∧
        (w.after [late, early]).environment.database = some t' ∧
        s.ListsCaptures cs t x window ∧
        ∃ listed listed', answer (.records 1 window) t = (.ok (some listed), t) ∧
          answer (.records 1 window) t' = (.ok (some listed'), t') ∧
          listed.map RecordRow.capture = listed'.map RecordRow.capture := by
  intro tables s x w late early cs window times
  have hx : x ∈ tables.sensors := by decide +kernel
  have hs : s.Reachable := by
    have htables : tables.Reachable := Reachable.empty.run _
    have hrecord := htables.withRecord hx (by decide +kernel)
      (Binary64.isNaN_of_isFinite (Binary64.isFinite_ofInt (n := 7) (by decide)))
      ⟨⟨62135596800000001, by decide⟩, none⟩
    rwa [Binary64.plusZero_ofInt (by decide)] at hrecord
  have hserves : w.Serves "clean" .nanoseconds s :=
    ⟨⟨Binary64.ofInt 10, List.Perm.swap _ _ _⟩, ⟨rfl, rfl, rfl, nofun⟩, hs⟩
  have hdecodes : ∀ i ∈ [early, late], (RawSample.decode .nanoseconds i.2).isOk = true := by
    decide +kernel
  have htopics : ∀ i ∈ [early, late], i.1 = x.topic := by decide +kernel
  have hinputs : ∀ i ∈ [early, late], (∃ reading, RawSample.decode .nanoseconds i.2 = .ok reading) ∧
      ∃ x ∈ s.sensors, x.topic = i.1 := by
    intro i hi
    refine ⟨?_, x, hx, (htopics i hi).symm⟩
    cases hdecode : RawSample.decode .nanoseconds i.2 with
    | error e => exact nomatch hdecode ▸ hdecodes i hi
    | ok reading => exact ⟨reading, rfl⟩
  have hdistinct : DistinctTimes cs x := by decide +kernel
  obtain ⟨t, ht, -, hlists, horder⟩ := queryable_in_capture_order hserves (Or.inr rfl)
    (by decide +kernel) hinputs
  obtain ⟨t', ht', -, hsame⟩ := horder [late, early] (List.Perm.swap _ _ _)
  exact ⟨hserves, by decide +kernel, hdistinct, by decide +kernel, by decide +kernel, t, t', ht, ht',
    hlists x hx window ⟨by decide +kernel, by decide +kernel⟩, hsame x hx hdistinct window⟩

end Relay

end SensorRelay
