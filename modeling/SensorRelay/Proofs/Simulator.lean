import SensorRelay.Proofs.Program.Run
import SensorRelay.Proofs.Sample.RawInverse
import SensorRelay.Proofs.Topic
import SensorRelay.Simulator

/-!
# Rounds of the simulator

In a round the simulator draws a value, looks at the clock and publishes one sample for each of the
known topics, in their order, whatever became of the samples before (`Simulator.ends_round`). What
is published on a raw topic is read again as the value that was drawn, at the time of the clock as
far as the unit tells it (`Offer.Exact`). The counts of a simulator tell what has become of all
samples (`Simulator.counted`), so over any number of rounds they add up to the topics that were
known in these rounds (`Simulator.rounds_exact`).
-/

namespace SensorRelay

open Program

/-! ## Samples -/

/-- A sample that a simulator makes for a topic, and what has become of it. -/
structure Offer where
  topic : String
  value : Int
  now : Timestamp
  payload : Bytes
  outcome : Except Failure Unit

namespace Offer

/-- Has the sample been published? -/
def sent (o : Offer) : Bool :=
  o.outcome.isOk

/-- The exchanges in which a sample is made and published. -/
def entries (timeout : Binary64) (o : Offer) : List (Exchange simulatorInterface) :=
  [⟨.draw Simulator.lowest Simulator.highest, .ok o.value⟩, ⟨.now, .ok o.now⟩,
    ⟨.publish (stageTopic rawStage o.topic) o.payload timeout, o.outcome⟩]

/-- The sample goes where the raw stage finds the topic again, and is read there as what it was made
of, with the time rounded down to what the unit tells apart. -/
structure Exact (unit : TimestampUnit) (o : Offer) : Prop where
  routed : remainder? rawStage (stageTopic rawStage o.topic) = some o.topic
  length : o.payload.length = 12
  value : 0 ≤ o.value ∧ o.value ≤ 100
  read : ∃ t, RawSample.decodeNamed unit.name o.payload = .ok ⟨o.value, t⟩ ∧
    t.offset = some UtcOffset.utc ∧
    t.instant = o.now.instant / unit.resolution * unit.resolution
  outcome : o.outcome = .ok () ∨ ∃ e, o.outcome = .error (.pipeline e)

end Offer

namespace Simulator

/-- How requests of a simulator are answered, from a state that changes with them. -/
abbrev Outside (σ : Type) :=
  (q : simulatorInterface.Request) → σ → Except Failure (simulatorInterface.Reply q) × σ

/-- The topics are told, a number is drawn within its bounds, the clock tells the time in UTC, with
ticks that a raw payload has room for, and publishing works or ends with an error of the
pipeline. -/
structure Obliges {σ : Type} (unit : TimestampUnit) (answer : Outside σ) : Prop where
  topics : ∀ w, ∃ topics : List String, (answer .topics w).1 = .ok topics
  draw : ∀ low high w, low ≤ high →
    ∃ n : Int, (answer (.draw low high) w).1 = .ok n ∧ low ≤ n ∧ n ≤ high
  now : ∀ w, ∃ t : Timestamp, (answer .now w).1 = .ok t ∧ t.offset = some UtcOffset.utc ∧
    fitsSigned 64 (unit.ticks t.instant) = true
  publish : ∀ topic payload timeout w, (answer (.publish topic payload timeout) w).1 = .ok () ∨
    ∃ e, (answer (.publish topic payload timeout) w).1 = .error (.pipeline e)

variable {σ : Type} {unit : TimestampUnit} {answer : Outside σ} {s : Simulator}

/-- A drawn value and a time with room for its ticks have a raw payload, from which they are read
again. -/
theorem exists_payload {value : Int} {now : Timestamp}
    (hvalue : lowest ≤ value ∧ value ≤ highest) (hutc : now.offset = some UtcOffset.utc)
    (hticks : fitsSigned 64 (unit.ticks now.instant) = true) :
    ∃ payload t, RawSample.encodeNamed unit.name (.whole value) now = .ok payload ∧
      payload.length = 12 ∧ RawSample.decodeNamed unit.name payload = .ok ⟨value, t⟩ ∧
      t.offset = some UtcOffset.utc ∧
      t.instant = now.instant / unit.resolution * unit.resolution := by
  have hwritten := RawSample.writtenExactly unit ⟨value, now⟩
  have hroom : -2147483648 ≤ value ∧ value ≤ 2147483647 := by
    have hbounds : 0 ≤ value ∧ value ≤ 100 := hvalue
    omega
  have hwide : -9223372036854775808 ≤ unit.ticks now.instant ∧
      unit.ticks now.instant ≤ 9223372036854775807 := by
    have hfits := fitsSigned_iff.1 hticks
    omega
  obtain ⟨payload, hpayload⟩ := hwritten.accepted.2 ⟨hroom, hwide⟩
  obtain ⟨hnonneg, hlt⟩ := Timestamp.exists_ofInstant?_iff.1
    ⟨now, Timestamp.ofInstant?_eq_some_iff.2 ⟨hutc, rfl⟩⟩
  obtain ⟨t, hdecode, hoffset, hinstant⟩ := hwritten.readAgain payload hpayload hnonneg hlt
  have hencode : RawSample.encodeQuantity unit (.whole value) now = .ok payload := hpayload
  refine ⟨payload, t, ?_, (hwritten.bytes payload hpayload).1, ?_, hoffset, hinstant⟩
  · rw [RawSample.encodeNamed_name, hencode]
    rfl
  · rw [RawSample.decodeNamed_name, hdecode]
    rfl

/-! ## One round -/

/-- A sample is offered once for a topic, and it is told whether it was published. -/
theorem ends_offer (h : Obliges unit answer) (hunit : s.unit = unit.name) (topic : String)
    (w : σ) : Ends answer (s.offer topic) w fun sent log =>
      ∃ o : Offer, o.topic = topic ∧ o.Exact unit ∧ log = o.entries s.timeout ∧ sent = o.sent := by
  obtain ⟨value, hdraw, hvalue⟩ := h.draw lowest highest w (by decide)
  refine .ask_of_reply (Prod.ext hdraw rfl) ?_
  obtain ⟨now, hnow, hutc, hticks⟩ := h.now (answer (.draw lowest highest) w).2
  refine .ask_of_reply (Prod.ext hnow rfl) ?_
  obtain ⟨payload, t, hencode, hlength, hdecode, hoffset, hinstant⟩ :=
    exists_payload hvalue hutc hticks
  dsimp only
  rw [hunit, hencode]
  dsimp only
  have hexact : ∀ outcome : Except Failure Unit,
      outcome = .ok () ∨ (∃ e, outcome = .error (.pipeline e)) →
        Offer.Exact unit ⟨topic, value, now, payload, outcome⟩ := fun outcome houtcome =>
    ⟨remainder?_stageTopic (by decide) topic, hlength, hvalue, ⟨t, hdecode, hoffset, hinstant⟩,
      houtcome⟩
  rcases h.publish (stageTopic rawStage topic) payload s.timeout _ with hsent | ⟨e, hlost⟩
  · exact .ask_of_reply (Prod.ext hsent rfl) (.done ⟨_, rfl, hexact _ (Or.inl rfl), rfl, rfl⟩)
  · exact .ask_of_reply (Prod.ext hlost rfl)
      (.done ⟨_, rfl, hexact _ (Or.inr ⟨e, rfl⟩), rfl, rfl⟩)

/-- The exchanges of a round in which these samples were offered. -/
def roundLog (timeout : Binary64) (offers : List Offer) : List (Exchange simulatorInterface) :=
  ⟨.topics, .ok (offers.map Offer.topic)⟩ :: offers.flatMap (Offer.entries timeout)

/-- The simulator once these samples are counted. -/
def counted (s : Simulator) (offers : List Offer) : Simulator :=
  { s with published := s.published + offers.countP Offer.sent
           failed := s.failed + offers.countP fun o => !o.sent }

theorem counted_append (s : Simulator) (offers more : List Offer) :
    s.counted (offers ++ more) = (s.counted offers).counted more := by
  simp only [counted, List.countP_append, Nat.add_assoc]

/-- Every sample is counted once. -/
theorem total_counted (s : Simulator) (offers : List Offer) :
    (s.counted offers).published + (s.counted offers).failed =
      s.published + s.failed + offers.length := by
  have hlength := List.length_eq_countP_add_countP Offer.sent (l := offers)
  simp only [counted]
  simp only [Bool.not_eq_true, Bool.decide_eq_false] at hlength
  omega

/-- All topics are offered a sample, whatever becomes of the samples of others. -/
theorem ends_round (h : Obliges unit answer) (hunit : s.unit = unit.name) (topics : List String)
    (w : σ) : Ends answer (s.round topics) w fun r log =>
      ∃ offers : List Offer, offers.map Offer.topic = topics ∧ (∀ o ∈ offers, o.Exact unit) ∧
        log = offers.flatMap (Offer.entries s.timeout) ∧
        r = ⟨offers.countP Offer.sent, offers.countP fun o => !o.sent, none⟩ := by
  induction topics generalizing w with
  | nil => exact .done ⟨[], rfl, List.forall_mem_nil _, rfl, rfl⟩
  | cons topic topics ih =>
    obtain ⟨r, hrun, sent, rfl, o, htopic, hexact, hlog, rfl⟩ :=
      (ends_offer h hunit topic w).attempt
    refine .bind (Prod.ext hrun rfl) ?_
    obtain ⟨r, hrest, offers, htopics, hexacts, hlogs, rfl⟩ := ih (Program.run answer _ w).2
    refine .bind (Prod.ext hrest rfl) (.done ⟨o :: offers, ?_, ?_, ?_, ?_⟩)
    · rw [List.map_cons, htopic, htopics]
    · exact List.forall_mem_cons.2 ⟨hexact, hexacts⟩
    · rw [hlog, hlogs, List.flatMap_cons, List.append_nil]
    · cases hsent : o.sent <;> simp [Round.count, hsent]

/-- A round over the topics that are known tells how many samples were published. -/
theorem ends_tick (h : Obliges unit answer) (hunit : s.unit = unit.name) (w : σ) :
    Ends answer s.tick w fun x log => ∃ offers : List Offer, (∀ o ∈ offers, o.Exact unit) ∧
      log = roundLog s.timeout offers ∧ x = (.ok (offers.countP Offer.sent), s.counted offers) := by
  obtain ⟨topics, htopics⟩ := h.topics w
  refine .ask_of_reply (Prod.ext htopics rfl) ?_
  obtain ⟨r, hrun, offers, rfl, hexact, hlog, rfl⟩ := ends_round h hunit topics (answer .topics w).2
  refine .bind (Prod.ext hrun rfl) (.done ⟨offers, hexact, ?_, rfl⟩)
  rw [hlog, List.append_nil, roundLog]

/-! ## Several rounds -/

/-- A round of a longer run : the samples offered, and how the pause after it was answered. -/
structure Lap where
  offers : List Offer
  pause : Except Failure Unit

/-- The exchanges of a round and of the pause after it. -/
def Lap.entries (s : Simulator) (lap : Lap) : List (Exchange simulatorInterface) :=
  roundLog s.timeout lap.offers ++ [⟨.pause s.interval, lap.pause⟩]

/-- One round after the other comes to its end, and all samples of all rounds are counted. -/
theorem ends_run (h : Obliges unit answer) (hunit : s.unit = unit.name) (n : Nat) (w : σ) :
    Ends answer (run n s) w fun x log => ∃ laps : List Lap, laps.length = n ∧
      (∀ lap ∈ laps, ∀ o ∈ lap.offers, o.Exact unit) ∧ log = laps.flatMap (Lap.entries s) ∧
      x = (.ok (), s.counted (laps.flatMap Lap.offers)) := by
  induction n generalizing s w with
  | zero => exact .done ⟨[], rfl, List.forall_mem_nil _, rfl, rfl⟩
  | succ n ih =>
    obtain ⟨x, hrun, offers, hexact, hlog, rfl⟩ := ends_tick h hunit w
    refine .bind (Prod.ext hrun rfl) (.ask fun pause t => ?_)
    obtain ⟨x, hrest, laps, rfl, hexacts, hlogs, rfl⟩ := ih (s := s.counted offers) hunit t
    refine ⟨_, hrest, ⟨offers, pause⟩ :: laps, rfl,
      List.forall_mem_cons.2 ⟨hexact, hexacts⟩, ?_, ?_⟩
    · rw [hlog, hlogs, List.flatMap_cons]
      exact List.append_cons _ _ _
    · rw [List.flatMap_cons, counted_append]

/-- In each round every known topic is offered one exact sample, in order, and the samples are
counted by whether they were published. So whatever becomes of them, the counts grow in any number
of rounds by the topics that were known in these rounds. -/
theorem rounds_exact (h : Obliges unit answer) (hunit : s.unit = unit.name) (w : σ) :
    (Ends answer s.tick w fun x log => ∃ offers : List Offer, (∀ o ∈ offers, o.Exact unit) ∧
      log = roundLog s.timeout offers ∧
      x = (.ok (offers.countP Offer.sent), s.counted offers)) ∧
    ∀ n, Ends answer (run n s) w fun x log => ∃ laps : List Lap, laps.length = n ∧
      (∀ lap ∈ laps, ∀ o ∈ lap.offers, o.Exact unit) ∧ log = laps.flatMap (Lap.entries s) ∧
      x = (.ok (), s.counted (laps.flatMap Lap.offers)) ∧
      x.2.published + x.2.failed =
        s.published + s.failed + (laps.map fun lap => lap.offers.length).sum := by
  refine ⟨ends_tick h hunit w, fun n => ?_⟩
  obtain ⟨x, hrun, laps, hlength, hexact, hlog, rfl⟩ := ends_run h hunit n w
  refine ⟨_, hrun, laps, hlength, hexact, hlog, rfl, ?_⟩
  rw [total_counted, List.length_flatMap]

/-- Every other sample is lost, and one of the topics is listed twice. After two rounds half of the
six samples are published. -/
theorem rounds_exact_with_losses :
    let answer : Outside Nat := fun q n =>
      match q with
      | .topics => (.ok ["hall/east/pump", "a//b", "hall/east/pump"], n)
      | .draw low high => (.ok (if n % 3 = 0 then low else high), n)
      | .now => (.ok ⟨⟨62135596800001999, by decide⟩, some .utc⟩, n)
      | .publish topic _ timeout =>
        (if n % 2 = 0 then .ok () else .error (notAcknowledged topic timeout), n + 1)
      | .pause _ => (.ok (), n)
    let s : Simulator := ⟨Binary64.ofInt 1, Binary64.ofInt 10, "ms", 0, 0⟩
    Obliges .milliseconds answer ∧ s.unit = TimestampUnit.milliseconds.name ∧
      (Ends answer s.tick 0 fun x log => ∃ offers : List Offer, offers.length = 3 ∧
        (∀ o ∈ offers, o.Exact .milliseconds) ∧ log = roundLog s.timeout offers ∧
        x = (.ok 2, { s with published := 2, failed := 1 })) ∧
      Ends answer (run 2 s) 0 fun x log => ∃ laps : List Lap,
        x = (.ok (), { s with published := 3, failed := 3 }) ∧
        log = laps.flatMap (Lap.entries s) ∧ (laps.map fun lap => lap.offers.length).sum = 6 := by
  intro answer s
  have hobliges : Obliges .milliseconds answer :=
    { topics := fun n => ⟨_, rfl⟩
      draw := fun low high n hle => by
        refine ⟨if n % 3 = 0 then low else high, rfl, ?_⟩
        split <;> omega
      now := fun n => ⟨_, rfl, rfl, by decide⟩
      publish := fun topic payload timeout n => by
        by_cases heven : n % 2 = 0
        · exact Or.inl (if_pos heven)
        · exact Or.inr ⟨_, if_neg heven⟩ }
  obtain ⟨htick, hrounds⟩ := rounds_exact hobliges (s := s) rfl 0
  have hcounts : (Program.run answer s.tick 0).1 =
      .ok (.ok 2, { s with published := 2, failed := 1 }) := by rfl
  have hcounts' : (Program.run answer (run 2 s) 0).1 =
      .ok (.ok (), { s with published := 3, failed := 3 }) := by rfl
  obtain ⟨x, hrun, offers, hexact, hlog, rfl⟩ := htick
  obtain ⟨x, hrun', laps, -, -, hlog', rfl, htotal⟩ := hrounds 2
  have hx := Except.ok.inj (hrun.symm.trans hcounts)
  have hx' := Except.ok.inj (hrun'.symm.trans hcounts')
  refine ⟨hobliges, rfl, ⟨_, hrun, offers, ?_, hexact, hlog, hx⟩, _, hrun', laps, hx', hlog', ?_⟩
  · have htotal := total_counted s offers
    rw [(Prod.mk.inj hx).2] at htotal
    simpa [s] using htotal.symm
  · rw [hx'] at htotal
    simpa [s] using htotal.symm

end Simulator

end SensorRelay
