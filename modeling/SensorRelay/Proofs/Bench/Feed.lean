import Mathlib.Data.List.Forall2
import SensorRelay.Bench.Feed
import SensorRelay.Proofs.Simulator

/-!
# Rounds of a feed

A feed whose values lie within the bounds of a simulator, and whose clock tells a time in UTC that a
raw payload has room for, answers any number of rounds alike (`Feed.ticks_eq`). In each of them
every topic is offered one exact sample, and the samples on topics that are refused are lost. The
feed keeps those that the simulator counts as published, in order, and a range for each draw.
-/

namespace SensorRelay

/-- The publication of a sample. -/
def Offer.publication (timeout : Binary64) (o : Offer) : Publication :=
  ⟨stageTopic rawStage o.topic, o.payload, timeout⟩

namespace Feed

open Simulator

variable {unit : TimestampUnit} {f : Feed} {s : Simulator}

/-- What the feed tells fits into raw payloads. -/
structure Fits (unit : TimestampUnit) (f : Feed) : Prop where
  values : ∀ v ∈ f.values, lowest ≤ v ∧ v ≤ highest
  utc : f.now.offset = some UtcOffset.utc
  room : fitsSigned 64 (unit.ticks f.now.instant) = true

/-- Can a sample for the topic be published? -/
def accepts (f : Feed) (topic : String) : Bool := !f.refused.contains (stageTopic rawStage topic)

/-- The feed once these samples have been offered to it. -/
def having (f : Feed) (timeout : Binary64) (offers : List Offer) : Feed :=
  { f with
    ranges := f.ranges ++ offers.map fun _ => (lowest, highest)
    messages := f.messages ++ (offers.filter Offer.sent).map (Offer.publication timeout) }

theorem having_nil (f : Feed) (timeout : Binary64) : f.having timeout [] = f := by
  simp [having]

theorem having_append (f : Feed) (timeout : Binary64) (offers more : List Offer) :
    (f.having timeout offers).having timeout more = f.having timeout (offers ++ more) := by
  simp [having]

/-- A number that is drawn lies within the bounds, also if there are none to draw from. -/
theorem valueAfter_bounds {values : List Int} (h : ∀ v ∈ values, lowest ≤ v ∧ v ≤ highest)
    (n : Nat) : lowest ≤ valueAfter values n ∧ valueAfter values n ≤ highest := by
  rw [valueAfter]
  cases hvalue : values[n % values.length]? with
  | none => decide
  | some v => exact h v (List.mem_of_getElem? hvalue)

/-- The sample is one for the topic, and was sent unless its topic is refused. -/
structure Served (unit : TimestampUnit) (f : Feed) (topic : String) (o : Offer) : Prop where
  topic_eq : o.topic = topic
  exact : o.Exact unit
  sent : o.sent = f.accepts topic

theorem forall₂_served_of_having {timeout : Binary64} {earlier offers : List Offer}
    {topics : List String}
    (h : List.Forall₂ (Served unit (f.having timeout earlier)) topics offers) :
    List.Forall₂ (Served unit f) topics offers :=
  List.Forall₂.imp (fun _ _ h => ⟨h.topic_eq, h.exact, h.sent⟩) h

theorem Fits.having (hf : f.Fits unit) (timeout : Binary64) (offers : List Offer) :
    (f.having timeout offers).Fits unit :=
  ⟨hf.values, hf.utc, hf.room⟩

/-! ## Runs -/

section Run

variable {α β : Type} {g : Feed}

theorem run_ask_of_reply {q : SimulatorRequest} {r : Except Failure q.Reply}
    (h : answer q f = (r, g)) (next : Except Failure q.Reply → Program simulatorInterface α) :
    f.run (.ask q next) = g.run (next r) := by
  have hask : f.run (.ask q next) = (answer q f).2.run (next (answer q f).1) := rfl
  rw [hask, h]

theorem run_bind_of_ok {p : Program simulatorInterface α} {a : α} (h : f.run p = (.ok a, g))
    (k : α → Program simulatorInterface β) : f.run (p >>= k) = g.run (k a) :=
  Program.run_bind_of_ok h k

theorem run_attempt_of_ok {p : Program simulatorInterface α} {a : α} (h : f.run p = (.ok a, g)) :
    f.run p.attempt = (.ok (.ok a), g) := by
  have hattempt : f.run p.attempt = (.ok (f.run p).1, (f.run p).2) := Program.run_attempt p f
  rw [hattempt, h]

end Run

/-- A sample is published unless its topic is refused. -/
theorem run_offerSample (f : Feed) (topic : String) (payload : Bytes) (timeout : Binary64) :
    ∃ outcome : Except Failure Unit, outcome.isOk = f.accepts topic ∧
      (outcome = .ok () ∨ ∃ e, outcome = .error (.pipeline e)) ∧
      f.run (offerSample topic payload timeout) = (.ok outcome.isOk, { f with
        messages :=
          if outcome.isOk then f.messages ++ [⟨stageTopic rawStage topic, payload, timeout⟩]
          else f.messages }) := by
  cases haccepts : f.accepts topic with
  | true =>
    rw [accepts, Bool.not_eq_true'] at haccepts
    have hreply : answer (.publish (stageTopic rawStage topic) payload timeout) f = (.ok (),
        { f with messages := f.messages ++ [⟨stageTopic rawStage topic, payload, timeout⟩] }) := by
      rw [answer, if_neg (Bool.eq_false_iff.1 haccepts)]
    exact ⟨.ok (), rfl, Or.inl rfl, run_ask_of_reply hreply _⟩
  | false =>
    rw [accepts, Bool.not_eq_false'] at haccepts
    have hreply : answer (.publish (stageTopic rawStage topic) payload timeout) f =
        (.error (notAcknowledged (stageTopic rawStage topic) timeout), f) := by
      rw [answer, if_pos haccepts]
    exact ⟨.error (notAcknowledged (stageTopic rawStage topic) timeout), rfl, Or.inr ⟨_, rfl⟩,
      run_ask_of_reply hreply _⟩

/-- A sample is made of the number that is drawn next. -/
theorem run_offer (hf : f.Fits unit) (hunit : s.unit = unit.name) (topic : String) :
    ∃ o, Served unit f topic o ∧ f.run (s.offer topic) = (.ok o.sent, f.having s.timeout [o]) := by
  have hvalue := valueAfter_bounds hf.values f.ranges.length
  obtain ⟨payload, t, hencode, hlength, hdecode, hoffset, hinstant⟩ :=
    exists_payload hvalue hf.utc hf.room
  have hoffer : f.run (s.offer topic) = run (offerSample topic payload s.timeout)
      { f with ranges := f.ranges ++ [(lowest, highest)] } := by
    refine (run_ask_of_reply rfl _).trans ((run_ask_of_reply rfl _).trans ?_)
    dsimp only
    rw [hunit, hencode]
  obtain ⟨outcome, haccepts, houtcome, hsample⟩ := run_offerSample
    { f with ranges := f.ranges ++ [(lowest, highest)] } topic payload s.timeout
  refine ⟨⟨topic, valueAfter f.values f.ranges.length, f.now, payload, outcome⟩,
    ⟨rfl, ?_, haccepts⟩, ?_⟩
  · exact ⟨remainder?_stageTopic (by decide) topic, hlength, hvalue,
      ⟨t, hdecode, hoffset, hinstant⟩, houtcome⟩
  · rw [hoffer, hsample]
    cases hsent : outcome.isOk <;> simp [Offer.sent, having, hsent, Offer.publication]

/-- Every topic is offered a sample, whatever becomes of the samples of others. -/
theorem run_round (hf : f.Fits unit) (hunit : s.unit = unit.name) (topics : List String) :
    ∃ offers, List.Forall₂ (Served unit f) topics offers ∧ f.run (s.round topics) =
      (.ok ⟨offers.countP Offer.sent, offers.countP fun o => !o.sent, none⟩,
        f.having s.timeout offers) := by
  induction topics generalizing f with
  | nil => exact ⟨[], .nil, by rw [having_nil]; rfl⟩
  | cons topic topics ih =>
    obtain ⟨o, hserved, hoffer⟩ := run_offer hf hunit topic
    obtain ⟨offers, hrest, hround⟩ := ih (hf.having s.timeout [o])
    refine ⟨o :: offers, .cons hserved (forall₂_served_of_having hrest), ?_⟩
    refine (run_bind_of_ok (run_attempt_of_ok hoffer) _).trans ?_
    refine (run_bind_of_ok hround _).trans ?_
    rw [having_append]
    cases hsent : o.sent <;> simp [Round.count, hsent] <;> rfl

/-- A round over the topics of the feed tells how many samples were published. -/
theorem run_tick (hf : f.Fits unit) (hunit : s.unit = unit.name) :
    ∃ offers, List.Forall₂ (Served unit f) f.topics offers ∧ f.run s.tick =
      (.ok (.ok (offers.countP Offer.sent), s.counted offers), f.having s.timeout offers) := by
  obtain ⟨offers, hserved, hround⟩ := run_round hf hunit f.topics
  exact ⟨offers, hserved, (run_ask_of_reply rfl _).trans (run_bind_of_ok hround _)⟩

/-- In any number of rounds a feed is offered a sample of each of its topics, and keeps what the
simulator counts as published. -/
theorem ticks_eq (hf : f.Fits unit) (hunit : s.unit = unit.name) (n : Nat) :
    ∃ rounds : List (List Offer), rounds.length = n ∧
      (∀ offers ∈ rounds, List.Forall₂ (Served unit f) f.topics offers) ∧ f.ticks n s =
        (rounds.map fun offers => .ok (offers.countP Offer.sent), s.counted rounds.flatten,
          f.having s.timeout rounds.flatten) := by
  induction n generalizing f s with
  | zero => exact ⟨[], rfl, List.forall_mem_nil _, by rw [List.flatten_nil, having_nil]; rfl⟩
  | succ n ih =>
    obtain ⟨offers, hserved, htick⟩ := run_tick hf hunit
    obtain ⟨rounds, hlength, hrounds, hticks⟩ := ih (hf.having s.timeout offers)
      (s := s.counted offers) hunit
    refine ⟨offers :: rounds, by rw [List.length_cons, hlength], ?_, ?_⟩
    · exact List.forall_mem_cons.2
        ⟨hserved, fun offers h => forall₂_served_of_having (hrounds offers h)⟩
    · rw [ticks, htick]
      dsimp only
      rw [hticks, List.flatten_cons, counted_append, List.map_cons]
      exact congrArg _ (congrArg _ (having_append _ _ _ _))

end Feed

end SensorRelay
