import SensorRelay.Proofs.Command.Session
import SensorRelay.Proofs.Pipeline.Exclusive
import SensorRelay.Proofs.Program.Frame

/-!
# Subscriptions that cover the handlers

A process subscribes to one filter for each of its handlers (`Settings.filters_eq`). The filter of a
handler covers the topics that the handler does not ignore (`Handler.receives_filter`), although the
one goes by levels and the other by the beginning of the topic or the number of its segments. What a
raw stage publishes, whatever the remainder, is covered by the filters of every process that stores
what is put under the same stage (`Settings.subscriptions_cover`).

Which topics a filter receives is said here level by level (`LevelsMatch`), and `filterCovers`
decides it (`filterCovers_iff`). Topics that begin with a dollar sign are kept from filters that
begin with a wildcard, so a bare topic of this kind is handled, but not received.
-/

namespace SensorRelay

open Program Text

/-! ## Filters -/

/-- The levels of a filter stand for those of a topic : `+` for any one level, a last `#` for any
number of them, and every other level for itself. -/
inductive LevelsMatch : List String → List String → Prop
  | rest (levels : List String) : LevelsMatch ["#"] levels
  | one {filter levels : List String} (level : String) (further : LevelsMatch filter levels) :
    LevelsMatch ("+" :: filter) (level :: levels)
  | same {filter levels : List String} (level : String) (further : LevelsMatch filter levels) :
    LevelsMatch (level :: filter) (level :: levels)
  | done : LevelsMatch [] []

theorem filterCovers_iff {filter levels : List String} :
    filterCovers filter levels = true ↔ LevelsMatch filter levels := by
  constructor
  · intro h
    fun_induction filterCovers filter levels with
    | case1 levels => exact .rest levels
    | case2 f fs t ts _ ih =>
      rw [Bool.and_eq_true, Bool.or_eq_true, beq_iff_eq, beq_iff_eq] at h
      obtain ⟨rfl | rfl, hrest⟩ := h
      · exact .one t (ih hrest)
      · exact .same f (ih hrest)
    | case3 => exact .done
    | case4 => cases h
  · intro h
    induction h with
    | rest levels => rw [filterCovers]
    | one level _ ih => simp [filterCovers, ih]
    | @same filter levels level _ ih =>
      by_cases hlast : level = "#" ∧ filter = []
      · rw [hlast.1, hlast.2, filterCovers]
      · rw [filterCovers.eq_2 _ _ _ _ (by simpa using hlast), ih, beq_self_eq_true, Bool.or_true,
          Bool.and_true]
    | done => rfl

/-- A subscription with the filter receives the topic. A topic that begins with a dollar sign is not
received through a wildcard at the beginning. -/
def Receives (filter topic : String) : Prop :=
  LevelsMatch (segments filter) (segments topic) ∧
    (topic.toList.head? = some '$' →
      ∀ level ∈ (segments filter).head?, level ≠ "+" ∧ level ≠ "#")

theorem segments_stageFilter {stage : String} (hstage : '/' ∉ stage.toList) :
    segments (stage ++ "/#") = [stage, "#"] := by
  have hchars : (stage ++ "/#").toList = stage.toList ++ '/' :: ['#'] := by simp
  rw [segments, hchars, splitOn_append_cons hstage]
  simp [splitOn]

theorem not_wildcard_of_stageNames : ∀ name ∈ stageNames, name ≠ "+" ∧ name ≠ "#" := by
  decide

/-- Below a stage all topics are received. -/
theorem receives_of_remainder? {stage topic remainder : String} (hstage : stage ∈ stageNames)
    (h : remainder? stage topic = some remainder) : Receives (stage ++ "/#") topic := by
  obtain ⟨hnamed, hplain⟩ := stageNames_spec stage hstage
  obtain ⟨rest, hrest⟩ := List.head?_eq_some_iff.1 (head?_segments_of_remainder? hnamed hplain h)
  rw [Receives, segments_stageFilter hplain, hrest]
  refine ⟨.same stage (.rest rest), fun _ level hlevel => ?_⟩
  obtain rfl := Option.some.inj hlevel
  exact not_wildcard_of_stageNames _ hstage

/-- Bare topics are received, unless they begin with a dollar sign. -/
theorem receives_of_bare {topic remainder : String} (hdollar : topic.toList.head? ≠ some '$')
    (h : remainder? "" topic = some remainder) : Receives "+/+/+" topic := by
  obtain ⟨-, p, hp, -⟩ := remainder?_bare_eq_some_iff.1 h
  obtain ⟨hplain, -, rfl⟩ := SensorPath.ofRemainder?_eq_ok_iff.1 hp
  have hfilter : segments "+/+/+" = ["+", "+", "+"] := by decide
  rw [Receives, hfilter, SensorPath.segments_topic hplain]
  exact ⟨.one _ (.one _ (.one _ .done)), fun h => (hdollar h).elim⟩

/-! ## Handlers -/

namespace Handler

/-- The filter that a handler needs. -/
def filter (h : Handler) : String :=
  if h.stage.isEmpty then "+/+/+" else h.stage ++ "/#"

/-- The filter of a handler covers the topics that the handler does not ignore. -/
theorem receives_filter {h : Handler} (hstage : h.stage ∈ "" :: stageNames) {topic : String}
    (hdollar : topic.toList.head? ≠ some '$') (htakes : h.ignores topic = false) :
    Receives h.filter topic := by
  rw [ignores, Option.isNone_eq_false_iff, Option.isSome_iff_exists] at htakes
  obtain ⟨remainder, hremainder⟩ := htakes
  rcases List.mem_cons.1 hstage with hbare | hnamed
  · rw [hbare] at hremainder
    rw [filter, hbare, if_pos (by decide)]
    exact receives_of_bare hdollar hremainder
  · rw [filter, (stageNames_spec _ hnamed).1, if_neg Bool.false_ne_true]
    exact receives_of_remainder? hnamed hremainder

/-- The raw stage publishes what it is given under the processed stage, and nothing else. -/
theorem asks_raw (processed : String) (timeout : Binary64) (unit : String) (m : Message) :
    ((raw processed timeout unit).handle m).Asks fun q => ∃ remainder payload,
      remainder? rawStage m.topic = some remainder ∧
        q = Effect.publish (stageTopic processed remainder) payload timeout := by
  rw [handle]
  split
  · trivial
  · rename_i remainder hremainder
    refine Asks.bind ?_ fun _ => trivial
    rw [work, republish]
    split
    · trivial
    · refine ⟨⟨remainder, _, hremainder, rfl⟩, fun reply => ?_⟩
      cases reply <;> trivial

end Handler

namespace Settings

/-- A process subscribes to the filters of its handlers, in their order. -/
theorem filters_eq (s : Settings) (roles : Roles) (lookup : Lookup) :
    s.filters roles = (s.handlers roles lookup).map Handler.filter := by
  have hbare : (Handler.store "" lookup).filter = "+/+/+" := rfl
  have hraw : s.rawHandler.filter = rawStage ++ "/#" := rfl
  have hstage : (Handler.store s.processedStage.name lookup).filter =
      s.processedStage.name ++ "/#" := by
    cases s.processedStage <;> rfl
  rw [filters, subscriptionFilters, handlers, storeHandlers]
  cases roles.raw <;> cases roles.store <;> cases s.acceptsBareTopics <;>
    simp [hbare, hraw, hstage]

/-- A process that stores what is put under a stage receives all of it. -/
theorem receives_stageTopic {s : Settings} {roles : Roles} (hstore : roles.store = true)
    (remainder : String) :
    ∃ filter ∈ s.filters roles, Receives filter (stageTopic s.processedStage.name remainder) := by
  have hstage : s.processedStage.name ∈ stageNames := by
    cases s.processedStage <;> decide
  refine ⟨s.processedStage.name ++ "/#", ?_, receives_of_remainder? hstage
    (remainder?_stageTopic (stageNames_spec _ hstage).1 remainder)⟩
  simp [filters, subscriptionFilters, hstore]

/-- A process subscribes to all that its handlers do not ignore, topics that begin with a dollar
sign apart, and what a raw stage publishes is put under the processed stage, where all is received
by every process that stores what is there. -/
theorem subscriptions_cover (s : Settings) (lookup : Lookup) :
    (∀ {σ : Type} (answer : Answerer σ) (roles : Roles), ∀ h ∈ s.handlers roles lookup,
      ∀ (m : Message) (w : σ), m.topic.toList.head? ≠ some '$' →
        ∃ r t, run answer (h.handle m) w = (.ok r, t) ∧
          (r.isIgnored = false → ∃ filter ∈ s.filters roles, Receives filter m.topic)) ∧
    (∀ (saver : Settings) (roles : Roles), saver.processedStage = s.processedStage →
      roles.store = true → ∀ remainder, ∃ filter ∈ saver.filters roles,
        Receives filter (stageTopic s.processedStage.name remainder)) ∧
    ∀ {σ : Type} (answer : Answerer σ) (m : Message) (w : σ),
      ∀ x ∈ exchanges answer (s.rawHandler.handle m) w, ∃ remainder payload,
        remainder? rawStage m.topic = some remainder ∧
          x.1 = Effect.publish (stageTopic s.processedStage.name remainder) payload s.deadline := by
  refine ⟨?_, ?_, ?_⟩
  · intro σ answer roles h hmem m w hdollar
    obtain ⟨r, t, hrun, hignored⟩ := h.isIgnored_handle answer m w
    refine ⟨r, t, hrun, fun htakes => ⟨h.filter, ?_, ?_⟩⟩
    · rw [s.filters_eq roles lookup]
      exact List.mem_map_of_mem hmem
    · exact h.receives_filter ((s.stages_handlers roles lookup).1 h hmem) hdollar
        (hignored ▸ htakes)
  · intro saver roles hstage hstore remainder
    rw [← hstage]
    exact receives_stageTopic hstore remainder
  · intro σ answer m w
    exact (Handler.asks_raw _ _ _ m).forall_mem_exchanges w

/-- Three messages that are not ignored : one with nothing below the raw stage, one with wildcards
below the clean stage, and a bare one. The raw stage publishes what the saver is subscribed to. -/
theorem subscriptions_cover_three :
    let s : Settings := { Settings.usual "sqlite:///t.db" with
      processedStage := .clean, acceptsBareTopics := true }
    let saver : Settings := { Settings.usual "sqlite:///saver.db" with processedStage := .clean }
    let silent : Answerer Unit := fun _ w => (.error .missingRow, w)
    let ms : List Message := [⟨"raw/", [0, 0, 0, 0, 0, 0, 3, 232, 0, 0, 0, 1]⟩, ⟨"clean/+/#", []⟩,
      ⟨"hall/east/pump", []⟩]
    s.filters ⟨true, true⟩ = ["raw/#", "clean/#", "+/+/+"] ∧
      (∀ m ∈ ms, (∃ h ∈ s.handlers ⟨true, true⟩ .byTopic, h.ignores m.topic = false) ∧
        ∃ filter ∈ s.filters ⟨true, true⟩, Receives filter m.topic) ∧
      (exchanges silent (s.rawHandler.handle ⟨"raw/", [0, 0, 0, 0, 0, 0, 3, 232, 0, 0, 0, 1]⟩)
        ()).length = 1 ∧
      ∃ filter ∈ saver.filters ⟨false, true⟩, Receives filter (stageTopic "clean" "") := by
  intro s saver silent ms
  obtain ⟨hcover, hsaver, -⟩ := subscriptions_cover s .byTopic
  refine ⟨by decide +kernel, fun m hm => ?_, by decide +kernel,
    hsaver saver ⟨false, true⟩ rfl rfl ""⟩
  have hplain : m.topic.toList.head? ≠ some '$' ∧
      ∃ h ∈ s.handlers ⟨true, true⟩ .byTopic, h.ignores m.topic = false := by
    revert m
    decide +kernel
  obtain ⟨hdollar, h, hmem, htakes⟩ := hplain
  obtain ⟨r, t, hrun, hreceived⟩ := hcover silent ⟨true, true⟩ h hmem m () hdollar
  obtain ⟨r', t', hrun', hignored⟩ := h.isIgnored_handle silent m ()
  obtain rfl := Except.ok.inj (Prod.mk.inj (hrun.symm.trans hrun')).1
  exact ⟨⟨h, hmem, htakes⟩, hreceived (hignored.trans htakes)⟩

end Settings

end SensorRelay
