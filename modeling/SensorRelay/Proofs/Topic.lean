import SensorRelay.Topic

/-!
# Topics of stages and sensors

Below a stage stands what was put under it, and nothing else, whatever the stage is called
(`remainder?_eq_some_iff`). No other stage has it (`remainder?_stageTopic_of_ne`), so every topic
under a stage has one handler; this relies on stages having names without a slash. Whatever a topic
looks like, it is below one stage at most, and a bare topic is below none
(`remainder?_eq_none_of_ne`).

Segments make one path, and are its segments again if none holds a slash (`segments_eq_iff`). The
topic of a sensor tells its path in the same way, if the names of the path hold no slash : then
no other path has the topic (`SensorPath.eq_of_topic_eq`), and if none of the names is empty either
the topic is taken apart into the path again (`SensorPath.ofRemainder?_eq_ok_iff`). So a text is
taken apart into the path that it spells (`SensorPath.ofRemainder?_eq_ok_iff_isSpelledBy`), and bare
topics are the texts that spell one, unless the section is called like a stage
(`remainder?_bare_eq_some_iff`).

That composing and taking apart undo each other is `composed_and_taken_apart`.
-/

namespace SensorRelay

open Text

/-! ## Below a stage -/

variable {stage other : String}

theorem toList_stageTopic (h : stage.isEmpty = false) (remainder : String) :
    (stageTopic stage remainder).toList = stage.toList ++ '/' :: remainder.toList := by
  simp [stageTopic, h]

/-- Below a stage stands what was put under it, and nothing else. -/
theorem remainder?_eq_some_iff (h : stage.isEmpty = false) {topic remainder : String} :
    remainder? stage topic = some remainder ↔ stageTopic stage remainder = topic := by
  have htopic : stageTopic stage remainder = topic ↔
      (stage.toList ++ ['/']) ++ remainder.toList = topic.toList := by
    rw [← String.toList_inj, toList_stageTopic h, List.append_assoc, List.singleton_append]
  rw [remainder?, h, if_neg Bool.false_ne_true, Option.map_eq_some_iff, htopic]
  constructor
  · rintro ⟨rest, hrest, rfl⟩
    rw [String.toList_ofList]
    exact dropLead?_eq_some_iff.1 hrest
  · intro hlead
    exact ⟨remainder.toList, dropLead?_eq_some_iff.2 hlead, String.ofList_toList⟩

/-- What is put under a stage is found below it. -/
theorem remainder?_stageTopic (h : stage.isEmpty = false) (remainder : String) :
    remainder? stage (stageTopic stage remainder) = some remainder :=
  (remainder?_eq_some_iff h).2 rfl

/-- A topic below a stage has the stage as its first segment. -/
theorem head?_segments_of_remainder? (hstage : stage.isEmpty = false) (hs : '/' ∉ stage.toList)
    {topic remainder : String} (h : remainder? stage topic = some remainder) :
    (segments topic).head? = some stage := by
  obtain rfl := (remainder?_eq_some_iff hstage).1 h
  rw [segments, toList_stageTopic hstage, splitOn_append_cons hs]
  simp

/-- What is put under a stage is not found below another one. -/
theorem remainder?_stageTopic_of_ne (hstage : stage.isEmpty = false)
    (hother : other.isEmpty = false) (hs : '/' ∉ stage.toList) (ho : '/' ∉ other.toList)
    (hne : stage ≠ other) (remainder : String) :
    remainder? stage (stageTopic other remainder) = none := by
  refine Option.eq_none_iff_forall_ne_some.2 fun r hr => hne ?_
  have hhead := head?_segments_of_remainder? hother ho (remainder?_stageTopic hother remainder)
  exact Option.some.inj ((head?_segments_of_remainder? hstage hs hr).symm.trans hhead)

theorem stageNames_spec : ∀ name ∈ stageNames, name.isEmpty = false ∧ '/' ∉ name.toList := by
  decide

/-- A topic that begins with the name of a stage is not a bare one. -/
theorem remainder?_bare_of_head? {topic : String} (hstage : stage ∈ stageNames)
    (h : (segments topic).head? = some stage) : remainder? "" topic = none := by
  rw [remainder?, if_pos (by decide), h]
  simp [hstage]

/-- A topic below one stage is not below another, and a bare topic is below none. -/
theorem remainder?_eq_none_of_ne (hstage : stage ∈ "" :: stageNames)
    (hother : other ∈ "" :: stageNames) (hne : stage ≠ other) {topic remainder : String}
    (h : remainder? stage topic = some remainder) : remainder? other topic = none := by
  have hhead : ∀ {name r}, name ∈ stageNames → remainder? name topic = some r →
      (segments topic).head? = some name := fun hname hr =>
    head?_segments_of_remainder? (stageNames_spec _ hname).1 (stageNames_spec _ hname).2 hr
  rw [List.mem_cons] at hstage hother
  rcases hother with rfl | hother
  · have hstage := hstage.resolve_left hne
    exact remainder?_bare_of_head? hstage (hhead hstage h)
  · refine Option.eq_none_iff_forall_ne_some.2 fun r hr => ?_
    rcases hstage with rfl | hstage
    · exact nomatch (remainder?_bare_of_head? hother (hhead hother hr)).symm.trans h
    · exact hne (Option.some.inj ((hhead hstage h).symm.trans (hhead hother hr)))

/-! ## Segments -/

theorem ofSegments_segments (path : String) : ofSegments (segments path) = path := by
  have htoList : (segments path).map String.toList = splitOn '/' path.toList := by
    simp [segments, Function.comp_def]
  rw [ofSegments, htoList, joinWith_splitOn, String.ofList_toList]

theorem not_mem_of_mem_segments {path name : String} (h : name ∈ segments path) :
    '/' ∉ name.toList := by
  obtain ⟨piece, hpiece, rfl⟩ := List.mem_map.1 h
  rw [String.toList_ofList]
  exact not_mem_of_mem_splitOn hpiece

/-- A path has the segments that it is made of, if there is one at least and none holds a slash,
and no others. -/
theorem segments_eq_iff {path : String} {parts : List String} :
    segments path = parts ↔
      (parts ≠ [] ∧ ∀ part ∈ parts, '/' ∉ part.toList) ∧ ofSegments parts = path := by
  constructor
  · rintro rfl
    exact ⟨⟨by simp [segments, splitOn_ne_nil], fun _ => not_mem_of_mem_segments⟩,
      ofSegments_segments path⟩
  · rintro ⟨⟨hne, hplain⟩, rfl⟩
    rw [segments, ofSegments, String.toList_ofList,
      splitOn_joinWith (by simpa using hne) (by simpa using hplain)]
    simp [Function.comp_def]

/-! ## Paths of sensors -/

namespace SensorPath

/-- The names of a plain path hold no slash. -/
def IsPlain (p : SensorPath) : Prop :=
  '/' ∉ p.sectionName.toList ∧ '/' ∉ p.moduleName.toList ∧ '/' ∉ p.sensorName.toList

instance (p : SensorPath) : Decidable p.IsPlain :=
  inferInstanceAs (Decidable (_ ∧ _ ∧ _))

/-- No name of a named path is empty. -/
def IsNamed (p : SensorPath) : Prop :=
  p.sectionName.isEmpty = false ∧ p.moduleName.isEmpty = false ∧ p.sensorName.isEmpty = false

instance (p : SensorPath) : Decidable p.IsNamed :=
  inferInstanceAs (Decidable (_ ∧ _ ∧ _))

variable {p q : SensorPath}

theorem toList_topic (p : SensorPath) : p.topic.toList =
    p.sectionName.toList ++ '/' :: (p.moduleName.toList ++ '/' :: p.sensorName.toList) := by
  simp [topic, sensorTopic, ofSegments, joinWith]

/-- The topic of a path has two slashes of its own and those of the names. -/
theorem count_slash_topic (p : SensorPath) : p.topic.toList.count '/' =
    p.sectionName.toList.count '/' + p.moduleName.toList.count '/' +
      p.sensorName.toList.count '/' + 2 := by
  rw [toList_topic, List.count_append, List.count_cons_self, List.count_append,
    List.count_cons_self]
  omega

theorem segments_topic (hp : p.IsPlain) :
    segments p.topic = [p.sectionName, p.moduleName, p.sensorName] :=
  segments_eq_iff.2 ⟨⟨List.cons_ne_nil _ _, by simpa [IsPlain] using hp⟩, rfl⟩

/-- Whatever has the topic of a plain path is this path. -/
theorem eq_of_topic_eq (hp : p.IsPlain) (h : q.topic = p.topic) : q = p := by
  have hcount := congrArg (fun topic => topic.toList.count '/') h
  simp only [count_slash_topic, List.count_eq_zero.2 hp.1, List.count_eq_zero.2 hp.2.1,
    List.count_eq_zero.2 hp.2.2] at hcount
  have hq : q.IsPlain := by
    refine ⟨?_, ?_, ?_⟩ <;> exact List.count_eq_zero.1 (by omega)
  have hsegments := congrArg segments h
  rw [segments_topic hq, segments_topic hp] at hsegments
  simp only [List.cons.injEq, and_true] at hsegments
  obtain ⟨hsection, hmodule, hsensor⟩ := hsegments
  calc q = ⟨q.sectionName, q.moduleName, q.sensorName⟩ := rfl
    _ = p := by rw [hsection, hmodule, hsensor]

theorem isSensorPath_topic (hp : p.IsPlain) : isSensorPath p.topic = true ↔ p.IsNamed := by
  rw [isSensorPath, segments_topic hp]
  simp [IsNamed]

/-- A remainder is taken apart into the plain and named path that has it as its topic. -/
theorem ofRemainder?_eq_ok_iff {remainder : String} :
    ofRemainder? remainder = .ok p ↔ p.IsPlain ∧ p.IsNamed ∧ p.topic = remainder := by
  constructor
  · intro h
    unfold ofRemainder? at h
    split at h
    · rename_i s m n hsegments
      split at h
      · rename_i hpath
        obtain rfl := Except.ok.inj h
        obtain ⟨⟨-, hnames⟩, hmade⟩ := segments_eq_iff.1 hsegments
        have hplain : IsPlain ⟨s, m, n⟩ := by
          simpa [IsPlain] using hnames
        have htopic : topic ⟨s, m, n⟩ = remainder := hmade
        exact ⟨hplain, (isSensorPath_topic hplain).1 (htopic ▸ hpath), htopic⟩
      · cases h
    · cases h
  · rintro ⟨hplain, hnamed, rfl⟩
    rw [ofRemainder?, segments_topic hplain]
    exact if_pos ((isSensorPath_topic hplain).2 hnamed)

/-- A remainder that cannot be taken apart is refused as a whole. -/
theorem eq_refusal_of_ofRemainder? {remainder : String} {e : PipelineError}
    (h : ofRemainder? remainder = .error e) : e = ofRemainder?.refusal remainder := by
  unfold ofRemainder? at h
  split at h
  · split at h
    · cases h
    · exact (Except.error.inj h).symm
  · exact (Except.error.inj h).symm

/-- A remainder that cannot be taken apart names no known sensor. -/
theorem kind_of_ofRemainder?_error {remainder : String} {e : PipelineError}
    (h : ofRemainder? remainder = .error e) : e.kind = .unknownSensor := by
  rw [eq_refusal_of_ofRemainder? h]
  rfl

/-- The topic of a path is taken apart into this path or not at all. -/
theorem ofRemainder?_topic_eq_ok_iff :
    ofRemainder? p.topic = .ok q ↔ q = p ∧ p.IsPlain ∧ p.IsNamed := by
  rw [ofRemainder?_eq_ok_iff]
  constructor
  · rintro ⟨hplain, hnamed, htopic⟩
    obtain rfl := eq_of_topic_eq hplain htopic.symm
    exact ⟨rfl, hplain, hnamed⟩
  · rintro ⟨rfl, hplain, hnamed⟩
    exact ⟨hplain, hnamed, rfl⟩

theorem ofRemainder?_topic_eq_refusal (h : ¬(p.IsPlain ∧ p.IsNamed)) :
    ofRemainder? p.topic = .error (ofRemainder?.refusal p.topic) := by
  cases hparts : ofRemainder? p.topic with
  | ok q => exact absurd (ofRemainder?_topic_eq_ok_iff.1 hparts).2 h
  | error e => rw [eq_refusal_of_ofRemainder? hparts]

theorem isSensorPath_iff {remainder : String} :
    isSensorPath remainder = true ↔ ∃ p, ofRemainder? remainder = .ok p := by
  constructor
  · intro h
    have hlength : (segments remainder).length = 3 := by
      rw [isSensorPath, Bool.and_eq_true, beq_iff_eq] at h
      exact h.1
    match hsegments : segments remainder, hlength with
    | [s, m, n], _ =>
      refine ⟨⟨s, m, n⟩, ?_⟩
      rw [ofRemainder?, hsegments]
      exact if_pos h
  · rintro ⟨p, h⟩
    obtain ⟨hplain, hnamed, rfl⟩ := ofRemainder?_eq_ok_iff.1 h
    exact (isSensorPath_topic hplain).2 hnamed

/-- A text spells the path if it is the three names with slashes between them, none of the names is
empty and none has a slash of its own. -/
structure IsSpelledBy (p : SensorPath) (text : String) : Prop where
  plain : p.IsPlain
  named : p.IsNamed
  text_eq : text = p.sectionName ++ "/" ++ p.moduleName ++ "/" ++ p.sensorName

theorem topic_eq (p : SensorPath) :
    p.topic = p.sectionName ++ "/" ++ p.moduleName ++ "/" ++ p.sensorName := by
  rw [← String.toList_inj, toList_topic]
  simp

theorem ofRemainder?_eq_ok_iff_isSpelledBy {remainder : String} :
    ofRemainder? remainder = .ok p ↔ p.IsSpelledBy remainder := by
  rw [ofRemainder?_eq_ok_iff, topic_eq]
  exact ⟨fun ⟨hplain, hnamed, htext⟩ => ⟨hplain, hnamed, htext.symm⟩,
    fun ⟨hplain, hnamed, htext⟩ => ⟨hplain, hnamed, htext.symm⟩⟩

end SensorPath

open SensorPath

/-- A bare topic is its own remainder, and bare are the topics that are taken apart, unless the
section is called like a stage. -/
theorem remainder?_bare_eq_some_iff {topic remainder : String} :
    remainder? "" topic = some remainder ↔
      remainder = topic ∧ ∃ p, ofRemainder? topic = .ok p ∧ p.sectionName ∉ stageNames := by
  -- The test for stages looks at the first segment, which is the section of the path.
  have hhead : ∀ {p}, ofRemainder? topic = .ok p →
      (segments topic).head? = some p.sectionName := by
    intro p hp
    obtain ⟨hplain, -, rfl⟩ := ofRemainder?_eq_ok_iff.1 hp
    rw [segments_topic hplain, List.head?_cons]
  rw [remainder?, if_pos (by decide)]
  constructor
  · intro h
    split at h
    · cases h
    · rename_i hstage
      split at h
      · rename_i hpath
        obtain ⟨p, hp⟩ := isSensorPath_iff.1 hpath
        rw [hhead hp] at hstage
        exact ⟨(Option.some.inj h).symm, p, hp, by simpa using hstage⟩
      · cases h
  · rintro ⟨rfl, p, hp, hsection⟩
    rw [if_neg (by simpa [hhead hp] using hsection), if_pos (isSensorPath_iff.2 ⟨p, hp⟩)]

/-! ## Both ways -/

/-- The names of a sensor come back out of its topic exactly if none is empty and none has a slash,
and otherwise the topic is refused. A text is taken apart exactly if it spells a path, and the parts
make the text again. Below a stage stands exactly what was put under it, and below the empty one
exactly each topic that is taken apart itself and does not begin with the name of a stage. -/
theorem composed_and_taken_apart :
    (∀ s m n : String, let p : SensorPath := ⟨s, m, n⟩
      (ofRemainder? (sensorTopic s m n) = .ok p ↔ p.IsPlain ∧ p.IsNamed) ∧
      (¬(p.IsPlain ∧ p.IsNamed) → ofRemainder? (sensorTopic s m n) =
        .error (ofRemainder?.refusal (sensorTopic s m n)))) ∧
    (∀ text : String,
      ((∃ p, ofRemainder? text = .ok p) ↔ ∃ p : SensorPath, p.IsSpelledBy text) ∧
      (∀ p, ofRemainder? text = .ok p → p.IsSpelledBy text ∧
        sensorTopic p.sectionName p.moduleName p.sensorName = text)) ∧
    (∀ stage : String, stage ≠ "" → ∀ remainder topic : String,
      remainder? stage topic = some remainder ↔ stageTopic stage remainder = topic) ∧
    ∀ topic remainder : String, remainder? "" topic = some remainder ↔
      remainder = topic ∧ ∃ p, ofRemainder? topic = .ok p ∧ p.sectionName ∉ stageNames := by
  refine ⟨fun s m n => ⟨?_, fun hrefused => ?_⟩, fun text => ⟨?_, fun p hp => ?_⟩,
    fun stage hstage remainder topic => ?_, fun topic remainder => remainder?_bare_eq_some_iff⟩
  · exact (@ofRemainder?_topic_eq_ok_iff ⟨s, m, n⟩ _).trans (and_iff_right rfl)
  · exact @ofRemainder?_topic_eq_refusal ⟨s, m, n⟩ hrefused
  · exact exists_congr fun p => ofRemainder?_eq_ok_iff_isSpelledBy
  · exact ⟨ofRemainder?_eq_ok_iff_isSpelledBy.1 hp, (ofRemainder?_eq_ok_iff.1 hp).2.2⟩
  · exact remainder?_eq_some_iff (by simpa using hstage)

/-- A section called like the beginning of a stage, names of which one is empty and one has a slash,
and a stage below itself. -/
theorem composed_and_taken_apart_beside_stage :
    let p : SensorPath := ⟨"rawdata", "raw", "a b"⟩
    let q : SensorPath := ⟨"hall/east", "", "pump"⟩
    p.IsPlain ∧ p.IsNamed ∧ p.IsSpelledBy "rawdata/raw/a b" ∧
      ofRemainder? "rawdata/raw/a b" = .ok p ∧
      remainder? "" "rawdata/raw/a b" = some "rawdata/raw/a b" ∧
      ¬(q.IsPlain ∧ q.IsNamed) ∧
      ofRemainder? "hall/east//pump" = .error (ofRemainder?.refusal "hall/east//pump") ∧
      "raw/raw" ≠ "" ∧ remainder? "raw/raw" "raw/raw/raw/" = some "raw/" := by
  intro p q
  obtain ⟨hnames, htexts, hstages, hbare⟩ := composed_and_taken_apart
  have hptopic : sensorTopic "rawdata" "raw" "a b" = "rawdata/raw/a b" := by decide
  have hqtopic : sensorTopic "hall/east" "" "pump" = "hall/east//pump" := by decide
  have hp : ofRemainder? "rawdata/raw/a b" = .ok p := hptopic ▸ (hnames _ _ _).1.2 (by decide)
  refine ⟨by decide, by decide, ((htexts _).2 p hp).1, hp, ?_, by decide, ?_, by decide, ?_⟩
  · exact (hbare _ _).2 ⟨rfl, p, hp, by decide⟩
  · exact hqtopic ▸ (hnames "hall/east" "" "pump").2 (by decide)
  · exact (hstages "raw/raw" (by decide) _ _).2 (by decide)

end SensorRelay
