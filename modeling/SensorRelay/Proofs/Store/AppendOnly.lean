import SensorRelay.Bench.Environment
import SensorRelay.Proofs.Reconcile.Lookups
import SensorRelay.Proofs.Store.Growth

/-!
# Tables that only grow

Whatever is done with a database, by operations under plans of faults or by dispatchers in any
environment (`Leads`), the rows that are there stay where they are (`Leads.isPartOf`). So a lookup
that has found something finds the same ever after : names and ids belong to one row, and of the
sensors with a topic the one with the smallest id is found, which no later sensor undercuts. Only a
fault that is injected into the lookup itself changes its reply (`answer_of_answerUnder`,
`outcomeUnder_resolve`).
-/

namespace SensorRelay

/-- Does a request look for one row, by its names, its topic or its id? -/
def StoreCall.isLookup : StoreCall → Bool
  | .sectionByName _ | .moduleByName _ _ | .sensorByTopic _ | .sensorByPath _ | .sensorById _ => true
  | _ => false

namespace Store

variable {s t u : Store}

/-! ## What may become of tables -/

theorem Insertion.isPartOf (h : s.Insertion t) : s.IsPartOf t := by
  cases h with
  | addSection _ => exact { IsPartOf.refl s with sections := List.prefix_append _ _ }
  | addModule _ _ => exact { IsPartOf.refl s with modules := List.prefix_append _ _ }
  | addSensor _ _ => exact { IsPartOf.refl s with sensors := List.prefix_append _ _ }
  | addRecord _ _ => exact { IsPartOf.refl s with records := List.prefix_append _ _ }

/-- A request keeps all rows. -/
theorem isPartOf_answer (c : StoreCall) (s : Store) : s.IsPartOf (answer c s).2 := by
  rcases answer_snd c s with h | h
  · rw [h]
    exact .refl s
  · exact h.isPartOf

/-- What may become of tables : operations are performed, each under its plan of faults, and
messages are dispatched in environments, of which nothing else is assumed. -/
inductive Leads (s : Store) : Store → Prop
  | refl : Leads s s
  | perform {t : Store} (plan : FaultPlan) (o : Operation) : Leads s t → Leads s (perform plan t o)
  | dispatch {t u : Store} {e : Environment} (d : Dispatcher) (m : Message)
    (before : e.database = some t) (after : (e.dispatch d m).2.2.database = some u) :
    Leads s t → Leads s u

section Keeps

variable {P : Store → Prop} (h : ∀ c s, P s → P (answer c s).2)
include h

/-- In an environment nothing but requests changes the tables. -/
theorem environment_keeps (q : Effect) (e : Environment) (he : ∀ t, e.database = some t → P t) :
    ∀ t, (Environment.answer q e).2.database = some t → P t := by
  intro t ht
  cases q with
  | store c =>
    rw [Environment.answer, Environment.answerStore] at ht
    split at ht
    · exact he t ht
    · cases hdatabase : e.database with
      | none =>
        rw [hdatabase] at ht
        cases ht
      | some u =>
        rw [hdatabase] at ht
        obtain rfl := Option.some.inj ht
        exact h c u (he u hdatabase)
  | publish topic payload timeout =>
    rw [Environment.answer, Environment.answerPublish] at ht
    split at ht
    · exact he t ht
    · exact he t ht
    · exact he t ht
    · split at ht
      · exact he t ht
      · exact he t ht
  | post p =>
    rw [Environment.answer, Environment.answerPost] at ht
    split at ht <;> exact he t ht

/-- What each request keeps, is kept for ever. -/
theorem Leads.keeps (hlead : Leads s t) (hs : P s) : P t := by
  induction hlead with
  | refl => exact hs
  | perform plan o _ ih => exact perform_keeps h plan ih o
  | @dispatch t u e d m before after _ ih =>
    have hrun := Program.run_keeps (P := fun e : Environment => ∀ t, e.database = some t → P t)
      (environment_keeps h) (d.dispatch m) (s := e)
      (fun v hv => Option.some.inj (hv.symm.trans before) ▸ ih)
    refine hrun u ?_
    rw [← after, Environment.dispatch]
    split <;> rename_i heq
    · exact congrArg (fun x => x.2.database) heq
    · exact congrArg (fun x => x.2.database) heq

end Keeps

theorem Leads.reachable (h : Leads s t) (hs : s.Reachable) : t.Reachable :=
  h.keeps (fun c _ => .request c) hs

theorem Leads.isPartOf (h : Leads s t) : s.IsPartOf t :=
  h.keeps (fun c u hu => hu.trans (isPartOf_answer c u)) (.refl s)

/-! ## Lookups -/

/-- What has been found is found again, if it is there to be found. -/
theorem ok_of_found {α : Type} {found later : Option α} (h : ∀ x, found = some x → later = some x)
    {a : Option α} (ha : a ≠ none)
    (hfound : (Except.ok found : Except Failure (Option α)) = .ok a) :
    (Except.ok later : Except Failure (Option α)) = .ok a := by
  obtain rfl := Except.ok.inj hfound
  obtain ⟨x, rfl⟩ := Option.ne_none_iff_exists'.1 ha
  rw [h x rfl]

/-- A lookup that has found a row in a part of the tables finds it in all of them. -/
theorem IsPartOf.answer_lookup (h : s.IsPartOf t) (hs : s.Integrity) (ht : t.Integrity)
    {c : StoreCall} (hc : c.isLookup = true) {a : c.Reply} (ha : a ≠ c.absent)
    (hfound : (answer c s).1 = .ok a) : (answer c t).1 = .ok a := by
  cases c with
  | sectionByName name => exact ok_of_found (fun _ hx => h.sections.find?_eq_some hx) ha hfound
  | sensorByTopic topic => exact ok_of_found (fun _ hx => h.sensors.find?_eq_some hx) ha hfound
  | moduleByName name sectionName =>
    refine ok_of_found (fun m hm => ?_) ha hfound
    obtain ⟨hmem, hpath⟩ := hs.moduleByName?_eq_some_iff.1 hm
    exact ht.moduleByName?_eq_some_iff.2 ⟨h.modules.subset hmem, h.modulePath? hpath⟩
  | sensorByPath path =>
    refine ok_of_found (fun x hx => ?_) ha hfound
    obtain ⟨hmem, hpath⟩ := hs.sensorByPath?_eq_some_iff.1 hx
    exact ht.sensorByPath?_eq_some_iff.2 ⟨h.sensors.subset hmem, h.sensorPath? hpath⟩
  | sensorById id =>
    have hreply : ∀ u : Store, (answer (.sensorById id) u).1 =
        (do checkKey id; return u.sensorById? id) := fun _ => rfl
    rw [hreply] at hfound ⊢
    obtain ⟨key, hkey, hfound⟩ := bind_eq_ok_iff.1 hfound
    rw [hkey]
    exact ok_of_found (fun _ hx => h.sensors.find?_eq_some hx) ha hfound
  | _ => cases hc

/-- Without a fault a request is answered by the tables. -/
theorem answerUnder_of_none {plan : FaultPlan} (hplan : plan.head?.join = none) (c : StoreCall)
    (s : Store) : (answerUnder c (plan, s)).1 = (answer c s).1 := by
  rw [answerUnder, hplan]

/-- A reply that holds a row is that of the tables. -/
theorem answer_of_answerUnder {plan : FaultPlan} {c : StoreCall} {a : c.Reply} (ha : a ≠ c.absent)
    (h : (answerUnder c (plan, s)).1 = .ok a) : (answer c s).1 = .ok a := by
  rcases answerUnder_cases c plan s with ⟨fault, hreply⟩ | hreply
  · rw [hreply] at h
    cases fault with
    | failure f => cases h
    | absent => exact absurd (Except.ok.inj h).symm ha
  · rwa [hreply] at h

/-- Runs a program under a plan of faults : its outcome. -/
def outcomeUnder {α : Type} (plan : FaultPlan) (p : Program storeInterface α) (s : Store) :
    Except Failure α :=
  (Program.run (fun c w => answerUnder c w) p (plan, s)).1

theorem outcomeUnder_ask {α : Type} {plan : FaultPlan} {c : StoreCall}
    {r : Except Failure c.Reply} {w : FaultPlan × Store}
    (h : answerUnder c (plan, s) = (r, w))
    (next : Except Failure c.Reply → Program storeInterface α) :
    outcomeUnder plan (.ask c next) s = outcomeUnder w.1 (next r) w.2 := by
  have hstep : outcomeUnder plan (.ask c next) s =
      outcomeUnder (answerUnder c (plan, s)).2.1 (next (answerUnder c (plan, s)).1)
        (answerUnder c (plan, s)).2.2 := rfl
  rw [hstep, h]

/-- A lookup comes to what the tables make of it, unless it meets a fault and fails. -/
theorem outcomeUnder_resolve (plan : FaultPlan) (s : Store) (lookup : Lookup)
    (remainder : String) :
    outcomeUnder plan (lookup.resolve remainder) s = (run (lookup.resolve remainder) s).1 ∨
      plan.head?.join ≠ none ∧
        ∃ f, outcomeUnder plan (lookup.resolve remainder) s = .error f := by
  cases lookup with
  | byTopic =>
    cases hplan : plan.head?.join with
    | none =>
      have hreply : answerUnder (.sensorByTopic remainder) (plan, s) =
          (.ok (s.sensorByTopic? remainder), plan.tail, s) := by
        rw [answerUnder, hplan, answer]
      have hanswer : answer (.sensorByTopic remainder) s =
          (.ok (s.sensorByTopic? remainder), s) := rfl
      refine Or.inl ((outcomeUnder_ask hreply _).trans
        (Eq.trans ?_ (congrArg Prod.fst (run_ask hanswer _).symm)))
      cases s.sensorByTopic? remainder <;> rfl
    | some fault =>
      have hreply : answerUnder (.sensorByTopic remainder) (plan, s) =
          (fault.reply _, plan.tail, s) := by
        rw [answerUnder, hplan]
      refine Or.inr ⟨Option.some_ne_none fault, ?_⟩
      cases fault with
      | failure f => exact ⟨f, outcomeUnder_ask hreply _⟩
      | absent => exact ⟨_, outcomeUnder_ask hreply _⟩
  | byResolution known =>
    refine Or.inl ?_
    rw [Lookup.resolve]
    cases SensorPath.ofRemainder? remainder with
    | error e => rfl
    | ok path =>
      dsimp only
      cases known.idFor? path <;> rfl

/-- A lookup that has come to an id in a part of the tables comes to it in all of them. -/
theorem IsPartOf.run_resolve (h : s.IsPartOf t) {lookup : Lookup} {remainder : String} {id : Int}
    (hfound : (run (lookup.resolve remainder) s).1 = .ok id) :
    (run (lookup.resolve remainder) t).1 = .ok id := by
  have hids : lookup.find? s remainder = some id → lookup.find? t remainder = some id := by
    cases lookup with
    | byTopic =>
      intro hid
      obtain ⟨x, hx, hid⟩ := Option.map_eq_some_iff.1 hid
      exact Option.map_eq_some_iff.2 ⟨x, h.sensors.find?_eq_some hx, hid⟩
    | byResolution known => exact fun hid => hid
  have hs := Store.run_resolve lookup s remainder
  have ht := Store.run_resolve lookup t remainder
  cases hfind : lookup.find? s remainder with
  | none =>
    rw [hfind] at hs
    obtain ⟨e, -, hrun⟩ := hs
    rw [hrun] at hfound
    cases hfound
  | some found =>
    rw [hfind] at hs
    rw [hs] at hfound
    obtain rfl := Except.ok.inj hfound
    rw [hids hfind] at ht
    exact congrArg Prod.fst ht

/-! ## Whatever is done -/

/-- Whatever is done with the tables, the rows stay in their places, and a lookup that has found a
row or an id finds the same ever after, unless it meets a fault itself. -/
theorem rows_and_lookups_last (hs : s.Reachable) (h : Leads s t) :
    (s.sections <+: t.sections ∧ s.modules <+: t.modules ∧ s.sensors <+: t.sensors ∧
      s.records <+: t.records) ∧
    (∀ (c : StoreCall) (a : c.Reply) (plan plan' : FaultPlan), c.isLookup = true → a ≠ c.absent →
      (answerUnder c (plan, s)).1 = .ok a →
      (plan'.head?.join = none → (answerUnder c (plan', t)).1 = .ok a) ∧
        ∀ b, b ≠ c.absent → (answerUnder c (plan', t)).1 = .ok b → b = a) ∧
    ∀ (lookup : Lookup) (remainder : String) (id : Int) (plan plan' : FaultPlan),
      outcomeUnder plan (lookup.resolve remainder) s = .ok id →
      (plan'.head?.join = none → outcomeUnder plan' (lookup.resolve remainder) t = .ok id) ∧
        ∀ id', outcomeUnder plan' (lookup.resolve remainder) t = .ok id' → id' = id := by
  have hpart := h.isPartOf
  refine ⟨⟨hpart.sections, hpart.modules, hpart.sensors, hpart.records⟩, ?_, ?_⟩
  · intro c a plan plan' hc ha hfound
    have hlater := hpart.answer_lookup hs.integrity (h.reachable hs).integrity hc ha
      (answer_of_answerUnder ha hfound)
    refine ⟨fun hplan => (answerUnder_of_none hplan c t).trans hlater, fun b hb hreply => ?_⟩
    exact Except.ok.inj ((answer_of_answerUnder hb hreply).symm.trans hlater)
  · intro lookup remainder id plan plan' hfound
    have hfirst : (run (lookup.resolve remainder) s).1 = .ok id := by
      rcases outcomeUnder_resolve plan s lookup remainder with heq | ⟨-, f, hf⟩
      · exact heq ▸ hfound
      · exact nomatch hf.symm.trans hfound
    have hlater := hpart.run_resolve hfirst
    rcases outcomeUnder_resolve plan' t lookup remainder with heq | ⟨hplan, f, hf⟩
    · rw [heq, hlater]
      exact ⟨fun _ => rfl, fun id' hid => (Except.ok.inj hid).symm⟩
    · exact ⟨fun hnone => absurd hnone hplan, fun id' hid => nomatch hf.symm.trans hid⟩

/-- A reconciliation fails halfway, a second sensor of the topic is made, and a message is recorded
for the first one, which is still the one that is found. -/
theorem lookups_last_beside_second_sensor :
    let s := (run (reconcile [⟨"pump", none, "hall", "east", 0⟩]) empty).2
    let halfway := perform [none, some (.failure (.storage "locked"))]
      s (.reconcile [⟨"pump", none, "hall", "west", 0⟩])
    let twice := perform [] (perform [] halfway (.request (.insertModule (some "west") (some 1))))
      (.request (.insertSensor (some "pump") (some 2) (some "hall/east/pump")))
    let e : Environment := { Environment.new with database := some twice }
    let d := Dispatcher.new [.store "clean" .byTopic] none
    let m : Message := ⟨"clean/hall/east/pump",
      Text.utf8 "\x7b\"value\":1,\"timestamp\":\"2026-01-01T00:00:00+00:00\"\x7d"⟩
    let t := (e.dispatch d m).2.2.database.getD empty
    s.Reachable ∧ Leads s t ∧ t.sensors.map SensorRow.topic = ["hall/east/pump", "hall/east/pump"] ∧
      t.records.map RecordRow.sensorId = [1] ∧ s.sensors <+: t.sensors ∧
      outcomeUnder [] (Lookup.byTopic.resolve "hall/east/pump") t = .ok 1 ∧
      (answerUnder (.sensorById 1) ([], t)).1 =
        .ok (some (⟨1, "pump", 1, "hall/east/pump"⟩ : SensorRow)) := by
  intro s halfway twice e d m t
  have hs : s.Reachable := Reachable.empty.run _
  have hleads : Leads s t :=
    .dispatch d m (e := e) rfl (by decide +kernel) (.perform _ _ (.perform _ _ (.perform _ _ .refl)))
  obtain ⟨hpart, hcalls, hlookups⟩ := rows_and_lookups_last hs hleads
  refine ⟨hs, hleads, by decide +kernel, by decide +kernel, hpart.2.2.1, ?_, ?_⟩
  · exact (hlookups .byTopic "hall/east/pump" 1 [] [] (by decide +kernel)).1 rfl
  · exact (hcalls (.sensorById 1) _ [] [] rfl (Option.some_ne_none _) rfl).1 rfl

end Store

end SensorRelay
