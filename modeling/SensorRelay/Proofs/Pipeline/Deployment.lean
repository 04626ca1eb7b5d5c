import Mathlib.Data.List.Induction
import SensorRelay.Proofs.Pipeline.Exclusive
import SensorRelay.Proofs.Program.Frame

/-!
# One process or two

The stages may run in one process or in two, a processor with the handler of the raw stage and a
saver with those of the store stage. Let the publisher, the database and the sink for dead letters
reply each from a state of its own (`Replies`). A processor and a saver that both see the same
messages, in whatever order their turns come (`Replies.feedSplit`), leave the publisher and the
database as one process with all handlers leaves them (`Replies.split_agrees`).

The reason is that a message has one handler at most (`Dispatcher.offer_stages`) and that the raw
stage asks the publisher only, the store stage the database only, and a report the sink only. What
exclusive handlers mean for a whole process is put together in
`Settings.each_message_has_one_handler`.
-/

namespace SensorRelay

open Program

/-! ## Requests of a kind -/

namespace Effect

/-- A request to the database. -/
def IsStore (q : pipelineInterface.Request) : Prop :=
  ∃ c, q = Effect.store c

/-- A request to the publisher. -/
def IsPublish (q : pipelineInterface.Request) : Prop :=
  ∃ topic payload timeout, q = Effect.publish topic payload timeout

/-- A request to the sink. -/
def IsPost (q : pipelineInterface.Request) : Prop :=
  ∃ p, q = Effect.post p

end Effect

open Effect

variable {m : Message} {hs : List Handler}

namespace Handler

/-- The raw stage makes requests to the publisher only. -/
theorem asks_republish (processed : String) (timeout : Binary64) (unit : String)
    (r : HandlerResult) (remainder : String) (payload : Bytes) :
    (republish processed timeout unit r remainder payload).Asks IsPublish := by
  rw [republish]
  split
  · trivial
  · refine ⟨⟨_, _, _, rfl⟩, fun reply => ?_⟩
    cases reply <;> trivial

/-- The store stage makes requests to the database only. -/
theorem asks_record (lookup : Lookup) (r : HandlerResult) (remainder : String) (payload : Bytes) :
    (record lookup r remainder payload).Asks IsStore := by
  rw [record]
  split
  · trivial
  · refine Asks.bind (Asks.within (fun c => ⟨c, rfl⟩) _).attempt fun found => ?_
    cases found with
    | error f => trivial
    | ok id =>
      refine ⟨⟨_, rfl⟩, fun reply => ?_⟩
      rcases reply with f | _ | row <;> trivial

theorem asks_handle {P : pipelineInterface.Request → Prop} {h : Handler}
    (hwork : ∀ r remainder payload, (h.work r remainder payload).Asks P) (m : Message) :
    (h.handle m).Asks P := by
  rw [handle]
  split
  · trivial
  · exact (hwork _ _ _).bind fun _ => trivial

end Handler

namespace Dispatcher

theorem asks_offer {P : pipelineInterface.Request → Prop} (h : ∀ h ∈ hs, (h.handle m).Asks P) :
    (offer m hs).Asks P := by
  rw [offer_eq]
  split
  · trivial
  · rename_i found hfound
    exact (h found (List.mem_of_find?_eq_some hfound)).bind fun _ => trivial

/-- A report makes requests to the sink only. -/
theorem asks_report (d : Dispatcher) (m : Message) (r : HandlerResult) :
    (d.report m r).Asks IsPost := by
  rw [report]
  split
  · rw [bury]
    split
    · refine Asks.bind ?_ fun _ => trivial
      rw [DeadLetterQueue.send]
      split
      · trivial
      · refine ⟨⟨_, rfl⟩, fun reply => ?_⟩
        cases reply <;> trivial
    · trivial
  · trivial

/-! ## Results of dispatches -/

variable {σ : Type} (answer : Answerer σ)

theorem report_returns (d : Dispatcher) (m : Message) (r : HandlerResult) (w : σ) :
    ∃ x t, run answer (d.report m r) w = (.ok x, t) := by
  rw [report]
  split
  · rw [bury]
    split
    · rename_i e q _ _
      have hsend : Ends answer (q.send (letterAbout m r e)) w fun _ _ => True := by
        rw [DeadLetterQueue.send]
        split
        · exact .done trivial
        · refine .ask fun reply t => ?_
          cases reply <;> exact .done trivial
      obtain ⟨x, hrun, -⟩ := hsend
      exact ⟨_, _, run_bind_of_ok (Prod.ext hrun rfl) _⟩
    · exact ⟨_, _, rfl⟩
  · exact ⟨_, _, rfl⟩

theorem offer_returns (m : Message) (hs : List Handler) (w : σ) :
    ∃ found t, run answer (offer m hs) w = (.ok found, t) := by
  rw [offer_eq]
  split
  · exact ⟨_, _, rfl⟩
  · rename_i h _
    obtain ⟨r, t, hrun, -⟩ := h.isIgnored_handle answer m w
    exact ⟨_, t, run_bind_of_ok hrun _⟩

/-- Dispatching comes to a result or to the failure of the sink, whatever is replied. -/
theorem dispatch_returns (d : Dispatcher) (m : Message) (w : σ) :
    ∃ x t, run answer (d.dispatch m) w = (.ok x, t) := by
  obtain ⟨found, t, hrun⟩ := offer_returns answer m d.handlers w
  rw [dispatch, run_bind_of_ok hrun]
  cases found with
  | none => exact report_returns answer d m _ t
  | some r => exact report_returns answer d m r t

end Dispatcher

/-! ## Parties with states of their own -/

variable {β δ κ : Type}

/-- The states of a publisher, a database and a sink. -/
structure World (β δ κ : Type) where
  publisher : β
  database : δ
  sink : κ

/-- How a publisher, a database and a sink reply, each from a state of its own. -/
structure Replies (β δ κ : Type) where
  publish : String → Bytes → Binary64 → β → Except Failure Unit × β
  store : (c : StoreCall) → δ → Except Failure c.Reply × δ
  post : Posting → κ → Except Failure Bool × κ

namespace Replies

/-- The reply to any request of the pipeline. -/
def answer (replies : Replies β δ κ) : Answerer (World β δ κ) := fun q w =>
  match q with
  | Effect.store c =>
    ((replies.store c w.database).1, { w with database := (replies.store c w.database).2 })
  | Effect.publish topic payload timeout =>
    ((replies.publish topic payload timeout w.publisher).1,
      { w with publisher := (replies.publish topic payload timeout w.publisher).2 })
  | Effect.post p => ((replies.post p w.sink).1, { w with sink := (replies.post p w.sink).2 })

/-- Dispatches a message : the dispatcher and the world afterwards. -/
def feed (replies : Replies β δ κ) (w : Dispatcher × World β δ κ) (m : Message) :
    Dispatcher × World β δ κ :=
  match run replies.answer (w.1.dispatch m) w.2 with
  | (.ok (_, d), t) => (d, t)
  | (.error _, t) => (w.1, t)

end Replies

/-- A processor and a saver with one world around them. -/
structure Split (β δ κ : Type) where
  processor : Dispatcher
  saver : Dispatcher
  world : World β δ κ

namespace Replies

variable (replies : Replies β δ κ)

/-- The turn of the processor, on the left, or of the saver, on the right, with its next message. -/
def feedSplit (w : Split β δ κ) : Message ⊕ Message → Split β δ κ
  | .inl m =>
    { w with processor := (replies.feed (w.processor, w.world) m).1
             world := (replies.feed (w.processor, w.world) m).2 }
  | .inr m =>
    { w with saver := (replies.feed (w.saver, w.world) m).1
             world := (replies.feed (w.saver, w.world) m).2 }

/-- Feeding a message keeps the handlers, and leaves what a report leaves alone as offering the
message leaves it. -/
theorem feed_spec {υ : Type} {view : World β δ κ → υ}
    (hview : ∀ q, IsPost q → ∀ w, view (replies.answer q w).2 = view w) (d : Dispatcher)
    (w : World β δ κ) (m : Message) :
    (replies.feed (d, w) m).1.handlers = d.handlers ∧
      view (replies.feed (d, w) m).2 =
        view (run replies.answer (Dispatcher.offer m d.handlers) w).2 := by
  have hreport : ∀ r t, ∃ x t', run replies.answer (d.report m r) t = (.ok x, t') ∧
      x.2.handlers = d.handlers ∧ view t' = view t := by
    intro r t
    obtain ⟨x, t', hrun⟩ := Dispatcher.report_returns replies.answer d m r t
    refine ⟨x, t', hrun, ?_, ?_⟩
    · have hkept := hrun
      rw [Dispatcher.report_withHandlers d.handlers d r, run_bind_of_ok hrun] at hkept
      exact congrArg (fun x => x.2.handlers) (Except.ok.inj (Prod.mk.inj hkept).1).symm
    · have hframe := (Dispatcher.asks_report d m r).run_frame hview t
      rwa [hrun] at hframe
  obtain ⟨found, t, hrun⟩ := Dispatcher.offer_returns replies.answer m d.handlers w
  obtain ⟨x, t', hrun', hhandlers, hsame⟩ := hreport (found.getD (Dispatcher.unclaimed m)) t
  have hdispatch : run replies.answer (d.dispatch m) w = (.ok x, t') := by
    rw [Dispatcher.dispatch, run_bind_of_ok hrun]
    cases found with
    | none => exact hrun'
    | some r => exact hrun'
  rw [feed, hdispatch, hrun]
  exact ⟨hhandlers, hsame⟩

/-! ## What each request sees -/

theorem publisher_answer {q : pipelineInterface.Request} (hq : IsStore q ∨ IsPost q)
    (w : World β δ κ) : (replies.answer q w).2.publisher = w.publisher := by
  rcases hq with ⟨c, rfl⟩ | ⟨p, rfl⟩ <;> rfl

theorem database_answer {q : pipelineInterface.Request} (hq : IsPublish q ∨ IsPost q)
    (w : World β δ κ) : (replies.answer q w).2.database = w.database := by
  rcases hq with ⟨topic, payload, timeout, rfl⟩ | ⟨p, rfl⟩ <;> rfl

theorem publisher_congr (q : pipelineInterface.Request) (hq : IsPublish q) (v w : World β δ κ)
    (h : v.publisher = w.publisher) : (replies.answer q v).1 = (replies.answer q w).1 ∧
      (replies.answer q v).2.publisher = (replies.answer q w).2.publisher := by
  obtain ⟨topic, payload, timeout, rfl⟩ := hq
  cases v
  obtain rfl := h
  exact ⟨rfl, rfl⟩

theorem database_congr (q : pipelineInterface.Request) (hq : IsStore q) (v w : World β δ κ)
    (h : v.database = w.database) : (replies.answer q v).1 = (replies.answer q w).1 ∧
      (replies.answer q v).2.database = (replies.answer q w).2.database := by
  obtain ⟨c, rfl⟩ := hq
  cases v
  obtain rfl := h
  exact ⟨rfl, rfl⟩

end Replies

/-! ## The two stages apart -/

section Stages

variable (s : Settings) (lookup : Lookup) (m : Message)

/-- What a processor and a saver are offered is what one process with all handlers is offered : one
of the two ignores the message, and the other does what the one process does. -/
theorem Dispatcher.offer_stages :
    (offer m (s.handlers ⟨false, true⟩ lookup) = .done none ∧
        offer m (s.handlers ⟨true, true⟩ lookup) = offer m (s.handlers ⟨true, false⟩ lookup)) ∨
      (offer m (s.handlers ⟨true, false⟩ lookup) = .done none ∧
        offer m (s.handlers ⟨true, true⟩ lookup) = offer m (s.handlers ⟨false, true⟩ lookup)) := by
  have hall : s.handlers ⟨true, true⟩ lookup =
      s.handlers ⟨true, false⟩ lookup ++ s.handlers ⟨false, true⟩ lookup := rfl
  have hone := s.length_takers_le ⟨true, true⟩ lookup m.topic
  rw [hall, List.filter_append, List.length_append] at hone
  simp only [offer_eq, hall, List.find?_append]
  cases hraw : (s.handlers ⟨true, false⟩ lookup).find? fun h => !h.ignores m.topic with
  | none => exact Or.inr ⟨rfl, rfl⟩
  | some h =>
    rw [← List.head?_filter] at hraw
    have hpos := List.length_pos_of_mem (List.mem_of_head? hraw)
    have hstore : (s.handlers ⟨false, true⟩ lookup).filter (fun h => !h.ignores m.topic) = [] :=
      List.length_eq_zero_iff.1 (by omega)
    rw [← List.head?_filter, hstore]
    exact Or.inl ⟨rfl, rfl⟩

theorem Dispatcher.asks_offer_raw : (offer m (s.handlers ⟨true, false⟩ lookup)).Asks IsPublish := by
  refine asks_offer fun h hmem => ?_
  obtain rfl := List.mem_singleton.1 hmem
  exact Handler.asks_handle (Handler.asks_republish _ _ _) m

theorem Dispatcher.asks_offer_store :
    (offer m (s.handlers ⟨false, true⟩ lookup)).Asks IsStore := by
  refine asks_offer fun h hmem => ?_
  obtain ⟨stage, rfl⟩ : ∃ stage, h = .store stage lookup := by
    rcases List.mem_cons.1 hmem with rfl | hbare
    · exact ⟨_, rfl⟩
    · split at hbare
      · exact ⟨_, List.mem_singleton.1 hbare⟩
      · exact absurd hbare List.not_mem_nil
  exact Handler.asks_handle (Handler.asks_record lookup) m

end Stages

namespace Replies

variable (replies : Replies β δ κ)

/-- If one of two parties ignores a message whenever the other does not, it does to its part of the
world what both together do to it. -/
theorem view_offer {υ : Type} {view : World β δ κ → υ} {P Q : pipelineInterface.Request → Prop}
    (hcongr : ∀ q, P q → ∀ v w, view v = view w → (replies.answer q v).1 = (replies.answer q w).1 ∧
      view (replies.answer q v).2 = view (replies.answer q w).2)
    (hframe : ∀ q, Q q → ∀ w, view (replies.answer q w).2 = view w)
    {own other both : Pipeline (Option HandlerResult)} (hown : own.Asks P) (hother : other.Asks Q)
    (hboth : (other = .done none ∧ both = own) ∨ (own = .done none ∧ both = other))
    {v w : World β δ κ} (h : view v = view w) :
    view (run replies.answer own v).2 = view (run replies.answer both w).2 := by
  rcases hboth with ⟨-, rfl⟩ | ⟨rfl, rfl⟩
  · exact (hown.run_congr hcongr h).2
  · exact h.trans (hother.run_frame hframe w).symm

variable {s : Settings} {lookup : Lookup} {d whole : Dispatcher} {v w : World β δ κ}

/-- A processor does to the publisher what one process with all handlers does, and leaves the
database alone. -/
theorem feed_processor (hd : d.handlers = s.handlers ⟨true, false⟩ lookup)
    (hwhole : whole.handlers = s.handlers ⟨true, true⟩ lookup) (m : Message)
    (h : v.publisher = w.publisher) :
    (replies.feed (d, v) m).2.publisher = (replies.feed (whole, w) m).2.publisher ∧
      (replies.feed (d, v) m).2.database = v.database := by
  have hpublisher := fun q hq => replies.publisher_answer (q := q) (Or.inr hq)
  have hdatabase := fun q hq => replies.database_answer (q := q) (Or.inr hq)
  rw [(replies.feed_spec hpublisher d v m).2, (replies.feed_spec hpublisher whole w m).2,
    (replies.feed_spec hdatabase d v m).2, hd, hwhole]
  constructor
  · exact replies.view_offer replies.publisher_congr
      (fun q hq => replies.publisher_answer (Or.inl hq)) (Dispatcher.asks_offer_raw s lookup m)
      (Dispatcher.asks_offer_store s lookup m) (Dispatcher.offer_stages s lookup m) h
  · exact (Dispatcher.asks_offer_raw s lookup m).run_frame
      (fun q hq => replies.database_answer (Or.inl hq)) v

/-- A saver does to the database what one process with all handlers does, and leaves the publisher
alone. -/
theorem feed_saver (hd : d.handlers = s.handlers ⟨false, true⟩ lookup)
    (hwhole : whole.handlers = s.handlers ⟨true, true⟩ lookup) (m : Message)
    (h : v.database = w.database) :
    (replies.feed (d, v) m).2.database = (replies.feed (whole, w) m).2.database ∧
      (replies.feed (d, v) m).2.publisher = v.publisher := by
  have hpublisher := fun q hq => replies.publisher_answer (q := q) (Or.inr hq)
  have hdatabase := fun q hq => replies.database_answer (q := q) (Or.inr hq)
  rw [(replies.feed_spec hdatabase d v m).2, (replies.feed_spec hdatabase whole w m).2,
    (replies.feed_spec hpublisher d v m).2, hd, hwhole]
  constructor
  · exact replies.view_offer replies.database_congr
      (fun q hq => replies.database_answer (Or.inl hq)) (Dispatcher.asks_offer_store s lookup m)
      (Dispatcher.asks_offer_raw s lookup m) (Dispatcher.offer_stages s lookup m).symm h
  · exact (Dispatcher.asks_offer_store s lookup m).run_frame
      (fun q hq => replies.publisher_answer (Or.inl hq)) v

/-! ## Turns in any order -/

@[simp] theorem feed_handlers (d : Dispatcher) (w : World β δ κ) (m : Message) :
    (replies.feed (d, w) m).1.handlers = d.handlers :=
  (replies.feed_spec (fun _ hq => replies.publisher_answer (Or.inr hq)) d w m).1

theorem handlers_foldl_feed (ms : List Message) :
    (ms.foldl replies.feed (d, w)).1.handlers = d.handlers := by
  induction ms generalizing d w with
  | nil => rfl
  | cons m ms ih => exact ih.trans (replies.feed_handlers d w m)

/-- After any turns the publisher is as one process leaves it that has seen the messages of the
processor, and the database as one leaves it that has seen the messages of the saver. -/
theorem split_agrees {w : Split β δ κ} {v : World β δ κ}
    (hprocessor : w.processor.handlers = s.handlers ⟨true, false⟩ lookup)
    (hsaver : w.saver.handlers = s.handlers ⟨false, true⟩ lookup)
    (hwhole : whole.handlers = s.handlers ⟨true, true⟩ lookup)
    (hpublisher : w.world.publisher = v.publisher) (hdatabase : w.world.database = v.database)
    (schedule : List (Message ⊕ Message)) :
    (schedule.foldl replies.feedSplit w).world.publisher =
        ((schedule.filterMap Sum.getLeft?).foldl replies.feed (whole, v)).2.publisher ∧
      (schedule.foldl replies.feedSplit w).world.database =
        ((schedule.filterMap Sum.getRight?).foldl replies.feed (whole, v)).2.database ∧
      (schedule.foldl replies.feedSplit w).processor.handlers = w.processor.handlers ∧
      (schedule.foldl replies.feedSplit w).saver.handlers = w.saver.handlers := by
  induction schedule using List.reverseRecOn with
  | nil => exact ⟨hpublisher, hdatabase, rfl, rfl⟩
  | append_singleton schedule turn ih =>
    obtain ⟨ihpublisher, ihdatabase, ihprocessor, ihsaver⟩ := ih
    rw [List.foldl_append, List.foldl_cons, List.foldl_nil, List.filterMap_append,
      List.filterMap_append, List.foldl_append, List.foldl_append]
    cases turn with
    | inl m =>
      obtain ⟨hturn, hkept⟩ := replies.feed_processor (ihprocessor.trans hprocessor)
        ((replies.handlers_foldl_feed _).trans hwhole) m ihpublisher
      exact ⟨hturn, hkept.trans ihdatabase, (replies.feed_handlers _ _ m).trans ihprocessor,
        ihsaver⟩
    | inr m =>
      obtain ⟨hturn, hkept⟩ := replies.feed_saver (ihsaver.trans hsaver)
        ((replies.handlers_foldl_feed _).trans hwhole) m ihdatabase
      exact ⟨hkept.trans ihpublisher, hturn, ihprocessor,
        (replies.feed_handlers _ _ m).trans ihsaver⟩

end Replies

/-! ## One handler for each message -/

namespace Settings

/-- Of the handlers of a process one at most does not ignore a message. So dispatching makes the same
requests and comes to the same result whatever the order of the handlers, and a processor and a
saver that both see all messages, whenever the turn of each comes, leave the publisher and the
database as one process with all handlers does. -/
theorem each_message_has_one_handler (s : Settings) (lookup : Lookup) :
    (∀ roles topic,
      ((s.handlers roles lookup).filter fun h => !h.ignores topic).length ≤ 1) ∧
    (∀ {σ : Type} (answer : Answerer σ) (h : Handler) (m : Message) (w : σ),
      ∃ r t, run answer (h.handle m) w = (.ok r, t) ∧ r.isIgnored = h.ignores m.topic) ∧
    (∀ {σ : Type} (answer : Answerer σ) (roles : Roles) (order : List Handler),
      order.Perm (s.handlers roles lookup) →
      ∀ (counts : Counts) (letters : Option DeadLetterQueue) (m : Message) (w : σ),
        let built : Dispatcher := ⟨s.handlers roles lookup, counts, letters⟩
        let reordered : Dispatcher := ⟨order, counts, letters⟩
        exchanges answer (reordered.dispatch m) w = exchanges answer (built.dispatch m) w ∧
          ∃ result d t, run answer (built.dispatch m) w = (.ok (result, d), t) ∧
            run answer (reordered.dispatch m) w =
              (.ok (result, { d with handlers := order }), t)) ∧
    ∀ {β δ κ : Type} (replies : Replies β δ κ) (w : World β δ κ) (ms : List Message)
      (schedule : List (Message ⊕ Message)) (letters letters' letters'' : Option DeadLetterQueue),
      schedule.filterMap Sum.getLeft? = ms → schedule.filterMap Sum.getRight? = ms →
      let two := schedule.foldl replies.feedSplit ⟨.new (s.handlers ⟨true, false⟩ lookup) letters,
        .new (s.handlers ⟨false, true⟩ lookup) letters', w⟩
      let one := ms.foldl replies.feed (.new (s.handlers ⟨true, true⟩ lookup) letters'', w)
      two.world.publisher = one.2.publisher ∧ two.world.database = one.2.database := by
  refine ⟨fun roles topic => s.length_takers_le roles lookup topic,
    fun answer h m w => h.isIgnored_handle answer m w, ?_, ?_⟩
  · intro σ answer roles order hperm counts letters m w built reordered
    have hsame : reordered.dispatch m =
        built.dispatch m >>= fun x => .done (x.1, { x.2 with handlers := order }) :=
      built.dispatch_reordered hperm (s.length_takers_le roles lookup m.topic)
    obtain ⟨⟨result, d⟩, t, hrun⟩ := built.dispatch_returns answer m w
    refine ⟨?_, result, d, t, hrun, ?_⟩
    · rw [hsame, exchanges_bind_of_ok hrun]
      exact List.append_nil _
    · rw [hsame, run_bind_of_ok hrun]
      rfl
  · intro β δ κ replies w ms schedule letters letters' letters'' hleft hright two one
    obtain ⟨hpublisher, hdatabase, -⟩ := @Replies.split_agrees _ _ _ replies s lookup
      (.new (s.handlers ⟨true, true⟩ lookup) letters'')
      ⟨.new (s.handlers ⟨true, false⟩ lookup) letters,
        .new (s.handlers ⟨false, true⟩ lookup) letters', w⟩ w rfl rfl rfl rfl rfl schedule
    rw [hleft] at hpublisher
    rw [hright] at hdatabase
    exact ⟨hpublisher, hdatabase⟩

/-- Of four messages the raw stage takes one and the store stage two, one of them on a bare topic;
nobody takes the one on a short raw topic. -/
theorem four_messages_have_one_handler :
    let s : Settings := {
      databaseUrl := "sqlite://", brokerHost := "localhost", brokerPort := 1883
      brokerUsername := none, brokerPassword := none, clientId := "relay", keepalive := 20
      processedStage := .clean, deadline := Binary64.ofInt 10, rawUnit := .milliseconds
      lookup := .topic, acceptsBareTopics := true, inventoryPath := "configuration.json"
      queueSize := 1000, workerCount := 4, apiHost := "0.0.0.0", apiPort := 8080
      sink := ⟨false, "redis://localhost:6379/0", "dlq:telemetry", 10000⟩
      logLevel := "INFO", simulatorInterval := 1000 }
    let tables := (Store.answer (.insertSensor (some "pump") (some 1) (some "hall/east/pump"))
      (Store.answer (.insertModule (some "east") (some 1))
        (Store.answer (.insertSection (some "hall")) .empty).2).2).2
    let replies : Replies (List Publication) Store Unit :=
      ⟨fun topic payload timeout kept => (.ok (), kept ++ [⟨topic, payload, timeout⟩]),
        Store.answer, fun _ kept => (.ok true, kept)⟩
    let w : World (List Publication) Store Unit := ⟨[], tables, ()⟩
    let sample := Text.utf8 "\x7b\"value\":1,\"timestamp\":\"2026-01-01T00:00:00+00:00\"\x7d"
    let bare : Message := ⟨"hall/east/pump", sample⟩
    let ms : List Message := [⟨"raw/hall/east/pump", [0, 0, 0, 0, 0, 0, 3, 232, 0, 0, 0, 1]⟩,
      ⟨"clean/hall/east/pump", sample⟩, bare, ⟨"raw/a/b", sample⟩]
    let handlers := s.handlers ⟨true, true⟩ .byTopic
    let two := (ms.map Sum.inr ++ ms.map Sum.inl).foldl replies.feedSplit
      ⟨.new (s.handlers ⟨true, false⟩ .byTopic) none,
        .new (s.handlers ⟨false, true⟩ .byTopic) none, w⟩
    exchanges replies.answer ((Dispatcher.new handlers.reverse none).dispatch bare) w =
        exchanges replies.answer ((Dispatcher.new handlers none).dispatch bare) w ∧
      two.world.publisher.map Publication.topic = ["clean/hall/east/pump"] ∧
      two.world.database.records.map RecordRow.sensorId = [1, 1] := by
  intro s tables replies w sample bare ms handlers two
  obtain ⟨-, -, hreordered, hsplit⟩ := each_message_has_one_handler s .byTopic
  have horder := hreordered replies.answer ⟨true, true⟩ handlers.reverse (List.reverse_perm _)
    .zero none bare w
  have htwo := hsplit replies w ms (ms.map Sum.inr ++ ms.map Sum.inl) none none none
    (by decide +kernel) (by decide +kernel)
  refine ⟨horder.1, ?_, ?_⟩
  · have hpublisher : two.world.publisher = _ := htwo.1
    rw [hpublisher]
    decide +kernel
  · have hdatabase : two.world.database = _ := htwo.2
    rw [hdatabase]
    decide +kernel

end Settings

end SensorRelay
