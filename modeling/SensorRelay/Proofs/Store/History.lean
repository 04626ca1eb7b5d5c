import SensorRelay.Pipeline.Handler
import SensorRelay.Proofs.Program.Run
import SensorRelay.Proofs.Store.Paths
import SensorRelay.Reconcile

/-!
# Histories of a database

The tables of a database come about by single requests, by searches that create what they do
not find, by reconciliations and by messages at the store stage. At any request of any of these
a fault may be injected : the request then fails, or finds nothing, and has no effect. A
`FaultPlan` lists the faults of an operation, request by request, so that a reconciliation may
stop at each of its requests.

However it came about, a database has integrity, and a lookup by names has at most one row to
choose from (`integrity_ofHistory`).
-/

namespace SensorRelay.Store

/-- What may be injected at a request : a failure, or a reply that holds no row. -/
inductive Fault where
  | failure (f : Failure)
  | absent

/-- The reply to a request at which a fault is injected. -/
def Fault.reply (c : StoreCall) : Fault → Except Failure c.Reply
  | failure f => .error f
  | absent => .ok c.absent

/-- The faults of the coming requests, in order; later requests have none. -/
abbrev FaultPlan := List (Option Fault)

/-- The reply to a request under a plan. A fault takes the place of the request. -/
def answerUnder (c : StoreCall) (w : FaultPlan × Store) :
    Except Failure c.Reply × FaultPlan × Store :=
  match w.1.head?.join with
  | some fault => (fault.reply c, w.1.tail, w.2)
  | none => ((answer c w.2).1, w.1.tail, (answer c w.2).2)

/-- The reply to a request of the store stage, which neither publishes nor posts. -/
def answerEffect (q : Effect) (w : FaultPlan × Store) :
    Except Failure q.Reply × FaultPlan × Store :=
  match q with
  | .store c => answerUnder c w
  | .publish _ _ _ => (.ok (), w)
  | .post _ => (.ok true, w)

/-- What a database is used for. A search may look and create by any requests. -/
inductive Operation : Type 1 where
  | request (c : StoreCall)
  | findOrCreate {α : Type} (what : String) (find : Program storeInterface (Option α))
      (create : Program storeInterface α)
  | reconcile (descriptors : List Descriptor)
  | message (stage : String) (lookup : Lookup) (m : Message)

/-- The tables after an operation under a plan, whatever the operation ends with. -/
def perform (plan : FaultPlan) (s : Store) : Operation → Store
  | .request c => (answerUnder c (plan, s)).2.2
  | .findOrCreate what find create =>
    (Program.run (fun c w => answerUnder c w) (SensorRelay.findOrCreate what find create)
      (plan, s)).2.2
  | .reconcile ds =>
    (Program.run (fun c w => answerUnder c w) (SensorRelay.reconcile ds) (plan, s)).2.2
  | .message stage lookup m =>
    (Program.run (fun q w => answerEffect q w) ((Handler.store stage lookup).handle m)
      (plan, s)).2.2

/-- The tables that operations, each under its plan, make of empty ones. -/
def ofHistory (history : List (FaultPlan × Operation)) : Store :=
  history.foldl (fun s e => perform e.1 s e.2) empty

/-- A request meets a fault of the plan, or it is answered. -/
theorem answerUnder_cases (c : StoreCall) (plan : FaultPlan) (s : Store) :
    (∃ fault : Fault, answerUnder c (plan, s) = (fault.reply c, plan.tail, s)) ∨
      answerUnder c (plan, s) = ((answer c s).1, plan.tail, (answer c s).2) := by
  unfold answerUnder
  split
  · rename_i fault _
    exact Or.inl ⟨fault, rfl⟩
  · exact Or.inr rfl

section Keeps

variable {P : Store → Prop} (h : ∀ c s, P s → P (answer c s).2)
include h

theorem answerUnder_keeps (c : StoreCall) (w : FaultPlan × Store) (hw : P w.2) :
    P (answerUnder c w).2.2 := by
  unfold answerUnder
  split
  · exact hw
  · exact h c w.2 hw

theorem answerEffect_keeps (q : Effect) (w : FaultPlan × Store) (hw : P w.2) :
    P (answerEffect q w).2.2 := by
  cases q with
  | store c => exact answerUnder_keeps h c w hw
  | publish topic payload timeout => exact hw
  | post p => exact hw

/-- Every operation amounts to some requests, whatever faults it meets : what each request keeps, it
keeps. -/
theorem perform_keeps (plan : FaultPlan) {s : Store} (hs : P s) (o : Operation) :
    P (perform plan s o) := by
  cases o with
  | request c => exact answerUnder_keeps h c (plan, s) hs
  | findOrCreate what find create =>
    exact Program.run_keeps (P := fun w : FaultPlan × Store => P w.2) (answerUnder_keeps h) _ hs
  | reconcile ds =>
    exact Program.run_keeps (P := fun w : FaultPlan × Store => P w.2) (answerUnder_keeps h) _ hs
  | message stage lookup m =>
    exact Program.run_keeps (P := fun w : FaultPlan × Store => P w.2) (answerEffect_keeps h) _ hs

end Keeps

theorem perform_reachable (plan : FaultPlan) {s : Store} (hs : s.Reachable) (o : Operation) :
    (perform plan s o).Reachable :=
  perform_keeps (fun c _ => .request c) plan hs o

theorem ofHistory_reachable (history : List (FaultPlan × Operation)) :
    (ofHistory history).Reachable := by
  unfold ofHistory
  generalize hs : empty = s
  have h : s.Reachable := hs ▸ .empty
  clear hs
  induction history generalizing s with
  | nil => exact h
  | cons e history ih => exact ih _ (perform_reachable e.1 h e.2)

/-- After every history the tables have integrity, and each lookup by names is the first of at
most one row of its join. -/
theorem integrity_ofHistory (history : List (FaultPlan × Operation)) :
    (ofHistory history).Integrity ∧
      (∀ name, (ofHistory history).sectionByName? name =
          ((ofHistory history).sectionsNamed name).head? ∧
        ((ofHistory history).sectionsNamed name).length ≤ 1) ∧
      (∀ name sectionName, (ofHistory history).moduleByName? name sectionName =
          ((ofHistory history).modulesNamed name sectionName).head?.map Prod.fst ∧
        ((ofHistory history).modulesNamed name sectionName).length ≤ 1) ∧
      ∀ path, (ofHistory history).sensorByPath? path =
          ((ofHistory history).sensorsAt path).head?.map Prod.fst ∧
        ((ofHistory history).sensorsAt path).length ≤ 1 := by
  have hs := (ofHistory_reachable history).integrity
  refine ⟨hs, fun name => ⟨?_, ?_⟩, fun name sectionName => ⟨?_, ?_⟩, fun path => ⟨?_, ?_⟩⟩
  · exact sectionByName?_eq_head? _ name
  · exact hs.length_sectionsNamed_le name
  · exact moduleByName?_eq_head? _ name sectionName
  · exact hs.length_modulesNamed_le name sectionName
  · exact sensorByPath?_eq_head? _ path
  · exact hs.length_sensorsAt_le path

end SensorRelay.Store
