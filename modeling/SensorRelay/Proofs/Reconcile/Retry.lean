import SensorRelay.Proofs.Reconcile.Alone
import SensorRelay.Proofs.Store.History

/-!
# Reconciling again after a failure

A reconciliation may be cut short at any of its requests, by a failure that comes in place of the
request and has no effect. It then fails as a whole, for the one failure that a search survives is
that of a row which is there after all, and here there is none. `Stops` says so of a program,
together with what holds of the tables at each of its requests.

What a cut reconciliation leaves behind is the start of what the whole one makes, and to go on from
there comes to the same as the whole one (`Resumable`) : what has been resolved is found again, and
the rest has not been touched. By induction on the failed attempts the first reconciliation that is
not disturbed ends as if there had been none before it (`converges_afterCuts`).
-/

namespace SensorRelay.Store

variable {α β : Type} {s t : Store}

/-- The tables reply to the requests of a program, except where the plan has faults. -/
abbrev runUnder (p : Program storeInterface α) (plan : FaultPlan) (s : Store) :
    Except Failure α × FaultPlan × Store :=
  p.run (fun c w => answerUnder c w) (plan, s)

/-! ## Programs that stop -/

/-- At each request of the program the tables are as in `P`, and a failure in place of the request
makes the program fail and leaves them so. -/
def Stops (P : Store → Prop) : Program storeInterface α → Store → Prop
  | .done _, _ => True
  | .raise _, _ => True
  | .ask c next, s => P s ∧
      (∀ f plan, ∃ g plan', runUnder (next (.error f)) plan s = (.error g, plan', s)) ∧
      Stops P (next (answer c s).1) (answer c s).2

namespace Stops

variable {P Q : Store → Prop} {p : Program storeInterface α}

theorem mono (hPQ : ∀ t, P t → Q t) (h : Stops P p s) : Stops Q p s := by
  induction p generalizing s with
  | done a => trivial
  | raise f => trivial
  | ask c next ih =>
    obtain ⟨hs, hfault, hnext⟩ := h
    exact ⟨hPQ s hs, hfault, ih _ hnext⟩

/-- One program after another. -/
theorem bind {k : α → Program storeInterface β} (h : Stops P p s)
    (hk : ∀ a t, run p s = (.ok a, t) → Stops P (k a) t) : Stops P (p >>= k) s := by
  induction p generalizing s with
  | done a => exact hk a s rfl
  | raise f => trivial
  | ask c next ih =>
    obtain ⟨hs, hfault, hnext⟩ := h
    refine ⟨hs, fun f plan => ?_, ih _ hnext hk⟩
    obtain ⟨g, plan', hrun⟩ := hfault f plan
    exact ⟨g, plan', Program.run_bind_of_error hrun k⟩

/-- A failure in place of any request ends the program there. -/
theorem cut (h : Stops P p s) {n : Nat} (hn : n < p.requests (fun c t => answer c t) s)
    (f : Failure) (later : FaultPlan) : ∃ g plan t, P t ∧
      runUnder p (List.replicate n none ++ some (.failure f) :: later) s = (.error g, plan, t) := by
  induction p generalizing n s with
  | done a => exact absurd hn (Nat.not_lt_zero n)
  | raise f => exact absurd hn (Nat.not_lt_zero n)
  | ask c next ih =>
    obtain ⟨hs, hfault, hnext⟩ := h
    cases n with
    | zero =>
      obtain ⟨g, plan, hrun⟩ := hfault f later
      exact ⟨g, plan, s, hs, hrun⟩
    | succ n => exact ih _ hnext (Nat.lt_of_succ_lt_succ hn)

end Stops

/-! ## Searches -/

/-- What the program makes of the reply to a request : a failure is its own. -/
def settleReply {c : StoreCall} (read : c.Reply → β) :
    Except Failure c.Reply → Program storeInterface β
  | .ok a => .done (read a)
  | .error f => .raise f

/-- The program makes one request and takes the failure or what it reads off the reply. -/
def Asks {c : StoreCall} (read : c.Reply → β) (p : Program storeInterface β) : Prop :=
  p = .ask c (settleReply read)

/-- What a search does after its insert : a broken uniqueness rule makes it look again. -/
def afterInsert (what : String) (find : Program storeInterface (Option α)) :
    Except Failure α → Program storeInterface α
  | .ok a => .done a
  | .error f =>
    if f.isDuplicateKey then
      find >>= fun r => match r with
        | some a => .done a
        | none => .raise (.storage (what ++ ": duplicate key on insert but not found on re-read"))
    else .raise f

theorem findOrCreate_eq (what : String) (find : Program storeInterface (Option α))
    (create : Program storeInterface α) :
    findOrCreate what find create = find >>= fun r => match r with
      | some a => .done a
      | none => create.attempt >>= afterInsert what find :=
  rfl

theorem asks_ask (c : StoreCall) : Asks (fun a => a) c.ask := by
  unfold Asks StoreCall.ask Program.call
  congr 1
  funext r
  cases r <;> rfl

namespace Asks

variable {c : StoreCall} {read : c.Reply → β} {p : Program storeInterface β}

theorem stops {P : Store → Prop} (h : Asks read p) (hs : P s) : Stops P p s := by
  subst h
  refine ⟨hs, fun f plan => ⟨f, plan, rfl⟩, ?_⟩
  cases (answer c s).1 <;> trivial

/-- Without faults the program has what it reads off the reply. -/
theorem of_run {b : β} (h : Asks read p) (hrun : run p s = (.ok b, t)) :
    t = (answer c s).2 ∧ ∀ a, (answer c s).1 = .ok a → read a = b := by
  subst h
  have hreply : run (settleReply read (answer c s).1) (answer c s).2 = (.ok b, t) := hrun
  cases hfirst : (answer c s).1 with
  | error f =>
    rw [hfirst] at hreply
    cases (Prod.mk.inj hreply).1
  | ok a =>
    rw [hfirst] at hreply
    obtain ⟨hb, rfl⟩ := Prod.mk.inj hreply
    exact ⟨rfl, fun a' ha' => Except.ok.inj ha' ▸ Except.ok.inj hb⟩

/-- A look that finds nothing and changes nothing does so under every plan, or it fails. -/
theorem runUnder_cases {read : c.Reply → Option α} {find : Program storeInterface (Option α)}
    (h : Asks read find) (hnone : ∀ a, (answer c s).1 = .ok a → read a = none)
    (hkeep : (answer c s).2 = s) (habsent : read c.absent = none) (plan : FaultPlan) :
    runUnder find plan s = (.ok none, plan.tail, s) ∨
      ∃ g, runUnder find plan s = (.error g, plan.tail, s) := by
  have hrun : ∀ e, answerUnder c (plan, s) = e →
      runUnder find plan s = runUnder (settleReply read e.1) e.2.1 e.2.2 := by
    rintro e rfl
    rw [h]
    rfl
  rcases answerUnder_cases c plan s with ⟨fault, hreply⟩ | hreply
  · rw [hrun _ hreply]
    cases fault with
    | failure g => exact Or.inr ⟨g, rfl⟩
    | absent =>
      refine Or.inl ?_
      rw [← habsent]
      rfl
  · rw [hrun _ hreply, hkeep]
    cases hfirst : (answer c s).1 with
    | ok a =>
      refine Or.inl ?_
      rw [← hnone a hfirst]
      rfl
    | error g => exact Or.inr ⟨g, rfl⟩

end Asks

/-- A search whose insert fails, and which finds nothing either when it looks again, fails. -/
theorem runUnder_afterInsert {what : String} {find : Program storeInterface (Option α)}
    {plan : FaultPlan} (f : Failure)
    (hlook : runUnder find plan s = (.ok none, plan.tail, s) ∨
      ∃ g, runUnder find plan s = (.error g, plan.tail, s)) :
    ∃ g plan', runUnder (afterInsert what find (.error f)) plan s = (.error g, plan', s) := by
  rw [afterInsert]
  split
  · rcases hlook with hlook | ⟨g, hlook⟩
    · exact ⟨_, _, Program.run_bind_of_ok hlook _⟩
    · exact ⟨_, _, Program.run_bind_of_error hlook _⟩
  · exact ⟨f, plan, rfl⟩

/-- After its insert a search stops, if only, where it looks again. -/
theorem stops_afterInsert {P : Store → Prop} {what : String} {c : StoreCall}
    {read : c.Reply → Option α} {find : Program storeInterface (Option α)}
    (hfind : Asks read find) {r : Except Failure α}
    (h : ∀ f, r = .error f → f.isDuplicateKey = true → P s) :
    Stops P (afterInsert what find r) s := by
  cases r with
  | ok a => trivial
  | error f =>
    rw [afterInsert]
    split
    · rename_i hf
      exact (hfind.stops (h f rfl hf)).bind fun r t _ => by cases r <;> trivial
    · trivial

/-- A search stops at the tables that it starts from. -/
theorem stops_findOrCreate {what : String} {c i : StoreCall} {read : c.Reply → Option α}
    {made : i.Reply → Option α} {find insert : Program storeInterface (Option α)}
    (hfind : Asks read find) (hinsert : Asks made insert) (hkeep : (answer c s).2 = s)
    (habsent : read c.absent = none) :
    Stops (fun t => t = s) (findOrCreate what find (created insert)) s := by
  rw [findOrCreate_eq]
  refine (hfind.stops (P := fun t => t = s) rfl).bind fun r t hr => ?_
  obtain ⟨ht, hread⟩ := hfind.of_run hr
  obtain rfl : t = s := ht.trans hkeep
  cases r with
  | some a => trivial
  | none =>
    subst hinsert
    refine ⟨rfl, fun f plan => ?_, ?_⟩
    · exact runUnder_afterInsert f (hfind.runUnder_cases hread hkeep habsent plan)
    · cases hreply : (answer i t).1 with
      | error f => exact stops_afterInsert hfind fun _ _ _ => answer_snd_of_error hreply
      | ok a =>
        show Stops _ ((created (.done (made a))).attempt >>= afterInsert what find) _
        cases made a <;> trivial

/-! ## Programs that can be resumed -/

/-- Wherever the program is cut, the tables have only evolved, and running it again from there is
as good as having run it from `s`. -/
def Resumable (wanted : List SensorPath) (p : Program storeInterface α) (s : Store) : Prop :=
  Stops (fun t => Evolves wanted s t ∧ run p t = run p s) p s

variable {wanted : List SensorPath}

theorem resumable_findOrCreate {what : String} {c i : StoreCall} {read : c.Reply → Option α}
    {made : i.Reply → Option α} {find insert : Program storeInterface (Option α)}
    (hfind : Asks read find) (hinsert : Asks made insert) (hkeep : (answer c s).2 = s)
    (habsent : read c.absent = none) :
    Resumable wanted (findOrCreate what find (created insert)) s := by
  refine (stops_findOrCreate hfind hinsert hkeep habsent).mono ?_
  rintro t rfl
  exact ⟨.refl t, rfl⟩

theorem run_bind_congr {p : Program storeInterface α} (h : run p t = run p s)
    (k : α → Program storeInterface β) : run (p >>= k) t = run (p >>= k) s := by
  rcases hrun : run p s with ⟨f | a, u⟩
  · rw [run_bind_of_error hrun, run_bind_of_error (h.trans hrun)]
  · rw [run_bind_of_ok hrun, run_bind_of_ok (h.trans hrun)]

/-- One program after another, if over tables that have evolved the first one comes to its result
again without a change. -/
theorem Resumable.bind {p : Program storeInterface α} {k : α → Program storeInterface β}
    (hp : Resumable wanted p s)
    (hk : ∀ a t, run p s = (.ok a, t) → Evolves wanted s t ∧
      (∀ u, Evolves wanted t u → run p u = (.ok a, u)) ∧ Resumable wanted (k a) t) :
    Resumable wanted (p >>= k) s := by
  refine Stops.bind (hp.mono fun t ht => ⟨ht.1, run_bind_congr ht.2 k⟩) fun a t ha => ?_
  obtain ⟨hst, hagain, hrest⟩ := hk a t ha
  refine hrest.mono fun u hu => ⟨.trans s t u hst hu.1, ?_⟩
  rw [run_bind_of_ok (hagain u hu.1), run_bind_of_ok ha, hu.2]

/-- A program that settles evolves the tables and has its result as promised. -/
theorem SettlesAmong.of_run {full : Prop} {post : α → Store → Prop} {n : Nat}
    {p : Program storeInterface α} {a : α} (h : SettlesAmong wanted full post n p s)
    (hrun : run p s = (.ok a, t)) : Evolves wanted s t ∧ post a t := by
  obtain ⟨t', ht, ⟨a', hrun', hpost⟩ | ⟨f, hrun', -⟩⟩ := h.run .refl .trans
  · obtain ⟨ha, rfl⟩ := Prod.mk.inj (hrun.symm.trans hrun')
    exact ⟨ht, Except.ok.inj ha ▸ hpost⟩
  · cases (Prod.mk.inj (hrun.symm.trans hrun')).1

/-- The resolution of a wanted path can be resumed. -/
theorem resumable_resolvePath (hs : s.Integrity) {p : SensorPath} (hp : p ∈ wanted) :
    Resumable wanted (resolvePath p) s := by
  have hsteady := hs.steady wanted
  have htop : Resumable wanted (resolveSection p.sectionName) s :=
    resumable_findOrCreate (asks_ask (.sectionByName _)) (asks_ask (.insertSection _)) rfl rfl
  refine htop.bind fun r t hr => ?_
  obtain ⟨hst, hrmem, hrname⟩ := (settles_resolveSection hsteady hp).of_run hr
  have ht := hst.integrity hs
  refine ⟨hst, fun u hu => ?_, ?_⟩
  · exact run_resolveSection_of_mem (hu.integrity ht) (hu.mem_sections hrmem) hrname
  have hparent : Resumable wanted (resolveModule r p.moduleName) t :=
    resumable_findOrCreate (asks_ask (.moduleByName _ _)) (asks_ask (.insertModule _ _)) rfl rfl
  refine hparent.bind fun m u hm => ?_
  obtain ⟨htu, hmmem, hmpath⟩ :=
    (settles_resolveModule (hsteady.evolves hst) hp hrmem hrname).of_run hm
  refine ⟨htu, fun v hv => ?_, ?_⟩
  · refine run_resolveModule_of_mem (hv.integrity (htu.integrity ht)) (hv.mem_modules hmmem) ?_
    rw [hrname]
    exact hv.grows.modulePath? hmpath
  · exact resumable_findOrCreate (asks_ask (.sensorByPath _)) (asks_ask (.insertSensor _ _ _))
      rfl rfl

theorem resumable_reconcileFrom (hs : s.Integrity) (ds : List Descriptor)
    (hds : ∀ d ∈ ds, d.path ∈ wanted) (r : Resolution) :
    Resumable wanted (reconcileFrom r ds) s := by
  induction ds generalizing r s with
  | nil => trivial
  | cons d ds ih =>
    have hp := hds d List.mem_cons_self
    refine (resumable_resolvePath hs hp).bind fun x t hx => ?_
    obtain ⟨hst, hmem, hpath⟩ := (settles_resolvePath (hs.steady wanted) hp).of_run hx
    have ht := hst.integrity hs
    refine ⟨hst, fun u hu => ?_, ih ht (fun d' hd' => hds d' (List.mem_cons_of_mem d hd')) _⟩
    exact run_resolvePath_of_mem (hu.integrity ht) (hu.mem_sensors hmem)
      (hu.grows.sensorPath? hpath)

/-! ## Failed attempts -/

/-- A reconciliation with a failure in place of the request after the first `n`. Should it go on
after the failure, it meets the faults of `later`. -/
def cutReconcile (ds : List Descriptor) (n : Nat) (f : Failure) (later : FaultPlan) (s : Store) :
    Except Failure Resolution × Store :=
  let (r, _, t) := runUnder (reconcile ds) (List.replicate n none ++ some (.failure f) :: later) s
  (r, t)

/-- The number of requests of a reconciliation that is not disturbed. -/
def reconcileRequests (ds : List Descriptor) (s : Store) : Nat :=
  (reconcile ds).requests (fun c t => answer c t) s

/-- The tables that failed attempts at a list make of `s`, each cut at one of its requests. -/
inductive AfterCuts (ds : List Descriptor) (s : Store) : Store → Prop
  | start : AfterCuts ds s s
  | cut {t : Store} (n : Nat) (f : Failure) (later : FaultPlan) (h : AfterCuts ds s t)
      (hn : n < reconcileRequests ds t) : AfterCuts ds s (cutReconcile ds n f later t).2

variable {ds : List Descriptor}

/-- A cut attempt fails and leaves tables from which the list is reconciled as if it had not
been. -/
theorem cutReconcile_spec (hs : s.Integrity) {n : Nat} (hn : n < reconcileRequests ds s)
    (f : Failure) (later : FaultPlan) : ∃ g t, cutReconcile ds n f later s = (.error g, t) ∧
      Evolves (ds.map Descriptor.path) s t ∧ run (reconcile ds) t = run (reconcile ds) s := by
  have hresumable : Resumable (ds.map Descriptor.path) (reconcile ds) s :=
    resumable_reconcileFrom hs ds (fun d hd => List.mem_map_of_mem hd) .empty
  obtain ⟨g, plan, t, ht, hrun⟩ := hresumable.cut hn f later
  refine ⟨g, t, ?_, ht⟩
  rw [cutReconcile, hrun]

theorem AfterCuts.spec (hs : s.Integrity) (h : AfterCuts ds s t) :
    Evolves (ds.map Descriptor.path) s t ∧ run (reconcile ds) t = run (reconcile ds) s := by
  induction h with
  | start => exact ⟨.refl s, rfl⟩
  | cut n f later _ hn ih =>
    obtain ⟨hst, hsame⟩ := ih
    obtain ⟨g, u, hcut, htu, hsame'⟩ := cutReconcile_spec (hst.integrity hs) hn f later
    rw [hcut]
    exact ⟨.trans _ _ _ hst htu, hsame'.trans hsame⟩

/-- What is true of a list and of the tables `t` that failed attempts at it have made of `s`. -/
structure Converges (ds : List Descriptor) (s t : Store) : Prop where
  /-- A further attempt that is cut has no result. -/
  fails : ∀ n < reconcileRequests ds t, ∀ f later,
    ∃ g, (cutReconcile ds n f later t).1 = .error g
  /-- Old rows are as they were. -/
  keeps : Grows (ds.map Descriptor.path) s t
  /-- All rows are rows of the tables that the list makes of `s` when nothing disturbs it. -/
  within : Grows (ds.map Descriptor.path) t (run (reconcile ds) s).2
  /-- To reconcile the list now comes to the same tables and to the same result as from `s`. -/
  retry : run (reconcile ds) t = run (reconcile ds) s

/-- Failed attempts at a list do not show in what the first undisturbed one comes to, which is a
resolution unless there is no room for so many rows. -/
theorem converges_afterCuts (hs : s.Reachable) (ds : List Descriptor) {t : Store}
    (h : AfterCuts ds s t) : Converges ds s t ∧
      ((∃ r u, run (reconcile ds) t = (.ok r, u)) ∨ ¬s.HasRoomFor ds.length) := by
  obtain ⟨hst, hsame⟩ := h.spec hs.integrity
  have ht := hst.integrity hs.integrity
  obtain ⟨u, htu, hrun⟩ := (settles_reconcile (ht.steady _) ds fun d hd =>
    List.mem_map_of_mem hd).run .refl .trans
  have hu : (run (reconcile ds) s).2 = u := by
    rw [← hsame]
    rcases hrun with ⟨r, hrun, -⟩ | ⟨f, hrun, -⟩ <;> exact congrArg Prod.snd hrun
  refine ⟨⟨fun n hn f later => ?_, hst.grows, hu ▸ htu.grows, hsame⟩, ?_⟩
  · obtain ⟨g, u, hcut, -⟩ := cutReconcile_spec ht hn f later
    exact ⟨g, congrArg Prod.fst hcut⟩
  · rw [hsame]
    exact (run_reconcile hs.integrity ds).imp (fun ⟨r, u, hrun, _⟩ => ⟨r, u, hrun⟩) And.left

/-- The first attempt is told that the module is there already, which it is not, and the second
one breaks off when it looks for the sensor. -/
theorem converges_refused_then_unreachable :
    let s := (answer (.insertSection (some "hall")) empty).2
    let ds : List Descriptor :=
      [⟨"pump", none, "hall", "east", 0⟩, ⟨"fan", none, "yard", "east", 1⟩]
    let t := (cutReconcile ds 2 (.duplicateKey "modules.name") [] s).2
    let u := (cutReconcile ds 9 .databaseUnreachable [] t).2
    t = s ∧ u.sensors = [⟨1, "pump", 1, "hall/east/pump"⟩] ∧ Converges ds s u ∧
      ((∃ r v, run (reconcile ds) u = (.ok r, v)) ∨ ¬s.HasRoomFor ds.length) := by
  intro s ds t u
  have hs : s.Reachable := .request _ .empty
  have ht : AfterCuts ds s t := .cut 2 _ [] .start (by decide +kernel)
  have hu : AfterCuts ds s u := .cut 9 _ [] ht (by decide +kernel)
  exact ⟨by decide +kernel, by decide +kernel, converges_afterCuts hs ds hu⟩

end SensorRelay.Store
