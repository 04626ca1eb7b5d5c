import SensorRelay.Command.Run
import SensorRelay.Proofs.Program.Run
import SensorRelay.Proofs.Store.Integrity

/-!
# Processes step by step

A step of a process that fails is its last (`Act.bind_of_error`). A process can start
(`Session.Starts`) if its settings can be read, its log can be set up and the database that they
name can be opened, and for that it is enough to be told which database to use
(`Session.starts_usual`). One that does not come to its work leaves everything as it was
(`Session.main_idle_or_ran`). Without faults the environment then replies as the tables do
(`Environment.runStore_of_faultless`), so what a process makes of its inventory is what the
reconciliation makes of the tables (`Act.reconcileInventory_of_run`).
-/

namespace SensorRelay

/-! ## Steps -/

namespace Act

variable {α β : Type} {x : Act α} {s t : Session}

theorem bind_of_ok {a : α} (h : x s = (.ok a, t)) (k : α → Act β) : (x >>= k) s = k a t := by
  have hbind : (x >>= k) s = ExceptT.bindCont k (x s).1 (x s).2 := rfl
  rw [hbind, h]
  rfl

theorem bind_of_error {f : Failure} (h : x s = (.error f, t)) (k : α → Act β) :
    (x >>= k) s = (.error f, t) := by
  have hbind : (x >>= k) s = ExceptT.bindCont k (x s).1 (x s).2 := rfl
  rw [hbind, h]
  rfl

end Act

/-! ## The environment -/

namespace Environment

variable {e : Environment}

/-- A fault that is laid on an operation comes in place of an earlier one, and leaves the others. -/
theorem dueFault?_layFault (e : Environment) (f : StoreFault) (m : StoreMethod) :
    (e.layFault f).dueFault? m =
      if f.method = m then (if f.times = 0 then none else some f) else e.dueFault? m := by
  simp only [dueFault?, layFault, List.find?_cons, List.find?_filter]
  cases hdue : f.method == m && f.times != 0 with
  | true =>
    obtain ⟨hmethod, htimes⟩ : f.method = m ∧ f.times ≠ 0 := by simpa using hdue
    rw [if_pos hmethod, if_neg htimes]
  | false =>
    by_cases hmethod : f.method = m
    · have htimes : f.times = 0 := by simpa [hmethod] using hdue
      rw [if_pos hmethod, if_pos htimes, List.find?_eq_none]
      intro g _
      simp +contextual [hmethod]
    · rw [if_neg hmethod]
      refine congrArg (fun p => e.faults.find? p) (funext fun g => ?_)
      rw [Bool.eq_iff_iff]
      by_cases hg : g.method = m
      · simp [hg, Ne.symm hmethod]
      · simp [hg]

theorem answerStore_of_faultless (he : e.faults = []) (c : StoreCall) (tables : Store) :
    ({ e with database := some tables } : Environment).answerStore c =
      ((Store.answer c tables).1, { e with database := some (Store.answer c tables).2 }) := by
  simp only [answerStore, dueFault?, he]
  rfl

theorem runStore_ask {α : Type} {c : StoreCall} {r : Except Failure c.Reply} {e' : Environment}
    (h : e.answerStore c = (r, e')) (next : Except Failure c.Reply → Program storeInterface α) :
    e.runStore (.ask c next) = e'.runStore (next r) := by
  have hstep : e.runStore (.ask c next) =
      (e.answerStore c).2.runStore (next (e.answerStore c).1) := rfl
  rw [hstep, h]

/-- Without faults a program has the replies of the tables. -/
theorem runStore_of_faultless {α : Type} (he : e.faults = []) (p : Program storeInterface α)
    (tables : Store) :
    ({ e with database := some tables } : Environment).runStore p =
      ((Store.run p tables).1, { e with database := some (Store.run p tables).2 }) := by
  induction p generalizing tables with
  | done a => rfl
  | raise f => rfl
  | ask c next ih =>
    exact (runStore_ask (answerStore_of_faultless he c tables) next).trans (ih _ _)

end Environment

/-! ## Starting -/

deriving instance DecidableEq for SinkSettings, Settings

/-- The settings of a process that is told only which database to use. -/
def Settings.usual (databaseUrl : String) : Settings where
  databaseUrl
  brokerHost := "localhost"
  brokerPort := 1883
  brokerUsername := none
  brokerPassword := none
  clientId := "telemetry-ingest"
  keepalive := 20
  processedStage := .processed
  deadline := Binary64.ofInt 10
  rawUnit := .milliseconds
  lookup := .topic
  acceptsBareTopics := false
  inventoryPath := "configuration.json"
  queueSize := 1000
  workerCount := 4
  apiHost := "0.0.0.0"
  apiPort := 8080
  sink := ⟨false, "redis://localhost:6379/0", DeadLetterQueue.defaultStream, 10000⟩
  logLevel := "INFO"
  simulatorInterval := 1000

theorem Settings.load_usual {folder : Folder} {fault : FileFault}
    (hfile : folder.read ".env" = .error fault) :
    load [("DATABASE_URL", "sqlite:///t.db")] folder = .ok (usual "sqlite:///t.db") := by
  have hname : Config.Variables.file? [("DATABASE_URL", "sqlite:///t.db")] = some ".env" := by
    decide
  have hvariables : Config.Variables.load [("DATABASE_URL", "sqlite:///t.db")] folder =
      .ok [("DATABASE_URL", "sqlite:///t.db")] := by
    simp only [Config.Variables.load, hname, hfile]
  have hsettings : ofVariables [("DATABASE_URL", "sqlite:///t.db")] =
      .ok (usual "sqlite:///t.db") := by
    decide +kernel
  rw [load, hvariables, ok_bind, hsettings]

/-- A log can be set up with every name but those of constants that are no levels. -/
theorem checkLogLevel_iff {name : String} :
    checkLogLevel name = .ok () ↔ name ∉ notLevels.map Prod.fst := by
  have hlookup : checkLogLevel name = .ok () ↔ notLevels.lookup name = none := by
    rw [checkLogLevel]
    cases notLevels.lookup name <;> simp
  rw [hlookup, List.lookup_eq_none_iff, List.mem_map]
  simp only [bne_iff_ne]
  exact ⟨fun h ⟨n, hn, hname⟩ => h n hn hname.symm, fun h n hn hname => h ⟨n, hn, hname.symm⟩⟩

/-- A sink is opened unless its URL has an unknown scheme, and without a sink there is no queue. -/
theorem SinkSettings.openQueue_eq_ok_iff {s : SinkSettings} {answers : Bool}
    {queue : Option DeadLetterQueue} : s.openQueue answers = .ok queue ↔
      (s.opened = none ∨ s.checkScheme = .ok ()) ∧ queue = s.queue? answers := by
  rw [openQueue, opened]
  cases s.enabled with
  | false => exact ⟨fun h => ⟨Or.inl rfl, (Except.ok.inj h).symm⟩, fun h => h.2 ▸ rfl⟩
  | true =>
    cases s.checkScheme with
    | error f => exact ⟨nofun, fun h => by simp at h⟩
    | ok _ => exact ⟨fun h => ⟨Or.inr rfl, (Except.ok.inj h).symm⟩, fun h => h.2 ▸ rfl⟩

/-- A process without faults has its settings and its log, and its database opens with the tables;
they are in a file if `file` names one. -/
structure Session.Starts (s : Session) (process : Config.Variables) (settings : Settings)
    (file : Option String) (tables : Store) : Prop where
  loads : Settings.load process s.folder = .ok settings
  logs : checkLogLevel settings.logLevel = .ok ()
  opens : Act.openStore settings s = (.ok (), s.useStore file tables)
  faultless : s.station.env.faults = []

/-- A process that finds its database in the current directory can start. -/
theorem Session.starts_usual (around : Surroundings) {folder : Folder} {fault : FileFault}
    (hfile : folder.read ".env" = .error fault) (tables : Store) :
    (new around folder [("t.db", tables)]).Starts [("DATABASE_URL", "sqlite:///t.db")]
      (.usual "sqlite:///t.db") (some "t.db") tables :=
  ⟨Settings.load_usual hfile, checkLogLevel_iff.2 (by decide), rfl, rfl⟩

/-- A process comes to its work only with arguments, settings and a log. Otherwise it leaves
everything as it was. -/
theorem Session.main_idle_or_ran (s : Session) (process : Config.Variables) (args : List String) :
    (s.main process args).2 = s ∨ ∃ c settings, Command.parse args = .ok c ∧
      Settings.load process s.folder = .ok settings ∧
      checkLogLevel settings.logLevel = .ok () ∧
      (s.main process args).2 = (Act.run settings c s).2 := by
  rw [main]
  cases Command.parse args with
  | error r => exact Or.inl rfl
  | ok c =>
    dsimp only
    rw [carryOut]
    cases Settings.load process s.folder with
    | error f => exact Or.inl rfl
    | ok settings =>
      dsimp only
      cases hlog : checkLogLevel settings.logLevel with
      | error f => exact Or.inl rfl
      | ok _ =>
        refine Or.inr ⟨c, settings, rfl, rfl, hlog, ?_⟩
        rcases Act.run settings c s with ⟨_ | _, t⟩ <;> rfl

/-! ## The inventory -/

namespace Act

variable {settings : Settings} {s : Session}

/-- An inventory that cannot be loaded ends the reconciliation before it begins. -/
theorem reconcileInventory_of_refused {e : InventoryError} (writeBack : Bool)
    (h : Inventory.load settings.inventoryPath (s.folder.read settings.inventoryPath) = .error e) :
    reconcileInventory settings writeBack s = (.error (.inventory e), s) := by
  have hreconcile : reconcileFile settings.inventoryPath s.folder s.station.env =
      (.error (.inventory e), s.station.env) := by
    rw [reconcileFile, h]
  have hstep : inEnvironment (reconcileFile settings.inventoryPath s.folder) s =
      (.error (.inventory e), s) := by
    rw [inEnvironment, hreconcile]
  exact bind_of_error hstep _

/-- The ids are written back only after the tables have been completed. -/
theorem reconcileInventory_of_run {c : Inventory} {r : Resolution} {file : Option String}
    {before after : Store} (hs : s.station.env.faults = [])
    (hload : Inventory.load settings.inventoryPath (s.folder.read settings.inventoryPath) = .ok c)
    (hrun : Store.run (reconcile c.sensors) before = (.ok r, after)) :
    reconcileInventory settings true (s.useStore file before) =
      match Reconciled.writeBack ⟨c, r⟩ settings.inventoryPath s.folder with
      | .ok folder => (.ok r, { s.useStore file after with folder })
      | .error f => (.error f, s.useStore file after) := by
  have hreconcile : reconcileFile settings.inventoryPath s.folder
      { s.station.env with database := some before } =
      (.ok ⟨c, r⟩, { s.station.env with database := some after }) := by
    rw [reconcileFile, hload]
    simp only [Environment.runStore_of_faultless hs, hrun]
  have hstep : inEnvironment (reconcileFile settings.inventoryPath s.folder)
      (s.useStore file before) = (.ok ⟨c, r⟩, s.useStore file after) := by
    simp only [inEnvironment, Session.useStore, hreconcile]
  refine (bind_of_ok hstep _).trans ?_
  cases hwritten : Reconciled.writeBack ⟨c, r⟩ settings.inventoryPath s.folder with
  | ok folder => exact bind_of_ok (congrArg (·, _) hwritten) _
  | error f => exact bind_of_error (congrArg (·, _) hwritten) _

end Act

end SensorRelay
