import SensorRelay.Proofs.Command.WriteBack

/-!
# Writing ids back again

A process that has carried out `reconcile --write-back` leaves a document that its command has
nothing to add to, whatever the file held before. The descriptors already have the ids that they
resolve to (`Resolution.apply_apply`), in tables that have all their sensors as in tables that are
made anew, and a document that is read is written as the same bytes (`Reconciled.settles`). So the
same command, given again with the same settings any number of times (`Session.Repeats`), exits
with 0 and leaves all files and databases as they are (`Session.unchanged_of_repeats`).
-/

namespace SensorRelay

/-! ## Resolving again -/

namespace Resolution

variable {r r' : Resolution}

theorem applyTo_applyTo {d : Descriptor} (h : r'.idFor? d.path = r.idFor? d.path) :
    r'.applyTo (r.applyTo d) = r.applyTo d := by
  rw [applyTo, path_applyTo, h, applyTo]
  cases r.idFor? d.path <;> rfl

/-- Where the ids are the same, writing them once more changes nothing. -/
theorem apply_apply (h : ∀ p, r'.idFor? p = r.idFor? p) (ds : List Descriptor) :
    r'.apply (r.apply ds) = r.apply ds := by
  rw [apply, apply, List.map_map]
  exact List.map_congr_left fun d _ => applyTo_applyTo (h d.path)

end Resolution

/-- Only the paths of descriptors are resolved. -/
theorem reconcileFrom_congr {ds ds' : List Descriptor}
    (h : ds.map Descriptor.path = ds'.map Descriptor.path) (r : Resolution) :
    reconcileFrom r ds = reconcileFrom r ds' := by
  induction ds generalizing ds' r with
  | nil =>
    obtain rfl := List.map_eq_nil_iff.1 h.symm
    rfl
  | cons d ds ih =>
    obtain ⟨d', ds', rfl, hd, hds⟩ := List.map_eq_cons_iff.1 h.symm
    rw [reconcileFrom, reconcileFrom, hd]
    exact congrArg _ (funext fun x => ih hds.symm _)

/-! ## Writing again -/

theorem Folder.write_write (folder : Folder) (name : String) (contents : Bytes) :
    (folder.write name contents).write name contents = folder.write name contents := by
  simp [write]

theorem Folder.find?_write_of_ne {name other : String} (h : name ≠ other) (folder : Folder)
    (contents : Bytes) : (folder.write name contents).find? other = folder.find? other := by
  rw [find?, find?, write, List.find?_cons_of_neg (by simpa using h), List.find?_filter]
  congr 2
  funext f
  by_cases hf : f.1 = other <;> simp [hf, h.symm]

/-- A path that does not start with the name of a file is read as before the file was written. -/
theorem Folder.read_write_of_ne {path name : String}
    (h : (pathSegments path.toList).head? ≠ some name.toList) (folder : Folder)
    (contents : Bytes) : (folder.write name contents).read path = folder.read path := by
  unfold read
  dsimp only
  generalize pathSegments path.toList = segments at h ⊢
  split
  · rfl
  · unfold readFrom
    split
    · rfl
    · rfl
    · rename_i segment rest _ _
      have hne : name ≠ String.ofList segment := by
        rintro rfl
        exact h (by simp)
      rw [find?_write_of_ne hne]
  · rfl
  · rfl

/-- Settings do not depend on a file that no variables are read from. -/
theorem Settings.load_write {process : Config.Variables} {name : String}
    (h : ∀ path, process.file? = some path →
      (pathSegments path.toList).head? ≠ some name.toList) (folder : Folder) (contents : Bytes) :
    load process (folder.write name contents) = load process folder := by
  have hvariables : process.load (folder.write name contents) = process.load folder := by
    unfold Config.Variables.load
    cases hfile : process.file? with
    | none => rfl
    | some path => simp only [Folder.read_write_of_ne (h path hfile)]
  rw [load, load, hvariables]

namespace Inventory

variable {c : Inventory} {path : String} {folder folder' : Folder}

theorem exists_of_dump (h : c.dump path folder = .ok folder') : ∃ text,
    c.write = .ok text ∧ folder' = folder.write (plainPath path) (Text.utf8 text) := by
  rw [dump] at h
  cases hwrite : c.write with
  | error f =>
    rw [hwrite] at h
    cases h
  | ok text =>
    rw [hwrite] at h
    exact ⟨text, rfl, (Except.ok.inj h).symm⟩

theorem dump_dump (h : c.dump path folder = .ok folder') : c.dump path folder' = .ok folder' := by
  obtain ⟨text, hwrite, rfl⟩ := exists_of_dump h
  rw [dump, hwrite]
  exact congrArg Except.ok (folder.write_write _ _)

/-- What has been dumped is loaded. -/
theorem load_of_dump (hvalid : ∀ d ∈ c.sensors, d.isValid = true) (hpath : NamesFile path)
    (h : c.dump path folder = .ok folder') : load path (folder'.read path) = .ok c := by
  have hwritable : ∀ d ∈ c.sensors, d.isWritable = true := by
    by_contra hnot
    cases ((unwritable hnot).file path folder).symm.trans h
  obtain ⟨written, hwritten, hread⟩ := (readsBack hvalid hwritable).file path folder hpath
  obtain rfl := Except.ok.inj (hwritten.symm.trans h)
  exact hread

end Inventory

/-! ## Files with nothing to add -/

namespace Reconciled

/-- Over the tables `before` the inventory in the folder is reconciled to the tables `after`, and to
write its ids back changes nothing. -/
def Settled (path : String) (folder : Folder) (before after : Store) : Prop :=
  ∃ c r, Inventory.load path (folder.read path) = .ok c ∧
    Store.run (reconcile c.sensors) before = (.ok r, after) ∧
    writeBack ⟨c, r⟩ path folder = .ok folder

variable {c : Inventory} {r : Resolution} {path : String} {folder folder' : Folder}
  {before after : Store}

/-- Once the ids are written back there is nothing to add : neither over the tables as they are now
nor over those from which they came. -/
theorem settles (hbefore : before.Integrity)
    (hload : Inventory.load path (folder.read path) = .ok c)
    (hrun : Store.run (reconcile c.sensors) before = (.ok r, after))
    (hwritten : writeBack ⟨c, r⟩ path folder = .ok folder') :
    Settled path folder' before after ∧ Settled path folder' after after := by
  have hr := Store.RunsThrough.of_run hbefore hrun
  obtain ⟨hpath, hvalid⟩ := Inventory.valid_of_load hload
  have hread : Inventory.load path (folder'.read path) = .ok ⟨r.apply c.sensors⟩ := by
    refine Inventory.load_of_dump (List.forall_mem_map.2 fun d hd => ?_) hpath hwritten
    rw [Resolution.isValid_applyTo, hvalid d hd]
  have hpaths := Resolution.map_path_apply r c.sensors
  have hdump : ∀ r' : Resolution, (∀ p, r'.idFor? p = r.idFor? p) →
      writeBack ⟨⟨r.apply c.sensors⟩, r'⟩ path folder' = .ok folder' := by
    intro r' hids
    have hsame := Resolution.apply_apply hids c.sensors
    exact (congrArg (fun ds => Inventory.dump ⟨ds⟩ path folder') hsame).trans
      (Inventory.dump_dump hwritten)
  obtain ⟨r', hagain, hids, -⟩ := hr.again fun p => by rw [hpaths]
  refine ⟨⟨_, r, hread, ?_, hdump r fun _ => rfl⟩, ⟨_, r', hread, hagain, hdump r' hids⟩⟩
  rw [reconcile, reconcileFrom_congr hpaths]
  exact hrun

end Reconciled

/-! ## The process -/

/-- What a process finds where its database should be. -/
def Session.tablesAt (s : Session) : Option String → Store
  | none => .empty
  | some file => (s.databaseAt file).getD .empty

namespace Act

variable {settings : Settings} {s t : Session}

theorem ofExcept_bind {α β : Type} (r : Except Failure α) (k : α → Act β) (s : Session) :
    (ofExcept r >>= k) s =
      match r with
      | .ok a => k a s
      | .error f => (.error f, s) := by
  cases r <;> rfl

/-- Whether a database can be opened, and where it is, depends on the settings only. -/
theorem exists_openStore (h : openStore settings s = (.ok (), t)) :
    ∃ file, ∀ s', openStore settings s' = (.ok (), s'.useStore file (s'.tablesAt file)) := by
  simp only [openStore, ofExcept_bind] at h ⊢
  cases hengine : Engine.ofUrl settings.databaseUrl settings.deadline with
  | error f =>
    rw [hengine] at h
    cases congrArg Prod.fst h
  | ok engine =>
    cases hplace : engine.place with
    | error f =>
      simp only [hengine, hplace] at h
      cases congrArg Prod.fst h
    | ok place =>
      cases hreachable : place.isReachable with
      | false =>
        simp only [hengine, hplace, hreachable] at h
        cases congrArg Prod.fst h
      | true =>
        refine ⟨place.localFile?, fun s' => ?_⟩
        cases hfile : place.localFile? with
        | none => simp [hplace, hreachable, hfile]; rfl
        | some file => simp [hplace, hreachable, hfile]; rfl

/-- Whatever refuses the descriptors, nothing is written back. -/
theorem reconcileInventory_of_failed {c : Inventory} {f : Failure} {file : Option String}
    {before after : Store} (writeBack : Bool) (hs : s.station.env.faults = [])
    (hload : Inventory.load settings.inventoryPath (s.folder.read settings.inventoryPath) = .ok c)
    (hrun : Store.run (reconcile c.sensors) before = (.error f, after)) :
    reconcileInventory settings writeBack (s.useStore file before) =
      (.error f, s.useStore file after) := by
  have hreconcile : reconcileFile settings.inventoryPath s.folder
      { s.station.env with database := some before } =
      (.error f, { s.station.env with database := some after }) := by
    rw [reconcileFile, hload]
    simp only [Environment.runStore_of_faultless hs, hrun]
  have hstep : inEnvironment (reconcileFile settings.inventoryPath s.folder)
      (s.useStore file before) = (.error f, s.useStore file after) := by
    simp only [inEnvironment, Session.useStore, hreconcile]
  exact bind_of_error hstep _

end Act

theorem Ending.ofFailure_ne_exit_zero (f : Failure) : ofFailure f ≠ .exit 0 := by
  unfold ofFailure
  split <;> simp

namespace Session

variable {s : Session} {process : Config.Variables} {settings : Settings} {file : Option String}
  {before after : Store}

namespace Starts

/-- A process with the same settings starts as well, over what it finds in the same place. -/
theorem new (h : s.Starts process settings file before) (around : Surroundings) {folder : Folder}
    (databases : List (String × Store)) {process' : Config.Variables}
    (loads : Settings.load process' folder = .ok settings) :
    (Session.new around folder databases).Starts process' settings file
      ((Session.new around folder databases).tablesAt file) := by
  obtain ⟨place, hopen⟩ := Act.exists_openStore h.opens
  have hplace : file = place :=
    congrArg (fun x => x.2.databaseFile) (h.opens.symm.trans (hopen s))
  exact ⟨loads, h.logs, hplace ▸ hopen _, rfl⟩

theorem eq_tablesAt (h : s.Starts process settings file before) : before = s.tablesAt file := by
  obtain ⟨place, hopen⟩ := Act.exists_openStore h.opens
  have heq := h.opens.symm.trans (hopen s)
  have hplace : file = place := congrArg (fun x => x.2.databaseFile) heq
  have htables := congrArg (fun x => x.2.station.env.database) heq
  exact hplace ▸ Option.some.inj htables

end Starts

/-- To exit with 0 the process has to load its inventory, reconcile it and write its ids back. -/
theorem exists_of_main_exit_zero (h : s.Starts process settings file before)
    (hexit : (s.main process ["reconcile", "--write-back"]).1 = .exit 0) :
    ∃ c r after folder,
      Inventory.load settings.inventoryPath (s.folder.read settings.inventoryPath) = .ok c ∧
      Store.run (reconcile c.sensors) before = (.ok r, after) ∧
      Reconciled.writeBack ⟨c, r⟩ settings.inventoryPath s.folder = .ok folder ∧
      s.main process ["reconcile", "--write-back"] =
        (.exit 0, { s.useStore file after with folder }) := by
  have hnofail : ∀ f t, Act.reconcileInventory settings true (s.useStore file before) ≠
      (.error f, t) := by
    intro f t hact
    rw [main_reconcile h, hact] at hexit
    exact Ending.ofFailure_ne_exit_zero f hexit
  cases hload : Inventory.load settings.inventoryPath (s.folder.read settings.inventoryPath) with
  | error e =>
    exact (hnofail _ _ (Act.reconcileInventory_of_refused (s := s.useStore file before) true
      hload)).elim
  | ok c =>
    rcases hrun : Store.run (reconcile c.sensors) before with ⟨f | r, after⟩
    · exact (hnofail _ _ (Act.reconcileInventory_of_failed true h.faultless hload hrun)).elim
    · have hact : Act.reconcileInventory settings true (s.useStore file before) = _ :=
        Act.reconcileInventory_of_run h.faultless hload hrun
      cases hwritten : Reconciled.writeBack ⟨c, r⟩ settings.inventoryPath s.folder with
      | error f =>
        rw [hwritten] at hact
        exact (hnofail _ _ hact).elim
      | ok folder =>
        rw [hwritten] at hact
        exact ⟨c, r, after, folder, rfl, hrun, hwritten, by rw [main_reconcile h, hact]⟩

/-- With nothing to add the process exits with 0 and leaves the files as they were. -/
theorem main_of_settled (h : s.Starts process settings file before)
    (hsettled : Reconciled.Settled settings.inventoryPath s.folder before after) :
    s.main process ["reconcile", "--write-back"] = (.exit 0, s.useStore file after) := by
  obtain ⟨c, r, hload, hrun, hwritten⟩ := hsettled
  rw [main_reconcile h, Act.reconcileInventory_of_run h.faultless hload hrun, hwritten]
  rfl

/-- Unless the inventory is the file that variables are read from, a process with the same variables
has the same settings afterwards. -/
theorem load_after_main (h : s.Starts process settings file before)
    (hexit : (s.main process ["reconcile", "--write-back"]).1 = .exit 0)
    (hfile : ∀ path, process.file? = some path →
      (pathSegments path.toList).head? ≠ some (plainPath settings.inventoryPath).toList) :
    Settings.load process (s.main process ["reconcile", "--write-back"]).2.folder =
      .ok settings := by
  obtain ⟨c, r, after, folder, -, -, hwritten, hmain⟩ := exists_of_main_exit_zero h hexit
  obtain ⟨text, -, rfl⟩ := Inventory.exists_of_dump hwritten
  rw [hmain]
  exact (Settings.load_write hfile s.folder _).trans h.loads

/-! ## Further processes -/

/-- One process after the other gets the same arguments. Each has the same settings and finds the
files and the databases that the one before has left, the first one those of `x`. -/
inductive Repeats (settings : Settings) (args : List String) (x : Ending × Session) :
    Ending × Session → Prop
  | none : Repeats settings args x x
  | again {y : Ending × Session} {process : Config.Variables} (earlier : Repeats settings args x y)
      (around : Surroundings) (loads : Settings.load process y.2.folder = .ok settings) :
    Repeats settings args x ((new around y.2.folder y.2.finalDatabases).main process args)

/-- A process has exited with 0 and left everything as `t` did. -/
structure Unchanged (t : Session) (x : Ending × Session) : Prop where
  exits : x.1 = .exit 0
  folder : x.2.folder = t.folder
  databases : x.2.finalDatabases = t.finalDatabases
  database : x.2.station.env.database = t.station.env.database

/-- The databases after a process that has left the tables `after` where its database is. -/
def databasesWith (s : Session) (after : Store) : Option String → List (String × Store)
  | none => s.databases
  | some file => (file, after) :: s.databases.filter fun d => d.1 != file

theorem finalDatabases_useStore (s : Session) (file : Option String) (after : Store) :
    (s.useStore file after).finalDatabases = s.databasesWith after file := by
  cases file <;> rfl

theorem databasesWith_databasesWith {s t : Session} (h : t.databases = s.databasesWith after file) :
    t.databasesWith after file = s.databasesWith after file := by
  cases file with
  | none => exact h
  | some file =>
    rw [databasesWith, h]
    simp [databasesWith]

/-- In place of a database that no file keeps there is an empty one. -/
theorem tablesAt_of_databasesWith {s t : Session} (h : t.databases = s.databasesWith after file) :
    t.tablesAt file = after ∨ t.tablesAt file = s.tablesAt file := by
  cases file with
  | none => exact Or.inr rfl
  | some file =>
    refine Or.inl ?_
    rw [tablesAt, databaseAt, h]
    simp [databasesWith]

/-- A process over what another has left has nothing to do where nothing is to add. -/
theorem main_of_left {u : Session} {process' : Config.Variables}
    (h : s.Starts process settings file before)
    (hu : u.Starts process' settings file (u.tablesAt file))
    (hleft : u.databases = s.databasesWith after file)
    (hsettled : Reconciled.Settled settings.inventoryPath u.folder before after ∧
      Reconciled.Settled settings.inventoryPath u.folder after after) :
    u.main process' ["reconcile", "--write-back"] = (.exit 0, u.useStore file after) := by
  rcases tablesAt_of_databasesWith hleft with htables | htables
  · rw [htables] at hu
    exact main_of_settled hu hsettled.2
  · rw [htables, ← h.eq_tablesAt] at hu
    exact main_of_settled hu hsettled.1

/-- Writing back is idempotent. Whatever the file held, after a process that has exited with 0 the
same command exits with 0 any number of times, and the files and databases stay as they are. -/
theorem unchanged_of_repeats (h : s.Starts process settings file before)
    (hbefore : before.Reachable)
    (hexit : (s.main process ["reconcile", "--write-back"]).1 = .exit 0)
    {x : Ending × Session} (hx : Repeats settings ["reconcile", "--write-back"]
      (s.main process ["reconcile", "--write-back"]) x) :
    Unchanged (s.main process ["reconcile", "--write-back"]).2 x := by
  obtain ⟨c, r, after, folder, hload, hrun, hwritten, hmain⟩ := exists_of_main_exit_zero h hexit
  have hsettled := Reconciled.settles hbefore.integrity hload hrun hwritten
  have hfinal : (s.main process ["reconcile", "--write-back"]).2.finalDatabases =
      s.databasesWith after file := by
    rw [hmain]
    exact finalDatabases_useStore s file after
  induction hx with
  | none => exact ⟨hexit, rfl, rfl, rfl⟩
  | @again y process' _ around loads ih =>
    have hfolder : y.2.folder = folder := ih.folder.trans (congrArg (fun x => x.2.folder) hmain)
    have hleft : (Session.new around y.2.folder y.2.finalDatabases).databases =
        s.databasesWith after file := ih.databases.trans hfinal
    rw [main_of_left h (h.new around _ loads) hleft (hfolder ▸ hsettled)]
    refine ⟨rfl, ih.folder, ?_, ?_⟩
    · rw [finalDatabases_useStore, databasesWith_databasesWith hleft, hfinal]
    · rw [hmain]
      rfl

/-- The file names a new sensor twice, once with a type in quotes and once with an id that it does
not get. -/
theorem unchanged_twice :
    let around : Surroundings := ⟨.accepted, true, [], false, [], ⟨⟨0, by decide⟩, none⟩⟩
    let folder : Folder := [("configuration.json", Text.utf8 ("\x7b\"sensors\" : [" ++
      "\x7b\"name\":\"pump\",\"section\":\"hall\",\"module\":\"east\",\"type\":\" 7\"\x7d," ++
      "\x7b\"id\":9,\"module\":\"east\",\"section\":\"hall\",\"name\":\"pump\"\x7d]\x7d"))]
    let tables := (Store.answer (.insertSensor (some "fan") (some 1) (some "elsewhere"))
      (Store.answer (.insertModule (some "east") (some 1))
        (Store.answer (.insertSection (some "hall")) .empty).2).2).2
    let process := [("DATABASE_URL", "sqlite:///t.db")]
    let args := ["reconcile", "--write-back"]
    let first := (new around folder [("t.db", tables)]).main process args
    let second := (new around first.2.folder first.2.finalDatabases).main process args
    let third := (new around second.2.folder second.2.finalDatabases).main process args
    first.1 = .exit 0 ∧ Unchanged first.2 second ∧ Unchanged first.2 third := by
  intro around folder tables process args first second third
  have hload : Inventory.load "configuration.json" (folder.read "configuration.json") =
      .ok ⟨[⟨"pump", none, "hall", "east", 7⟩, ⟨"pump", some 9, "hall", "east", 0⟩]⟩ := by
    decide +kernel
  have htables : tables.Reachable := .request _ (.request _ (.request _ .empty))
  have hstarts : (new around folder [("t.db", tables)]).Starts _ _ _ _ :=
    starts_usual around rfl tables
  obtain ⟨after, folder', r, hmain, -, -⟩ := main_of_fits hstarts htables hload
    ⟨⟨by decide +kernel, by decide +kernel⟩, by decide +kernel⟩ (by decide)
  have hexit : first.1 = .exit 0 := congrArg Prod.fst hmain
  have hloads := load_after_main hstarts hexit fun path hpath => by
    obtain rfl := Option.some.inj hpath
    decide
  have hsecond : Repeats _ args first second := .again .none around hloads
  have hunchanged := unchanged_of_repeats hstarts htables hexit hsecond
  have hthird : Repeats _ args first third :=
    .again hsecond around (by rw [hunchanged.folder]; exact hloads)
  exact ⟨hexit, hunchanged, unchanged_of_repeats hstarts htables hexit hthird⟩

end Session

end SensorRelay
