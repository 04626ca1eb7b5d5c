import SensorRelay.Proofs.Command.Session
import SensorRelay.Proofs.Inventory.RoundTrip
import SensorRelay.Proofs.Reconcile.Alone

/-!
# Writing ids back

`reconcile --write-back` first completes the tables and then writes the ids of the sensors into the
inventory file, all of them or none (`Session.WritesBack`). A file that holds no inventory is
refused with exit code 1 and stays as it is. One that does is replaced by a document that is read
as the same descriptors in the same order, each with the id of its sensor in the tables; there is
such a document because the ids are small (`Store.RunsThrough.isWritable_applyTo`) and because what
is written is read back. Only a type code of more than 64 bits has no place in a document. It is
accepted where the inventory is read, so the process then breaks down with the tables completed and
the file as it was.
-/

namespace SensorRelay

open Json

/-! ## Identified descriptors -/

theorem isWireInt_of_fitsSigned {n : Int} (h : fitsSigned 64 n = true) : isWireInt n = true := by
  have hbound : (Nat.pow 2 (64 - 1) : Int) = 9223372036854775808 := by decide
  rw [fitsSigned, Bool.and_eq_true, decide_eq_true_eq, decide_eq_true_eq, hbound] at h
  rw [Descriptor.isWireInt_iff]
  omega

namespace Store

/-- The ids of all rows stay within 64 bits when `n` more of each table come. -/
structure HasRoomForAll (s : Store) (n : Nat) : Prop extends s.HasRoomFor n where
  sensors : fitsSigned 64 ((s.sensors.length + n : Nat) : Int) = true

/-- The second descriptor is the first one with the id of its sensor in the tables. -/
def Identifies (t : Store) (d d' : Descriptor) : Prop :=
  ∃ x ∈ t.sensors, t.sensorPath? x = some d.path ∧ d' = { d with id := some (x.id : Int) }

/-- With room for it a reconciliation runs through. -/
theorem runsThrough_of_hasRoomFor {s : Store} (hs : s.Integrity) {ds : List Descriptor}
    (hroom : s.HasRoomFor ds.length) :
    ∃ r t, run (reconcile ds) s = (.ok r, t) ∧ RunsThrough [] ds s r t :=
  (run_reconcile hs ds).resolve_right fun hfull => hfull.1 hroom

namespace RunsThrough

variable {ds : List Descriptor} {d : Descriptor} {s t : Store} {r : Resolution}

theorem identifies (h : RunsThrough [] ds s r t) (hd : d ∈ ds) : t.Identifies d (r.applyTo d) := by
  obtain ⟨x, hx, hpath, hid⟩ := (h.maps d.path).1 (List.mem_map_of_mem hd)
  refine ⟨x, hx, hpath, ?_⟩
  rw [Resolution.applyTo, hid]

theorem forall₂_apply (h : RunsThrough [] ds s r t) :
    List.Forall₂ t.Identifies ds (r.apply ds) :=
  List.forall₂_map_right_iff.2 (List.forall₂_same.2 fun _ hd => h.identifies hd)

theorem fits_sensors (h : RunsThrough [] ds s r t) (hroom : s.HasRoomForAll ds.length) :
    fitsSigned 64 (t.sensors.length : Int) = true := by
  have hlength := h.grows.length_sensors_le h.integrity
  rw [List.length_map] at hlength
  exact fitsSigned_of_le hlength hroom.sensors

/-- The id of a sensor can be written. -/
theorem isWritable_applyTo (h : RunsThrough [] ds s r t)
    (hids : fitsSigned 64 (t.sensors.length : Int) = true) (hd : d ∈ ds) :
    (r.applyTo d).isWritable = isWireInt d.typeCode := by
  obtain ⟨x, hx, -, happlied⟩ := h.identifies hd
  have hid := fitsSigned_of_le (h.integrity.sensorIds.id_le hx) hids
  rw [happlied, Descriptor.isWritable, Option.all_some, isWireInt_of_fitsSigned hid, Bool.true_and]

end RunsThrough

end Store

namespace Resolution

variable (r : Resolution)

theorem isValid_applyTo (d : Descriptor) : (r.applyTo d).isValid = d.isValid := by
  unfold applyTo
  split <;> rfl

theorem path_applyTo (d : Descriptor) : (r.applyTo d).path = d.path := by
  unfold applyTo
  split <;> rfl

theorem map_path_apply (ds : List Descriptor) :
    (r.apply ds).map Descriptor.path = ds.map Descriptor.path := by
  rw [apply, List.map_map]
  exact List.map_congr_left fun d _ => r.path_applyTo d

end Resolution

/-- With its ids the inventory is read back from its document. -/
theorem Store.RunsThrough.readsBack {ds : List Descriptor} {s t : Store} {r : Resolution}
    (h : RunsThrough [] ds s r t) (hids : fitsSigned 64 (t.sensors.length : Int) = true)
    (hvalid : ∀ d ∈ ds, d.isValid = true) (htypes : ∀ d ∈ ds, isWireInt d.typeCode = true) :
    Inventory.ReadsBack ⟨r.apply ds⟩ := by
  refine Inventory.readsBack (List.forall_mem_map.2 fun d hd => ?_)
    (List.forall_mem_map.2 fun d hd => ?_)
  · rw [Resolution.isValid_applyTo, hvalid d hd]
  · rw [h.isWritable_applyTo hids hd, htypes d hd]

/-! ## The document -/

namespace Reconciled

variable {c : Inventory} {s t : Store} {r : Resolution} {path : String} {folder : Folder}

/-- The file then holds the descriptors as the resolution has them. -/
theorem writeBack_of_fits (hload : Inventory.load path (folder.read path) = .ok c)
    (h : Store.RunsThrough [] c.sensors s r t) (hroom : s.HasRoomForAll c.sensors.length)
    (hfits : ∀ d ∈ c.sensors, isWireInt d.typeCode = true) :
    ∃ folder', writeBack ⟨c, r⟩ path folder = .ok folder' ∧
      Inventory.load path (folder'.read path) = .ok ⟨r.apply c.sensors⟩ := by
  obtain ⟨hpath, hvalid⟩ := Inventory.valid_of_load hload
  exact (h.readsBack (h.fits_sensors hroom) hvalid hfits).file path folder hpath

/-- With a type code that has no place in a document nothing is written. -/
theorem writeBack_of_not_fits (h : Store.RunsThrough [] c.sensors s r t)
    (hroom : s.HasRoomForAll c.sensors.length)
    (hfits : ¬∀ d ∈ c.sensors, isWireInt d.typeCode = true) :
    writeBack ⟨c, r⟩ path folder = .error (.invalidType "Integer exceeds 64-bit range") := by
  have hnone : Inventory.Unwritable ⟨r.apply c.sensors⟩ := by
    refine Inventory.unwritable fun hall => hfits fun d hd => ?_
    rw [← h.isWritable_applyTo (h.fits_sensors hroom) hd]
    exact hall _ (List.mem_map_of_mem hd)
  exact hnone.file path folder

end Reconciled

/-! ## The process -/

theorem Command.parse_writeBack :
    parse ["reconcile", "--write-back"] = .ok (.reconcile true) := by
  have hshapes : shapes program (spellings [.help]) ["reconcile", "--write-back"] =
      .ok [("reconcile", .plain), ("--write-back", .unknown)] := by
    rfl
  have hcommand : ofArguments [] "reconcile" ["--write-back"] = .ok (.reconcile true) := by
    rfl
  rw [parse, hshapes]
  exact (find.eq_def _ _).trans hcommand

namespace Session

variable {s : Session} {process : Config.Variables} {settings : Settings} {file : Option String}
  {before : Store}

/-- How a process that started over `before` may end with `reconcile --write-back` : with an
inventory file that is complete, or with the files as they were. -/
structure WritesBack (path : String) (before : Store) (s : Session) (ending : Ending)
    (t : Session) : Prop where
  /-- What holds no inventory is refused. -/
  refused : ∀ e, Inventory.load path (s.folder.read path) = .error e →
    ending = .exit 1 ∧ t.folder = s.folder ∧ t.station.env.database = some before
  /-- An inventory comes back with all ids. -/
  written : ∀ c, Inventory.load path (s.folder.read path) = .ok c →
    (∀ d ∈ c.sensors, isWireInt d.typeCode = true) → ending = .exit 0 ∧
      ∃ after c', Store.CompletesInOrder (c.sensors.map Descriptor.path) before after ∧
        t.station.env.database = some after ∧
        Inventory.load path (t.folder.read path) = .ok c' ∧
        List.Forall₂ after.Identifies c.sensors c'.sensors
  /-- A type code of more than 64 bits breaks the process down. -/
  broken : ∀ c, Inventory.load path (s.folder.read path) = .ok c →
    (¬∀ d ∈ c.sensors, isWireInt d.typeCode = true) →
      ending = .broken (.invalidType "Integer exceeds 64-bit range") ∧ t.folder = s.folder ∧
        ∃ after, Store.CompletesInOrder (c.sensors.map Descriptor.path) before after ∧
          t.station.env.database = some after

theorem main_reconcile (h : s.Starts process settings file before) :
    s.main process ["reconcile", "--write-back"] =
      match Act.reconcileInventory settings true (s.useStore file before) with
      | (.ok _, t) => (.exit 0, t)
      | (.error f, t) => (.ofFailure f, t) := by
  rw [main, Command.parse_writeBack]
  simp only [carryOut, h.loads, h.logs]
  have hrun : Act.run settings (.reconcile true) s =
      (do let _ ← Act.reconcileInventory settings true; return 0 : Act Nat)
        (s.useStore file before) :=
    Act.bind_of_ok h.opens _
  rw [hrun]
  cases hact : Act.reconcileInventory settings true (s.useStore file before) with
  | mk outcome t =>
    cases outcome with
    | ok r => rw [Act.bind_of_ok hact]; rfl
    | error f => rw [Act.bind_of_error hact]

section Started

variable (h : s.Starts process settings file before) (hbefore : before.Reachable)
include h

theorem main_of_refused {e : InventoryError}
    (he : Inventory.load settings.inventoryPath (s.folder.read settings.inventoryPath) =
      .error e) :
    s.main process ["reconcile", "--write-back"] = (.exit 1, s.useStore file before) := by
  have hact := Act.reconcileInventory_of_refused (s := s.useStore file before) true he
  rw [main_reconcile h, hact]
  rfl

variable {c : Inventory}
  (hc : Inventory.load settings.inventoryPath (s.folder.read settings.inventoryPath) = .ok c)
  (hroom : before.HasRoomForAll c.sensors.length)
include hbefore hc hroom

theorem main_of_fits (hfits : ∀ d ∈ c.sensors, isWireInt d.typeCode = true) :
    ∃ after folder r, s.main process ["reconcile", "--write-back"] =
        (.exit 0, { s.useStore file after with folder }) ∧
      Store.RunsThrough [] c.sensors before r after ∧
      Inventory.load settings.inventoryPath (folder.read settings.inventoryPath) =
        .ok ⟨r.apply c.sensors⟩ := by
  obtain ⟨r, after, hrun, hr⟩ :=
    Store.runsThrough_of_hasRoomFor hbefore.integrity hroom.toHasRoomFor
  obtain ⟨folder, hwrite, hread⟩ := Reconciled.writeBack_of_fits hc hr hroom hfits
  refine ⟨after, folder, r, ?_, hr, hread⟩
  rw [main_reconcile h, Act.reconcileInventory_of_run h.faultless hc hrun, hwrite]

/-- The tables have been completed by the time that the document turns out to have no text. -/
theorem main_of_not_fits (hfits : ¬∀ d ∈ c.sensors, isWireInt d.typeCode = true) :
    ∃ after r, s.main process ["reconcile", "--write-back"] =
        (.broken (.invalidType "Integer exceeds 64-bit range"), s.useStore file after) ∧
      Store.RunsThrough [] c.sensors before r after := by
  obtain ⟨r, after, hrun, hr⟩ :=
    Store.runsThrough_of_hasRoomFor hbefore.integrity hroom.toHasRoomFor
  refine ⟨after, r, ?_, hr⟩
  rw [main_reconcile h, Act.reconcileInventory_of_run h.faultless hc hrun,
    Reconciled.writeBack_of_not_fits hr hroom hfits]
  rfl

end Started

/-- Write-back is all or nothing for the inventory file, whatever the file holds. Ids are keys of
64 bits, so no database holds more rows than these can count. -/
theorem writesBack_main (h : s.Starts process settings file before) (hbefore : before.Reachable)
    (hroom : ∀ c, Inventory.load settings.inventoryPath (s.folder.read settings.inventoryPath) =
      .ok c → before.HasRoomForAll c.sensors.length) :
    WritesBack settings.inventoryPath before s (s.main process ["reconcile", "--write-back"]).1
      (s.main process ["reconcile", "--write-back"]).2 := by
  refine ⟨fun e he => ?_, fun c hc hfits => ?_, fun c hc hfits => ?_⟩
  · rw [main_of_refused h he]
    exact ⟨rfl, rfl, rfl⟩
  · obtain ⟨after, folder, r, hmain, hr, hread⟩ := main_of_fits h hbefore hc (hroom c hc) hfits
    rw [hmain]
    exact ⟨rfl, after, _, hr.completes, rfl, hread, hr.forall₂_apply⟩
  · obtain ⟨after, r, hmain, hr⟩ := main_of_not_fits h hbefore hc (hroom c hc) hfits
    rw [hmain]
    exact ⟨rfl, rfl, after, hr.completes, rfl⟩

/-- The file knows a sensor that is there by an id that it does not have, and has a type in
quotes. -/
theorem writesBack_stale_id :
    let around : Surroundings := ⟨.accepted, true, [], false, [], ⟨⟨0, by decide⟩, none⟩⟩
    let folder : Folder := [("configuration.json", Text.utf8 ("\x7b\"sensors\":[" ++
      "\x7b\"name\":\"pump\",\"section\":\"hall\",\"module\":\"east\"," ++
      "\"type\":\" 7 \"\x7d," ++
      "\x7b\"name\":\"fan\",\"id\":9,\"section\":\"hall\",\"module\":\"east\"\x7d]\x7d"))]
    let tables := (Store.answer (.insertSensor (some "fan") (some 1) (some "hall/east/fan"))
      (Store.answer (.insertModule (some "east") (some 1))
        (Store.answer (.insertSection (some "hall")) .empty).2).2).2
    let pump : Descriptor := ⟨"pump", none, "hall", "east", 7⟩
    let fan : Descriptor := ⟨"fan", some 9, "hall", "east", 0⟩
    let t := (new around folder [("t.db", tables)]).main [("DATABASE_URL", "sqlite:///t.db")]
      ["reconcile", "--write-back"]
    t.1 = .exit 0 ∧ ∃ after c', t.2.station.env.database = some after ∧
      Inventory.load "configuration.json" (t.2.folder.read "configuration.json") = .ok c' ∧
      List.Forall₂ after.Identifies [pump, fan] c'.sensors := by
  intro around folder tables pump fan t
  have hload : Inventory.load "configuration.json" (folder.read "configuration.json") =
      .ok ⟨[pump, fan]⟩ := by
    decide +kernel
  have htables : tables.Reachable := .request _ (.request _ (.request _ .empty))
  have hroom : ∀ c, Inventory.load "configuration.json" (folder.read "configuration.json") =
      .ok c → tables.HasRoomForAll c.sensors.length := by
    intro c hc
    obtain rfl := Except.ok.inj (hload.symm.trans hc)
    exact ⟨⟨by decide +kernel, by decide +kernel⟩, by decide +kernel⟩
  obtain ⟨hexit, after, c', -, hafter, hread, hids⟩ :=
    (writesBack_main (starts_usual around rfl tables) htables hroom).written _ hload (by decide)
  exact ⟨hexit, after, c', hafter, hread, hids⟩

/-- A type code with twenty digits in quotes : the process breaks down after it has made the
sensor, and the file has no ids. -/
theorem broken_by_long_type :
    let around : Surroundings := ⟨.accepted, true, [], false, [], ⟨⟨0, by decide⟩, none⟩⟩
    let folder : Folder := [("configuration.json", Text.utf8 ("\x7b\"sensors\":[" ++
      "\x7b\"name\":\"pump\",\"section\":\"hall\",\"module\":\"east\"," ++
      "\"type\":\"99999999999999999999\"\x7d]\x7d"))]
    let t := (new around folder [("t.db", .empty)]).main [("DATABASE_URL", "sqlite:///t.db")]
      ["reconcile", "--write-back"]
    t.1 = .broken (.invalidType "Integer exceeds 64-bit range") ∧ t.2.folder = folder ∧
      ∃ after, t.2.station.env.database = some after ∧
        after.HasSensor ⟨"hall", "east", "pump"⟩ := by
  intro around folder t
  have hload : Inventory.load "configuration.json" (folder.read "configuration.json") =
      .ok ⟨[⟨"pump", none, "hall", "east", 99999999999999999999⟩]⟩ := by
    decide +kernel
  obtain ⟨after, r, hmain, hr⟩ := main_of_not_fits (starts_usual around rfl .empty) .empty hload
    ⟨⟨by decide +kernel, by decide +kernel⟩, by decide +kernel⟩ (by decide)
  obtain ⟨x, hx, hpath, -⟩ := (hr.maps ⟨"hall", "east", "pump"⟩).1 (by decide)
  have ht : t = (_, _) := hmain
  rw [ht]
  exact ⟨rfl, rfl, after, rfl, x, hx, hpath⟩

end Session

end SensorRelay
