import SensorRelay.Inventory.Document
import SensorRelay.Proofs.Json.RoundTrip

/-!
# Inventories read back from their document

An inventory whose integers are within 64 bits has a document, and whatever characters its names
hold the document is read as the inventory (`Inventory.read_write`), straight from the text or from
the file that it has been dumped to. With any other integer there is no document, and nothing is
written. A descriptor is read back field by field (`Descriptor.ofJson_toJson`), and the layout of
the text is that of `Json.document?_indented`.
-/

namespace SensorRelay

open Json

/-! ## Descriptors -/

/-- The integers of a descriptor are within 64 bits, with a sign or without. -/
def Descriptor.Fits (d : Descriptor) : Prop :=
  (∀ n ∈ d.id, -9223372036854775808 ≤ n ∧ n ≤ 18446744073709551615) ∧
    -9223372036854775808 ≤ d.typeCode ∧ d.typeCode ≤ 18446744073709551615

instance (d : Descriptor) : Decidable d.Fits :=
  inferInstanceAs (Decidable (_ ∧ _))

namespace Descriptor

variable {d : Descriptor}

theorem isWireInt_iff {n : Int} :
    isWireInt n = true ↔ -9223372036854775808 ≤ n ∧ n ≤ 18446744073709551615 := by
  have hlow : (Nat.pow 2 63 : Int) = 9223372036854775808 := by decide
  have hhigh : (Nat.pow 2 64 : Int) = 18446744073709551616 := by decide
  rw [isWireInt, Bool.and_eq_true, decide_eq_true_eq, decide_eq_true_eq, hlow, hhigh]
  omega

theorem isWritable_iff : d.isWritable = true ↔ d.Fits := by
  simp [isWritable, Fits, Option.all_eq_true, isWireInt_iff]

theorem settle?_toJson (h : d.isWritable = true) : settle? d.toJson = some d.toJson := by
  obtain ⟨name, id, sectionName, moduleName, typeCode⟩ := d
  simp only [isWritable, Bool.and_eq_true] at h
  cases id with
  | none => simp [toJson, settle?, settleFields?, h.2]
  | some n => simp [toJson, settle?, settleFields?, h.2, show isWireInt n = true from h.1]

theorem depth_toJson (d : Descriptor) : d.toJson.depth = 1 := by
  obtain ⟨name, id, sectionName, moduleName, typeCode⟩ := d
  cases id <;> rfl

/-- A descriptor is read back from its value, wherever it stands. -/
theorem ofJson_toJson (place : List Place) (d : Descriptor) : ofJson place d.toJson = .ok d := by
  obtain ⟨name, id, sectionName, moduleName, typeCode⟩ := d
  cases id <;> simp [ofJson, toJson, ofFields, textField, idField, typeField, lookup, laxInteger,
    Except.map]

end Descriptor

/-! ## Documents -/

namespace Inventory

variable {c : Inventory}

theorem settleItems?_map_toJson {ds : List Descriptor} (h : ∀ d ∈ ds, d.isWritable = true) :
    settleItems? (ds.map Descriptor.toJson) = some (ds.map Descriptor.toJson) := by
  induction ds with
  | nil => rfl
  | cons d ds ih =>
    have hd := Descriptor.settle?_toJson (h d List.mem_cons_self)
    rw [List.map_cons, settleItems?, hd, ih fun d' hd' => h d' (List.mem_cons_of_mem d hd')]

theorem depthOfItems_map_toJson (ds : List Descriptor) :
    depthOfItems (ds.map Descriptor.toJson) ≤ 1 := by
  induction ds with
  | nil => exact Nat.zero_le 1
  | cons d ds ih =>
    rw [List.map_cons, depthOfItems, Descriptor.depth_toJson]
    exact Nat.max_le.2 ⟨Nat.le_refl 1, ih⟩

theorem descriptorsOfItems_map_toJson (ds : List Descriptor) (index : Nat) :
    descriptorsOfItems index (ds.map Descriptor.toJson) = .ok ds := by
  induction ds generalizing index with
  | nil => rfl
  | cons d ds ih => rw [List.map_cons, descriptorsOfItems, Descriptor.ofJson_toJson, ih]

/-- An inventory is read back from its value. -/
theorem ofJson_toJson (c : Inventory) : ofJson c.toJson = .ok c := by
  have hsensors : lookup "sensors" [("sensors", .arr (c.sensors.map Descriptor.toJson))] =
      some (.arr (c.sensors.map Descriptor.toJson)) := by
    simp [lookup]
  simp only [toJson, ofJson, hsensors, descriptorsOfItems_map_toJson]
  rfl

theorem firstInvalid?_eq_none_iff :
    c.firstInvalid? = none ↔ ∀ d ∈ c.sensors, d.isValid = true := by
  simp [firstInvalid?, List.findIdx?_eq_none_iff]

/-- Whatever document an inventory was read from, each descriptor names its sensor. -/
theorem isValid_of_read {document : Bytes} (h : read document = .ok c) :
    ∀ d ∈ c.sensors, d.isValid = true := by
  unfold read at h
  split at h
  · cases h
  · split at h
    · cases h
    · split at h
      · cases h
      · rename_i hvalid
        obtain rfl := Except.ok.inj h
        exact firstInvalid?_eq_none_iff.1 hvalid

/-- The indented text of an inventory is read as the inventory. -/
theorem read_indented (hvalid : ∀ d ∈ c.sensors, d.isValid = true)
    (hwritable : ∀ d ∈ c.sensors, d.isWritable = true) :
    read (Text.utf8 c.toJson.indented) = .ok c := by
  have hsettled : settle? c.toJson = some c.toJson := by
    simp [toJson, settle?, settleFields?, settleItems?_map_toJson hwritable]
  have hdepth : c.toJson.depth ≤ maxDepth := by
    have hitems := depthOfItems_map_toJson c.sensors
    simp only [toJson, depth, depthOfFields, deeper, maxDepth]
    omega
  rw [read, document?_indented hsettled hdepth]
  simp only [ofJson_toJson, firstInvalid?_eq_none_iff.2 hvalid]

end Inventory

/-! ## Files -/

/-- The path of a file that stands directly in the current directory. -/
def NamesFile (path : String) : Prop :=
  pathRoot path.toList = [] ∧ ∃ name, name ≠ ['.', '.'] ∧ pathSegments path.toList = [name]

theorem Folder.exists_name_of_readFrom {folder : Folder} {segments : List (List Char)}
    {contents : Bytes} (h : folder.readFrom segments = .ok contents) :
    ∃ name, name ≠ ['.', '.'] ∧ segments = [name] := by
  unfold readFrom at h
  split at h
  · cases h
  · cases h
  · rename_i name rest hup
    split at h
    · cases h
    · split at h
      · rename_i hrest
        obtain rfl := List.isEmpty_iff.1 hrest
        exact ⟨name, hup, rfl⟩
      · cases h

/-- No other path leads to contents. -/
theorem NamesFile.of_read {path : String} {folder : Folder} {contents : Bytes}
    (h : folder.read path = .ok contents) : NamesFile path := by
  simp only [Folder.read] at h
  split at h
  · cases h
  · rename_i hroot _
    exact ⟨hroot, Folder.exists_name_of_readFrom h⟩
  · cases h
  · cases h

/-- What has been written to a file is read from it. -/
theorem Folder.read_of_write {path : String} (h : NamesFile path) (folder : Folder)
    (contents : Bytes) : (folder.write (plainPath path) contents).read path = .ok contents := by
  obtain ⟨hroot, name, hup, hsegments⟩ := h
  have hname : name ≠ [] := by
    have hmem : name ∈ pathSegments path.toList := hsegments ▸ List.mem_singleton_self name
    simp only [pathSegments, List.mem_filter, Bool.and_eq_true] at hmem
    simpa using hmem.2.1
  have hplain : plainPath path = String.ofList name := by
    simp [plainPath, hroot, hsegments, Text.joinWith, hname]
  rw [read, hroot, hsegments, hplain]
  simp [readFrom, find?, write, hup]

namespace Inventory

variable {c : Inventory}

/-- The document of the inventory is read as the inventory, from its text, from whatever else
holds its bytes and from the file that it is dumped to. -/
structure ReadsBack (c : Inventory) : Prop where
  text : ∃ text, c.write = .ok text ∧ read (Text.utf8 text) = .ok c ∧
    ∀ path, load path (.ok (Text.utf8 text)) = .ok c
  file : ∀ path folder, NamesFile path →
    ∃ folder', c.dump path folder = .ok folder' ∧ load path (folder'.read path) = .ok c

/-- There is no document, and none is written to a file. -/
structure Unwritable (c : Inventory) : Prop where
  text : c.write = .error (.invalidType "Integer exceeds 64-bit range")
  file : ∀ path folder, c.dump path folder = .error (.invalidType "Integer exceeds 64-bit range")

theorem readsBack (hvalid : ∀ d ∈ c.sensors, d.isValid = true)
    (hwritable : ∀ d ∈ c.sensors, d.isWritable = true) : c.ReadsBack := by
  have hwrite : c.write = .ok c.toJson.indented := by
    rw [write, write?, if_pos (List.all_eq_true.2 hwritable)]
  have hread := read_indented hvalid hwritable
  refine ⟨⟨_, hwrite, hread, fun path => hread⟩, fun path folder hpath => ?_⟩
  refine ⟨folder.write (plainPath path) (Text.utf8 c.toJson.indented), ?_, ?_⟩
  · rw [dump, hwrite]
    rfl
  · rw [Folder.read_of_write hpath]
    exact hread

/-- An inventory that was loaded from a file has valid descriptors, and the file can be written
again. -/
theorem valid_of_load {path : String} {folder : Folder}
    (h : load path (folder.read path) = .ok c) :
    NamesFile path ∧ ∀ d ∈ c.sensors, d.isValid = true := by
  cases hread : folder.read path with
  | error fault =>
    rw [hread] at h
    cases h
  | ok document =>
    rw [hread] at h
    exact ⟨.of_read hread, isValid_of_read h⟩

theorem unwritable (h : ¬∀ d ∈ c.sensors, d.isWritable = true) : c.Unwritable := by
  have hwrite : c.write = .error (.invalidType "Integer exceeds 64-bit range") := by
    rw [write, write?, if_neg (mt List.all_eq_true.1 h)]
  refine ⟨hwrite, fun path folder => ?_⟩
  rw [dump, hwrite]
  rfl

/-- An inventory of valid descriptors is read back from its document if its integers are within
64 bits, and has no document otherwise. -/
theorem read_write (hvalid : ∀ d ∈ c.sensors, d.isValid = true) :
    ((∀ d ∈ c.sensors, d.Fits) → c.ReadsBack) ∧ (¬(∀ d ∈ c.sensors, d.Fits) → c.Unwritable) := by
  have hiff : (∀ d ∈ c.sensors, d.isWritable = true) ↔ ∀ d ∈ c.sensors, d.Fits :=
    forall₂_congr fun _ _ => Descriptor.isWritable_iff
  rw [← hiff]
  exact ⟨readsBack hvalid, unwritable⟩

/-- Names with quotes, controls and slashes, and the greatest and least integers; one more is too
much. -/
theorem read_write_extremes :
    let first : Descriptor := ⟨"\"\\/", none, "\x00\n\x1f", "😀 é", 18446744073709551615⟩
    let second : Descriptor := ⟨"null", some (-9223372036854775808), ",", "]\x7d", -1⟩
    (∀ d ∈ [first, second], d.isValid = true) ∧ ReadsBack ⟨[first, second]⟩ ∧
      Unwritable ⟨[first, { second with id := some 18446744073709551616 }]⟩ := by
  intro first second
  have hvalid : ∀ d ∈ [first, second], d.isValid = true := by decide
  exact ⟨hvalid, (read_write (c := ⟨_⟩) hvalid).1 (by decide),
    (read_write (c := ⟨_⟩) (by decide)).2 (by decide)⟩

end Inventory

end SensorRelay
