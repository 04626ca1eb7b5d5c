import SensorRelay.Files
import SensorRelay.Inventory.Basic
import SensorRelay.Json.LaxInteger
import SensorRelay.Json.Parser
import SensorRelay.Json.Printer

/-!
# The inventory document

An inventory is kept in a JSON file, an object with the list `sensors`. `Inventory.read`
refuses a document that is no JSON, has fields of the wrong kind, or holds a descriptor that
does not name its sensor; `Inventory.write?` gives the text, two spaces per level. `load` and
`dump` read and write the file.
-/

namespace SensorRelay

/-! ## Reading -/

/-- A text field; one that is absent is empty. -/
def textField (name : String) (fields : List (String × Json)) : Except FieldFault String :=
  match Json.lookup name fields with
  | none => .ok ""
  | some (.str s) => .ok s
  | some _ => .error .notString

/-- The id; it may be absent or null. -/
def idField (fields : List (String × Json)) : Except FieldFault (Option Int) :=
  match Json.lookup "id" fields with
  | none => .ok none
  | some .null => .ok none
  | some j => (laxInteger j).map some

/-- The type; zero if absent. -/
def typeField (fields : List (String × Json)) : Except FieldFault Int :=
  match Json.lookup "type" fields with
  | none => .ok 0
  | some j => laxInteger j

/-- The problem of a field at a place, if reading it failed. -/
def problemAt {α : Type} (place : List Place) (name : String) :
    Except FieldFault α → List FieldProblem
  | .ok _ => []
  | .error fault => [⟨place ++ [.field name], fault⟩]

/-- Reads the members of a descriptor that stands at `place`. -/
def Descriptor.ofFields (place : List Place) (fields : List (String × Json)) :
    Except (List FieldProblem) Descriptor :=
  let name := textField "name" fields
  let id := idField fields
  let sectionName := textField "section" fields
  let moduleName := textField "module" fields
  let typeCode := typeField fields
  match name, id, sectionName, moduleName, typeCode with
  | .ok name, .ok id, .ok sectionName, .ok moduleName, .ok typeCode =>
    .ok ⟨name, id, sectionName, moduleName, typeCode⟩
  | _, _, _, _, _ =>
    .error (problemAt place "name" name ++ problemAt place "id" id
      ++ problemAt place "section" sectionName ++ problemAt place "module" moduleName
      ++ problemAt place "type" typeCode)

/-- Reads a descriptor that stands at `place`. -/
def Descriptor.ofJson (place : List Place) : Json → Except (List FieldProblem) Descriptor
  | .obj fields => ofFields place fields
  | _ => .error [⟨place, .notDescriptor⟩]

/-- Reads the items of the list, the first of which has the number `index`; every problem of
every item is reported. -/
def descriptorsOfItems (index : Nat) : List Json → Except (List FieldProblem) (List Descriptor)
  | [] => .ok []
  | j :: js =>
    match Descriptor.ofJson [.field "sensors", .item index] j,
        descriptorsOfItems (index + 1) js with
    | .ok d, .ok ds => .ok (d :: ds)
    | .ok _, .error ps => .error ps
    | .error ps, .ok _ => .error ps
    | .error ps, .error qs => .error (ps ++ qs)

/-- Reads the value of a document. -/
def Inventory.ofJson : Json → Except (List FieldProblem) Inventory
  | .obj fields =>
    match Json.lookup "sensors" fields with
    | none => .ok ⟨[]⟩
    | some (.arr items) => (descriptorsOfItems 0 items).map Inventory.mk
    | some _ => .error [⟨[.field "sensors"], .notList⟩]
  | _ => .error [⟨[], .notInventory⟩]

/-- The number, from 1, of the first descriptor that is not valid. -/
def Inventory.firstInvalid? (inventory : Inventory) : Option Nat :=
  (inventory.sensors.findIdx? fun d => !d.isValid).map (· + 1)

/-- Reads a document. -/
def Inventory.read (document : Bytes) : Except InventoryError Inventory :=
  match Json.document? document with
  | none => .error ⟨"invalid JSON inventory", []⟩
  | some j =>
    match Inventory.ofJson j with
    | .error problems => .error ⟨"invalid inventory structure", problems⟩
    | .ok inventory =>
      match inventory.firstInvalid? with
      | some n =>
        .error ⟨"sensor descriptor nº" ++ String.ofList (Text.natChars n) ++ " not valid", []⟩
      | none => .ok inventory

/-! ## Writing -/

/-- The value of a descriptor. -/
def Descriptor.toJson (d : Descriptor) : Json :=
  .obj [("name", .str d.name), ("id", match d.id with | some n => .int n | none => .null),
    ("section", .str d.sectionName), ("module", .str d.moduleName), ("type", .int d.typeCode)]

/-- The value of the document. -/
def Inventory.toJson (inventory : Inventory) : Json :=
  .obj [("sensors", .arr (inventory.sensors.map Descriptor.toJson))]

/-- Can the numbers of a descriptor be written? -/
def Descriptor.isWritable (d : Descriptor) : Bool :=
  d.id.all Json.isWireInt && Json.isWireInt d.typeCode

/-- The text of the document, if all its integers have at most 64 bits. -/
def Inventory.write? (inventory : Inventory) : Option String :=
  if inventory.sensors.all Descriptor.isWritable then some inventory.toJson.indented else none

/-- The text of the document. -/
def Inventory.write (inventory : Inventory) : Except Failure String :=
  match inventory.write? with
  | some text => .ok text
  | none => .error (.invalidType "Integer exceeds 64-bit range")

/-! ## Files -/

/-- Reads the document of the file at `path`, given what reading the file gave. -/
def Inventory.load (path : String) (contents : Except FileFault Bytes) :
    Except InventoryError Inventory :=
  match contents with
  | .ok document => Inventory.read document
  | .error fault =>
    let shown := plainPath path
    .error ⟨"cannot read inventory " ++ shown ++ ": " ++ fault.message ++ ": "
      ++ Text.quoted shown, []⟩

/-- Writes the document to the file at `path`: the files afterwards. Nothing is written unless
the whole document has a text. -/
def Inventory.dump (inventory : Inventory) (path : String) (folder : Folder) :
    Except Failure Folder :=
  inventory.write.map fun text => folder.write (plainPath path) (Text.utf8 text)

end SensorRelay
