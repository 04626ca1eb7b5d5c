import SensorRelay.Text.Encoding
import SensorRelay.Text.Split

/-!
# Files

A path names the same file with or without empty and `.` segments; `plainPath` is the form
without them, in which the current directory is `.`. A `Folder` holds files directly in the
current directory, by name.
-/

namespace SensorRelay

open Text

/-! ## Paths -/

/-- The root that a path starts with: exactly two slashes are a root of their own. -/
def pathRoot (cs : List Char) : List Char :=
  let slashes := (cs.takeWhile (· == '/')).length
  if slashes = 0 then [] else if slashes = 2 then ['/', '/'] else ['/']

/-- The segments of a path that mean something. -/
def pathSegments (cs : List Char) : List (List Char) :=
  (splitOn '/' cs).filter fun p => !p.isEmpty && p != ['.']

/-- The path without empty and `.` segments. -/
def plainPath (s : String) : String :=
  let plain := pathRoot s.toList ++ joinWith '/' (pathSegments s.toList)
  if plain.isEmpty then "." else String.ofList plain

/-! ## Files by name -/

/-- Why a file cannot be read. -/
inductive FileFault where
  | notFound
  | notDirectory
  | isDirectory

/-- The reason in words. -/
def FileFault.message : FileFault → String
  | notFound => "[Errno 2] No such file or directory"
  | notDirectory => "[Errno 20] Not a directory"
  | isDirectory => "[Errno 21] Is a directory"

/-- Files by name; of files with one name the first counts. -/
abbrev Folder := List (String × Bytes)

namespace Folder

/-- The contents of a file. -/
def find? (folder : Folder) (name : String) : Option Bytes :=
  (List.find? (fun f => f.1 == name) folder).map (·.2)

/-- The file that a path leads to, and the segments that are left after it. -/
def readFrom (folder : Folder) : List (List Char) → Except FileFault Bytes
  | [] => .error .isDirectory
  | ['.', '.'] :: _ => .error .notFound
  | name :: rest =>
    match folder.find? (String.ofList name) with
    | none => .error .notFound
    | some contents => if rest.isEmpty then .ok contents else .error .notDirectory

/-- Reads the file at a path. -/
def read (folder : Folder) (path : String) : Except FileFault Bytes :=
  let cs := path.toList
  match pathRoot cs, pathSegments cs with
  | [], [['.', '.']] => .error .isDirectory
  | [], segments => readFrom folder segments
  | _, [] => .error .isDirectory
  | _, _ => .error .notFound

/-- Writes a file. -/
def write (folder : Folder) (name : String) (contents : Bytes) : Folder :=
  (name, contents) :: List.filter (fun f => f.1 != name) folder

end Folder
end SensorRelay
