import Fairweather.Plan.Fault
import Fairweather.Text.Utf8

/-!
# Files

A run sees the file system as a function from paths to contents. `Folder.read` is that function
for a current folder that holds files and nothing else, and around which nothing is known but that
there are other folders.
-/

namespace Fairweather

namespace Command

/-- What a path leads to: the bytes of a file, or why there are none. -/
abbrev Files := String → Except FileFault (List UInt8)

/-- The files of a folder, by name. -/
structure Folder where
  files : List (String × List UInt8)

namespace Folder

/-- How far a path has been followed. -/
inductive Place where
  | inside
  | outside
  | file (bytes : List UInt8)

/-- The parts of a path between its slashes. -/
def components (path : List Char) : List (List Char) :=
  match path with
  | [] => [[]]
  | c :: rest =>
    if c = '/' then [] :: components rest
    else match components rest with
      | [] => [[c]]
      | part :: more => (c :: part) :: more

/-- What a name leads to from a place. Outside of the folder there are no files. -/
def enter (folder : Folder) (name : String) : Place → Except FileFault Place
  | .inside =>
    match folder.files.lookup name with
    | some bytes => .ok (.file bytes)
    | none => .error .missing
  | .outside => .error .missing
  | .file _ => .error .notDirectory

/-- One step along a path. A name that is too long is refused in every folder, before it is looked
for there. -/
def step (folder : Folder) (place : Place) (part : List Char) : Except FileFault Place :=
  match place with
  | .file _ => .error .notDirectory
  | .inside | .outside =>
    if part = [] ∨ part = ['.'] then .ok place
    else if part = ['.', '.'] then .ok .outside
    else if 255 < (String.ofList part).utf8ByteSize then .error .nameTooLong
    else folder.enter (String.ofList part) place

/-- The contents of the file that a path leads to from this folder. -/
def read (folder : Folder) : Files := fun path =>
  if path.toList.contains (Char.ofNat 0) then .error .nulInName
  else if path = "" then .error .missing
  else if 4096 ≤ path.utf8ByteSize then .error .nameTooLong
  else
    let start : Place := if path.toList.head? = some '/' then .outside else .inside
    match (components path.toList).foldlM folder.step start with
    | .error fault => .error fault
    | .ok (.file bytes) => .ok bytes
    | .ok .inside | .ok .outside => .error .isDirectory

end Folder

end Command

end Fairweather
