import ClassTidy.Files.Path
import ClassTidy.Files.Utf8
import ClassTidy.Json.Basic

/-! File trees as values. -/

namespace ClassTidy

/-- The place of a file or directory. Leading `..` lead out of the working directory. -/
abbrev Location := List String

inductive FileError
  | notFound (path : String)
  | isDirectory (path : String)
  | notDirectory (path : String)
  | alreadyThere (path : String)
  | nameTooLong (path : String)
  | writeRefused
  | nullByte
deriving DecidableEq, Repr

namespace FileError

def message : FileError → String
  | notFound p => "[Errno 2] No such file or directory: " ++ quote p
  | isDirectory p => "[Errno 21] Is a directory: " ++ quote p
  | notDirectory p => "[Errno 20] Not a directory: " ++ quote p
  | alreadyThere p => "[Errno 17] File exists: " ++ quote p
  | nameTooLong p => "[Errno 36] File name too long: " ++ quote p
  | writeRefused => "write refused"
  | nullByte => "embedded null byte"

end FileError

structure Tree where
  files : List (Location × Utf8.Bytes) := []
  directories : List Location := []
  locked : List Location := []

inductive Entry
  | file (bytes : Utf8.Bytes)
  | directory

namespace Tree

def isOutside (l : Location) : Bool := l.all fun name => name == ".." || name == "/"

def entry? (tree : Tree) (l : Location) : Option Entry :=
  match tree.files.lookup l with
  | some bytes => some (.file bytes)
  | none =>
    if isOutside l || tree.directories.contains l then some .directory else none

def above (l : Location) : Location :=
  if isOutside l then l ++ [".."] else l.dropLast

def nameLimit : Nat := 255

def pathLimit : Nat := 4096

def follow (tree : Tree) (asked : String) : Location → List String → Except FileError Location
  | l, [] => .ok l
  | l, name :: names =>
    if name = ".." then follow tree asked (above l) names
    else if name.utf8ByteSize > nameLimit then .error (.nameTooLong asked)
    else if names.isEmpty then .ok (l ++ [name])
    else
      match tree.entry? (l ++ [name]) with
      | some .directory => follow tree asked (l ++ [name]) names
      | some (.file _) => .error (.notDirectory asked)
      | none => .error (.notFound asked)

def locate (tree : Tree) (p : Path) : Except FileError Location :=
  let asked := p.toString
  if asked.contains '\x00' then .error .nullByte
  else if asked.utf8ByteSize ≥ pathLimit then .error (.nameTooLong asked)
  else tree.follow asked [] (if p.root.isEmpty then p.names else "/" :: p.names)

def read (tree : Tree) (p : Path) : Except FileError Utf8.Bytes := do
  match tree.entry? (← tree.locate p) with
  | some (.file bytes) => return bytes
  | some .directory => throw (.isDirectory p.toString)
  | none => throw (.notFound p.toString)

def setFile (l : Location) (bytes : Utf8.Bytes) :
    List (Location × Utf8.Bytes) → List (Location × Utf8.Bytes)
  | [] => [(l, bytes)]
  | (k, old) :: files =>
    if k = l then (l, bytes) :: files else (k, old) :: setFile l bytes files

def write (tree : Tree) (p : Path) (bytes : Utf8.Bytes) : Except FileError Tree := do
  let l ← tree.locate p
  if tree.locked.contains l then throw .writeRefused
  match tree.entry? l with
  | some .directory => throw (.isDirectory p.toString)
  | _ => return { tree with files := setFile l bytes tree.files }

def makeDirectory (tree : Tree) (p : Path) : Except FileError Tree := do
  let l ← tree.locate p
  match tree.entry? l with
  | some _ => throw (.alreadyThere p.toString)
  | none => return { tree with directories := tree.directories ++ [l] }

def isDirectory (tree : Tree) (p : Path) : Bool :=
  match tree.locate p with
  | .ok l => match tree.entry? l with
    | some .directory => true
    | _ => false
  | .error _ => false

def makeUnlessThere (tree : Tree) (p : Path) : Tree × Option FileError :=
  match tree.makeDirectory p with
  | .ok made => (made, none)
  | .error e => (tree, if tree.isDirectory p then none else some e)

-- The bound is the number of names. What has been made above stays when a directory cannot be made.
def makeDirectoriesTo (tree : Tree) (p : Path) : Nat → Tree × Option FileError
  | 0 => (tree, none)
  | bound + 1 =>
    match tree.makeDirectory p with
    | .error (.notFound asked) =>
      if p.names.isEmpty then (tree, some (.notFound asked))
      else
        match makeDirectoriesTo tree p.parent bound with
        | (above, none) => above.makeUnlessThere p
        | (above, some e) => (above, some e)
    | _ => tree.makeUnlessThere p

def makeDirectories (tree : Tree) (p : Path) : Tree × Option FileError :=
  tree.makeDirectoriesTo p (p.names.length + 1)

def remove (tree : Tree) (p : Path) : Except FileError Tree := do
  let l ← tree.locate p
  match tree.entry? l with
  | some (.file _) => return { tree with files := tree.files.filter fun f => f.1 ≠ l }
  | some .directory => throw (.isDirectory p.toString)
  | none => throw (.notFound p.toString)

def lock (tree : Tree) (p : Path) : Tree :=
  match tree.locate p with
  | .ok l => { tree with locked := l :: tree.locked }
  | .error _ => tree

def unlock (tree : Tree) : Tree := { tree with locked := [] }

end Tree

end ClassTidy
