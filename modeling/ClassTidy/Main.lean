import ClassTidy.Command.Classify
import ClassTidy.Command.Format
import ClassTidy.Command.Lint

/-! The command line. -/

namespace ClassTidy.Main

open Command

structure Tool where
  manual : Manual
  run : List String → Environment → Outcome

def tools : List (String × Tool) :=
  [("format", ⟨Format.manual, Format.run⟩), ("lint", ⟨Lint.manual, Lint.run⟩),
   ("classify", ⟨Classify.manual, Classify.run⟩)]

def systemName : Location → String
  | "/" :: names => "/" ++ "/".intercalate names
  | [] => "."
  | names => "/".intercalate names

def readEntry (name : String) : IO (Option Entry) := do
  try
    if ← (← IO.FS.realPath name).isDir then return some .directory
    return some (.file (← IO.FS.readBinFile name).toList)
  catch _ => return none

def addEntry (tree : Tree) (l : Location) : IO Tree := do
  if (tree.entry? l).isSome then return tree
  match ← readEntry (systemName l) with
  | some .directory => return { tree with directories := tree.directories ++ [l] }
  | some (.file bytes) => return { tree with files := tree.files ++ [(l, bytes)] }
  | none => return tree

def addPath (tree : Tree) (p : Path) : IO Tree :=
  (List.range (p.names.length + 1)).foldlM (fun tree n => do
    match tree.locate { p with names := p.names.take n } with
    | .ok l => addEntry tree l
    | .error _ => return tree) tree

def pathsOf (a : Arguments) : List Path :=
  (a.positionals ++ a.switches.filterMap Prod.snd).map Path.ofString

def save (before after : Tree) : IO Unit := do
  for l in after.directories do
    if !before.directories.contains l then IO.FS.createDirAll (systemName l)
  for (l, bytes) in after.files do
    if before.files.lookup l ≠ some bytes then
      IO.FS.writeBinFile (systemName l) ⟨bytes.toArray⟩

partial def readInput (input : IO.FS.Stream) (read : ByteArray) : IO ByteArray := do
  let more ← input.read 65536
  if more.isEmpty then return read else readInput input (read ++ more)

def runTool (tool : Tool) (arguments : List String) : IO UInt32 := do
  let read := tool.manual.readArguments arguments
  let tree ← match read with
    | .ok a => (pathsOf a).foldlM addPath {}
    | .error _ => pure {}
  let usesInput := tool.manual.arity = .any && match read with
    | .ok a => a.positionals.isEmpty
    | .error _ => false
  let input ← if usesInput then readInput (← IO.getStdin) .empty else pure .empty
  let outcome := tool.run arguments { tree, input := input.toList }
  save tree outcome.tree
  IO.print outcome.output
  IO.eprint outcome.errors
  match outcome.status with
  | .ok code => return code.toUInt32
  | .error failure =>
    IO.eprintln failure.message
    return 1

end ClassTidy.Main

def main (arguments : List String) : IO UInt32 :=
  match arguments with
  | name :: rest =>
    match ClassTidy.Main.tools.lookup name with
    | some tool => ClassTidy.Main.runTool tool rest
    | none => do
      IO.eprintln ("unknown command: " ++ name)
      return 2
  | [] => do
    IO.eprintln "expected a command: format, lint or classify"
    return 2
