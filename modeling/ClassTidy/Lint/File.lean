import ClassTidy.Files.Tree
import ClassTidy.Lint.Fix
import ClassTidy.Lint.Log
import ClassTidy.Lint.Report

/-! Checking and repairing files. -/

namespace ClassTidy

inductive TextError
  | file (error : FileError)
  | decode (error : Utf8.DecodeError)
deriving DecidableEq, Repr

def TextError.message : TextError → String
  | file e => e.message
  | decode e => e.message

def Tree.readText (tree : Tree) (p : Path) : Except TextError Text := do
  let bytes ← (tree.read p).mapError .file
  (Utf8.readText bytes).mapError .decode

inductive RunError (ε : Type)
  | setup (error : SetupError)
  | resolver (error : ε)
  | path (error : FileError)

structure FileCheck where
  result : LintResult
  tree : Tree
  log : List LogRecord

namespace FileCheck

variable {ε : Type}

def errorAt (code path message : String) : LintError :=
  ⟨code, message, .object [("path", .str path)]⟩

def unreadable (path message : String) : LintResult :=
  ⟨false, some path, [], [errorAt "LINT_READ_ERROR" path message], LintResult.countFields 0 0,
    false⟩

def unwritable (path message : String) (r : LintResult) : LintResult :=
  { r with ok := false, errors := [errorAt "LINT_WRITE_ERROR" path message], fixed := false }

def repair (tree : Tree) (p : Path) (t : Text) (r : LintResult) : LintResult × Tree :=
  if r.findings.isEmpty then (r, tree)
  else
    match tree.write p (Utf8.encode (applyFixes t r.findings)) with
    | .ok tree' => ({ r with fixed := true }, tree')
    | .error e => (unwritable p.toString e.message r, tree)

def ofText (o : LintOptions) (resolve : Resolver ε) (fix : Bool) (tree : Tree) (p : Path)
    (t : Text) : Except (RunError ε) FileCheck := do
  let checker ← (Checker.ofOptions o resolve).mapError .setup
  let checked ← (checker.check t).mapError .resolver
  let log ← (checker.log p.toString t).mapError .resolver
  let result := LintResult.ofChecked (some p.toString) checked
  let (result, tree) := if fix then repair tree p t result else (result, tree)
  return ⟨result, tree, log⟩

def run (o : LintOptions) (resolve : Resolver ε) (fix : Bool) (tree : Tree) (p : Path) :
    Except (RunError ε) FileCheck :=
  match tree.readText p with
  | .ok t => ofText o resolve fix tree p t
  | .error (.file .nullByte) => .error (.path .nullByte)
  | .error e => .ok ⟨unreadable p.toString e.message, tree, []⟩

end FileCheck

def writeReport (tree : Tree) (p : Path) (rs : List LintResult) : Except FileError Tree :=
  match tree.makeDirectories p.parent with
  | (made, none) => made.write p (Utf8.encode (LintResult.report rs))
  | (_, some e) => .error e

end ClassTidy
