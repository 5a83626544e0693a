import ClassTidy.Format.Formatter
import ClassTidy.Lint.Finding
import ClassTidy.Lint.Options
import ClassTidy.Source.Attribute
import ClassTidy.Text.LineIndex

/-! Checking the class lists of a text. -/

namespace ClassTidy

structure Checker (ε : Type) where
  formatter : Formatter ε
  locators : List Locator
  attributes : Bool

inductive ScanEvent
  | unclosed (locator : String) (offset : Nat)
  | located (locator : String) (count : Nat)
  | candidate (span : Span)
deriving DecidableEq, Repr

structure Checked where
  candidates : Nat
  findings : List Finding
deriving DecidableEq, Repr

namespace Checker

variable {ε : Type}

def ofOptions (o : LintOptions) (resolve : Resolver ε) : Except SetupError (Checker ε) := do
  let formatter ← Formatter.ofGroups o.groups resolve
  let locators ← Locator.compileAll o.locators
  return ⟨formatter, locators, o.attributes⟩

def locatorEvents (t : Text) (l : Locator) : List ScanEvent :=
  (l.unclosed t).map (.unclosed l.entry.outer) ++
    .located l.entry.outer (l.spans t).length :: (l.spans t).map .candidate

def events (c : Checker ε) (t : Text) : List ScanEvent :=
  (if c.attributes then (Source.attributes t).map .candidate else []) ++
    c.locators.flatMap (locatorEvents t)

def candidates (c : Checker ε) (t : Text) : List Span :=
  (c.events t).filterMap fun
    | .candidate span => if (span.text t).isEmpty then none else some span
    | _ => none

def findingAt (t : Text) (index : Text.LineIndex) (span : Span) (replacement : Text) : Finding :=
  let (line, column) := index.locate span.start
  let (stopLine, stopColumn) := index.locate span.stop
  ⟨span.start, span.stop, line, column, stopLine, stopColumn, span.text t, replacement,
    Finding.unsortedMessage⟩

def assess (c : Checker ε) (t : Text) (index : Text.LineIndex) (span : Span) :
    Except ε (Option Finding) :=
  (c.formatter.format (span.text t)).map fun
    | none => none
    | some new =>
      if new.isEmpty ∨ new = span.text t then none else some (findingAt t index span new)

def firstOfEach : List Finding → List Finding
  | [] => []
  | f :: fs => f :: (firstOfEach fs).filter fun g => g.start ≠ f.start ∨ g.stop ≠ f.stop

def discoveries (c : Checker ε) (t : Text) : Except ε (List Finding) :=
  ((c.candidates t).mapM (c.assess t (.ofText t))).map fun found => firstOfEach (found.filterMap id)

def check (c : Checker ε) (t : Text) : Except ε Checked :=
  (c.discoveries t).map fun fs => ⟨(c.candidates t).length, sortBy Finding.atOrBefore fs⟩

end Checker

end ClassTidy
