import ClassTidy.Json.Shape
import ClassTidy.Source.Literal

/-! Findings: class lists that are not in the form they should have, and the form to put there. -/

namespace ClassTidy

/-- A class list to be replaced. Lines count from one and columns from zero. Offsets are whole numbers,
since findings can also be read from reports. -/
structure Finding where
  start : Int
  stop : Int
  line : Int
  column : Int
  stopLine : Int
  stopColumn : Int
  original : Text
  replacement : Text
  message : String
deriving DecidableEq, Repr

namespace Finding

def unsortedMessage : String := "Tailwind CSS classes should be sorted and deduplicated."

def atOrBefore (a b : Finding) : Bool :=
  a.start < b.start || (a.start == b.start && a.stop ≤ b.stop)

def toJson (f : Finding) : Json :=
  .object [
    ("start", .int f.start), ("end", .int f.stop), ("line", .int f.line), ("column", .int f.column),
    ("end_line", .int f.stopLine), ("end_column", .int f.stopColumn),
    ("original", .str (String.ofList f.original)),
    ("replacement", .str (String.ofList f.replacement)),
    ("message", .str f.message)]

def ofJson (v : Json) : Except ShapeError Finding := do
  let start ← (← v.field "start").toInt
  let stop ← (← v.field "end").toInt
  let line ← (← v.field "line").toInt
  let column ← (← v.field "column").toInt
  let stopLine ← (← v.field "end_line").toInt
  let stopColumn ← (← v.field "end_column").toInt
  let original ← v.field "original"
  let replacement ← v.field "replacement"
  let message := Json.orElse (← v.field? "message") (.str unsortedMessage)
  return ⟨start, stop, line, column, stopLine, stopColumn, original.asText.toList,
    replacement.asText.toList, message.asText⟩

end Finding

end ClassTidy
