import ClassTidy.Lint.Check

/-! The log of a check: one record for each locator, each call that is not closed, and each finding. -/

namespace ClassTidy

inductive LogRecord
  | unclosed (locator : String) (offset : Nat)
  | located (locator : String) (count : Nat)
  | unsorted (path : String) (finding : Finding)
deriving DecidableEq, Repr

def LogRecord.line : LogRecord → String
  | unclosed locator offset =>
    "DEBUG:class_extract.module:Skipping locator match " ++ quote locator ++ ": " ++
      (Source.ParenError.unbalanced offset).message
  | located locator count =>
    "DEBUG:class_extract.module:Locator " ++ quote locator ++ " matched " ++
      toString count ++ " range(s)"
  | unsorted path f =>
    "DEBUG:class_lint.module:Unsorted class list at " ++ path ++ ":" ++ toString f.line ++ ":" ++
      toString f.column ++ ": " ++ Text.quoted f.original ++ " -> " ++ Text.quoted f.replacement

-- The records of a check: each finding is logged where its place is looked at first.
def logRecords (path : String) : List ScanEvent → List Finding → List LogRecord
  | [], _ => []
  | .unclosed locator offset :: events, fs =>
    .unclosed locator offset :: logRecords path events fs
  | .located locator count :: events, fs => .located locator count :: logRecords path events fs
  | .candidate span :: events, fs =>
    match fs with
    | [] => logRecords path events []
    | f :: rest =>
      if f.start = span.start ∧ f.stop = span.stop then
        .unsorted path f :: logRecords path events rest
      else logRecords path events (f :: rest)

def Checker.log {ε : Type} (c : Checker ε) (path : String) (t : Text) :
    Except ε (List LogRecord) :=
  (c.discoveries t).map (logRecords path (c.events t))

end ClassTidy
