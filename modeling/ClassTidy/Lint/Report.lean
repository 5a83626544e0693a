import ClassTidy.Json.Writer
import ClassTidy.Lint.Check

/-! Results of checking files, and reports of several results. -/

namespace ClassTidy

structure LintError where
  code : String
  message : String
  detail : Json

structure LintResult where
  ok : Bool
  path : Option String
  findings : List Finding
  errors : List LintError
  counts : List (String × Json)
  fixed : Bool

namespace LintError

def toJson (e : LintError) : Json :=
  .object [("code", .str e.code), ("message", .str e.message), ("detail", e.detail)]

def ofJson (v : Json) : Except ShapeError LintError := do
  let code ← v.field "code"
  let message ← v.field "message"
  return ⟨code.asText, message.asText, (← v.field? "detail").getD .null⟩

end LintError

namespace LintResult

def countFields (candidates findings : Nat) : List (String × Json) :=
  [("candidates", .int candidates), ("findings", .int findings)]

def ofChecked (path : Option String) (c : Checked) : LintResult :=
  ⟨true, path, c.findings, [], countFields c.candidates c.findings.length, false⟩

def toJson (r : LintResult) : Json :=
  .object [
    ("ok", .bool r.ok), ("path", (r.path.map Json.str).getD .null),
    ("findings", .list (r.findings.map Finding.toJson)),
    ("errors", .list (r.errors.map LintError.toJson)),
    ("meta", .object r.counts), ("fixed", .bool r.fixed)]

def pathOf : Option Json → Option String
  | none => none
  | some .null => none
  | some v => some v.asText

def ofJson (v : Json) : Except ShapeError LintResult := do
  let ok := LintOptions.truth (← v.field? "ok") false
  let path := pathOf (← v.field? "path")
  let findings ← (← (Json.orElse (← v.field? "findings") (.list [])).items).mapM Finding.ofJson
  let errors ← (← (Json.orElse (← v.field? "errors") (.list [])).items).mapM LintError.ofJson
  let counts ← (Json.orElse (← v.field? "meta") (.object [])).tableFields
  return ⟨ok, path, findings, errors, counts, LintOptions.truth (← v.field? "fixed") false⟩

def findingCount (rs : List LintResult) : Nat :=
  rs.foldr (fun r n => r.findings.length + n) 0

def allOk (rs : List LintResult) : Bool := rs.all fun r => r.ok

def reportJson (rs : List LintResult) : Json :=
  .object [
    ("ok", .bool (allOk rs)), ("files", .list (rs.map toJson)),
    ("findings", .int (findingCount rs))]

def report (rs : List LintResult) : Text := (reportJson rs).indented ++ ['\n']

end LintResult

end ClassTidy
