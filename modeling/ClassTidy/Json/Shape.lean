import ClassTidy.Json.Display
import ClassTidy.Text.Numeral

/-! Reading records from JSON values. -/

namespace ClassTidy

inductive ShapeError
  | noFields (kind : String)
  | missingField (key : String)
  | noNamedParts (value : Json)
  | noItems (kind : String)
  | notANumber (kind : String)
  | badNumeral (text : String)
  | tooManyDigits (count : Nat)
  | undefinedNumber
  | infiniteNumber
  | notAPair (index : Nat)
  | pairLength (index length : Nat)
  | badKey (kind : String)
  | matchersNotList
  | groupsNotList
  | locatorsNotList
  | notALocator (value : Json)
  | optionsNotObject
  | unknownOptions (keys : List String)
  | notAGroupDefinition
  | notALocatorEntry

namespace ShapeError

def locatorMessage (value : Json) : String :=
  "locator entry must be a string or a pair of strings, got: " ++ value.display

def message : ShapeError → String
  | noFields kind => "'" ++ kind ++ "' object has no attribute 'get'"
  | missingField key => quote key
  | noNamedParts (.str _) => "string indices must be integers, not 'str'"
  | noNamedParts (.list _) => "list indices must be integers or slices, not str"
  | noNamedParts value => "'" ++ value.kindName ++ "' object is not subscriptable"
  | noItems kind => "'" ++ kind ++ "' object is not iterable"
  | notANumber kind =>
    "int() argument must be a string, a bytes-like object or a real number, not '" ++ kind ++ "'"
  | badNumeral text =>
    -- The text is shown in 200 characters at most.
    "invalid literal for int() with base 10: " ++ String.ofList ((quote text).toList.take 200)
  | tooManyDigits count => Text.tooManyDigitsMessage count
  | undefinedNumber => "cannot convert float NaN to integer"
  | infiniteNumber => "cannot convert float infinity to integer"
  | notAPair index =>
    "cannot convert dictionary update sequence element #" ++ toString index ++ " to a sequence"
  | pairLength index length =>
    "dictionary update sequence element #" ++ toString index ++ " has length " ++
      toString length ++ "; 2 is required"
  | badKey kind => "unhashable type: '" ++ kind ++ "'"
  | matchersNotList => "group definition 'matchers' must be a list of strings"
  | groupsNotList => "groupDefinitions must be a list"
  | locatorsNotList => "classRegex must be a list"
  | notALocator value => locatorMessage value
  | optionsNotObject => "lint config must be a JSON object"
  | unknownOptions keys => "Unknown lint config option(s): " ++ ", ".intercalate keys
  | notAGroupDefinition => "group_definitions must contain GroupDefinition instances"
  | notALocatorEntry => "class_regex must contain LocatorEntry instances"

end ShapeError

namespace Json

abbrev Shaped := Except ShapeError

def fields : Json → Shaped (List (String × Json))
  | object fields => .ok fields
  | v => .error (.noFields v.kindName)

def field? (v : Json) (key : String) : Shaped (Option Json) :=
  v.fields.map fun fields => fields.lookup key

def field (v : Json) (key : String) : Shaped Json :=
  match v with
  | object fields =>
    match fields.lookup key with
    | some w => .ok w
    | none => .error (.missingField key)
  | v => .error (.noNamedParts v)

def items : Json → Shaped (List Json)
  | list items => .ok items
  | str s => .ok (s.toList.map fun c => str c.toString)
  | object fields => .ok (fields.map fun (k, _) => str k)
  | v => .error (.noItems v.kindName)

def orElse (v : Option Json) (other : Json) : Json :=
  match v with
  | some v => if v.isTruthy then v else other
  | none => other

/-- The whole number that a value stands for: truth values count as zero and one, and a fraction is cut
off. -/
def toInt : Json → Shaped Int
  | int n => .ok n
  | bool b => .ok (if b then 1 else 0)
  | float x =>
    match Decimal.Binary.ofFloat x with
    | .notANumber => .error .undefinedNumber
    | .infinite _ => .error .infiniteNumber
    | .finite negative m e _ =>
      let n : Int := Decimal.Binary.wholePart m e
      .ok (if negative then -n else n)
  | str s =>
    (Text.integerValue s.toList).mapError fun
      | .malformed => .badNumeral s
      | .tooManyDigits count => .tooManyDigits count
  | v => .error (.notANumber v.kindName)

def keyText : Json → Shaped String
  | str s => .ok s
  | null => .ok "null"
  | bool b => .ok (if b then "true" else "false")
  | list _ => .error (.badKey "list")
  | object _ => .error (.badKey "dict")
  | v => .ok v.display

def pairField (index : Nat) (v : Json) : Shaped (String × Json) :=
  match v.items with
  | .ok [k, w] => k.keyText.map fun key => (key, w)
  | .ok vs => .error (.pairLength index vs.length)
  | .error _ => .error (.notAPair index)

def tableFields : Json → Shaped (List (String × Json))
  | object fields => .ok fields
  | v => do
    let pairs ← (← v.items).zipIdx.mapM fun (w, i) => pairField i w
    return pairs.foldl (fun acc (k, w) => setField k w acc) []

end Json

end ClassTidy
