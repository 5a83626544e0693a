import ClassTidy.Json.Basic

/-! JSON values as messages show them: quoted texts, `None` for null, and capitalised truth values. -/

namespace ClassTidy.Json

def displayFloat (x : Float) : String :=
  match Decimal.Binary.ofFloat x with
  | .notANumber => "nan"
  | .infinite negative => if negative then "-inf" else "inf"
  | .finite negative m e narrowBelow => String.ofList (Decimal.writeFinite negative m e narrowBelow)

mutual

def display : Json → String
  | null => "None"
  | bool b => if b then "True" else "False"
  | int n => toString n
  | float x => displayFloat x
  | str s => quote s
  | list items => "[" ++ ", ".intercalate (displayItems items) ++ "]"
  | object fields => "\x7b" ++ ", ".intercalate (displayFields fields) ++ "\x7d"

def displayItems : List Json → List String
  | [] => []
  | v :: vs => display v :: displayItems vs

def displayFields : List (String × Json) → List String
  | [] => []
  | (k, v) :: fields => (quote k ++ ": " ++ display v) :: displayFields fields

end

def asText : Json → String
  | str s => s
  | v => display v

end ClassTidy.Json
