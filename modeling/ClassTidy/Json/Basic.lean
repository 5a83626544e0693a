import ClassTidy.Decimal.Shortest
import ClassTidy.Text.Quoted

/-! JSON values. -/

namespace ClassTidy

inductive Json
  | null
  | bool (b : Bool)
  | int (n : Int)
  | float (x : Float)
  | str (s : String)
  | list (items : List Json)
  | object (fields : List (String × Json))

def quote (s : String) : String := Text.quoted s.toList

namespace Json

def setField (key : String) (value : Json) : List (String × Json) → List (String × Json)
  | [] => [(key, value)]
  | (k, v) :: fields =>
    if k = key then (key, value) :: fields else (k, v) :: setField key value fields

def ofFields (fields : List (String × Json)) : Json :=
  object (fields.foldl (fun acc (k, v) => setField k v acc) [])

def isTruthy : Json → Bool
  | null => false
  | bool b => b
  | int n => n ≠ 0
  | float x => x != 0
  | str s => !s.isEmpty
  | list items => !items.isEmpty
  | object fields => !fields.isEmpty

def kindName : Json → String
  | null => "NoneType"
  | bool _ => "bool"
  | int _ => "int"
  | float _ => "float"
  | str _ => "str"
  | list _ => "list"
  | object _ => "dict"

def ofTexts (ts : List Text) : Json :=
  list (ts.map fun t => str (String.ofList t))

end Json

end ClassTidy
