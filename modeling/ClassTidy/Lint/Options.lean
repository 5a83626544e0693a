import ClassTidy.Group.Definition
import ClassTidy.Sorting
import ClassTidy.Source.Locator

/-! The options of checking, and how they are read from JSON. -/

namespace ClassTidy

structure LintOptions where
  locators : Option (List LocatorEntry) := none
  groups : List GroupDefinition := []
  attributes : Bool := true
  debug : Bool := false

namespace LintOptions

def usesDefaultGroups (o : LintOptions) : Bool := o.groups.isEmpty

def knownKeys : List String := ["classRegex", "groupDefinitions", "attributes", "debug"]

def unknownKeys (fields : List (String × Json)) : List String :=
  sortBy (fun a b => decide (a ≤ b)) ((fields.map Prod.fst).filter fun k => !knownKeys.contains k)

def locatorItems : Option Json → Except ShapeError (Option (List Json))
  | none => .ok none
  | some .null => .ok none
  | some (.list items) => .ok (some items)
  | some _ => .error .locatorsNotList

def groupItems (v : Option Json) : Except ShapeError (List Json) :=
  match Json.orElse v (.list []) with
  | .list items => .ok items
  | _ => .error .groupsNotList

def truth (v : Option Json) (default : Bool) : Bool :=
  match v with
  | some v => v.isTruthy
  | none => default

def ofFields (fields : List (String × Json)) : Except ShapeError LintOptions := do
  let unknown := unknownKeys fields
  if !unknown.isEmpty then throw (.unknownOptions unknown)
  let locatorItems ← locatorItems (fields.lookup "classRegex")
  let groupItems ← groupItems (fields.lookup "groupDefinitions")
  let locators ← locatorItems.mapM fun items => items.mapM LocatorEntry.ofJson
  let groups ← groupItems.mapM GroupDefinition.ofJson
  return ⟨locators, groups, truth (fields.lookup "attributes") true,
    truth (fields.lookup "debug") false⟩

def ofJson : Json → Except ShapeError LintOptions
  | .object fields => ofFields fields
  | _ => .error .optionsNotObject

def ofGroupItems (items : List (Option GroupDefinition)) : Except ShapeError LintOptions :=
  match items.mapM id with
  | some groups => .ok { groups := groups }
  | none => .error .notAGroupDefinition

def ofLocatorItems (items : List (Option LocatorEntry)) : Except ShapeError LintOptions :=
  match items.mapM id with
  | some locators => .ok { locators := some locators }
  | none => .error .notALocatorEntry

end LintOptions

end ClassTidy
