import ClassTidy.Json.Shape

/-! Group definitions: named groups of utility classes with their matchers. -/

namespace ClassTidy

structure GroupDefinition where
  name : String
  matchers : List Json

namespace GroupDefinition

def ofJson (v : Json) : Except ShapeError GroupDefinition := do
  match ← v.field? "matchers" with
  | some (.list matchers) =>
    let name := Json.orElse (← v.field? "name") (.str "")
    return ⟨name.asText, matchers⟩
  | _ => throw .matchersNotList

def toJson (d : GroupDefinition) : Json :=
  .object [("name", .str d.name), ("matchers", .list d.matchers)]

def listOfJson (v : Option Json) : Except ShapeError (List GroupDefinition) :=
  match Json.orElse v (.list []) with
  | .list items => items.mapM ofJson
  | _ => .error .groupsNotList

end GroupDefinition

end ClassTidy
