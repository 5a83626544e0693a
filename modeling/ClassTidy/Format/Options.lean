import ClassTidy.Group.Definition

/-! The options of formatting, and how they are read from JSON. -/

namespace ClassTidy

structure FormatOptions where
  groups : List GroupDefinition := []

namespace FormatOptions

def usesDefaultGroups (o : FormatOptions) : Bool := o.groups.isEmpty

def ofJson (v : Json) : Except ShapeError FormatOptions := do
  let fields ← v.fields
  let raw := (fields.lookup "groupDefinitions").or (fields.lookup "group_definitions")
  return ⟨← GroupDefinition.listOfJson raw⟩

def ofItems (items : List (Option GroupDefinition)) : Except ShapeError FormatOptions :=
  match items.mapM id with
  | some groups => .ok ⟨groups⟩
  | none => .error .notAGroupDefinition

end FormatOptions

end ClassTidy
