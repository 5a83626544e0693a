import ClassTidy.Conflict.Merge
import ClassTidy.Group.Default
import ClassTidy.Token.Order

/-! Formatting class lists: blanks are collapsed, tokens sorted, and conflicts resolved. -/

namespace ClassTidy

/-- Takes tokens with blanks between them and gives back those that stay, or fails. -/
abbrev Resolver (ε : Type) := Text → Except ε Text

namespace Resolver

variable {ε : Type}

def ofTable (table : Conflict.Table) : Resolver ε := fun t => .ok (table.merge t)

def default : Resolver ε := ofTable .default

end Resolver

structure Formatter (ε : Type) where
  registry : Registry
  resolve : Resolver ε

namespace Formatter

variable {ε : Type}

def ofGroups (groups : List GroupDefinition) (resolve : Resolver ε) :
    Except SetupError (Formatter ε) :=
  if groups.isEmpty then .ok ⟨.default, resolve⟩
  else (Registry.compile groups).map fun registry => ⟨registry, resolve⟩

def changed (old new : Text) : Option Text :=
  if new = old then none else some new

def format (f : Formatter ε) (raw : Text) : Except ε (Option Text) :=
  let collapsed := Text.collapse raw
  let tokens := collapsed.splitOn ' '
  if collapsed.isEmpty then .ok none
  else if tokens.length ≤ 1 then .ok (changed raw collapsed)
  else
    (f.resolve (Text.unwords (f.registry.sortTokens tokens))).map fun resolved =>
      let merged := Text.collapse resolved
      if merged = collapsed then changed raw collapsed else some merged

end Formatter

end ClassTidy
