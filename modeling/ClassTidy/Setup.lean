import ClassTidy.Json.Shape
import ClassTidy.Pattern.Compile

/-! What can be wrong with the patterns that groups and locators are set up with. -/

namespace ClassTidy

inductive LocatorPart
  | outer
  | inner
deriving DecidableEq, Repr

def LocatorPart.label : LocatorPart → String
  | outer => "outer"
  | inner => "inner"

inductive PatternFault
  | noMatchers (group : String)
  | matcherNotText (group : String) (matcher : Json)
  | badMatcher (group source : String) (error : Pattern.Error)
  | notALocator (entry : Json)
  | badLocator (part : LocatorPart) (source : String) (error : Pattern.Error)

namespace PatternFault

def message : PatternFault → String
  | noMatchers group => "Group " ++ quote group ++ " has no matchers"
  | matcherNotText group matcher =>
    "Group " ++ quote group ++ " matcher must be a string, got: " ++ matcher.display
  | badMatcher group source error =>
    "Invalid matcher in group " ++ quote group ++ ": " ++ quote source ++
      " (" ++ error.message ++ ")"
  | notALocator entry => ShapeError.locatorMessage entry
  | badLocator part source error =>
    "Invalid " ++ part.label ++ " locator pattern: " ++ quote source ++
      " (" ++ error.message ++ ")"

def group? : PatternFault → Option String
  | noMatchers group => some group
  | matcherNotText group _ => some group
  | badMatcher group _ _ => some group
  | _ => none

def pattern? : PatternFault → Option Json
  | noMatchers _ => none
  | matcherNotText _ matcher => some matcher
  | badMatcher _ source _ => some (.str source)
  | notALocator entry => some entry
  | badLocator _ source _ => some (.str source)

end PatternFault

inductive SetupError
  | pattern (fault : PatternFault)
  | countTooLarge
  | badValue (value : Pattern.BadValue)

namespace SetupError

def message : SetupError → String
  | pattern fault => fault.message
  | countTooLarge => "the repetition number is too large"
  | badValue value => value.message

def compile (source : String) (fault : Pattern.Error → PatternFault) : Except SetupError Pattern :=
  (Pattern.compile source.toList).mapError fun
    | .malformed error => .pattern (fault error)
    | .countTooLarge => .countTooLarge
    | .badValue value => .badValue value

end SetupError

end ClassTidy
