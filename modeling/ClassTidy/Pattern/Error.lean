import ClassTidy.Text.Basic
import ClassTidy.Text.Numeral
import ClassTidy.Text.Quoted

/-! What can be wrong with the source of a pattern. -/

namespace ClassTidy.Pattern

inductive Problem
  | unterminatedGroup
  | unterminatedComment
  | unbalancedParenthesis
  | unterminatedClass
  | nothingToRepeat
  | multipleRepeat
  | leastAboveMost
  | badRange (spelling : Text)
  | danglingEscape
  | badEscape (spelling : Text)
  | incompleteEscape (spelling : Text)
  | octalTooLarge (spelling : Text)
  | missingBrace
  | missingCharacterName
  | undefinedCharacter (name : Text)
  | invalidReference (group : Nat)
  | openReference
  | referenceInLookBehind
  | missingName
  | unterminatedName (terminator : Char)
  | badName (name : Text)
  | unknownName (name : Text)
  | redefinedName (name : Text) (group earlier : Nat)
  | badGroupNumber
  | tooManyBranches
  | unexpectedEnd
  | unknownExtension (spelling : Text)
  | misplacedFlags
  | unknownFlag
  | missingFlag
  | missingFlagsEnd
  | missingColon
  | flagOnAndOff
  | localeFlag
  | mixedFlags
  | globalFlagOn
  | globalFlagOff
  | alphabetFlagOff
  | variableLookBehind
  | lookBehindTooLong
  | noRepetition (name : String)
deriving DecidableEq, Repr

def Problem.message : Problem → String
  | unterminatedGroup => "missing ), unterminated subpattern"
  | unterminatedComment => "missing ), unterminated comment"
  | unbalancedParenthesis => "unbalanced parenthesis"
  | unterminatedClass => "unterminated character set"
  | nothingToRepeat => "nothing to repeat"
  | multipleRepeat => "multiple repeat"
  | leastAboveMost => "min repeat greater than max repeat"
  | badRange spelling => "bad character range " ++ String.ofList spelling
  | danglingEscape => "bad escape (end of pattern)"
  | badEscape spelling => "bad escape " ++ String.ofList spelling
  | incompleteEscape spelling => "incomplete escape " ++ String.ofList spelling
  | octalTooLarge spelling =>
    "octal escape value " ++ String.ofList spelling ++ " outside of range 0-0o377"
  | missingBrace => "missing \x7b"
  | missingCharacterName => "missing character name"
  | undefinedCharacter name => "undefined character name " ++ Text.quoted name
  | invalidReference group => "invalid group reference " ++ toString group
  | openReference => "cannot refer to an open group"
  | referenceInLookBehind => "cannot refer to group defined in the same lookbehind subpattern"
  | missingName => "missing group name"
  | unterminatedName terminator => "missing " ++ terminator.toString ++ ", unterminated name"
  | badName name => "bad character in group name " ++ Text.quoted name
  | unknownName name => "unknown group name " ++ Text.quoted name
  | redefinedName name group earlier =>
    "redefinition of group name " ++ Text.quoted name ++ " as group " ++ toString group ++
      "; was group " ++ toString earlier
  | badGroupNumber => "bad group number"
  | tooManyBranches => "conditional backref with more than two branches"
  | unexpectedEnd => "unexpected end of pattern"
  | unknownExtension spelling => "unknown extension " ++ String.ofList spelling
  | misplacedFlags => "global flags not at the start of the expression"
  | unknownFlag => "unknown flag"
  | missingFlag => "missing flag"
  | missingFlagsEnd => "missing -, : or )"
  | missingColon => "missing :"
  | flagOnAndOff => "bad inline flags: flag turned on and off"
  | localeFlag => "bad inline flags: cannot use 'L' flag with a str pattern"
  | mixedFlags => "bad inline flags: flags 'a', 'u' and 'L' are incompatible"
  | globalFlagOn => "bad inline flags: cannot turn on global flag"
  | globalFlagOff => "bad inline flags: cannot turn off global flag"
  | alphabetFlagOff => "bad inline flags: cannot turn off flags 'a', 'u' and 'L'"
  | variableLookBehind => "look-behind requires fixed-width pattern"
  | lookBehindTooLong => "looks too much behind"
  | noRepetition name => "internal: unsupported template operator " ++ name

structure Error where
  problem : Problem
  position : Option Nat
  source : Text
deriving DecidableEq, Repr

-- The place is counted from zero. A source of several lines also gets line and column.
def Error.message (e : Error) : String :=
  match e.position with
  | none => e.problem.message
  | some p =>
    let base := e.problem.message ++ " at position " ++ toString p
    if e.source.contains '\n' then
      base ++ " (line " ++ toString (Text.lineEndsBefore e.source p + 1) ++
        ", column " ++ toString (Text.columnOf e.source p + 1) ++ ")"
    else base

inductive BadValue
  | mixedAlphabets
  | tooManyDigits (count : Nat)
deriving DecidableEq, Repr

def BadValue.message : BadValue → String
  | mixedAlphabets => "ASCII and UNICODE flags are incompatible"
  | tooManyDigits count => Text.tooManyDigitsMessage count

inductive Failure
  | malformed (error : Error)
  | countTooLarge
  | badValue (value : BadValue)
deriving DecidableEq, Repr

end ClassTidy.Pattern
