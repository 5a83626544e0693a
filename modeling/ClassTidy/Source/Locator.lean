import ClassTidy.Pattern.Match
import ClassTidy.Setup
import ClassTidy.Sorting
import ClassTidy.Source.Literal

/-! Locators: calls found by an outer pattern, and class lists found in their arguments. -/

namespace ClassTidy

structure LocatorEntry where
  outer : String
  inner : Option String
deriving DecidableEq, Repr

namespace LocatorEntry

def ofJson? : Json → Option LocatorEntry
  | .str outer => some ⟨outer, none⟩
  | .list [.str outer, .str inner] => some ⟨outer, some inner⟩
  | _ => none

def ofJson (v : Json) : Except ShapeError LocatorEntry :=
  match ofJson? v with
  | some entry => .ok entry
  | none => .error (.notALocator v)

def toJson (e : LocatorEntry) : Json :=
  match e.inner with
  | none => .str e.outer
  | some inner => .list [.str e.outer, .str inner]

def quotedArgument : String := "[\x22'\x60]([^\x22'\x60]+)[\x22'\x60]"

def callNames : List String := ["cva", "clsx", "cn", "twMerge"]

def ofCall (name : String) : LocatorEntry :=
  ⟨name ++ "\\(([^)]*)\\)", some quotedArgument⟩

def defaults : List LocatorEntry := callNames.map ofCall

end LocatorEntry

structure EmptyMatch where
  position : Int
deriving DecidableEq, Repr

def EmptyMatch.message (e : EmptyMatch) : String :=
  "Zero-length match at offset " ++ toString e.position

structure Locator where
  entry : LocatorEntry
  outer : Pattern
  inner : Option Pattern

namespace Locator

def compile (entry : LocatorEntry) : Except SetupError Locator := do
  let outer ← SetupError.compile entry.outer (.badLocator .outer entry.outer)
  let inner ← entry.inner.mapM fun source =>
    SetupError.compile source (.badLocator .inner source)
  return ⟨entry, outer, inner⟩

def compileAll (entries : Option (List LocatorEntry)) : Except SetupError (List Locator) :=
  (entries.getD LocatorEntry.defaults).mapM compile

def compileJson (entries : List Json) : Except SetupError (List Locator) :=
  entries.mapM fun v =>
    match LocatorEntry.ofJson? v with
    | some entry => compile entry
    | none => .error (.pattern (.notALocator v))

/-- The part of a match that counts: its first group if that was captured, else all of it. A match of no
characters has none. -/
def literalSpan (p : Pattern) (m : Match) : Except EmptyMatch Span :=
  if m.stop = m.start then .error ⟨m.start⟩
  else
    match if p.groups ≥ 1 then m.captured? 1 else none with
    | some (start, stop) => .ok ⟨start, stop⟩
    | none => .ok ⟨m.start, m.stop⟩

def regionOf (t : Text) (m : Match) : Option (Except Nat Span) :=
  if m.stop = m.start then none
  else
    (Source.openParen? t m.start m.stop).map fun opened =>
      match Source.closeFrom? (t.drop (opened + 1)) with
      | some n => .ok ⟨opened + 1, opened + 1 + n⟩
      | none => .error opened

def regions (l : Locator) (t : Text) : List (Except Nat Span) :=
  (l.outer.matchesIn t).filterMap (regionOf t)

/-- The class lists inside a region. Without an inner pattern and without literals it is the whole
region. -/
def spansInside (l : Locator) (t : Text) (region : Span) : List Span :=
  let inside := region.text t
  match l.inner with
  | some p =>
    (p.matchesIn inside).filterMap fun m =>
      (literalSpan p m).toOption.map fun s => s.shift region.start
  | none =>
    match Source.literals inside with
    | [] => [region]
    | found => found.map fun s => s.shift region.start

def spans (l : Locator) (t : Text) : List Span :=
  distinct ((l.regions t).flatMap fun
    | .ok region => l.spansInside t region
    | .error _ => [])

def extract (ls : List Locator) (t : Text) : List (Span × Text) :=
  ls.flatMap fun l => (l.spans t).map fun s => (s, s.text t)

def unclosed (l : Locator) (t : Text) : List Nat :=
  (l.regions t).filterMap fun
    | .ok _ => none
    | .error opened => some opened

end Locator

end ClassTidy
