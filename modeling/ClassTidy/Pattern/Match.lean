import ClassTidy.Pattern.Basic

/-! Matching: a node hands each way in which it can match to a continuation, in order of preference. -/

namespace ClassTidy.Pattern

/-- A place in a text, with what the groups have captured on the way there, latest first. -/
structure Place where
  before : Text
  after : Text
  offset : Nat
  captures : List (Nat × Nat × Nat) := []

namespace Place

def start (t : Text) : Place := { before := [], after := t, offset := 0 }

def take? (p : Char → Bool) (s : Place) : Option Place :=
  match s.after with
  | [] => none
  | c :: rest =>
    if p c then some { s with before := c :: s.before, after := rest, offset := s.offset + 1 }
    else none

def takeAll? (same : Char → Char → Bool) : Text → Place → Option Place
  | [], s => some s
  | c :: cs, s => (s.take? (same c)).bind (takeAll? same cs)

def back? (s : Place) : Option Place :=
  match s.before with
  | [] => none
  | c :: rest => some { s with before := rest, after := c :: s.after, offset := s.offset - 1 }

def backBy? : Nat → Place → Option Place
  | 0, s => some s
  | n + 1, s => s.back?.bind (backBy? n)

def captured? (s : Place) (group : Nat) : Option (Nat × Nat) :=
  s.captures.lookup group

def textBetween (s : Place) (start stop : Nat) : Text :=
  ((s.before.drop (s.offset - stop)).take (stop - start)).reverse

def atTextStart (s : Place) : Bool := s.before.isEmpty

def atTextEnd (s : Place) : Bool := s.after.isEmpty

def atWordEdge (s : Place) (alphabet : Alphabet) : Bool :=
  let isWord := CharKind.contains alphabet .word
  s.before.head?.any isWord != s.after.head?.any isWord

end Place

-- Whether the anchor holds at a place. An empty text has no word edges, and no other places.
def Anchor.holds : Anchor → Place → Bool
  | textStart, s => s.atTextStart
  | textEnd, s => s.atTextEnd
  | lineStart, s => s.atTextStart || s.before.head? == some '\n'
  | lineEnd, s => s.atTextEnd || s.after.head? == some '\n'
  | lastLineEnd, s => s.atTextEnd || s.after == ['\n']
  | wordEdge alphabet, s => s.atWordEdge alphabet
  | noWordEdge alphabet, s => !(s.atTextStart && s.atTextEnd) && !s.atWordEdge alphabet

abbrev Continuation := Place → Option Place

/-- Runs something at a place and hands the places it can reach to a continuation. -/
abbrev Runner := Place → Continuation → Option Place

def Runner.times (body : Runner) : Nat → Runner
  | 0, s, k => k s
  | n + 1, s, k => body s fun s' => times body n s' k

-- Further times, at most `budget` if that is given. A round that started at `last` and took nothing
-- is not followed by another one. The bound falls with each round, and a bound above the number of
-- characters to come is never reached.
def Runner.further (body : Runner) (eager : Bool) : Nat → Option Nat → Option Nat → Runner
  | 0, _, _, s, k => k s
  | bound + 1, budget, last, s, k =>
    let more := if budget = some 0 ∨ last = some s.offset then none
      else body s fun s' => further body eager bound (budget.map (· - 1)) (some s.offset) s' k
    if eager then more.orElse fun _ => k s else (k s).orElse fun _ => more

def Runner.once (body : Runner) : Runner :=
  fun s k => (body s some).bind k

def Runner.repeated (body : Runner) (least : Nat) (most : Option Nat) (eager : Bool) : Runner :=
  fun s k => body.times least s fun s' =>
    further body eager (s'.after.length + 2) (most.map (· - least)) none s' k

namespace Node

def run : Node → Runner
  | empty, s, k => k s
  | one cls rule, s, k => (s.take? (cls.contains rule)).bind k
  | any lineEnd, s, k => (s.take? fun c => lineEnd || c != '\n').bind k
  | anchor a, s, k => if a.holds s then k s else none
  | seq a b, s, k => a.run s fun s' => b.run s' k
  | alt a b, s, k => (a.run s k).orElse fun _ => b.run s k
  | iterate body least most greed, s, k =>
    match greed with
    | .greedy => Runner.repeated (fun s k => body.run s k) least most true s k
    | .lazy => Runner.repeated (fun s k => body.run s k) least most false s k
    | .possessive =>
      -- Not even the rounds that must be made are gone back into.
      (Runner.repeated (Runner.once fun s k => body.run s k) least most true).once s k
  | capture group body, s, k =>
    body.run s fun s' => k { s' with captures := (group, s.offset, s'.offset) :: s'.captures }
  | atomic body, s, k => Runner.once (fun s k => body.run s k) s k
  | again group rule, s, k =>
    match s.captured? group with
    | none => none
    | some (start, stop) =>
      let same := fun a b => rule.lower a == rule.lower b
      (s.takeAll? same (s.textBetween start stop)).bind k
  | ifCaptured group yes no, s, k => if (s.captured? group).isSome then yes.run s k else no.run s k
  | lookAhead positive body, s, k =>
    match body.run s some with
    | some s' => if positive then k { s with captures := s'.captures } else none
    | none => if positive then none else k s
  | lookBehind positive width body, s, k =>
    match (s.backBy? width).bind fun b => body.run b some with
    | some s' => if positive then k { s with captures := s'.captures } else none
    | none => if positive then none else k s

end Node

end Pattern

open Pattern

structure Match where
  start : Nat
  stop : Nat
  captures : List (Nat × Nat × Nat)
deriving DecidableEq, Repr

def Match.captured? (m : Match) (group : Nat) : Option (Nat × Nat) :=
  m.captures.lookup group

namespace Pattern

def Node.matchAt (node : Node) (advance : Bool) (s : Place) : Option Match :=
  (node.run s fun s' => if advance && s'.offset == s.offset then none else some s').map
    fun s' => ⟨s.offset, s'.offset, s'.captures⟩

-- The matches that start at a place: one, or an empty one and the one behind it. Also says how many
-- characters they take.
def Node.matchesAt (node : Node) (s : Place) : List Match × Nat :=
  match node.matchAt false s with
  | none => ([], 0)
  | some m =>
    if m.stop = m.start then
      match node.matchAt true s with
      | none => ([m], 0)
      | some m' => ([m, m'], m'.stop - m'.start)
    else ([m], m.stop - m.start)

def Node.matchesFrom (node : Node) : (after before : Text) → (offset skip : Nat) → List Match
  | [], before, offset, 0 => (node.matchesAt { before, after := [], offset }).1
  | [], _, _, _ + 1 => []
  | c :: after, before, offset, 0 =>
    let (found, taken) := node.matchesAt { before, after := c :: after, offset }
    found ++ matchesFrom node after (c :: before) (offset + 1) (taken - 1)
  | c :: after, before, offset, skip + 1 =>
    matchesFrom node after (c :: before) (offset + 1) skip

def Node.occursFrom (node : Node) : (after before : Text) → (offset : Nat) → Bool
  | [], before, offset => (node.matchAt false { before, after := [], offset }).isSome
  | c :: after, before, offset =>
    (node.matchAt false { before, after := c :: after, offset }).isSome ||
      occursFrom node after (c :: before) (offset + 1)

def matchesIn (p : Pattern) (t : Text) : List Match :=
  p.node.matchesFrom t [] 0 0

def occursIn (p : Pattern) (t : Text) : Bool :=
  p.node.occursFrom t [] 0

end Pattern

end ClassTidy
