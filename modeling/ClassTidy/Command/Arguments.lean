import ClassTidy.Json.Basic
import ClassTidy.Text.DecimalDigit

/-! Command line arguments: switches, which may be shortened or joined, and positional ones. -/

namespace ClassTidy.Command

structure Switch where
  spellings : List String
  takesValue : Bool
deriving DecidableEq, Repr

def Switch.label (s : Switch) : String := "/".intercalate s.spellings

def Switch.help : Switch := ⟨["-h", "--help"], false⟩

inductive Arity
  | one
  | atLeastOne
  | any
deriving DecidableEq, Repr

structure Manual where
  program : String
  usage : String
  description : String
  switches : List Switch
  positional : String
  arity : Arity

structure Arguments where
  switches : List (Switch × Option String) := []
  positionals : List String := []

namespace Arguments

def has (a : Arguments) (spelling : String) : Bool :=
  a.switches.any fun (s, _) => s.spellings.contains spelling

def value? (a : Arguments) (spelling : String) : Option String :=
  (a.switches.reverse.find? fun (s, _) => s.spellings.contains spelling).bind Prod.snd

end Arguments

inductive Refusal
  | help
  | ambiguous (argument : String) (candidates : List String)
  | expectsValue (switch : Switch)
  | ignoredValue (switch : Switch) (value : String)
  | missing (positional : String)
  | unrecognized (arguments : List String)
deriving DecidableEq, Repr

def Refusal.message : Refusal → String
  | help => ""
  | ambiguous argument candidates =>
    "ambiguous option: " ++ argument ++ " could match " ++ ", ".intercalate candidates
  | expectsValue switch => "argument " ++ switch.label ++ ": expected one argument"
  | ignoredValue switch value =>
    "argument " ++ switch.label ++ ": ignored explicit argument " ++ quote value
  | missing positional => "the following arguments are required: " ++ positional
  | unrecognized arguments => "unrecognized arguments: " ++ " ".intercalate arguments

structure Written where
  switch : Switch
  spelling : String
  value : Option String
deriving DecidableEq, Repr

inductive Tag
  | positional
  | separator
  | switch (written : Option Written)
deriving DecidableEq, Repr

def isNegativeNumber (t : Text) : Bool :=
  match t with
  | '-' :: rest =>
    let body := if rest.getLast? = some '\n' then rest.dropLast else rest
    let (whole, fraction) := body.span Text.isDecimalDigit
    match fraction with
    | [] => !whole.isEmpty
    | '.' :: places => !places.isEmpty && places.all Text.isDecimalDigit
    | _ => false
  | _ => false

def cutValue (t : Text) : Text × Option Text :=
  match t.span (· ≠ '=') with
  | (name, _ :: value) => (name, some value)
  | (name, []) => (name, none)

namespace Manual

def spellings (m : Manual) : List (String × Switch) :=
  m.switches.flatMap fun s => s.spellings.map fun spelling => (spelling, s)

def spelled? (m : Manual) (t : Text) (value : Option Text) : Option Written :=
  (m.spellings.lookup (String.ofList t)).map
    fun s => ⟨s, String.ofList t, value.map String.ofList⟩

/-- The switches that an argument may stand for: those that it shortens, or the short one that it is
joined to. -/
def candidates (m : Manual) (t : Text) : List Written :=
  match t with
  | '-' :: '-' :: _ =>
    let (name, value) := cutValue t
    (m.spellings.filter fun (spelling, _) => name.isPrefixOf spelling.toList).map
      fun (spelling, s) => ⟨s, spelling, value.map String.ofList⟩
  | _ =>
    m.spellings.filterMap fun (spelling, s) =>
      if spelling.toList = t.take 2 then some ⟨s, spelling, some (String.ofList (t.drop 2))⟩
      else if t.isPrefixOf spelling.toList then some ⟨s, spelling, none⟩
      else none

def tagOf (m : Manual) (argument : String) : Except Refusal Tag :=
  let t := argument.toList
  let (name, value) := cutValue t
  if t.head? ≠ some '-' then .ok .positional
  else
    match m.spelled? t none with
    | some w => .ok (.switch (some w))
    | none =>
      if t.length = 1 then .ok .positional
      else
        match if value.isSome then m.spelled? name value else none with
        | some w => .ok (.switch (some w))
        | none =>
          match m.candidates t with
          | [] =>
            if isNegativeNumber t || t.contains ' ' then .ok .positional
            else .ok (.switch none)
          | [w] => .ok (.switch (some w))
          | ws => .error (.ambiguous argument (ws.map Written.spelling))

def tagAll (m : Manual) : List String → Except Refusal (List (String × Tag))
  | [] => .ok []
  | argument :: rest =>
    if argument = "--" then
      .ok ((argument, .separator) :: rest.map fun a => (a, .positional))
    else do
      let tag ← m.tagOf argument
      return (argument, tag) :: (← tagAll m rest)

def beforeSwitch (tagged : List (String × Tag)) : List (String × Tag) :=
  tagged.takeWhile fun (_, tag) => match tag with
    | .switch _ => false
    | _ => true

/-- How many of the arguments at the front are the positional ones of the command; `none` if too few
stand there. -/
def positionalCount (m : Manual) (tagged : List (String × Tag)) : Option Nat :=
  let together := beforeSwitch tagged
  let separators := together.takeWhile fun (_, tag) => tag = .separator
  match m.arity with
  | .any => some together.length
  | .atLeastOne => if separators.length < together.length then some together.length else none
  | .one =>
    match together.drop separators.length with
    | [] => none
    | _ :: behind =>
      some (separators.length + 1 + (behind.takeWhile fun (_, tag) => tag = .separator).length)

structure Progress where
  arguments : Arguments := {}
  positionalsTaken : Bool := false
  unrecognized : List String := []

def Progress.takePositionals (p : Progress) (taken : List String) : Progress :=
  { p with
    arguments := { p.arguments with positionals := taken.erase "--" }, positionalsTaken := true }

def Progress.addSwitch (p : Progress) (s : Switch) (value : Option String) :
    Except Refusal Progress :=
  if s = Switch.help then .error .help
  else
    .ok { p with arguments := { p.arguments with switches := p.arguments.switches ++ [(s, value)] } }

def Progress.setAside (p : Progress) (arguments : List String) : Progress :=
  { p with unrecognized := p.unrecognized ++ arguments }

def isShort (spelling : String) : Bool :=
  match spelling.toList with
  | '-' :: '-' :: _ => false
  | _ => true

def joined (m : Manual) (s : Switch) : Text → Except Refusal (List Switch)
  | [] => .ok [s]
  | c :: rest =>
    match m.spellings.lookup (String.ofList ['-', c]) with
    | some next => (joined m next rest).map (s :: ·)
    | none => .error (.ignoredValue s (String.ofList (c :: rest)))

def takeJoined (m : Manual) (p : Progress) (w : Written) (value : String) :
    Except Refusal Progress :=
  if w.switch.takesValue then p.addSwitch w.switch (some value)
  else if isShort w.spelling && !value.isEmpty then do
    let switches ← m.joined w.switch value.toList
    switches.foldlM (fun p s => p.addSwitch s none) p
  else .error (.ignoredValue w.switch value)

-- Takes arguments one switch or one run of positional ones at a time. The bound is the number of
-- arguments.
def take (m : Manual) : (bound : Nat) → Progress → List (String × Tag) → Except Refusal Progress
  | 0, p, _ => .ok p
  | bound + 1, p, tagged =>
    match tagged with
    | (argument, .switch none) :: rest => take m bound (p.setAside [argument]) rest
    | (_, .switch (some w)) :: rest =>
      match w.value with
      | some value => do take m bound (← m.takeJoined p w value) rest
      | none =>
        if w.switch.takesValue then
          match rest with
          | (value, .positional) :: rest => do
            take m bound (← p.addSwitch w.switch (some value)) rest
          | _ => .error (.expectsValue w.switch)
        else do take m bound (← p.addSwitch w.switch none) rest
    | tagged =>
      match if p.positionalsTaken then none else m.positionalCount tagged with
      | some n =>
        let p := p.takePositionals ((tagged.take n).map Prod.fst)
        if n = 0 ∧ tagged = [] then .ok p else take m bound p (tagged.drop n)
      | none =>
        let aside := (beforeSwitch tagged).map Prod.fst
        if tagged = [] then .ok p
        else take m bound (p.setAside aside) (tagged.drop aside.length)

def readArguments (m : Manual) (arguments : List String) : Except Refusal Arguments := do
  let tagged ← m.tagAll arguments
  let p ← m.take (2 * tagged.length + 2) {} tagged
  if !p.positionalsTaken then throw (.missing m.positional)
  if !p.unrecognized.isEmpty then throw (.unrecognized p.unrecognized)
  return p.arguments

end Manual

end ClassTidy.Command
