import ClassTidy.Group.Default
import ClassTidy.Proofs.Fallible
import Mathlib.Order.Bounds.Basic

/-! What a registry is for its group definitions. -/

namespace ClassTidy

open Fallible

def FirstAfter {α : Type} (P : α → Prop) (as : List α) (a : α) : Prop :=
  ∃ front back, as = front ++ a :: back ∧ ∀ x ∈ front, P x

namespace GroupDefinition

def Compiles (matcher : Json) (p : Pattern) : Prop :=
  ∃ source, matcher = .str source ∧ Pattern.compile source.toList = .ok p

structure Valid (d : GroupDefinition) : Prop where
  nonempty : d.matchers ≠ []
  compiles : ∀ m ∈ d.matchers, ∃ p, Compiles m p

def Takes (d : GroupDefinition) (t : Text) : Prop :=
  ∃ m ∈ d.matchers, ∃ p, Compiles m p ∧ p.occursIn t = true

inductive MatcherFault (group : String) : Json → SetupError → Prop
  | notText {m : Json} (h : ∀ source, m ≠ .str source) :
    MatcherFault group m (.pattern (.matcherNotText group m))
  | malformed {source : String} {error : Pattern.Error}
    (h : Pattern.compile source.toList = .error (.malformed error)) :
    MatcherFault group (.str source) (.pattern (.badMatcher group source error))
  | countTooLarge {source : String} (h : Pattern.compile source.toList = .error .countTooLarge) :
    MatcherFault group (.str source) .countTooLarge
  | badValue {source : String} {value : Pattern.BadValue}
    (h : Pattern.compile source.toList = .error (.badValue value)) :
    MatcherFault group (.str source) (.badValue value)

inductive Fault (d : GroupDefinition) : SetupError → Prop
  | noMatchers (h : d.matchers = []) : d.Fault (.pattern (.noMatchers d.name))
  | matcher {m : Json} {e : SetupError} (h : FirstAfter (∃ p, Compiles · p) d.matchers m)
    (hm : MatcherFault d.name m e) : d.Fault e

/-- The matchers of the definition that are texts have patterns or are malformed: none counts too far or
has a value that no pattern can have. -/
def InRange (d : GroupDefinition) : Prop :=
  ∀ source failure, Json.str source ∈ d.matchers → Pattern.compile source.toList = .error failure →
    ∃ error, failure = .malformed error

lemma Compiles.unique {m : Json} {p q : Pattern} (hp : Compiles m p) (hq : Compiles m q) : p = q := by
  obtain ⟨source, rfl, hp⟩ := hp
  obtain ⟨_, hsource, hq⟩ := hq
  obtain rfl := Json.str.inj hsource
  exact Except.ok.inj (hp.symm.trans hq)

lemma MatcherFault.not_compiles {group : String} {m : Json} {e : SetupError}
    (h : MatcherFault group m e) : ¬ ∃ p, Compiles m p := by
  rintro ⟨p, source, rfl, hp⟩
  cases h with
  | notText h => exact h source rfl
  | malformed h => simp [h] at hp
  | countTooLarge h => simp [h] at hp
  | badValue h => simp [h] at hp

lemma Fault.exists_pattern {d : GroupDefinition} {e : SetupError} (h : d.Fault e) (hd : d.InRange) :
    ∃ fault, e = .pattern fault := by
  cases h with
  | noMatchers => exact ⟨_, rfl⟩
  | @matcher m _ h hm =>
    obtain ⟨front, back, hcut, -⟩ := h
    have hmem : m ∈ d.matchers := by simp [hcut]
    cases hm with
    | notText => exact ⟨_, rfl⟩
    | malformed => exact ⟨_, rfl⟩
    | countTooLarge h => simpa using hd _ _ hmem h
    | badValue h => simpa using hd _ _ hmem h

lemma Fault.names {d : GroupDefinition} {fault : PatternFault} (h : d.Fault (.pattern fault)) :
    fault.group? = some d.name ∧
      (d.matchers = [] ∧ fault.pattern? = none ∨
        ∃ m, FirstAfter (∃ p, Compiles · p) d.matchers m ∧ (¬ ∃ p, Compiles m p) ∧
          fault.pattern? = some m) := by
  cases h with
  | noMatchers h => exact ⟨rfl, Or.inl ⟨h, rfl⟩⟩
  | @matcher m _ h hm =>
    have hbad := hm.not_compiles
    cases hm with
    | notText => exact ⟨rfl, Or.inr ⟨_, h, hbad, rfl⟩⟩
    | malformed => exact ⟨rfl, Or.inr ⟨_, h, hbad, rfl⟩⟩

end GroupDefinition

namespace Registry

open GroupDefinition

variable {d : GroupDefinition} {definitions : List GroupDefinition} {r : Registry} {place : Nat}

section Matchers

variable {group : String} {m : Json}

lemma compileMatcher_eq_ok_iff {p : Pattern} : compileMatcher group m = .ok p ↔ Compiles m p := by
  cases m with
  | str source => simp [compileMatcher, SetupError.compile, mapError_eq_ok_iff, Compiles]
  | _ => simp [compileMatcher, Compiles]

lemma matcherFault_of_compileMatcher {e : SetupError} (h : compileMatcher group m = .error e) :
    MatcherFault group m e := by
  cases m with
  | str source =>
    obtain ⟨failure, hfailure, rfl⟩ := mapError_eq_error_iff.mp h
    cases failure with
    | malformed error => exact .malformed hfailure
    | countTooLarge => exact .countTooLarge hfailure
    | badValue value => exact .badValue hfailure
  | _ => exact Except.error.inj h ▸ .notText (by simp)

end Matchers

lemma compileGroup_eq_ok_iff {g : Group} :
    compileGroup d place = .ok g ↔
      d.matchers ≠ [] ∧ ∃ patterns, List.Forall₂ Compiles d.matchers patterns ∧
        ⟨d.name, place, patterns⟩ = g := by
  by_cases hempty : d.matchers = []
  · simp [compileGroup, hempty]
  · simp [compileGroup, hempty, map_eq_ok_iff, mapM_eq_ok_iff, compileMatcher_eq_ok_iff]

lemma exists_compileGroup_iff : (∃ g, compileGroup d place = .ok g) ↔ d.Valid := by
  have hpatterns : (∃ patterns, List.Forall₂ Compiles d.matchers patterns) ↔
      ∀ m ∈ d.matchers, ∃ p, Compiles m p := by
    simpa only [mapM_eq_ok_iff, compileMatcher_eq_ok_iff] using
      exists_mapM_eq_ok_iff (f := compileMatcher d.name)
  simp only [compileGroup_eq_ok_iff]
  constructor
  · rintro ⟨_, hne, patterns, hall, -⟩
    exact ⟨hne, hpatterns.mp ⟨patterns, hall⟩⟩
  · rintro ⟨hne, hall⟩
    obtain ⟨patterns, hall⟩ := hpatterns.mpr hall
    exact ⟨_, hne, patterns, hall, rfl⟩

lemma fault_of_compileGroup {e : SetupError} (h : compileGroup d place = .error e) : d.Fault e := by
  by_cases hempty : d.matchers = []
  · rw [compileGroup, if_pos (by simp [hempty])] at h
    exact Except.error.inj h ▸ .noMatchers hempty
  · rw [compileGroup, if_neg (by simp [hempty]), map_eq_error_iff, mapM_eq_error_iff] at h
    obtain ⟨front, m, back, hcut, hfront, hm⟩ := h
    simp only [compileMatcher_eq_ok_iff] at hfront
    exact .matcher ⟨front, back, hcut, hfront⟩ (matcherFault_of_compileMatcher hm)

lemma exists_compile_iff : (∃ r, compile definitions = .ok r) ↔ ∀ d ∈ definitions, d.Valid := by
  rw [compile, exists_mapM_eq_ok_iff]
  simp only [exists_compileGroup_iff]
  constructor
  · intro h d hd
    obtain ⟨i, hi, rfl⟩ := List.getElem_of_mem hd
    exact h (definitions[i], i) (by simp [List.mem_zipIdx_iff_getElem?])
  · rintro h ⟨d, i⟩ hd
    exact h d (List.fst_mem_of_mem_zipIdx hd)

lemma fault_of_compile {e : SetupError} (h : compile definitions = .error e) :
    ∃ d, FirstAfter Valid definitions d ∧ d.Fault e := by
  rw [compile, mapM_eq_error_iff] at h
  obtain ⟨front, ⟨d, i⟩, back, hcut, hfront, hd⟩ := h
  simp only [exists_compileGroup_iff] at hfront
  have hsplit : definitions = front.map Prod.fst ++ d :: back.map Prod.fst := by
    simpa using congrArg (List.map Prod.fst) hcut
  refine ⟨d, ⟨_, _, hsplit, ?_⟩, fault_of_compileGroup hd⟩
  intro x hx
  obtain ⟨y, hy, rfl⟩ := List.mem_map.mp hx
  exact hfront y hy

structure Holds (r : Registry) (definitions : List GroupDefinition) : Prop where
  length : r.length = definitions.length
  group : ∀ (i : Nat) (d : GroupDefinition), definitions[i]? = some d → ∃ patterns,
    r[i]? = some ⟨d.name, i, patterns⟩ ∧ List.Forall₂ Compiles d.matchers patterns

lemma holds_of_compile (h : compile definitions = .ok r) : r.Holds definitions := by
  rw [compile, mapM_eq_ok_iff] at h
  refine ⟨by simpa using h.length_eq.symm, ?_⟩
  intro i d hd
  obtain ⟨hi, rfl⟩ := List.getElem?_eq_some_iff.mp hd
  have hr : i < r.length := by simpa [← h.length_eq] using hi
  have hgroup := h.get (by simpa using hi) hr
  simp only [List.get_eq_getElem, List.getElem_zipIdx, Nat.zero_add] at hgroup
  obtain ⟨-, patterns, hall, hg⟩ := compileGroup_eq_ok_iff.mp hgroup
  exact ⟨patterns, by rw [List.getElem?_eq_getElem hr, ← hg], hall⟩

lemma any_occursIn_iff {matchers : List Json} {patterns : List Pattern}
    (h : List.Forall₂ Compiles matchers patterns) (t : Text) :
    (patterns.any fun p => p.occursIn t) = true ↔
      ∃ m ∈ matchers, ∃ p, Compiles m p ∧ p.occursIn t = true := by
  induction h with
  | nil => simp
  | @cons m p matchers patterns hmp _ ih =>
    have hfirst : (∃ q, Compiles m q ∧ q.occursIn t = true) ↔ p.occursIn t = true := by
      constructor
      · rintro ⟨q, hq, hoccurs⟩
        exact hmp.unique hq ▸ hoccurs
      · intro hoccurs
        exact ⟨p, hmp, hoccurs⟩
    simp only [List.any_cons, Bool.or_eq_true, ih, List.exists_mem_cons_iff, hfirst]

lemma Holds.group_at (h : r.Holds definitions) {i : Nat} (hd : definitions[i]? = some d) (t : Text) :
    ∃ g, r[i]? = some g ∧ g.weight = i ∧ (g.matches t = true ↔ d.Takes t) := by
  obtain ⟨patterns, hg, hall⟩ := h.group i d hd
  exact ⟨_, hg, rfl, any_occursIn_iff hall t⟩

lemma Holds.name_at (h : r.Holds definitions) (i : Nat) :
    r[i]?.map Group.name = definitions[i]?.map GroupDefinition.name := by
  cases hd : definitions[i]? with
  | none => simpa [h.length] using hd
  | some d =>
    obtain ⟨patterns, hg, -⟩ := h.group i d hd
    simp [hg]

lemma Holds.weight_spec (h : r.Holds definitions) (t : Text) :
    IsLeast {i : Nat | ∃ d, definitions[i]? = some d ∧ d.Takes t} (r.weight t) ∨
      (∀ d ∈ definitions, ¬ d.Takes t) ∧ r.weight t = definitions.length := by
  cases hfind : r.find? fun g => g.matches t with
  | none =>
    refine Or.inr ⟨?_, by simp only [weight, hfind, h.length]⟩
    intro d hd htakes
    obtain ⟨i, hi⟩ := List.mem_iff_getElem?.mp hd
    obtain ⟨g, hg, -, hiff⟩ := h.group_at hi t
    exact List.find?_eq_none.mp hfind g (List.mem_of_getElem? hg) (hiff.mpr htakes)
  | some found =>
    obtain ⟨hmatches, i, hi, rfl, hbefore⟩ := List.find?_eq_some_iff_getElem.mp hfind
    have hlt : i < definitions.length := h.length ▸ hi
    have hd : definitions[i]? = some definitions[i] := List.getElem?_eq_getElem hlt
    obtain ⟨g, hg, hgi, hiff⟩ := h.group_at hd t
    obtain rfl := Option.some.inj ((List.getElem?_eq_getElem hi).symm.trans hg)
    -- the group that is found stands at the place that its weight says
    have hweight : r.weight t = i := by simp only [weight, hfind, hgi]
    rw [hweight]
    refine Or.inl ⟨⟨_, hd, hiff.mp hmatches⟩, ?_⟩
    rintro j ⟨d, hd, htakes⟩
    by_contra hji
    have hjr : j < r.length := by omega
    obtain ⟨g, hg, -, hiff⟩ := h.group_at hd t
    obtain rfl := Option.some.inj ((List.getElem?_eq_getElem hjr).symm.trans hg)
    have hj := hbefore j (by omega)
    simp [hiff.mpr htakes] at hj

lemma isOk_compile_defaults : (compile GroupDefinition.defaults).isOk = true := by
  decide +kernel

-- so the default registry never falls back to no groups at all
lemma compile_defaults : compile GroupDefinition.defaults = .ok .default := by
  obtain ⟨r, hr⟩ := exists_eq_ok_iff.mpr isOk_compile_defaults
  rw [Registry.default, hr]
  rfl

/-- Definitions have a registry if each has matchers and all of these compile. The registry has their groups
in order, and gives a class the place of the first definition with a matcher that occurs in it, or their
number if there is none. Otherwise the fault of the first bad definition is told. It names the definition and
its first bad matcher, unless that matcher counts too far or has a value that no pattern can have. -/
theorem registry_follows_definitions (definitions : List GroupDefinition) :
    ((∃ r, compile definitions = .ok r) ↔ ∀ d ∈ definitions, d.Valid) ∧
    (∀ r, compile definitions = .ok r →
      r.Holds definitions ∧
      ∀ t, (IsLeast {i : Nat | ∃ d, definitions[i]? = some d ∧ d.Takes t} (r.weight t) ∨
          (∀ d ∈ definitions, ¬ d.Takes t) ∧ r.weight t = definitions.length) ∧
        r[r.weight t]?.map Group.name = definitions[r.weight t]?.map GroupDefinition.name) ∧
    ((¬ ∀ d ∈ definitions, d.Valid) →
      ∃ e d, compile definitions = .error e ∧ FirstAfter Valid definitions d ∧ d.Fault e ∧
        (d.InRange → ∃ fault, e = .pattern fault) ∧
        ∀ fault, e = .pattern fault → fault.group? = some d.name ∧
          (d.matchers = [] ∧ fault.pattern? = none ∨
            ∃ m, FirstAfter (∃ p, Compiles · p) d.matchers m ∧ (¬ ∃ p, Compiles m p) ∧
              fault.pattern? = some m)) := by
  refine ⟨exists_compile_iff, ?_, ?_⟩
  · intro r hr
    have hholds := holds_of_compile hr
    exact ⟨hholds, fun t => ⟨hholds.weight_spec t, hholds.name_at _⟩⟩
  · intro hinvalid
    cases hcompile : compile definitions with
    | ok r => exact absurd (exists_compile_iff.mp ⟨r, hcompile⟩) hinvalid
    | error e =>
      obtain ⟨d, hfirst, hfault⟩ := fault_of_compile hcompile
      refine ⟨e, d, rfl, hfirst, hfault, hfault.exists_pattern, ?_⟩
      rintro fault rfl
      exact hfault.names

-- both groups have a matcher for `hidden`; the second list has three faults, and the first of them is told
theorem registry_follows_definitions_overlapping :
    let good : List GroupDefinition := [.group "first" ["^x$", "hid"], .group "second" ["^hidden$", "^z-"]]
    let bad : List GroupDefinition :=
      [.group "first" ["^x$"], ⟨"second", [.str "^z-", .str "a(", .int 3]⟩, .group "third" []]
    (∃ r, compile good = .ok r ∧ (∀ d ∈ good, d.Valid) ∧ r.Holds good ∧
      [r.weight "hidden".toList, r.weight "z-1".toList, r.weight "y".toList] = [0, 1, 2]) ∧
    (¬ ∀ d ∈ bad, d.Valid) ∧
      ∃ fault d, compile bad = .error (.pattern fault) ∧ FirstAfter Valid bad d ∧ d.Fault (.pattern fault) ∧
        fault.group? = some d.name ∧ fault.message =
          "Invalid matcher in group 'second': 'a(' (missing ), unterminated subpattern at position 1)" := by
  intro good bad
  have hweights : ((compile good).toOption.map fun r =>
      [r.weight "hidden".toList, r.weight "z-1".toList, r.weight "y".toList]) = some [0, 1, 2] := by
    decide +kernel
  have hmessage : ((compile bad).map fun _ => ()).mapError
      (fun e => match e with | .pattern fault => some fault.message | _ => none) = .error (some
      "Invalid matcher in group 'second': 'a(' (missing ), unterminated subpattern at position 1)") := by
    decide +kernel
  have hinvalid : ¬ ∀ d ∈ bad, d.Valid := by
    intro h
    exact (h (.group "third" []) (by simp [bad])).nonempty rfl
  obtain ⟨hvalid, hholds, -⟩ := registry_follows_definitions good
  obtain ⟨-, -, hfault⟩ := registry_follows_definitions bad
  obtain ⟨e, d, hcompile, hfirst, hd, -, hnames⟩ := hfault hinvalid
  cases hr : compile good with
  | error e =>
    rw [hr] at hweights
    cases hweights
  | ok r =>
    refine ⟨⟨r, rfl, hvalid.mp ⟨r, hr⟩, (hholds r hr).1, ?_⟩, hinvalid, ?_⟩
    · simpa [hr, Except.toOption] using hweights
    · rw [hcompile] at hmessage
      cases e with
      | pattern fault =>
        exact ⟨fault, d, hcompile, hfirst, hd, (hnames fault rfl).1,
          Option.some.inj (Except.error.inj hmessage)⟩
      | countTooLarge => cases hmessage
      | badValue value => cases hmessage

end Registry

end ClassTidy
