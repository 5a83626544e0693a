import ClassTidy.Proofs.Matching
import ClassTidy.Proofs.Regions
import Mathlib

/-! The inner pattern of the default locators. -/

namespace ClassTidy

open Pattern

namespace Locator

open Fallible Source

def quoteClass : CharClass := ⟨false, [.range 34 34, .range 39 39, .range 96 96]⟩

def quotedNode : Node := .seq (.one quoteClass .exact) (.upTo quoteClass 1)

def quotedPattern : Pattern := ⟨LocatorEntry.quotedArgument.toList, 1, quotedNode⟩

def callNode (opening : Text) : Node :=
  opening.foldr (fun c node => .seq (.one (.single c.toNat) .exact) node) (.upTo (.single 41) 0)

def ofCall (name : String) : Locator :=
  ⟨.ofCall name, ⟨(LocatorEntry.ofCall name).outer.toList, 1, callNode (name.toList ++ ['('])⟩,
    some quotedPattern⟩

lemma compile_quotedArgument : Pattern.compile LocatorEntry.quotedArgument.toList = .ok quotedPattern := by
  decide +kernel

lemma compile_ofCall {name : String} (h : name ∈ LocatorEntry.callNames) :
    compile (.ofCall name) = .ok (ofCall name) := by
  have houter : ∀ name ∈ LocatorEntry.callNames,
      Pattern.compile (LocatorEntry.ofCall name).outer.toList = .ok (ofCall name).outer := by
    decide +kernel
  have hinner : (LocatorEntry.ofCall name).inner = some LocatorEntry.quotedArgument := rfl
  simp only [compile, SetupError.compile, houter name h, hinner, Option.mapM_some, compile_quotedArgument,
    Except.mapError, bind, Except.bind]
  rfl

lemma compileAll_none : compileAll none = .ok (LocatorEntry.callNames.map ofCall) := by
  simp only [compileAll, Option.getD_none, LocatorEntry.defaults, mapM_eq_ok_iff, List.forall₂_map_left_iff,
    List.forall₂_map_right_iff, List.forall₂_same]
  exact fun name => compile_ofCall

lemma range_contains (n : Nat) (c : Char) :
    (ClassItem.range n n).contains .exact c = decide (c.toNat = n) := by
  have hexact : (CaseRule.exact == CaseRule.foldedAscii) = false := rfl
  simp only [ClassItem.contains, CaseRule.variants, List.any_nil, hexact, Bool.false_and, Bool.or_false,
    ← Bool.decide_and, decide_eq_decide]
  omega

lemma single_contains (c d : Char) : (CharClass.single c.toNat).contains .exact d = decide (d = c) := by
  have hchar : d.toNat = c.toNat ↔ d = c := Char.toNat_inj
  simp [CharClass.contains, CharClass.single, range_contains, hchar]

lemma quoteClass_contains (c : Char) : quoteClass.contains .exact c = isQuote c := by
  have hchar : ∀ d : Char, c.toNat = d.toNat ↔ c = d := fun _ => Char.toNat_inj
  have h22 : c.toNat = 34 ↔ c = '\x22' := hchar '\x22'
  have h27 : c.toNat = 39 ↔ c = '\x27' := hchar '\x27'
  have h60 : c.toNat = 96 ↔ c = '\x60' := hchar '\x60'
  simp [CharClass.contains, quoteClass, range_contains, isQuote, h22, h27, h60, Bool.or_assoc]

def QuoteFree (t : Text) : Prop := ∀ c ∈ t, isQuote c = false

instance (t : Text) : Decidable (QuoteFree t) := List.decidableBAll (fun c => isQuote c = false) t

section Quoted

variable {before t v : Text} {offset : Nat}

lemma run_quotedNode {q : Char} (hq : isQuote q = true) {rest : Text} (hv : QuoteFree v)
    (hrest : ∀ c ∈ rest.head?, isQuote c = true) (k : Continuation) :
    quotedNode.run ⟨before, q :: (v ++ rest), offset, []⟩ k =
      if v = [] then none
      else takeRunner isQuote ⟨v.reverse ++ q :: before, rest, offset + 1 + v.length,
        [(1, offset + 1, offset + 1 + v.length)]⟩ k := by
  have hopen : quotedNode.run ⟨before, q :: (v ++ rest), offset, []⟩ k =
      (Node.upTo quoteClass 1).run ⟨q :: before, v ++ rest, offset + 1, []⟩ k := by
    simp [quotedNode, Node.run, Place.take?, quoteClass_contains, hq]
  have hclass : quoteClass.contains .exact = isQuote := funext quoteClass_contains
  rw [hopen, run_upTo (by simpa [hclass] using! hv) (by simpa [hclass] using hrest), hclass]
  cases v <;> simp

lemma matchAt_quotedNode_code {c : Char} (hc : isQuote c = false) :
    quotedNode.matchAt false ⟨before, c :: t, offset, []⟩ = none := by
  simp [Node.matchAt, quotedNode, Node.run, Place.take?, quoteClass_contains, hc]

lemma matchAt_quotedNode_short {q : Char} (hq : isQuote q = true) {rest : Text} (hv : QuoteFree v)
    (hrest : ∀ c ∈ rest.head?, isQuote c = true) (hshort : v = [] ∨ rest = []) :
    quotedNode.matchAt false ⟨before, q :: (v ++ rest), offset, []⟩ = none := by
  rw [Node.matchAt, run_quotedNode hq hv hrest]
  rcases hshort with rfl | rfl
  · rfl
  · rw [takeRunner_neg (by simp), ite_self, Option.map_none]

lemma matchAt_quotedNode_run {q q' : Char} (hq : isQuote q = true) (hq' : isQuote q' = true)
    (hv : QuoteFree v) (hne : v ≠ []) :
    quotedNode.matchAt false ⟨before, q :: (v ++ q' :: t), offset, []⟩ =
      some ⟨offset, offset + (v.length + 2), [(1, offset + 1, offset + 1 + v.length)]⟩ := by
  rw [Node.matchAt, run_quotedNode hq hv (by simp [hq']), if_neg hne, takeRunner_cons_pos hq']
  simp
  omega

def quotedSpansFrom (before t : Text) (offset : Nat) : List Span :=
  (quotedNode.matchesFrom t before offset 0).filterMap fun m =>
    (literalSpan quotedPattern m).toOption

lemma quotedSpansFrom_nil : quotedSpansFrom before [] offset = [] := by
  rw [quotedSpansFrom, matchesFrom_nil rfl, List.filterMap_nil]

lemma quotedSpansFrom_code {c : Char} (hc : isQuote c = false) :
    quotedSpansFrom before (c :: t) offset = quotedSpansFrom (c :: before) t (offset + 1) := by
  rw [quotedSpansFrom, matchesFrom_of_none (matchAt_quotedNode_code hc), quotedSpansFrom]

lemma quotedSpansFrom_quoteFree {x : Text} (hx : QuoteFree x) :
    quotedSpansFrom before (x ++ t) offset =
      quotedSpansFrom (x.reverse ++ before) t (offset + x.length) := by
  induction x generalizing before offset with
  | nil => rfl
  | cons c x ih =>
    rw [List.cons_append, quotedSpansFrom_code (hx c List.mem_cons_self),
      ih fun d hd => hx d (List.mem_cons_of_mem c hd)]
    simp [Nat.add_assoc, Nat.add_comm 1]

lemma quotedSpansFrom_short {q : Char} (hq : isQuote q = true) {rest : Text} (hv : QuoteFree v)
    (hrest : ∀ c ∈ rest.head?, isQuote c = true) (hshort : v = [] ∨ rest = []) :
    quotedSpansFrom before (q :: (v ++ rest)) offset =
      quotedSpansFrom (q :: before) (v ++ rest) (offset + 1) := by
  rw [quotedSpansFrom, matchesFrom_of_none (matchAt_quotedNode_short hq hv hrest hshort),
    quotedSpansFrom]

lemma quotedSpansFrom_run {q q' : Char} (hq : isQuote q = true) (hq' : isQuote q' = true)
    (hv : QuoteFree v) (hne : v ≠ []) :
    quotedSpansFrom before (q :: (v ++ q' :: t)) offset = ⟨offset + 1, offset + 1 + v.length⟩ ::
      quotedSpansFrom (q' :: (v.reverse ++ q :: before)) t (offset + (v.length + 2)) := by
  have hlen : (q :: (v ++ [q'])).length = v.length + 2 := by simp
  have happ : (q :: (v ++ [q'])) ++ t = q :: (v ++ q' :: t) := by simp
  have hat : quotedNode.matchAt false ⟨before, (q :: (v ++ [q'])) ++ t, offset, []⟩ =
      some ⟨offset, offset + (q :: (v ++ [q'])).length,
        [(1, offset + 1, offset + 1 + v.length)]⟩ := by
    rw [happ, hlen, matchAt_quotedNode_run hq hq' hv hne]
  have hall := matchesFrom_of_some (by simp) hat
  have hspan : literalSpan quotedPattern
      ⟨offset, offset + (v.length + 2), [(1, offset + 1, offset + 1 + v.length)]⟩ =
        .ok ⟨offset + 1, offset + 1 + v.length⟩ := by
    simp [literalSpan, quotedPattern, Match.captured?]
  rw [happ, hlen] at hall
  simp [quotedSpansFrom, hall, hspan, Except.toOption]

end Quoted

lemma spansInside_ofCall (name : String) (t : Text) (region : Span) :
    (ofCall name).spansInside t region =
      (quotedSpansFrom [] (region.text t) 0).map fun s => s.shift region.start := by
  simp only [spansInside, ofCall, matchesIn, quotedPattern, quotedSpansFrom]
  rw [List.map_filterMap]

lemma mem_distinct {α : Type} [DecidableEq α] (as : List α) (a : α) : a ∈ distinct as ↔ a ∈ as := by
  have hfold : ∀ seen : List α,
      a ∈ as.foldl (fun seen b => if b ∈ seen then seen else seen ++ [b]) seen ↔ a ∈ seen ∨ a ∈ as := by
    induction as with
    | nil => simp
    | cons b as ih =>
      intro seen
      rw [List.foldl_cons, ih]
      by_cases hb : b ∈ seen
      · rw [if_pos hb, List.mem_cons]
        constructor
        · rintro (hs | has)
          · exact Or.inl hs
          · exact Or.inr (Or.inr has)
        · rintro (hs | rfl | has)
          · exact Or.inl hs
          · exact Or.inl hb
          · exact Or.inr has
      · rw [if_neg hb, List.mem_append, List.mem_singleton, List.mem_cons, or_assoc]
  rw [distinct, hfold]
  simp

lemma mem_spans (l : Locator) (t : Text) (s : Span) :
    s ∈ l.spans t ↔ ∃ region, .ok region ∈ l.regions t ∧ s ∈ l.spansInside t region := by
  rw [spans, mem_distinct, List.mem_flatMap]
  constructor
  · rintro ⟨found, hfound, hs⟩
    cases found with
    | error opened => cases hs
    | ok region => exact ⟨region, hfound, hs⟩
  · rintro ⟨region, hregion, hs⟩
    exact ⟨.ok region, hregion, hs⟩

end Locator

end ClassTidy
