import ClassTidy.Proofs.ArgumentGrammar
import ClassTidy.Proofs.Fallible
import ClassTidy.Proofs.MatchBounds
import ClassTidy.Proofs.Swapping

/-! What locators extract stays between the parentheses of a call. -/

namespace ClassTidy

open Fallible

lemma Span.length_text {s : Span} {t : Text} (h : s.stop ≤ t.length) : (s.text t).length = s.stop - s.start := by
  simp [text, Text.between, h]

namespace Source

def OpensAt (t : Text) (i : Nat) : Prop := t[i]? = some '(' ∧ (i = 0 ∨ t[i - 1]? ≠ some '\\')

structure FirstOpen (t : Text) (start stop o : Nat) : Prop where
  behind : start ≤ o
  before : o < stop
  opens : OpensAt t o
  first : ∀ i, start ≤ i → i < o → ¬ OpensAt t i

lemma opensAt_length (u t : Text) (c : Char) :
    OpensAt (u ++ c :: t) u.length ↔ c = '(' ∧ u.getLast? ≠ some '\\' := by
  have hget : (u ++ c :: t)[u.length]? = some c := by simp
  rw [OpensAt, hget, Option.some.injEq]
  apply and_congr_right'
  rcases List.eq_nil_or_concat u with rfl | ⟨v, d, rfl⟩
  · simp
  · simp

lemma opensAt_take {t : Text} {i stop : Nat} (h : i < stop) : OpensAt (t.take stop) i ↔ OpensAt t i := by
  rw [OpensAt, OpensAt, List.getElem?_take_of_lt h, List.getElem?_take_of_lt (by omega)]

lemma openFrom_eq_some_iff (u t : Text) (n : Nat) :
    openFrom? u.getLast? t = some n ↔ n < t.length ∧ OpensAt (u ++ t) (u.length + n) ∧
      ∀ i < n, ¬ OpensAt (u ++ t) (u.length + i) := by
  induction t generalizing u n with
  | nil => simp [openFrom?]
  | cons c t ih =>
    have hfirst := opensAt_length u t c
    have hrest := ih (u ++ [c])
    simp only [List.getLast?_append, List.getLast?_singleton, Option.some_or, List.append_assoc,
      List.singleton_append, List.length_append, List.length_singleton] at hrest
    rw [openFrom?]
    split
    · rename_i hopen
      have hopens := hfirst.mpr hopen
      constructor
      · rintro ⟨⟩
        exact ⟨by simp, hopens, by simp⟩
      · rintro ⟨-, -, hbefore⟩
        cases n with
        | zero => rfl
        | succ n => exact absurd hopens (hbefore 0 (by omega))
    · rename_i hnot
      rw [Option.map_eq_some_iff]
      constructor
      · rintro ⟨m, hm, rfl⟩
        obtain ⟨hlt, hopens, hbefore⟩ := (hrest m).mp hm
        refine ⟨by simpa using hlt, by rwa [Nat.add_right_comm] at hopens, ?_⟩
        intro i hi
        cases i with
        | zero => exact fun hopens => hnot (hfirst.mp hopens)
        | succ i =>
          have hh := hbefore i (by omega)
          rwa [Nat.add_right_comm] at hh
      · rintro ⟨hlt, hopens, hbefore⟩
        cases n with
        | zero => exact absurd (hfirst.mp hopens) hnot
        | succ n =>
          refine ⟨n, (hrest n).mpr ⟨by simpa using hlt, by rwa [Nat.add_right_comm], ?_⟩, rfl⟩
          intro i hi
          rw [Nat.add_right_comm]
          exact hbefore (i + 1) (by omega)

lemma openParen_eq_some_iff {t : Text} {start stop o : Nat} (hle : start ≤ stop) (hstop : stop ≤ t.length) :
    openParen? t start stop = some o ↔ FirstOpen t start stop o := by
  have hlast : (if start = 0 then none else t[start - 1]?) = (t.take start).getLast? := by
    rw [List.getLast?_take]
    split
    · rfl
    · rw [List.getElem?_eq_getElem (by omega)]
      rfl
  have hsplit : t.take start ++ (t.take stop).drop start = t.take stop := by
    have hcut := List.take_append_drop start (t.take stop)
    rwa [List.take_take, Nat.min_eq_left hle] at hcut
  have hlen : (t.take start).length = start := by simp; omega
  have hslice : ((t.take stop).drop start).length = stop - start := by simp; omega
  simp only [openParen?, Text.slice, Text.position_natCast (hle.trans hstop), Text.position_natCast hstop, hlast,
    Option.map_eq_some_iff, openFrom_eq_some_iff, hsplit, hlen, hslice]
  constructor
  · rintro ⟨n, ⟨hn, hopens, hbefore⟩, rfl⟩
    refine ⟨by omega, by omega, (opensAt_take (by omega)).mp hopens, ?_⟩
    intro i hi hlt
    have hh := hbefore (i - start) (by omega)
    rwa [Nat.add_sub_cancel' hi, opensAt_take (by omega)] at hh
  · intro h
    have hbehind := h.behind
    have hbefore := h.before
    refine ⟨o - start, ⟨by omega, ?_, ?_⟩, by omega⟩
    · rw [Nat.add_sub_cancel' hbehind, opensAt_take hbefore]
      exact h.opens
    · intro i hi
      rw [opensAt_take (by omega)]
      exact h.first _ (by omega) (by omega)

lemma literals_bounds {t : Text} {s : Span} (h : s ∈ literals t) : s.start ≤ s.stop ∧ s.stop ≤ t.length := by
  obtain ⟨before, after, heq⟩ := List.append_of_mem h
  obtain ⟨u, q, v, rest, rfl, -, -, -, -, rfl, -⟩ := exists_literal heq
  simp
  omega

end Source

namespace Locator

open Source

structure Calls (t : Text) (m : Match) (o c : Nat) : Prop where
  nonempty : m.start < m.stop
  opening : FirstOpen t m.start m.stop o
  closing : closeParen t o = .ok (c : Int)

lemma Calls.bounds {t : Text} {m : Match} {o c : Nat} (h : Calls t m o c) : o < c ∧ c ≤ t.length := by
  have hcloses := (closeParen_eq_ok_iff t o c).mp h.closing
  exact ⟨hcloses.behind, hcloses.inside.le⟩

lemma regionOf_eq_ok_iff {t : Text} {m : Match} (hm : m.Within t.length) (region : Span) :
    regionOf t m = some (.ok region) ↔ ∃ o c, Calls t m o c ∧ region = ⟨o + 1, c⟩ := by
  have hopen : ∀ o, openParen? t m.start m.stop = some o ↔ FirstOpen t m.start m.stop o :=
    fun o => openParen_eq_some_iff hm.ordered hm.inside
  constructor
  · intro h
    obtain ⟨o, u, rest, hparen, hdrop, rfl, hu⟩ := regionOf_eq_ok h
    have hfirst := (hopen o).mp hparen
    have hcloses := closesAt_of_drop hdrop ((after_eq_code_iff_balanced u).mp hu)
    exact ⟨o, _, ⟨hfirst.behind.trans_lt hfirst.before, hfirst,
      (closeParen_eq_ok_iff t o _).mpr hcloses⟩, rfl⟩
  · rintro ⟨o, c, h, rfl⟩
    obtain ⟨n, hclose, rfl⟩ := (closesAt_iff t o c).mp ((closeParen_eq_ok_iff t o c).mp h.closing)
    rw [regionOf, if_neg (by have hne := h.nonempty; omega), (hopen o).mpr h.opening]
    simp [hclose]

lemma literalSpan_bounds {p : Pattern} {m : Match} {n : Nat} {s : Span} (hm : m.Within n)
    (h : literalSpan p m = .ok s) : s.start ≤ s.stop ∧ s.stop ≤ n := by
  unfold literalSpan at h
  split at h
  · cases h
  · split at h
    · rename_i i j hcaptured
      obtain rfl := Except.ok.inj h
      rw [Option.ite_none_right_eq_some] at hcaptured
      exact hm.captured hcaptured.2
    · obtain rfl := Except.ok.inj h
      exact ⟨hm.ordered, hm.inside⟩

lemma spansInside_bounds {l : Locator} {t : Text} {s : Span} (region : Span)
    (hregion : region.start ≤ region.stop) (hstop : region.stop ≤ t.length) (h : s ∈ l.spansInside t region) :
    region.start ≤ s.start ∧ s.start ≤ s.stop ∧ s.stop ≤ region.stop := by
  have hlen : (region.text t).length = region.stop - region.start := Span.length_text hstop
  have hshift : ∀ s' : Span, s'.start ≤ s'.stop ∧ s'.stop ≤ (region.text t).length →
      s'.shift region.start = s → region.start ≤ s.start ∧ s.start ≤ s.stop ∧ s.stop ≤ region.stop := by
    rintro s' hs' rfl
    simp only [Span.shift]
    omega
  simp only [spansInside] at h
  split at h
  · rename_i p _
    obtain ⟨m, hm, hspan⟩ := List.mem_filterMap.mp h
    obtain ⟨s', hs', heq⟩ := Option.map_eq_some_iff.mp hspan
    refine hshift s' (literalSpan_bounds (Pattern.within_of_mem_matchesIn hm) (p := p) ?_) heq
    cases hl : literalSpan p m with
    | error e => simp [hl, Except.toOption] at hs'
    | ok s₁ =>
      obtain rfl : s₁ = s' := by simpa [hl, Except.toOption] using hs'
      rfl
  · split at h
    · obtain rfl := List.mem_singleton.mp h
      exact ⟨Nat.le_refl _, hregion, Nat.le_refl _⟩
    · obtain ⟨s', hs', heq⟩ := List.mem_map.mp h
      exact hshift s' (literals_bounds hs') heq

lemma mem_spans_iff_calls (l : Locator) (t : Text) (s : Span) :
    s ∈ l.spans t ↔ ∃ m ∈ l.outer.matchesIn t, ∃ o c, Calls t m o c ∧ s ∈ l.spansInside t ⟨o + 1, c⟩ := by
  rw [mem_spans]
  constructor
  · rintro ⟨region, hregion, hs⟩
    obtain ⟨m, hm, hof⟩ := List.mem_filterMap.mp hregion
    obtain ⟨o, c, hcalls, rfl⟩ := (regionOf_eq_ok_iff (Pattern.within_of_mem_matchesIn hm) _).mp hof
    exact ⟨m, hm, o, c, hcalls, hs⟩
  · rintro ⟨m, hm, o, c, hcalls, hs⟩
    refine ⟨⟨o + 1, c⟩, List.mem_filterMap.mpr ⟨m, hm, ?_⟩, hs⟩
    exact (regionOf_eq_ok_iff (Pattern.within_of_mem_matchesIn hm) _).mpr ⟨o, c, hcalls, rfl⟩

lemma distinct_nodup {α : Type} [DecidableEq α] (as : List α) : (distinct as).Nodup := by
  have hfold : ∀ seen : List α, seen.Nodup →
      (as.foldl (fun seen a => if a ∈ seen then seen else seen ++ [a]) seen).Nodup := by
    induction as with
    | nil => exact fun seen hseen => hseen
    | cons a as ih =>
      intro seen hseen
      apply ih
      dsimp only
      split
      · exact hseen
      · rename_i hnew
        exact hseen.append (List.nodup_singleton a) (by simpa using hnew)
  exact hfold [] List.nodup_nil

/-- What a locator finds in a text: no place twice, each one inside of a call, and all that stands in
calls. Matches that find no call add nothing. -/
structure Finds (l : Locator) (t : Text) (found : List (Span × Text)) : Prop where
  nodup : (found.map Prod.fst).Nodup
  inside : ∀ s value, (s, value) ∈ found → ∃ m ∈ l.outer.matchesIn t, ∃ o c, Calls t m o c ∧
    o < s.start ∧ s.start ≤ s.stop ∧ s.stop ≤ c ∧ value = Text.slice t s.start s.stop
  places : ∀ s, s ∈ found.map Prod.fst ↔
    ∃ m ∈ l.outer.matchesIn t, ∃ o c, Calls t m o c ∧ s ∈ l.spansInside t ⟨o + 1, c⟩

lemma finds_spans (l : Locator) (t : Text) : l.Finds t ((l.spans t).map fun s => (s, s.text t)) := by
  have hplaces : ((l.spans t).map fun s => (s, s.text t)).map Prod.fst = l.spans t := by
    rw [List.map_map]
    exact List.map_id _
  refine ⟨?_, ?_, ?_⟩
  · rw [hplaces]
    exact distinct_nodup _
  · intro s value hmem
    obtain ⟨s, hs, heq⟩ := List.mem_map.mp hmem
    cases heq
    obtain ⟨m, hm, o, c, hcalls, hinside⟩ := (mem_spans_iff_calls l t s).mp hs
    obtain ⟨hlt, hlen⟩ := hcalls.bounds
    obtain ⟨hstart, hle, hstop⟩ := spansInside_bounds ⟨o + 1, c⟩ hlt hlen hinside
    refine ⟨m, hm, o, c, hcalls, hstart, hle, hstop, ?_⟩
    rw [Text.slice, Text.position_natCast (hle.trans (hstop.trans hlen)),
      Text.position_natCast (hstop.trans hlen)]
    rfl
  · intro s
    rw [hplaces]
    exact mem_spans_iff_calls l t s

/-- Extraction goes through the entries in order, and what it takes for an entry stands between the
parentheses of calls that the outer pattern of this entry finds. -/
theorem extraction_stays_in_calls (entries : Option (List LocatorEntry)) (ls : List Locator)
    (h : compileAll entries = .ok ls) (t : Text) :
    ∃ found : List (List (Span × Text)), extract ls t = found.flatten ∧
      List.Forall₂ (fun e found => ∃ l, compile e = .ok l ∧ l.Finds t found)
        (entries.getD LocatorEntry.defaults) found := by
  refine ⟨ls.map fun l => (l.spans t).map fun s => (s, s.text t), rfl, ?_⟩
  rw [List.forall₂_map_right_iff]
  refine (mapM_eq_ok_iff.mp h).imp ?_
  intro e l hl
  exact ⟨l, hl, finds_spans l t⟩

-- the call that is not closed does not keep the one behind it from being found
theorem extraction_stays_in_calls_unclosed :
    let entries : Option (List LocatorEntry) := some [⟨"f\\(|g|", none⟩, ⟨"f\\(", some "(b)?a"⟩]
    let t : Text := "g f(' f(a)".toList
    ∃ ls, compileAll entries = .ok ls ∧ ∃ found, found.flatten = [(⟨8, 9⟩, ['a']), (⟨8, 9⟩, ['a'])] ∧
      List.Forall₂ (fun e found => ∃ l, compile e = .ok l ∧ l.Finds t found)
        (entries.getD LocatorEntry.defaults) found := by
  intro entries t
  have hextract : ((compileAll entries).toOption.map fun ls => extract ls t) =
      some [(⟨8, 9⟩, ['a']), (⟨8, 9⟩, ['a'])] := by decide +kernel
  cases hls : compileAll entries with
  | error e =>
    rw [hls] at hextract
    cases hextract
  | ok ls =>
    obtain ⟨found, heq, hfound⟩ := extraction_stays_in_calls entries ls hls t
    rw [hls] at hextract
    refine ⟨ls, rfl, found, ?_, hfound⟩
    rw [← heq]
    exact Option.some.inj hextract

end Locator

end ClassTidy
