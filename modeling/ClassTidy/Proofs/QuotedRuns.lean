import ClassTidy.Proofs.Swapping

/-! The runs between quotes that the default locators find. -/

namespace ClassTidy.Locator

open Source

-- The runs between quotes from an offset on, when the last quote, if one is open, stands before
-- `start`.
def quotedRuns : (start : Option Nat) → (offset : Nat) → Text → List Span
  | _, _, [] => []
  | none, i, c :: t => quotedRuns (if isQuote c then some (i + 1) else none) (i + 1) t
  | some start, i, c :: t =>
    if isQuote c then
      if start = i then quotedRuns (some (i + 1)) (i + 1) t
      else ⟨start, i⟩ :: quotedRuns none (i + 1) t
    else quotedRuns (some start) (i + 1) t

lemma quotedRuns_quoteFree {v : Text} (hv : QuoteFree v) (start : Option Nat) (i : Nat) (t : Text) :
    quotedRuns start i (v ++ t) = quotedRuns start (i + v.length) t := by
  induction v generalizing i with
  | nil => rfl
  | cons c v ih =>
    have hc := hv c List.mem_cons_self
    have hrest := ih (fun d hd => hv d (List.mem_cons_of_mem c hd)) (i + 1)
    have hlen : i + 1 + v.length = i + (c :: v).length := by
      simp
      omega
    cases start with
    | none => simp [quotedRuns, hc, hrest, hlen]
    | some start => simp [quotedRuns, hc, hrest, hlen]

lemma quotedRuns_quote {q : Char} (hq : isQuote q = true) (i : Nat) (t : Text) :
    quotedRuns none i (q :: t) = quotedRuns (some (i + 1)) (i + 1) t := by
  rw [quotedRuns, if_pos hq]

lemma quotedRuns_close {q : Char} (hq : isQuote q = true) {start i : Nat} (hne : start ≠ i) (t : Text) :
    quotedRuns (some start) i (q :: t) = ⟨start, i⟩ :: quotedRuns none (i + 1) t := by
  rw [quotedRuns, if_pos hq, if_neg hne]

lemma quotedRuns_reopen {q : Char} (hq : isQuote q = true) (i : Nat) (t : Text) :
    quotedRuns (some i) i (q :: t) = quotedRuns (some (i + 1)) (i + 1) t := by
  rw [quotedRuns, if_pos hq, if_pos rfl]

lemma quotedRuns_run {v : Text} {r : Char} (hv : QuoteFree v) (hne : v ≠ []) (hr : isQuote r = true) (i : Nat)
    (t : Text) :
    quotedRuns (some i) i (v ++ r :: t) = ⟨i, i + v.length⟩ :: quotedRuns none (i + v.length + 1) t := by
  have hpos : 0 < v.length := List.length_pos_iff.mpr hne
  rw [quotedRuns_quoteFree hv, quotedRuns_close hr (by omega)]

lemma quotedRuns_eq_nil {t : Text} (ht : QuoteFree t) (start : Option Nat) (i : Nat) :
    quotedRuns start i t = [] := by
  have hruns := quotedRuns_quoteFree ht start i []
  rw [List.append_nil] at hruns
  rw [hruns]
  cases start <;> rfl

lemma quoteFree_or_split (t : Text) :
    QuoteFree t ∨ ∃ x q rest, t = x ++ q :: rest ∧ QuoteFree x ∧ isQuote q = true := by
  induction t with
  | nil => exact Or.inl fun c hc => absurd hc List.not_mem_nil
  | cons c t ih =>
    cases hc : isQuote c with
    | true => exact Or.inr ⟨[], c, t, rfl, fun d hd => absurd hd List.not_mem_nil, hc⟩
    | false =>
      have hcons : ∀ x, QuoteFree x → QuoteFree (c :: x) := by
        intro x hx d hd
        rcases List.mem_cons.mp hd with rfl | hmem
        · exact hc
        · exact hx d hmem
      rcases ih with hfree | ⟨x, q, rest, rfl, hx, hq⟩
      · exact Or.inl (hcons t hfree)
      · exact Or.inr ⟨c :: x, q, rest, rfl, hcons x hx, hq⟩

lemma quotedSpansFrom_eq_quotedRuns (before t : Text) (offset : Nat) :
    quotedSpansFrom before t offset = quotedRuns none offset t := by
  induction hn : t.length using Nat.strongRecOn generalizing t before offset with
  | ind n ih =>
    subst hn
    rcases quoteFree_or_split t with hfree | ⟨x, q, rest, rfl, hx, hq⟩
    · have hspans : quotedSpansFrom before (t ++ []) offset = [] := by
        rw [quotedSpansFrom_quoteFree hfree, quotedSpansFrom_nil]
      rw [List.append_nil] at hspans
      rw [hspans, quotedRuns_eq_nil hfree]
    · rw [quotedSpansFrom_quoteFree hx, quotedRuns_quoteFree hx, quotedRuns_quote hq]
      generalize offset + x.length = i
      rcases quoteFree_or_split rest with hfree | ⟨v, r, rest, rfl, hv, hr⟩
      · have hspans : quotedSpansFrom (x.reverse ++ before) (q :: (rest ++ [])) i = [] := by
          rw [quotedSpansFrom_short hq hfree (by simp) (Or.inr rfl), quotedSpansFrom_quoteFree hfree,
            quotedSpansFrom_nil]
        rw [List.append_nil] at hspans
        rw [hspans, quotedRuns_eq_nil hfree]
      · by_cases hnil : v = []
        · subst hnil
          rw [quotedSpansFrom_short hq hv (by simpa using hr) (Or.inl rfl), List.nil_append,
            quotedRuns_reopen hr, ih _ (by simp; omega) _ _ _ rfl, quotedRuns_quote hr]
        · rw [quotedSpansFrom_run hq hr hv hnil, quotedRuns_run hv hnil hr, ih _ (by simp; omega) _ _ _ rfl]
          congr 2
          omega

lemma quotedRuns_shift (start : Option Nat) (i m : Nat) (t : Text) :
    quotedRuns (start.map (· + m)) (i + m) t = (quotedRuns start i t).map fun s => s.shift m := by
  induction t generalizing start i with
  | nil => cases start <;> rfl
  | cons c t ih =>
    have hnone := ih none (i + 1)
    have hsome := fun n => ih (some n) (i + 1)
    simp only [Option.map_none, Option.map_some, Nat.add_right_comm i 1 m] at hnone hsome
    cases start with
    | none =>
      cases hc : isQuote c with
      | true => simpa [quotedRuns, hc, Nat.add_right_comm i m 1] using hsome (i + 1)
      | false => simpa [quotedRuns, hc, Nat.add_right_comm i m 1] using hnone
    | some start =>
      cases hc : isQuote c with
      | true =>
        by_cases hstart : start = i
        · simpa [quotedRuns, hc, hstart, Nat.add_right_comm i m 1] using hsome (i + 1)
        · simpa [quotedRuns, hc, hstart, Nat.add_right_comm i m 1, Span.shift] using hnone
      | false => simpa [quotedRuns, hc, Nat.add_right_comm i m 1] using hsome start

lemma quotedRuns_none (i : Nat) (t : Text) :
    quotedRuns none i t = (quotedRuns none 0 t).map fun s => s.shift i := by
  have hshift := quotedRuns_shift none 0 i t
  rwa [Option.map_none, Nat.zero_add] at hshift

lemma enclosed_of_mem_quotedRuns_append {front t : Text} {start : Option Nat} {s : Span}
    (hstart : ∀ n ∈ start, ∃ a q v, front = a ++ q :: v ∧ isQuote q = true ∧ n = a.length + 1)
    (h : s ∈ quotedRuns start front.length t) : Enclosed (front ++ t) s := by
  induction t generalizing front start with
  | nil => cases start <;> cases h
  | cons c t ih =>
    have hlater : ∀ start', (∀ n ∈ start', ∃ a q v, front ++ [c] = a ++ q :: v ∧ isQuote q = true ∧
        n = a.length + 1) → s ∈ quotedRuns start' (front.length + 1) t → Enclosed (front ++ c :: t) s := by
      intro start' hstart' hmem
      simpa using ih hstart' (by simpa using hmem)
    have hopen : isQuote c = true → ∀ n ∈ some (front.length + 1), ∃ a q v, front ++ [c] = a ++ q :: v ∧
        isQuote q = true ∧ n = a.length + 1 := by
      rintro hc n hn
      cases hn
      exact ⟨front, c, [], rfl, hc, rfl⟩
    cases start with
    | none =>
      cases hc : isQuote c with
      | true => exact hlater _ (hopen hc) (by simpa [quotedRuns, hc] using h)
      | false => exact hlater none (by simp) (by simpa [quotedRuns, hc] using h)
    | some start =>
      obtain ⟨a, q, v, rfl, hq, rfl⟩ := hstart start rfl
      cases hc : isQuote c with
      | false =>
        refine hlater (some (a.length + 1)) ?_ (by simpa [quotedRuns, hc] using h)
        intro n hn
        cases hn
        exact ⟨a, q, v ++ [c], by simp, hq, rfl⟩
      | true =>
        rw [quotedRuns, if_pos hc] at h
        split at h
        · exact hlater _ (hopen hc) h
        · rcases List.mem_cons.mp h with rfl | hmem
          · refine ⟨a, q, v, c, t, by simp, hq, hc, ?_⟩
            simp
            omega
          · exact hlater none (by simp) hmem

lemma enclosed_of_mem_quotedRuns {t : Text} {s : Span} (h : s ∈ quotedRuns none 0 t) :
    Enclosed t s := by
  have hs : Enclosed ([] ++ t) s := enclosed_of_mem_quotedRuns_append (by simp) h
  exact hs

section Swap

variable {a b v w : Text} {q r : Char}

lemma map_carry_quotedRuns {k m old new : Nat} (h : k + old ≤ m) (hold : 0 < old) (t : Text) :
    (quotedRuns none m t).map (Span.carry k old new) = quotedRuns none (m + new - old) t := by
  rw [quotedRuns_none m, quotedRuns_none (m + new - old), List.map_map]
  apply List.map_congr_left
  intro s _
  exact Span.carry_shift h hold s

lemma quotedRuns_swap_opened (hv : QuoteFree v) (hw : QuoteFree w) (hvne : v ≠ []) (hwne : w ≠ [])
    (hr : isQuote r = true) (i : Nat) :
    quotedRuns (some i) i (w ++ r :: b) =
      (quotedRuns (some i) i (v ++ r :: b)).map (Span.carry i v.length w.length) := by
  have hvpos : 0 < v.length := List.length_pos_iff.mpr hvne
  have hwpos : 0 < w.length := List.length_pos_iff.mpr hwne
  rw [quotedRuns_run hw hwne hr, quotedRuns_run hv hvne hr, List.map_cons, map_carry_quotedRuns (by omega) hvpos,
    Span.carry_mk (carry_eq hvpos (Or.inl ⟨by omega, rfl⟩)) (carry_eq hvpos (Or.inr ⟨by omega, rfl⟩))]
  congr 2
  · omega
  · omega

lemma quotedRuns_swap (hv : QuoteFree v) (hw : QuoteFree w) (hvne : v ≠ []) (hwne : w ≠ [])
    (hq : isQuote q = true) (hr : isQuote r = true) (start : Option Nat) (i : Nat)
    (hstart : ∀ n ∈ start, n ≤ i) :
    quotedRuns start i (a ++ q :: (w ++ r :: b)) =
      (quotedRuns start i (a ++ q :: (v ++ r :: b))).map
        (Span.carry (a.length + 1 + i) v.length w.length) := by
  have hvpos : 0 < v.length := List.length_pos_iff.mpr hvne
  induction a generalizing start i with
  | nil =>
    have hopened := quotedRuns_swap_opened (b := b) hv hw hvne hwne hr (i + 1)
    rw [List.length_nil, Nat.zero_add, Nat.add_comm 1]
    cases start with
    | none => simpa [quotedRuns, hq] using hopened
    | some start =>
      have hle := hstart start rfl
      by_cases hne : start = i
      · simpa [quotedRuns, hq, hne] using hopened
      · rw [List.nil_append, List.nil_append, quotedRuns_close hq hne, quotedRuns_close hq hne,
          quotedRuns_quoteFree hw, quotedRuns_quoteFree hv, List.map_cons,
          map_carry_quotedRuns (by simp) hvpos,
          Span.carry_mk (carry_of_le (by omega)) (carry_of_le (by omega))]
        congr 2
        omega
  | cons c a ih =>
    have hk : a.length + 1 + (i + 1) = (c :: a).length + 1 + i := by
      simp
      omega
    have hrest := fun start' hstart' => ih start' (i + 1) hstart'
    rw [hk] at hrest
    have hopened := hrest (some (i + 1)) (by simp)
    have hclosed := hrest none (by simp)
    cases start with
    | none =>
      cases hc : isQuote c with
      | true => simpa [quotedRuns, hc] using hopened
      | false => simpa [quotedRuns, hc] using hclosed
    | some start =>
      have hle := hstart start rfl
      cases hc : isQuote c with
      | false =>
        have hkept := hrest (some start) (by simp; omega)
        simpa [quotedRuns, hc] using hkept
      | true =>
        by_cases hne : start = i
        · simpa [quotedRuns, hc, hne] using hopened
        · rw [List.cons_append, List.cons_append, quotedRuns_close hc hne, quotedRuns_close hc hne,
            List.map_cons, hclosed, Span.carry_mk (carry_of_le (by omega)) (carry_of_le (by omega))]

end Swap

end ClassTidy.Locator
