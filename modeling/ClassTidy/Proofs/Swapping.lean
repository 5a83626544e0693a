import ClassTidy.Proofs.QuotedArguments

/-! Texts in which an inert run between two quotes is swapped for another one. -/

namespace ClassTidy

open Text

lemma Text.position_natCast {n i : Nat} (h : i ≤ n) : Text.position n i = i := by
  rw [Text.position, if_neg (by omega)]
  omega

def carry (k old new x : Nat) : Nat := if x ≤ k then x else max k (x + new - old)

section Carry

variable {k old new x y : Nat}

lemma carry_of_le (h : x ≤ k) : carry k old new x = x := if_pos h

lemma carry_of_ge (h : k + old ≤ x) (hold : 0 < old) : carry k old new x = x + new - old := by
  rw [carry, if_neg (by omega)]
  omega

lemma carry_eq (hold : 0 < old) (h : (x ≤ k ∧ y = x) ∨ (k + old ≤ x ∧ y = x + new - old)) :
    carry k old new x = y := by
  rcases h with ⟨hx, rfl⟩ | ⟨hx, rfl⟩
  · exact carry_of_le hx
  · exact carry_of_ge hx hold

lemma carry_mono (k old new : Nat) : Monotone (carry k old new) := by
  intro x y h
  simp only [carry]
  split <;> split <;> omega

lemma carry_add (n : Nat) : carry (k + n) old new (x + n) = carry k old new x + n := by
  simp only [carry]
  split <;> split <;> omega

end Carry

namespace Span

def carry (k old new : Nat) (s : Span) : Span :=
  ⟨ClassTidy.carry k old new s.start, ClassTidy.carry k old new s.stop⟩

lemma carry_mk {k old new i j i' j' : Nat} (hi : ClassTidy.carry k old new i = i')
    (hj : ClassTidy.carry k old new j = j') : Span.carry k old new ⟨i, j⟩ = ⟨i', j'⟩ := by
  rw [carry, hi, hj]

lemma carry_of_le {k old new : Nat} {s : Span} (hstart : s.start ≤ k) (hstop : s.stop ≤ k) :
    s.carry k old new = s :=
  carry_mk (ClassTidy.carry_of_le hstart) (ClassTidy.carry_of_le hstop)

lemma carry_add (k old new n : Nat) (s : Span) :
    (s.shift n).carry (k + n) old new = (s.carry k old new).shift n := by
  simp [carry, shift, ClassTidy.carry_add]

lemma carry_shift {k old new m : Nat} (h : k + old ≤ m) (hold : 0 < old) (s : Span) :
    (s.shift m).carry k old new = s.shift (m + new - old) := by
  simp only [carry, shift, carry_of_ge (show k + old ≤ s.start + m by omega) hold,
    carry_of_ge (show k + old ≤ s.stop + m by omega) hold, mk.injEq]
  omega

end Span

namespace Source

lemma isQuote_of_isBlank {c : Char} (hc : isBlank c = true) : isQuote c = false := by
  cases hq : isQuote c with
  | false => rfl
  | true =>
    rw [isBlank_of_isQuote hq] at hc
    cases hc

/-- A run that a scan passes without noticing: it holds no quotes, its parentheses are balanced, it is
not the part of an attribute before its value, and no braces close in front of it. -/
structure Inert (v : Text) : Prop where
  chars : ∀ c ∈ v, isQuote c = false ∧ c ≠ '\\' ∧ c ≠ '$'
  balanced : (Scan.code 0).after v = some (.code 0)
  front : ∀ blanks c rest, v = blanks ++ c :: rest → (∀ d ∈ blanks, isBlank d = true) → c ≠ '\x7d'
  back : ∀ rest c blanks, v = rest ++ c :: blanks → (∀ d ∈ blanks, isBlank d = true) →
    c ≠ '=' ∧ c ≠ '\x7b'

structure Swappable (v w : Text) : Prop where
  old : Inert v
  new : Inert w
  oldNonempty : v ≠ []
  newNonempty : w ≠ []

lemma Swappable.symm {v w : Text} (h : Swappable v w) : Swappable w v :=
  ⟨h.new, h.old, h.newNonempty, h.oldNonempty⟩

lemma Inert.quoteFree {v : Text} (h : Inert v) : Locator.QuoteFree v := fun c hc => (h.chars c hc).1

lemma notMem_of_quoteFree {v : Text} (hv : Locator.QuoteFree v) {p : Char} (hp : isQuote p = true) :
    p ∉ v := by
  intro hmem
  rw [hv p hmem] at hp
  cases hp

def Scan.Steady : Scan → Prop
  | code _ => True
  | quoted q _ => isQuote q = true
  | escaped _ _ => False

def Scan.Proper : Scan → Prop
  | code _ => True
  | quoted q _ => isQuote q = true
  | escaped q _ => isQuote q = true

lemma Scan.Proper.step {s s' : Scan} (hs : s.Proper) {c : Char} (h : s.step c = some s') :
    s'.Proper := by
  cases s with
  | code d =>
    simp only [Scan.step] at h
    split at h
    · rename_i hc
      cases h
      exact hc
    · split at h
      · cases h
        trivial
      · split at h
        · cases d with
          | zero => cases h
          | succ d =>
            cases h
            trivial
        · cases h
          trivial
  | quoted q d =>
    simp only [Scan.step] at h
    split at h
    · cases h
      exact hs
    · split at h
      · cases h
        trivial
      · cases h
        exact hs
  | escaped q d =>
    cases h
    exact hs

lemma Scan.Proper.after {s s' : Scan} (hs : s.Proper) {t : Text} (h : s.after t = some s') :
    s'.Proper := by
  induction t generalizing s with
  | nil =>
    cases h
    exact hs
  | cons c t ih =>
    obtain ⟨s₁, hstep, hrest⟩ := Option.bind_eq_some_iff.mp h
    exact ih (hs.step hstep) hrest

lemma Scan.Proper.steady_step {s s' : Scan} (hs : s.Proper) {q : Char} (hq : isQuote q = true)
    (h : s.step q = some s') : s'.Steady := by
  cases s with
  | code d =>
    simp only [Scan.step, hq, if_true, Option.some.injEq] at h
    subst h
    exact hq
  | quoted p d =>
    simp only [Scan.step, ne_backslash_of_isQuote hq, if_false] at h
    split at h
    · cases h
      trivial
    · cases h
      exact hs
  | escaped p d =>
    cases h
    exact hs

lemma after_code_add {v : Text} (hv : Locator.QuoteFree v) {d e : Nat}
    (h : (Scan.code d).after v = some (.code e)) (n : Nat) :
    (Scan.code (d + n)).after v = some (.code (e + n)) := by
  induction v generalizing d with
  | nil =>
    cases h
    rfl
  | cons c v ih =>
    have hc := hv c List.mem_cons_self
    have hrest := fun d hd => ih (fun c hc => hv c (List.mem_cons_of_mem _ hc)) (d := d) hd
    obtain ⟨s, hs, hv⟩ := Option.bind_eq_some_iff.mp h
    simp only [Scan.step, hc, Bool.false_eq_true, if_false] at hs
    simp only [Scan.after, Scan.step, hc, Bool.false_eq_true, if_false]
    by_cases hopen : c = '('
    · simp only [hopen, if_true, Option.some.injEq] at hs
      subst hs
      simpa [hopen, Nat.add_right_comm] using hrest (d + 1) hv
    · by_cases hclose : c = ')'
      · cases d with
        | zero => simp [hclose] at hs
        | succ d =>
          simp only [hclose, if_true] at hs
          rw [if_neg (by decide)] at hs
          cases hs
          simpa [hclose, Nat.add_right_comm d 1 n] using hrest d hv
      · simp only [hopen, hclose, if_false, Option.some.injEq] at hs
        subst hs
        simpa [hopen, hclose] using hrest d hv

lemma after_code_cases {v : Text} (hv : Locator.QuoteFree v) (d : Nat) :
    (∃ e, (Scan.code d).after v = some (.code e)) ∨ ((Scan.code d).after v = none ∧ ')' ∈ v) := by
  induction v generalizing d with
  | nil => exact Or.inl ⟨d, rfl⟩
  | cons c v ih =>
    have hc := hv c List.mem_cons_self
    have hrest : ∀ e, (Scan.code d).step c = some (.code e) →
        (∃ e, (Scan.code d).after (c :: v) = some (.code e)) ∨
          ((Scan.code d).after (c :: v) = none ∧ ')' ∈ c :: v) := by
      intro e he
      rw [Scan.after, he, Option.bind_some, List.mem_cons]
      exact (ih (fun c hc => hv c (List.mem_cons_of_mem _ hc)) e).imp_right (And.imp_right Or.inr)
    by_cases hopen : c = '('
    · exact hrest (d + 1) (by simp [Scan.step, hopen, isQuote])
    · by_cases hclose : c = ')'
      · cases d with
        | zero => exact Or.inr ⟨by simp [Scan.after, Scan.step, hclose, isQuote], by simp [hclose]⟩
        | succ d => exact hrest d (by simp [Scan.step, hclose, isQuote])
      · exact hrest d (by simp [Scan.step, hc, hopen, hclose])

lemma Inert.closes {u v : Text} (h : Inert (u ++ '(' :: v)) :
    (Scan.code 0).after v = none ∧ ')' ∈ v := by
  have hu : Locator.QuoteFree u := fun c hc => h.quoteFree c (by simp [hc])
  have hv : Locator.QuoteFree v := fun c hc => h.quoteFree c (by simp [hc])
  rcases after_code_cases hv 0 with ⟨e, he⟩ | hclosed
  · -- behind the run the parenthesis would still be open
    exfalso
    have hbalanced := h.balanced
    rw [Scan.after_append] at hbalanced
    rcases after_code_cases hu 0 with ⟨d, hd⟩ | ⟨hnone, -⟩
    · have hopen : (Scan.code d).after ('(' :: v) = (Scan.code (0 + (d + 1))).after v := by
        simp [Scan.after, Scan.step, isQuote]
      rw [hd, Option.bind_some, hopen, after_code_add hv he] at hbalanced
      simp at hbalanced
    · rw [hnone] at hbalanced
      cases hbalanced
  · exact hclosed

lemma Inert.after {v : Text} (hv : Inert v) {s : Scan} (hs : s.Steady) : s.after v = some s := by
  cases s with
  | code d => simpa using after_code_add hv.quoteFree hv.balanced d
  | escaped q d => cases hs
  | quoted q d =>
    have hall : ∀ u : Text, (∀ c ∈ u, isQuote c = false ∧ c ≠ '\\' ∧ c ≠ '$') →
        (Scan.quoted q d).after u = some (.quoted q d) := by
      intro u hu
      induction u with
      | nil => rfl
      | cons c u ih =>
        obtain ⟨hquote, hslash, -⟩ := hu c List.mem_cons_self
        have hne : c ≠ q := by
          rintro rfl
          rw [show isQuote c = true from hs] at hquote
          cases hquote
        simpa [Scan.after, Scan.step, hslash, hne] using
          ih fun d hd => hu d (List.mem_cons_of_mem c hd)
    exact hall v hv.chars

section Split

variable {a b v value rest z : Text} {p q r : Char}

lemma split_behind (hv : p ∉ v) (h : value ++ p :: rest = v ++ z) :
    ∃ b', value = v ++ b' ∧ z = b' ++ p :: rest := by
  rcases List.append_eq_append_iff.mp h with ⟨u, hvu, hz⟩ | ⟨u, hvalue, hz⟩
  · cases u with
    | nil => exact ⟨[], by simpa using hvu.symm, by simpa using hz.symm⟩
    | cons d u =>
      obtain ⟨rfl, -⟩ : p = d ∧ rest = u ++ z := by simpa using hz
      exact absurd (by simp [hvu]) hv
  · exact ⟨u, hvalue, hz⟩

lemma split_first (ha : p ∉ a) (hv : p ∉ v) (h : a ++ p :: rest = v ++ p :: b) : a = v ∧ rest = b := by
  obtain ⟨u, rfl, hu⟩ := split_behind hv h
  cases u with
  | nil =>
    rw [List.append_nil]
    exact ⟨rfl, by simpa using hu.symm⟩
  | cons d u =>
    obtain ⟨rfl, -⟩ : p = d ∧ b = u ++ p :: rest := by simpa using hu
    exact absurd (by simp) ha

lemma split_before {y : Text} (hy : p ∉ y) (h : value ++ p :: rest = z ++ y) :
    ∃ z', z = value ++ p :: z' ∧ rest = z' ++ y := by
  rcases List.append_eq_append_iff.mp h with ⟨u, hz, hu⟩ | ⟨u, hvalue, hu⟩
  · cases u with
    | nil => exact absurd (by simp [← List.nil_append y ▸ hu]) hy
    | cons d u =>
      obtain ⟨rfl, rfl⟩ : p = d ∧ rest = u ++ y := by simpa using hu
      exact ⟨u, hz, rfl⟩
  · exact absurd (by simp [hu]) hy

lemma split_at_quote (hv : p ∉ v) (h : value ++ p :: rest = a ++ q :: (v ++ r :: b)) :
    (∃ a', a = value ++ p :: a' ∧ rest = a' ++ q :: (v ++ r :: b)) ∨
      (value = a ∧ p = q ∧ rest = v ++ r :: b) ∨
      ∃ b', value = a ++ q :: (v ++ b') ∧ r :: b = b' ++ p :: rest := by
  rcases List.append_eq_append_iff.mp h with ⟨u, ha, hu⟩ | ⟨u, hvalue, hu⟩
  · cases u with
    | nil =>
      obtain ⟨rfl, rfl⟩ : p = q ∧ rest = v ++ r :: b := by simpa using hu
      exact Or.inr (Or.inl ⟨by simpa using ha.symm, rfl, rfl⟩)
    | cons d u =>
      obtain ⟨rfl, rfl⟩ : p = d ∧ rest = u ++ q :: (v ++ r :: b) := by simpa using hu
      exact Or.inl ⟨u, ha, rfl⟩
  · cases u with
    | nil =>
      obtain ⟨rfl, rfl⟩ : q = p ∧ v ++ r :: b = rest := by simpa using hu
      exact Or.inr (Or.inl ⟨by simpa using hvalue, rfl, rfl⟩)
    | cons d u =>
      obtain ⟨rfl, hrest⟩ : q = d ∧ v ++ r :: b = u ++ p :: rest := by simpa using hu
      obtain ⟨b', rfl, hb⟩ := split_behind hv hrest.symm
      exact Or.inr (Or.inr ⟨b', hvalue, hb⟩)

lemma split_at_char {c : Char} (hq : c ≠ q) (hr : c ≠ r)
    (h : value ++ c :: rest = a ++ q :: (v ++ r :: b)) :
    (∃ a', a = value ++ c :: a') ∨ (∃ v₁ v₂, v = v₁ ++ c :: v₂ ∧ value = a ++ q :: v₁) ∨
      ∃ b', value = a ++ q :: (v ++ r :: b') ∧ b = b' ++ c :: rest := by
  rcases List.append_eq_append_iff.mp h with ⟨u, ha, hu⟩ | ⟨u, rfl, hu⟩
  · cases u with
    | nil => exact absurd (by simpa using congrArg List.head? hu) hq
    | cons d u =>
      obtain ⟨rfl, -⟩ : c = d ∧ rest = u ++ q :: (v ++ r :: b) := by simpa using hu
      exact Or.inl ⟨u, ha⟩
  · cases u with
    | nil => exact absurd (by simpa using congrArg List.head? hu.symm) hq
    | cons d u =>
      obtain ⟨rfl, hrest⟩ : q = d ∧ v ++ r :: b = u ++ c :: rest := by simpa using hu
      rcases List.append_eq_append_iff.mp hrest with ⟨z, rfl, hz⟩ | ⟨z, rfl, hz⟩
      · cases z with
        | nil => exact absurd (by simpa using congrArg List.head? hz.symm) hr
        | cons e z =>
          obtain ⟨rfl, rfl⟩ : r = e ∧ b = z ++ c :: rest := by simpa using hz
          exact Or.inr (Or.inr ⟨z, rfl, rfl⟩)
      · cases z with
        | nil => exact absurd (by simpa using congrArg List.head? hz) hr
        | cons e z =>
          obtain ⟨rfl, -⟩ : c = e ∧ rest = z ++ r :: b := by simpa using hz
          exact Or.inr (Or.inl ⟨u, z, rfl, rfl⟩)

lemma split_before_quote {y : Text} (hy : Locator.QuoteFree y) (hq : isQuote q = true)
    (h : y ++ rest = a ++ q :: z) : ∃ a', a = y ++ a' ∧ rest = a' ++ q :: z := by
  rcases List.append_eq_append_iff.mp h with ⟨u, ha, hu⟩ | ⟨u, hyu, hu⟩
  · exact ⟨u, ha, hu⟩
  · cases u with
    | nil => exact ⟨[], by simpa using hyu.symm, by simpa using hu.symm⟩
    | cons d u =>
      obtain ⟨rfl, -⟩ : q = d ∧ z = u ++ rest := by simpa using hu
      exact absurd (by simp [hyu]) (notMem_of_quoteFree hy hq)

lemma split_at_block {o u : Text} (ho : Locator.QuoteFree o) (hne : o ≠ [])
    (hq : isQuote q = true) (hr : isQuote r = true) (h : u ++ (o ++ z) = a ++ q :: (v ++ r :: b)) :
    (∃ a', a = u ++ (o ++ a') ∧ z = a' ++ q :: (v ++ r :: b)) ∨
      (∃ v₁ v₂, v = v₁ ++ (o ++ v₂) ∧ z = v₂ ++ r :: b) ∨
      ∃ b', u = a ++ q :: (v ++ r :: b') ∧ b = b' ++ (o ++ z) := by
  obtain ⟨d, o, rfl⟩ := List.exists_cons_of_ne_nil hne
  have hd : isQuote d = false := ho d List.mem_cons_self
  have hdq : d ≠ q := by
    rintro rfl
    rw [hq] at hd
    cases hd
  have hdr : d ≠ r := by
    rintro rfl
    rw [hr] at hd
    cases hd
  rcases split_at_char hdq hdr h with ⟨a', rfl⟩ | ⟨v₁, v₂, rfl, rfl⟩ | ⟨b', rfl, rfl⟩
  · left
    have hrest : (d :: o) ++ z = (d :: a') ++ q :: (v ++ r :: b) := by simpa using h
    obtain ⟨a'', ha, rfl⟩ := split_before_quote ho hq hrest
    exact ⟨a'', by simp [ha], rfl⟩
  · right; left
    have hrest : (d :: o) ++ z = (d :: v₂) ++ r :: b := by simpa using h
    obtain ⟨v', hv', rfl⟩ := split_before_quote ho hr hrest
    exact ⟨v₁, v', by simp [hv'], rfl⟩
  · exact Or.inr (Or.inr ⟨b', rfl, rfl⟩)

end Split

-- No scan that starts before an inert run between quotes ends inside of it.
lemma not_after_inert {a v₁ v₂ : Text} {q : Char} (hq : isQuote q = true) (hv : Inert (v₁ ++ ')' :: v₂)) :
    (Scan.code 0).after (a ++ q :: v₁) ≠ some (.code 0) := by
  intro h
  rw [Scan.after_append] at h
  obtain ⟨s₁, h₁, h₂⟩ := Option.bind_eq_some_iff.mp h
  obtain ⟨s₂, hstep, hrun⟩ := Option.bind_eq_some_iff.mp h₂
  have hproper : s₁.Proper := Scan.Proper.after (s := .code 0) trivial h₁
  have hsteady := hv.after (hproper.steady_step hq hstep)
  rw [Scan.after_append, hrun] at hsteady
  cases hsteady

lemma after_swap {a b v w : Text} {q r : Char} (h : Swappable v w) (hq : isQuote q = true) :
    (Scan.code 0).after (a ++ q :: (v ++ r :: b)) = (Scan.code 0).after (a ++ q :: (w ++ r :: b)) := by
  rw [Scan.after_append, Scan.after_append]
  cases h₁ : (Scan.code 0).after a with
  | none => rfl
  | some s₁ =>
    have hproper : s₁.Proper := Scan.Proper.after (s := .code 0) trivial h₁
    simp only [Option.bind_some, Scan.after]
    cases hstep : s₁.step q with
    | none => rfl
    | some s₂ =>
      have hsteady := hproper.steady_step hq hstep
      simp only [Option.bind_some, Scan.after_append, h.old.after hsteady, h.new.after hsteady]

def Enclosed (t : Text) (s : Span) : Prop :=
  ∃ a q v r b, t = a ++ q :: (v ++ r :: b) ∧ isQuote q = true ∧ isQuote r = true ∧
    s = ⟨a.length + 1, a.length + 1 + v.length⟩

lemma Enclosed.bounds {t : Text} {s : Span} (h : Enclosed t s) :
    s.start ≤ s.stop ∧ s.stop < t.length := by
  obtain ⟨a, q, v, r, b, rfl, -, -, rfl⟩ := h
  simp
  omega

lemma Enclosed.append {t : Text} {s : Span} (h : Enclosed t s) (u z : Text) :
    Enclosed (u ++ (t ++ z)) (s.shift u.length) := by
  obtain ⟨a, q, v, r, b, rfl, hq, hr, rfl⟩ := h
  refine ⟨u ++ a, q, v, r, b ++ z, by simp, hq, hr, ?_⟩
  simp only [Span.shift, List.length_append, Span.mk.injEq]
  omega

end Source

end ClassTidy
