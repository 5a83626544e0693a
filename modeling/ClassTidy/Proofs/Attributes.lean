import ClassTidy.Proofs.Swapping
import ClassTidy.Source.Attribute
import Mathlib.Data.List.TakeDrop

/-! Class attributes stay the same ones where an inert run between quotes is swapped. -/

namespace ClassTidy

open Text

namespace Locator.QuoteFree

variable {s t : Text}

lemma append (hs : QuoteFree s) (ht : QuoteFree t) : QuoteFree (s ++ t) := by
  intro c hc
  rcases List.mem_append.mp hc with h | h
  · exact hs c h
  · exact ht c h

lemma cons {c : Char} (hc : Source.isQuote c = false) (ht : QuoteFree t) : QuoteFree (c :: t) := by
  intro d hd
  rcases List.mem_cons.mp hd with rfl | h
  · exact hc
  · exact ht d h

lemma of_blank (h : ∀ c ∈ t, isBlank c = true) : QuoteFree t :=
  fun c hc => Source.isQuote_of_isBlank (h c hc)

end Locator.QuoteFree

namespace Source

open Locator

inductive Opens : AttributeForm → Text → Prop
  | plain {name blanks blanks' : Text} : name = "className".toList ∨ name = "class".toList →
    (∀ c ∈ blanks, isBlank c = true) → (∀ c ∈ blanks', isBlank c = true) →
    Opens .plain (name ++ (blanks ++ '=' :: blanks'))
  | braced {x blanks : Text} : Opens .plain x → (∀ c ∈ blanks, isBlank c = true) →
    Opens .braced (x ++ '\x7b' :: blanks)

inductive Closes : AttributeForm → Text → Prop
  | plain : Closes .plain []
  | braced {blanks : Text} : (∀ c ∈ blanks, isBlank c = true) → Closes .braced (blanks ++ ['\x7d'])

lemma Opens.quoteFree {form : AttributeForm} {x : Text} (h : Opens form x) : QuoteFree x := by
  induction h with
  | plain hname hb hb' =>
    refine QuoteFree.append ?_ ((QuoteFree.of_blank hb).append (.cons rfl (.of_blank hb')))
    rcases hname with rfl | rfl <;> decide
  | braced _ hb ih => exact ih.append (.cons rfl (.of_blank hb))

lemma Closes.quoteFree {form : AttributeForm} {y : Text} (h : Closes form y) : QuoteFree y := by
  cases h with
  | plain => exact fun c hc => absurd hc List.not_mem_nil
  | braced hb => exact (QuoteFree.of_blank hb).append (by decide)

lemma Opens.eq_append {form : AttributeForm} {x : Text} (h : Opens form x) :
    ∃ y c blanks, x = y ++ c :: blanks ∧ (c = '=' ∨ c = '\x7b') ∧ ∀ d ∈ blanks, isBlank d = true := by
  cases h with
  | @plain name blanks blanks' _ _ hb =>
    exact ⟨name ++ blanks, '=', blanks', by simp, Or.inl rfl, hb⟩
  | @braced x blanks _ hb => exact ⟨x, '\x7b', blanks, rfl, Or.inr rfl, hb⟩

lemma skipBlanks_eq_cons_iff {c : Char} (hc : isBlank c = false) (t rest : Text) :
    skipBlanks t = c :: rest ↔ ∃ blanks, (∀ d ∈ blanks, isBlank d = true) ∧ t = blanks ++ c :: rest := by
  constructor
  · intro h
    refine ⟨t.takeWhile isBlank, fun d hd => List.mem_takeWhile_imp hd, ?_⟩
    rw [← h, skipBlanks, List.takeWhile_append_dropWhile]
  · rintro ⟨blanks, hb, rfl⟩
    rw [skipBlanks, List.dropWhile_append_of_pos hb, List.dropWhile_cons_of_neg (by simp [hc])]

lemma afterChar_eq_some_iff {c : Char} (t rest : Text) :
    afterChar? c t = some rest ↔ skipBlanks t = c :: rest := by
  unfold afterChar?
  cases skipBlanks t with
  | nil => simp
  | cons d u =>
    by_cases hd : d = c
    · simp [hd]
    · simp [hd]

lemma afterName_eq_some {t rest : Text} (h : afterName? t = some rest) :
    ∃ name, (name = "className".toList ∨ name = "class".toList) ∧ t = name ++ rest := by
  unfold afterName? at h
  split at h
  · rename_i hlong
    obtain ⟨u, rfl⟩ := List.isPrefixOf_iff_prefix.mp hlong
    exact ⟨_, Or.inl rfl, by simpa using h⟩
  · split at h
    · rename_i hshort
      obtain ⟨u, rfl⟩ := List.isPrefixOf_iff_prefix.mp hshort
      exact ⟨_, Or.inr rfl, by simpa using h⟩
    · cases h

lemma afterName_append {name rest : Text} (hname : name = "className".toList ∨ name = "class".toList)
    (hrest : ∀ c ∈ rest.head?, c ≠ 'N') : afterName? (name ++ rest) = some rest := by
  rcases hname with rfl | rfl
  · simp [afterName?]
  · cases rest with
    | nil => simp [afterName?]
    | cons c rest =>
      have hc : 'N' ≠ c := fun heq => hrest c rfl heq.symm
      simp [afterName?, hc]

lemma head_append_ne {blanks rest : Text} {c d : Char} (hb : ∀ c ∈ blanks, isBlank c = true)
    (hd : isBlank d = false) (hc : c ≠ d) : ∀ e ∈ (blanks ++ c :: rest).head?, e ≠ d := by
  rintro e he rfl
  cases blanks with
  | nil =>
    obtain rfl : c = e := by simpa using he
    exact hc rfl
  | cons f blanks =>
    obtain rfl : f = e := by simpa using he
    have hh := hb f List.mem_cons_self
    rw [hd] at hh
    cases hh

lemma valueStart_plain_iff {c : Char} (hc : isBlank c = false) (t rest : Text) :
    valueStart? .plain t = some (c :: rest) ↔ ∃ x, Opens .plain x ∧ t = x ++ c :: rest := by
  constructor
  · intro h
    simp only [valueStart?, Option.bind_eq_bind, Option.bind_eq_some_iff, Option.pure_def,
      Option.some.injEq] at h
    obtain ⟨u, hname, w, heq, hrest⟩ := h
    obtain ⟨name, hn, rfl⟩ := afterName_eq_some hname
    obtain ⟨blanks, hb, rfl⟩ := (skipBlanks_eq_cons_iff (by decide) _ _).mp
      ((afterChar_eq_some_iff _ _).mp heq)
    obtain ⟨blanks', hb', rfl⟩ := (skipBlanks_eq_cons_iff hc _ _).mp hrest
    exact ⟨_, .plain hn hb hb', by simp⟩
  · rintro ⟨x, hx, rfl⟩
    cases hx with
    | @plain name blanks blanks' hn hb hb' =>
      have hname : afterName? (name ++ (blanks ++ '=' :: (blanks' ++ c :: rest))) =
          some (blanks ++ '=' :: (blanks' ++ c :: rest)) :=
        afterName_append hn (head_append_ne hb (by decide) (by decide))
      have heq : afterChar? '=' (blanks ++ '=' :: (blanks' ++ c :: rest)) =
          some (blanks' ++ c :: rest) := by
        rw [afterChar_eq_some_iff, skipBlanks_eq_cons_iff (by decide)]
        exact ⟨blanks, hb, rfl⟩
      have hskip : skipBlanks (blanks' ++ c :: rest) = c :: rest :=
        (skipBlanks_eq_cons_iff hc _ _).mpr ⟨blanks', hb', rfl⟩
      simp [valueStart?, hname, heq, hskip]

lemma valueStart_braced (t : Text) :
    valueStart? .braced t = (valueStart? .plain t).bind fun u =>
      match u with
      | c :: rest => if c = '\x7b' then some (skipBlanks rest) else none
      | [] => none := by
  simp only [valueStart?, Option.bind_eq_bind, Option.pure_def]
  cases afterName? t with
  | none => rfl
  | some u =>
    simp only [Option.bind_some]
    cases afterChar? '=' u with
    | none => rfl
    | some w =>
      simp only [Option.bind_some, afterChar?]
      cases skipBlanks w with
      | nil => rfl
      | cons c rest =>
        by_cases hc : c = '\x7b'
        · simp [hc]
        · simp [hc]

lemma valueStart_eq_some_iff {form : AttributeForm} {c : Char} (hc : isBlank c = false)
    (t rest : Text) :
    valueStart? form t = some (c :: rest) ↔ ∃ x, Opens form x ∧ t = x ++ c :: rest := by
  cases form with
  | plain => exact valueStart_plain_iff hc t rest
  | braced =>
    rw [valueStart_braced]
    constructor
    · intro h
      obtain ⟨u, hu, hrest⟩ := Option.bind_eq_some_iff.mp h
      cases u with
      | nil => cases hrest
      | cons d u =>
        simp only [Option.ite_none_right_eq_some, Option.some.injEq] at hrest
        obtain ⟨rfl, hrest⟩ := hrest
        obtain ⟨x, hx, rfl⟩ := (valueStart_plain_iff (by decide) _ _).mp hu
        obtain ⟨blanks, hb, rfl⟩ := (skipBlanks_eq_cons_iff hc _ _).mp hrest
        exact ⟨_, .braced hx hb, by simp⟩
    · rintro ⟨x, hx, rfl⟩
      cases hx with
      | @braced x blanks hx hb =>
        have hopen : valueStart? .plain (x ++ '\x7b' :: (blanks ++ c :: rest)) =
            some ('\x7b' :: (blanks ++ c :: rest)) :=
          (valueStart_plain_iff (by decide) _ _).mpr ⟨x, hx, rfl⟩
        have hskip : skipBlanks (blanks ++ c :: rest) = c :: rest :=
          (skipBlanks_eq_cons_iff hc _ _).mpr ⟨blanks, hb, rfl⟩
        simp [hopen, hskip]

lemma allows_self (form : AttributeForm) (p : Char) : form.allows p p = false := by
  cases form <;> simp [AttributeForm.allows]

lemma isQuote_of_quotes {form : AttributeForm} {p : Char} (h : form.quotes p = true) :
    isQuote p = true := by
  cases form with
  | plain =>
    rw [isQuote_iff]
    simp only [AttributeForm.quotes, Bool.or_eq_true, decide_eq_true_eq] at h
    rcases h with h | h
    · exact Or.inl h
    · exact Or.inr (Or.inl h)
  | braced => exact h

lemma quotedValue_eq_some_iff (form : AttributeForm) (p : Char) (t value rest : Text) :
    quotedValue? form (p :: t) = some (value, rest) ↔
      form.quotes p = true ∧ (∀ c ∈ value, form.allows p c = true) ∧ t = value ++ p :: rest := by
  have hsplit := List.takeWhile_append_dropWhile (p := form.allows p) (l := t)
  simp only [quotedValue?, List.span_eq_takeWhile_dropWhile]
  constructor
  · intro h
    split at h
    · rename_i hp
      refine ⟨hp, ?_⟩
      cases hd : t.dropWhile (form.allows p) with
      | nil => simp [hd] at h
      | cons c u =>
        simp only [hd, Option.ite_none_right_eq_some, Option.some.injEq, Prod.mk.injEq] at h
        obtain ⟨rfl, rfl, rfl⟩ := h
        refine ⟨fun d hdmem => List.mem_takeWhile_imp hdmem, ?_⟩
        rw [← hd, hsplit]
    · cases h
  · rintro ⟨hp, hvalue, rfl⟩
    rw [if_pos hp, List.takeWhile_append_of_pos hvalue, List.dropWhile_append_of_pos hvalue,
      List.takeWhile_cons_of_neg (by simp [allows_self]),
      List.dropWhile_cons_of_neg (by simp [allows_self])]
    simp

lemma valueEnd_eq_some_iff (form : AttributeForm) (t rest : Text) :
    valueEnd? form t = some rest ↔ ∃ y, Closes form y ∧ t = y ++ rest := by
  cases form with
  | plain =>
    simp only [valueEnd?, Option.some.injEq]
    constructor
    · rintro rfl
      exact ⟨[], .plain, rfl⟩
    · rintro ⟨y, hy, rfl⟩
      cases hy
      rfl
  | braced =>
    rw [valueEnd?, afterChar_eq_some_iff, skipBlanks_eq_cons_iff (by decide)]
    constructor
    · rintro ⟨blanks, hb, rfl⟩
      exact ⟨_, .braced hb, by simp⟩
    · rintro ⟨y, hy, rfl⟩
      cases hy with
      | @braced blanks hb => exact ⟨blanks, hb, by simp⟩

lemma attributeAt_eq_some_iff (form : AttributeForm) (t : Text) (s : Span) (n : Nat) :
    attributeAt? form t = some (s, n) ↔
      ∃ x p value y rest, t = x ++ p :: (value ++ p :: (y ++ rest)) ∧ Opens form x ∧
        form.quotes p = true ∧ (∀ c ∈ value, form.allows p c = true) ∧ Closes form y ∧
        s = ⟨x.length + 1, x.length + 1 + value.length⟩ ∧
        n = x.length + 1 + value.length + 1 + y.length := by
  simp only [attributeAt?, Option.bind_eq_bind, Option.bind_eq_some_iff, Option.pure_def,
    Option.some.injEq, Prod.mk.injEq, Prod.exists]
  constructor
  · rintro ⟨opened, hopen, value, behind, hvalue, rest, hend, rfl, rfl⟩
    cases opened with
    | nil => cases hvalue
    | cons p u =>
      obtain ⟨hp, hallowed, rfl⟩ := (quotedValue_eq_some_iff form p u value behind).mp hvalue
      have hblank := isBlank_of_isQuote (isQuote_of_quotes hp)
      obtain ⟨x, hx, rfl⟩ := (valueStart_eq_some_iff hblank t _).mp hopen
      obtain ⟨y, hy, rfl⟩ := (valueEnd_eq_some_iff form behind rest).mp hend
      refine ⟨x, p, value, y, rest, rfl, hx, hp, hallowed, hy, ?_, ?_⟩
      · simp
      · simp
        omega
  · rintro ⟨x, p, value, y, rest, rfl, hx, hp, hallowed, hy, rfl, rfl⟩
    have hblank := isBlank_of_isQuote (isQuote_of_quotes hp)
    refine ⟨_, (valueStart_eq_some_iff hblank _ _).mpr ⟨x, hx, rfl⟩, value, y ++ rest,
      (quotedValue_eq_some_iff _ _ _ _ _).mpr ⟨hp, hallowed, rfl⟩, rest,
      (valueEnd_eq_some_iff _ _ _).mpr ⟨y, hy, rfl⟩, ?_, ?_⟩
    · simp
    · simp
      omega

lemma allows_of_inert {form : AttributeForm} {v : Text} (hv : Inert v) {p : Char}
    (hp : isQuote p = true) : ∀ c ∈ v, form.allows p c = true := by
  intro c hc
  obtain ⟨hquote, hslash, hdollar⟩ := hv.chars c hc
  have hne : c ≠ p := by
    rintro rfl
    rw [hquote] at hp
    cases hp
  cases form <;> simp [AttributeForm.allows, hne, hslash, hdollar]

section Swap

variable {form : AttributeForm} {a b v w : Text} {q r : Char}

lemma not_closes_of_inert (hv : Inert v) (hr : isQuote r = true) {y rest : Text} (hy : Closes form y)
    (h : y ++ rest = v ++ r :: b) : y = [] := by
  cases hy with
  | plain => rfl
  | @braced blanks hb =>
    obtain ⟨v', rfl, -⟩ := split_before_quote (Closes.braced hb).quoteFree hr h
    exact absurd rfl (hv.front blanks _ v' (by simp) hb)

lemma not_opens_of_inert (hv : Inert v) {x u : Text} (hx : Opens form x) : v ≠ u ++ x := by
  rintro rfl
  obtain ⟨y, c, blanks, rfl, hc, hb⟩ := hx.eq_append
  obtain ⟨heq, hbrace⟩ := hv.back (u ++ y) c blanks (by simp) hb
  rcases hc with rfl | rfl
  · exact heq rfl
  · exact hbrace rfl

lemma attributeAt_swap (h : Swappable v w) (hq : isQuote q = true) (hr : isQuote r = true) {s : Span}
    {n : Nat} (hat : attributeAt? form (a ++ q :: (v ++ r :: b)) = some (s, n)) :
    attributeAt? form (a ++ q :: (w ++ r :: b)) =
        some (s.carry (a.length + 1) v.length w.length, carry (a.length + 1) v.length w.length n) ∧
      0 < n ∧ (n ≤ a.length + 1 ∨ a.length + 1 + v.length < n) := by
  obtain ⟨x, p, value, y, rest, ht, hx, hp, hvalue, hy, rfl, rfl⟩ :=
    (attributeAt_eq_some_iff _ _ _ _).mp hat
  have hpq := isQuote_of_quotes hp
  have hpv : p ∉ v := notMem_of_quoteFree h.old.quoteFree hpq
  have hv : 0 < v.length := List.length_pos_iff.mpr h.oldNonempty
  rw [attributeAt_eq_some_iff]
  rcases split_at_quote hpv ht.symm with ⟨a', rfl, ha'⟩ | ⟨rfl, rfl, hrest⟩ | ⟨b', rfl, -⟩
  · -- the value starts before the run
    rcases split_at_quote hpv ha' with ⟨a₂, rfl, ha₂⟩ | ⟨rfl, rfl, hrest⟩ | ⟨b', rfl, hb'⟩
    · obtain ⟨a₃, rfl, -⟩ := split_before_quote hy.quoteFree hq ha₂
      refine ⟨⟨x, p, value, y, a₃ ++ q :: (w ++ r :: b), by simp, hx, hp, hvalue, hy,
        Span.carry_mk (carry_eq hv ?_) (carry_eq hv ?_), carry_eq hv ?_⟩, by omega, ?_⟩ <;>
        simp only [List.length_append, List.length_cons, and_true] <;> omega
    · obtain rfl := not_closes_of_inert h.old hr hy hrest
      refine ⟨⟨x, p, value, [], w ++ r :: b, by simp, hx, hp, hvalue, hy,
        Span.carry_mk (carry_eq hv ?_) (carry_eq hv ?_), carry_eq hv ?_⟩, by omega, ?_⟩ <;>
        simp only [List.length_append, List.length_cons, List.length_nil, and_true] <;> omega
    · have hvalue' : ∀ c ∈ a' ++ q :: (w ++ b'), form.allows p c = true := by
        intro c hc
        simp only [List.mem_append, List.mem_cons] at hc
        rcases hc with hc | rfl | hc | hc
        · exact hvalue c (by simp [hc])
        · exact hvalue c (by simp)
        · exact allows_of_inert h.new hpq c hc
        · exact hvalue c (by simp [hc])
      refine ⟨⟨x, p, a' ++ q :: (w ++ b'), y, rest, by simp [hb'], hx, hp, hvalue', hy,
        Span.carry_mk (carry_eq hv ?_) (carry_eq hv ?_), carry_eq hv ?_⟩, by omega, ?_⟩ <;>
        simp only [List.length_append, List.length_cons, and_true] <;> omega
  · -- the value starts with the run
    obtain ⟨b', rfl, hb'⟩ := split_behind hpv hrest
    have hvalue' : ∀ c ∈ w ++ b', form.allows p c = true := by
      intro c hc
      rcases List.mem_append.mp hc with hc | hc
      · exact allows_of_inert h.new hpq c hc
      · exact hvalue c (by simp [hc])
    refine ⟨⟨x, p, w ++ b', y, rest, by simp [hb'], hx, hp, hvalue', hy,
      Span.carry_mk (carry_eq hv ?_) (carry_eq hv ?_), carry_eq hv ?_⟩, by omega, ?_⟩ <;>
      simp only [List.length_append, and_true] <;> omega
  · -- the part before the value holds no quote
    exact absurd (by simp) (notMem_of_quoteFree hx.quoteFree hq)

lemma attributeAt_swap_none (h : Swappable v w) (hq : isQuote q = true) (hr : isQuote r = true)
    (hat : attributeAt? form (a ++ q :: (v ++ r :: b)) = none) :
    attributeAt? form (a ++ q :: (w ++ r :: b)) = none := by
  cases hw : attributeAt? form (a ++ q :: (w ++ r :: b)) with
  | none => rfl
  | some found =>
    obtain ⟨hback, -⟩ := attributeAt_swap h.symm hq hr hw
    rw [hat] at hback
    cases hback

lemma attributeAt_quote (hq : isQuote q = true) : attributeAt? form (q :: b) = none := by
  cases hat : attributeAt? form (q :: b) with
  | none => rfl
  | some found =>
    obtain ⟨x, p, value, y, rest, ht, hx, -⟩ := (attributeAt_eq_some_iff _ _ _ _).mp hat
    obtain ⟨y, c, blanks, rfl, -⟩ := hx.eq_append
    have hquote := hx.quoteFree
    cases y with
    | nil =>
      obtain ⟨rfl, -⟩ : q = c ∧ _ := by simpa using ht
      exact absurd (by simp) (notMem_of_quoteFree hquote hq)
    | cons d y =>
      obtain ⟨rfl, -⟩ : q = d ∧ _ := by simpa using ht
      exact absurd (by simp) (notMem_of_quoteFree hquote hq)

lemma attributeAt_inert (hv : Inert v) (hr : isQuote r = true) {u z : Text} (hu : v = u ++ z) :
    attributeAt? form (z ++ r :: b) = none := by
  cases hat : attributeAt? form (z ++ r :: b) with
  | none => rfl
  | some found =>
    obtain ⟨x, p, value, y, rest, ht, hx, hp, -⟩ := (attributeAt_eq_some_iff _ _ _ _).mp hat
    have hpq := isQuote_of_quotes hp
    have hz : QuoteFree z := fun c hc => hv.quoteFree c (by simp [hu, hc])
    obtain ⟨b', hxz, hb'⟩ := split_behind (notMem_of_quoteFree hz hpq) ht.symm
    cases b' with
    | nil =>
      rw [List.append_nil] at hxz
      exact absurd (hxz ▸ hu) (not_opens_of_inert hv hx)
    | cons c b' =>
      obtain ⟨rfl, -⟩ : r = c ∧ _ := by simpa using hb'
      exact absurd (by simp [hxz]) (notMem_of_quoteFree hx.quoteFree hr)

end Swap

section Scan

variable {form : AttributeForm} {prev : Option Char} {i : Nat} {t u : Text}

lemma attributesFrom_skip :
    attributesFrom form prev i u.length (u ++ t) =
      attributesFrom form (u.getLast?.or prev) (i + u.length) 0 t := by
  induction u generalizing prev i with
  | nil => rfl
  | cons c u ih =>
    rw [List.length_cons, List.cons_append, attributesFrom, ih]
    congr 1
    · cases hu : u.getLast? <;> simp [List.getLast?_cons, hu]
    · omega

lemma attributesFrom_none {c : Char}
    (h : prev.any joinsName = true ∨ attributeAt? form (c :: t) = none) :
    attributesFrom form prev i 0 (c :: t) = attributesFrom form (some c) (i + 1) 0 t := by
  rw [attributesFrom]
  rcases h with h | h
  · rw [if_pos h]
  · rw [h, ite_self]

lemma attributesFrom_some {s : Span} (hprev : prev.any joinsName = false)
    (hat : attributeAt? form (u ++ t) = some (s, u.length)) (hu : u ≠ []) :
    attributesFrom form prev i 0 (u ++ t) =
      s.shift i :: attributesFrom form u.getLast? (i + u.length) 0 t := by
  obtain ⟨c, u, rfl⟩ := List.exists_cons_of_ne_nil hu
  have hskip : attributesFrom form (some c) (i + 1) u.length (u ++ t) =
      attributesFrom form (u.getLast?.or (some c)) (i + 1 + u.length) 0 t := attributesFrom_skip
  rw [List.cons_append] at hat ⊢
  rw [attributesFrom, hprev, if_neg Bool.false_ne_true, hat]
  simp only [List.length_cons, Nat.add_sub_cancel, hskip]
  congr 2
  · cases hl : u.getLast? <;> simp [List.getLast?_cons, hl]
  · omega

lemma attributesFrom_shift (form : AttributeForm) (prev : Option Char) (i m skip : Nat) (t : Text) :
    attributesFrom form prev (i + m) skip t =
      (attributesFrom form prev i skip t).map fun s => s.shift m := by
  induction t generalizing prev i skip with
  | nil => rfl
  | cons c t ih =>
    cases skip with
    | succ skip =>
      rw [attributesFrom, attributesFrom, ← ih, Nat.add_right_comm]
    | zero =>
      rw [attributesFrom, attributesFrom]
      split
      · rw [List.map_cons, ← ih, Span.shift_shift, Nat.add_right_comm]
      · rw [← ih, Nat.add_right_comm]

lemma attributesFrom_inert {v b : Text} (hv : Inert v) {r : Char} (hr : isQuote r = true) :
    attributesFrom form prev i 0 (v ++ r :: b) =
      attributesFrom form (some r) (i + v.length + 1) 0 b := by
  have hall : ∀ u z, v = u ++ z → ∀ prev i, attributesFrom form prev i 0 (z ++ r :: b) =
      attributesFrom form (some r) (i + z.length + 1) 0 b := by
    intro u z
    induction z generalizing u with
    | nil =>
      intro _ prev i
      exact attributesFrom_none (Or.inr (attributeAt_quote hr))
    | cons c z ih =>
      intro hu prev i
      have hat : attributeAt? form (c :: (z ++ r :: b)) = none := attributeAt_inert hv hr hu
      rw [List.cons_append, attributesFrom_none (Or.inr hat), ih (u ++ [c]) (by simp [hu])]
      congr 1
      simp
      omega
  exact hall [] v rfl prev i

lemma map_carry_attributesFrom {k m old new : Nat} (h : k + old ≤ m) (hold : 0 < old) :
    (attributesFrom form prev m 0 t).map (Span.carry k old new) =
      attributesFrom form prev (m + new - old) 0 t := by
  have hm := attributesFrom_shift form prev 0 m 0 t
  have hn := attributesFrom_shift form prev 0 (m + new - old) 0 t
  rw [Nat.zero_add] at hm hn
  rw [hm, hn, List.map_map]
  apply List.map_congr_left
  intro s _
  exact Span.carry_shift h hold s

end Scan

lemma le_length_of_attributeAt {form : AttributeForm} {t : Text} {s : Span} {n : Nat}
    (h : attributeAt? form t = some (s, n)) : n ≤ t.length := by
  obtain ⟨x, p, value, y, rest, rfl, -, -, -, -, -, rfl⟩ := (attributeAt_eq_some_iff _ _ _ _).mp h
  simp
  omega

section Swap

variable {form : AttributeForm} {a b v w : Text} {q r : Char}

lemma attributesFrom_run (h : Swappable v w) (hr : isQuote r = true) (prev : Option Char) (i : Nat) :
    attributesFrom form prev i 0 (w ++ r :: b) =
      (attributesFrom form prev i 0 (v ++ r :: b)).map (Span.carry i v.length w.length) := by
  have hv : 0 < v.length := List.length_pos_iff.mpr h.oldNonempty
  rw [attributesFrom_inert h.new hr, attributesFrom_inert h.old hr,
    map_carry_attributesFrom (by omega) hv]
  congr 1
  omega

variable {prev : Option Char} {i n : Nat} {s : Span}

lemma attributesFrom_swap_before (h : Swappable v w) (hr : isQuote r = true)
    (hprev : prev.any joinsName = false)
    (hat : attributeAt? form (a ++ q :: (v ++ r :: b)) = some (s, a.length + 1))
    (hat' : attributeAt? form (a ++ q :: (w ++ r :: b)) =
      some (s.carry (a.length + 1) v.length w.length, a.length + 1)) :
    attributesFrom form prev i 0 (a ++ q :: (w ++ r :: b)) =
      (attributesFrom form prev i 0 (a ++ q :: (v ++ r :: b))).map
        (Span.carry (a.length + 1 + i) v.length w.length) := by
  have hsplit : ∀ u, a ++ q :: (u ++ r :: b) = (a ++ [q]) ++ (u ++ r :: b) := by simp
  have hlen : a.length + 1 = (a ++ [q]).length := by simp
  rw [hsplit, hlen] at hat hat'
  rw [hsplit, hsplit, attributesFrom_some hprev hat (by simp), attributesFrom_some hprev hat' (by simp),
    attributesFrom_run h hr, List.map_cons, ← hlen, Span.carry_add, Nat.add_comm i]

lemma attributesFrom_swap_across (h : Swappable v w) (hprev : prev.any joinsName = false)
    (hat : attributeAt? form (a ++ q :: (v ++ r :: b)) = some (s, n))
    (hat' : attributeAt? form (a ++ q :: (w ++ r :: b)) =
      some (s.carry (a.length + 1) v.length w.length, n + w.length - v.length))
    (hn : a.length + 1 + v.length < n) :
    attributesFrom form prev i 0 (a ++ q :: (w ++ r :: b)) =
      (attributesFrom form prev i 0 (a ++ q :: (v ++ r :: b))).map
        (Span.carry (a.length + 1 + i) v.length w.length) := by
  have hv : 0 < v.length := List.length_pos_iff.mpr h.oldNonempty
  obtain ⟨b₁, b₂, rfl, rfl⟩ : ∃ b₁ b₂, b = b₁ ++ b₂ ∧ n = (a ++ q :: (v ++ r :: b₁)).length := by
    have hle := le_length_of_attributeAt hat
    refine ⟨b.take (n - (a.length + v.length + 2)), b.drop (n - (a.length + v.length + 2)), by simp, ?_⟩
    simp only [List.length_append, List.length_cons, List.length_take] at hle ⊢
    omega
  have hsplit : ∀ u, a ++ q :: (u ++ r :: (b₁ ++ b₂)) = (a ++ q :: (u ++ r :: b₁)) ++ b₂ := by simp
  have hlast : ∀ u, (a ++ q :: (u ++ r :: b₁)).getLast? = (r :: b₁).getLast? := by
    intro u
    simp [List.getLast?_append, List.getLast?_cons]
  have hlen : (a ++ q :: (v ++ r :: b₁)).length + w.length - v.length =
      (a ++ q :: (w ++ r :: b₁)).length := by
    simp
    omega
  rw [hlen, hsplit] at hat'
  rw [hsplit] at hat
  rw [hsplit, hsplit, attributesFrom_some hprev hat (by simp), attributesFrom_some hprev hat' (by simp),
    List.map_cons, Span.carry_add, map_carry_attributesFrom (by omega) hv, hlast, hlast]
  congr 2
  omega

lemma attributesFrom_swap (h : Swappable v w) (hq : isQuote q = true) (hr : isQuote r = true)
    (prev : Option Char) (i : Nat) :
    attributesFrom form prev i 0 (a ++ q :: (w ++ r :: b)) =
      (attributesFrom form prev i 0 (a ++ q :: (v ++ r :: b))).map
        (Span.carry (a.length + 1 + i) v.length w.length) := by
  have hv : 0 < v.length := List.length_pos_iff.mpr h.oldNonempty
  -- an attribute that ends before the run leaves less in front of the run
  induction hlen : a.length using Nat.strongRecOn generalizing a prev i with
  | ind n ih =>
    subst hlen
    cases a with
    | nil =>
      rw [List.nil_append, List.nil_append, attributesFrom_none (Or.inr (attributeAt_quote hq)),
        attributesFrom_none (Or.inr (attributeAt_quote hq)), attributesFrom_run h hr]
      congr 2
      simp
      omega
    | cons c a =>
      by_cases hstart : prev.any joinsName = true ∨
          attributeAt? form (c :: a ++ q :: (v ++ r :: b)) = none
      · have hstart' : prev.any joinsName = true ∨
            attributeAt? form (c :: a ++ q :: (w ++ r :: b)) = none :=
          hstart.imp_right (attributeAt_swap_none h hq hr)
        rw [List.cons_append] at hstart hstart' ⊢
        rw [List.cons_append, attributesFrom_none hstart, attributesFrom_none hstart',
          ih a.length (by simp) _ _ rfl]
        congr 2
        simp
        omega
      · obtain ⟨hprev, hsome⟩ := not_or.mp hstart
        rw [Bool.not_eq_true] at hprev
        obtain ⟨⟨s, n⟩, hat⟩ := Option.ne_none_iff_exists'.mp hsome
        obtain ⟨hat', hpos, hn⟩ := attributeAt_swap h hq hr hat
        generalize hA : c :: a = A at *
        rcases hn with hn | hn
        · rw [carry_of_le hn] at hat'
          rcases Nat.lt_or_ge A.length n with hlt | hle
          · obtain rfl : n = A.length + 1 := by omega
            exact attributesFrom_swap_before h hr hprev hat hat'
          · obtain ⟨u, A', rfl, rfl⟩ : ∃ u A', A = u ++ A' ∧ u.length = n :=
              ⟨A.take n, A.drop n, by simp, by simpa using hle⟩
            have hu : u ≠ [] := List.length_pos_iff.mp hpos
            rw [List.append_assoc] at hat hat' ⊢
            rw [List.append_assoc, attributesFrom_some hprev hat hu, attributesFrom_some hprev hat' hu,
              ih A'.length (by simp; omega) _ _ rfl, List.map_cons, Span.carry_add]
            congr 3
            simp
            omega
        · rw [carry_of_ge (by omega) hv] at hat'
          exact attributesFrom_swap_across h hprev hat hat' hn

lemma attributes_swap (h : Swappable v w) (hq : isQuote q = true) (hr : isQuote r = true) :
    attributes (a ++ q :: (w ++ r :: b)) =
      (attributes (a ++ q :: (v ++ r :: b))).map (Span.carry (a.length + 1) v.length w.length) := by
  rw [attributes, attributes, attributesFrom_swap h hq hr, attributesFrom_swap h hq hr,
    List.map_append, Nat.add_zero]

end Swap

lemma enclosed_of_mem_attributesFrom {form : AttributeForm} {prev : Option Char} {i skip : Nat}
    {t : Text} {s : Span} (h : s ∈ attributesFrom form prev i skip t) :
    ∃ s', s = s'.shift i ∧ Enclosed t s' := by
  induction t generalizing prev i skip with
  | nil => cases h
  | cons c t ih =>
    have hlater : ∀ {prev skip}, s ∈ attributesFrom form prev (i + 1) skip t →
        ∃ s', s = s'.shift i ∧ Enclosed (c :: t) s' := by
      intro prev skip hmem
      obtain ⟨s', rfl, hs⟩ := ih hmem
      refine ⟨s'.shift 1, by rw [Span.shift_shift, Nat.add_comm], ?_⟩
      simpa using hs.append [c] []
    cases skip with
    | succ skip => exact hlater h
    | zero =>
      rw [attributesFrom] at h
      split at h
      · rename_i s' n hat
        rcases List.mem_cons.mp h with rfl | hmem
        · split at hat
          · cases hat
          · obtain ⟨x, p, value, y, rest, ht, -, hp, -, -, rfl, -⟩ :=
              (attributeAt_eq_some_iff _ _ _ _).mp hat
            have hpq := isQuote_of_quotes hp
            exact ⟨_, rfl, x, p, value, p, y ++ rest, ht, hpq, hpq, rfl⟩
        · exact hlater hmem
      · exact hlater h

lemma enclosed_of_mem_attributes {t : Text} {s : Span} (h : s ∈ attributes t) : Enclosed t s := by
  have hfrom : ∀ {form}, s ∈ attributesFrom form none 0 0 t → Enclosed t s := by
    intro form hmem
    obtain ⟨s', rfl, hs⟩ := enclosed_of_mem_attributesFrom hmem
    exact hs
  rcases List.mem_append.mp h with hmem | hmem
  · exact hfrom hmem
  · exact hfrom hmem

end Source

end ClassTidy
