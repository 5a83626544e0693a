import ClassTidy.Proofs.Checking
import Mathlib.Algebra.Group.Nat.Even

/-! Literals of a text stay apart when the list in one of them is replaced by its form. -/

namespace ClassTidy

open Fallible Text

lemma Span.text_shift (s : Span) (u t : Text) : (s.shift u.length).text (u ++ t) = s.text t := by
  have htake : (u ++ t).take (s.stop + u.length) = u ++ t.take s.stop := by
    rw [Nat.add_comm, List.take_length_add_append]
  rw [Span.text, Span.shift, between, htake, Nat.add_comm, List.drop_length_add_append]
  rfl

lemma Span.text_append {s : Span} {t : Text} (h : s.stop ≤ t.length) (u : Text) :
    s.text (t ++ u) = s.text t := by
  rw [Span.text, Span.text, between, between, List.take_append_of_le_length h]

lemma Span.text_middle (a v b : Text) :
    (⟨a.length, a.length + v.length⟩ : Span).text (a ++ (v ++ b)) = v := by
  simp [Span.text, between, List.take_length_add_append]

@[simp] lemma Span.shift_shift (s : Span) (m n : Nat) : (s.shift m).shift n = s.shift (m + n) := by
  simp [Span.shift, Nat.add_assoc]

lemma Span.shift_injective (n : Nat) : Function.Injective fun s : Span => s.shift n := by
  rintro ⟨start, stop⟩ ⟨start', stop'⟩ h
  simpa [Span.shift] using h

namespace Resolver

variable {ε : Type}

def Selects (resolve : Resolver ε) : Prop :=
  ∀ raw kept, resolve raw = .ok kept → (words kept).Sublist (words raw)

end Resolver

lemma Formatter.mem_words_of_format {ε : Type} {f : Formatter ε} (hf : f.resolve.Selects)
    {raw s w : Text} (h : f.format raw = .ok (some s)) (hw : w ∈ words s) : w ∈ words raw := by
  have hs := canonical_of_format h
  rcases Nat.lt_or_ge 1 (words raw).length with htwo | hshort
  · rw [canonical_of_two htwo, map_eq_ok_iff] at hs
    obtain ⟨kept, hkept, rfl⟩ := hs
    have hsub := hf _ _ hkept
    rw [words_unwords (isWord_of_mem_sortTokens f.registry raw)] at hsub
    rw [words_collapse] at hw
    exact (f.registry.sortTokens_perm (words raw)).mem_iff.mp (hsub.mem hw)
  · obtain ⟨s', hs', hwords, _⟩ := f.canonical_of_short hshort
    obtain rfl : s' = s := Except.ok.inj (hs'.symm.trans hs)
    rwa [← hwords]

namespace Source

lemma isQuote_iff (c : Char) : isQuote c = true ↔ c = '\x22' ∨ c = '\x27' ∨ c = '\x60' := by
  simp [isQuote, or_assoc]

lemma ne_backslash_of_isQuote {q : Char} (hq : isQuote q = true) : q ≠ '\\' := by
  rintro rfl
  cases hq

lemma isBlank_of_isQuote {q : Char} (hq : isQuote q = true) : isBlank q = false := by
  rcases (isQuote_iff q).mp hq with rfl | rfl | rfl <;> decide

/-- Whether a backslash takes the character behind a text inside of quotes; `none` if the quote that
closes them stands in the text. The flag says whether one takes its first character. -/
def escapedAfter? (q : Char) : Bool → Text → Option Bool
  | escaped, [] => some escaped
  | true, _ :: t => escapedAfter? q false t
  | false, c :: t =>
    if c = '\\' then escapedAfter? q true t
    else if c = q then none
    else escapedAfter? q false t

def IsContent (q : Char) (v : Text) : Prop := escapedAfter? q false v = some false

lemma escapedAfter_append (q : Char) (escaped : Bool) (s t : Text) :
    escapedAfter? q escaped (s ++ t) =
      (escapedAfter? q escaped s).bind fun e => escapedAfter? q e t := by
  induction s generalizing escaped with
  | nil => rfl
  | cons c s ih =>
    cases escaped with
    | true => exact ih false
    | false =>
      simp only [List.cons_append, escapedAfter?]
      split
      · exact ih true
      · split
        · rfl
        · exact ih false

lemma escapedAfter_cons_of_ne {q c : Char} (hslash : c ≠ '\\') (hq : c ≠ q) (escaped : Bool) (t : Text) :
    escapedAfter? q escaped (c :: t) = escapedAfter? q false t := by
  cases escaped with
  | true => rfl
  | false => simp [escapedAfter?, hslash, hq]

lemma content_or_open (q : Char) (escaped : Bool) (t : Text) :
    (∃ v rest, t = v ++ q :: rest ∧ escapedAfter? q escaped v = some false) ∨
      ∃ e, escapedAfter? q escaped t = some e := by
  induction t generalizing escaped with
  | nil => exact Or.inr ⟨escaped, rfl⟩
  | cons c t ih =>
    have hstep : ∀ e, (∀ u, escapedAfter? q escaped (c :: u) = escapedAfter? q e u) →
        (∃ v rest, c :: t = v ++ q :: rest ∧ escapedAfter? q escaped v = some false) ∨
          ∃ e, escapedAfter? q escaped (c :: t) = some e := by
      intro e he
      rcases ih e with ⟨v, rest, rfl, hv⟩ | hopen
      · exact Or.inl ⟨c :: v, rest, rfl, by rw [he, hv]⟩
      · exact Or.inr (by rwa [he])
    cases escaped with
    | true => exact hstep false fun u => rfl
    | false =>
      by_cases hslash : c = '\\'
      · exact hstep true fun u => by simp [escapedAfter?, hslash]
      · by_cases hq : c = q
        · exact Or.inl ⟨[], t, by rw [hq, List.nil_append], rfl⟩
        · exact hstep false fun u => by simp [escapedAfter?, hslash, hq]

@[elab_as_elim]
theorem literalInduction {motive : Text → Prop} (nil : motive [])
    (code : ∀ c t, isQuote c = false → motive t → motive (c :: t))
    (literal : ∀ q v t, isQuote q = true → IsContent q v → motive t → motive (q :: (v ++ q :: t)))
    (unclosed : ∀ q v e, isQuote q = true → escapedAfter? q false v = some e → motive (q :: v))
    (t : Text) : motive t := by
  induction hn : t.length using Nat.strongRecOn generalizing t with
  | ind n ih =>
    subst hn
    cases t with
    | nil => exact nil
    | cons c t =>
      cases hc : isQuote c with
      | false => exact code c t hc (ih t.length (by simp) t rfl)
      | true =>
        rcases content_or_open c false t with ⟨v, rest, rfl, hv⟩ | ⟨e, he⟩
        · exact literal c v rest hc hv (ih rest.length (by simp; omega) rest rfl)
        · exact unclosed c t e hc he

inductive Closed : Text → Prop
  | nil : Closed []
  | code {c : Char} {t : Text} : isQuote c = false → Closed t → Closed (c :: t)
  | literal {q : Char} {v t : Text} : isQuote q = true → IsContent q v → Closed t →
      Closed (q :: (v ++ q :: t))

def insideState (q : Char) (start : Nat) (escaped : Bool) : LiteralScan :=
  if escaped then .escaped q start else .inside q start

lemma literalsFrom_inside {q : Char} {escaped e : Bool} {v : Text}
    (h : escapedAfter? q escaped v = some e) (start i : Nat) (t : Text) :
    literalsFrom (insideState q start escaped) i (v ++ t) =
      literalsFrom (insideState q start e) (i + v.length) t := by
  induction v generalizing escaped i with
  | nil =>
    cases h
    rfl
  | cons c v ih =>
    have hlen : i + (c :: v).length = i + 1 + v.length := by simp; omega
    rw [hlen]
    cases escaped with
    | true => exact ih h (i + 1)
    | false =>
      simp only [escapedAfter?] at h
      simp only [insideState, List.cons_append, literalsFrom, Bool.false_eq_true, if_false]
      split at h
      · rename_i hslash
        rw [if_pos hslash]
        exact ih h (i + 1)
      · rename_i hslash
        split at h
        · cases h
        · rename_i hq
          rw [if_neg hslash, if_neg hq]
          exact ih h (i + 1)

lemma literalsFrom_literal {q : Char} {v : Text} (hq : isQuote q = true) (hv : IsContent q v)
    (i : Nat) (t : Text) :
    literalsFrom .outside i (q :: (v ++ q :: t)) =
      ⟨i + 1, i + 1 + v.length⟩ :: literalsFrom .outside (i + 1 + v.length + 1) t := by
  have hh := literalsFrom_inside hv (i + 1) (i + 1) (q :: t)
  simp only [insideState, Bool.false_eq_true, if_false] at hh
  rw [literalsFrom, if_pos hq, hh, literalsFrom, if_neg (ne_backslash_of_isQuote hq), if_pos rfl]

lemma literalsFrom_open {q : Char} {v : Text} {e : Bool} (hq : isQuote q = true)
    (hv : escapedAfter? q false v = some e) (i : Nat) : literalsFrom .outside i (q :: v) = [] := by
  have hh := literalsFrom_inside hv (i + 1) (i + 1) []
  simp only [insideState, Bool.false_eq_true, if_false, List.append_nil] at hh
  rw [literalsFrom, if_pos hq, hh, literalsFrom]

lemma literalsFrom_code {c : Char} (hc : isQuote c = false) (i : Nat) (t : Text) :
    literalsFrom .outside i (c :: t) = literalsFrom .outside (i + 1) t := by
  simp [literalsFrom, hc]

lemma literalsFrom_closed_append {u : Text} (hu : Closed u) (i : Nat) (t : Text) :
    literalsFrom .outside i (u ++ t) =
      literalsFrom .outside i u ++ literalsFrom .outside (i + u.length) t := by
  induction hu generalizing i with
  | nil => rfl
  | @code c u hc _ ih =>
    rw [List.cons_append, literalsFrom_code hc, literalsFrom_code hc, ih, List.length_cons,
      Nat.add_right_comm, Nat.add_assoc]
  | @literal q v u hq hv _ ih =>
    have hlen : i + (q :: (v ++ q :: u)).length = i + 1 + v.length + 1 + u.length := by
      simp
      omega
    rw [List.cons_append, List.append_assoc, List.cons_append, literalsFrom_literal hq hv,
      literalsFrom_literal hq hv, ih, hlen, List.cons_append]

def LiteralScan.shift (n : Nat) : LiteralScan → LiteralScan
  | outside => outside
  | inside q start => inside q (start + n)
  | escaped q start => escaped q (start + n)

lemma literalsFrom_shift (n : Nat) (scan : LiteralScan) (i : Nat) (t : Text) :
    literalsFrom (scan.shift n) (i + n) t = (literalsFrom scan i t).map fun s => s.shift n := by
  induction t generalizing scan i with
  | nil => cases scan <;> rfl
  | cons c t ih =>
    have hstep : i + n + 1 = i + 1 + n := by omega
    cases scan with
    | outside =>
      simp only [LiteralScan.shift, literalsFrom, hstep]
      split
      · exact ih (.inside c (i + 1)) (i + 1)
      · exact ih .outside (i + 1)
    | inside q start =>
      simp only [LiteralScan.shift, literalsFrom, hstep]
      split
      · exact ih (.escaped q start) (i + 1)
      · split
        · rw [List.map_cons]
          exact congrArg _ (ih .outside (i + 1))
        · exact ih (.inside q start) (i + 1)
    | escaped q start =>
      simp only [LiteralScan.shift, literalsFrom, hstep]
      exact ih (.inside q start) (i + 1)

lemma literalsFrom_outside (i : Nat) (t : Text) :
    literalsFrom .outside i t = (literals t).map fun s => s.shift i := by
  have hh := literalsFrom_shift i .outside 0 t
  rwa [Nat.zero_add] at hh

lemma stop_bounds {scan : LiteralScan} {i : Nat} {t : Text} {s : Span}
    (h : s ∈ literalsFrom scan i t) : i ≤ s.stop ∧ s.stop < i + t.length := by
  have hlater : ∀ {j n : Nat}, j + 1 ≤ s.stop ∧ s.stop < j + 1 + n → j ≤ s.stop ∧ s.stop < j + (n + 1) := by
    omega
  induction t generalizing scan i with
  | nil => cases scan <;> cases h
  | cons c t ih =>
    rw [List.length_cons]
    cases scan with
    | outside =>
      simp only [literalsFrom] at h
      split at h <;> exact hlater (ih h)
    | inside q start =>
      simp only [literalsFrom] at h
      split at h
      · exact hlater (ih h)
      · split at h
        · rcases List.mem_cons.mp h with rfl | h
          · simp
          · exact hlater (ih h)
        · exact hlater (ih h)
    | escaped q start => exact hlater (ih h)

lemma exists_literal {i : Nat} {t : Text} {before after : List Span} {s : Span}
    (h : literalsFrom .outside i t = before ++ s :: after) :
    ∃ u q v rest, t = u ++ q :: (v ++ q :: rest) ∧ Closed u ∧ isQuote q = true ∧ IsContent q v ∧
      before = literalsFrom .outside i u ∧
      s = ⟨i + u.length + 1, i + u.length + 1 + v.length⟩ ∧
      after = literalsFrom .outside (i + u.length + 1 + v.length + 1) rest := by
  induction t using literalInduction generalizing i before with
  | nil => simp [literalsFrom] at h
  | code c t hc ih =>
    rw [literalsFrom_code hc] at h
    obtain ⟨u, q, v, rest, rfl, hu, hq, hv, rfl, rfl, rfl⟩ := ih h
    refine ⟨c :: u, q, v, rest, rfl, .code hc hu, hq, hv, ?_, ?_, ?_⟩
    · rw [literalsFrom_code hc]
    · simp only [List.length_cons, Span.mk.injEq]
      omega
    · congr 1
      simp only [List.length_cons]
      omega
  | literal q v t hq hv ih =>
    rw [literalsFrom_literal hq hv] at h
    cases before with
    | nil =>
      simp only [List.nil_append, List.cons.injEq] at h
      obtain ⟨rfl, rfl⟩ := h
      exact ⟨[], q, v, t, rfl, .nil, hq, hv, rfl, rfl, rfl⟩
    | cons b before =>
      simp only [List.cons_append, List.cons.injEq] at h
      obtain ⟨rfl, h⟩ := h
      obtain ⟨u, q', v', rest, rfl, hu, hq', hv', rfl, rfl, rfl⟩ := ih h
      refine ⟨q :: (v ++ q :: u), q', v', rest, by simp, .literal hq hv hu, hq', hv', ?_, ?_, ?_⟩
      · rw [literalsFrom_literal hq hv]
      · simp only [List.length_cons, List.length_append, Span.mk.injEq]
        omega
      · congr 1
        simp only [List.length_cons, List.length_append]
        omega
  | unclosed q v e hq hv =>
    rw [literalsFrom_open hq hv] at h
    simp at h

def literalTexts (t : Text) : List (Text × Span) := (literals t).map fun s => (s.text t, s)

lemma literalTexts_append_literal {u v : Text} {q : Char} (hu : Closed u) (hq : isQuote q = true)
    (hv : IsContent q v) (rest : Text) :
    literalTexts (u ++ q :: (v ++ q :: rest)) =
      literalTexts u ++ (v, ⟨u.length + 1, u.length + 1 + v.length⟩) ::
        (literalTexts rest).map fun (text, s) => (text, s.shift (u.length + 1 + v.length + 1)) := by
  have hall : literals (u ++ q :: (v ++ q :: rest)) = literals u ++
      ⟨u.length + 1, u.length + 1 + v.length⟩ ::
        (literals rest).map fun s => s.shift (u.length + 1 + v.length + 1) := by
    rw [literals, literalsFrom_closed_append hu, Nat.zero_add, literalsFrom_literal hq hv,
      literalsFrom_outside (u.length + 1 + v.length + 1)]
    rfl
  rw [literalTexts, hall, List.map_append, List.map_cons, List.map_map]
  congr 1
  · apply List.map_congr_left
    intro s hs
    have hbound := (stop_bounds hs).2
    rw [Span.text_append (by omega)]
  · congr 1
    · have hh := Span.text_middle (u ++ [q]) v (q :: rest)
      simp only [List.length_append, List.length_singleton, List.append_assoc,
        List.singleton_append] at hh
      rw [hh]
    · rw [literalTexts, List.map_map]
      apply List.map_congr_left
      intro s _
      have hh := Span.text_shift s (u ++ q :: (v ++ [q])) rest
      have hlen : (u ++ q :: (v ++ [q])).length = u.length + 1 + v.length + 1 := by
        simp
        omega
      rw [hlen] at hh
      simpa using hh

lemma escapedAfter_words {q : Char} (hq : isQuote q = true) {v : Text} {e : Bool}
    (hv : escapedAfter? q false v = some e) {w : Text} (hw : w ∈ words v) :
    ∃ e, escapedAfter? q false w = some e := by
  have hblank : ∀ {c : Char}, isBlank c = true → c ≠ '\\' ∧ c ≠ q := by
    intro c hc
    constructor
    · rintro rfl
      cases hc
    · rintro rfl
      rw [isBlank_of_isQuote hq] at hc
      cases hc
  induction v using wordInduction with
  | nil => simp at hw
  | blank c t hc ih =>
    rw [escapedAfter_cons_of_ne (hblank hc).1 (hblank hc).2] at hv
    rw [words_cons_blank hc] at hw
    exact ih hv hw
  | word u hu =>
    rw [words_of_isWord hu, List.mem_singleton] at hw
    exact ⟨e, hw ▸ hv⟩
  | wordBlank u c t hu hc ih =>
    rw [escapedAfter_append] at hv
    obtain ⟨e', hu', hrest⟩ := Option.bind_eq_some_iff.mp hv
    rw [words_word_blank hu hc] at hw
    rcases List.mem_cons.mp hw with rfl | hw
    · exact ⟨e', hu'⟩
    · -- the blank is taken by a backslash or stands for itself, and the next word starts afresh
      refine ih ?_ (by rwa [words_cons_blank hc])
      rwa [escapedAfter_cons_of_ne (hblank hc).1 (hblank hc).2] at hrest ⊢

lemma escapedAfter_unwords {q : Char} (hq : isQuote q = true) {ws : List Text}
    (h : ∀ w ∈ ws, ∃ e, escapedAfter? q false w = some e) :
    ∃ e, escapedAfter? q false (unwords ws) = some e := by
  have hspace : ' ' ≠ q := by
    rintro rfl
    cases hq
  induction ws with
  | nil => exact ⟨false, rfl⟩
  | cons w ws ih =>
    obtain ⟨e, he⟩ := h w List.mem_cons_self
    by_cases hnil : ws = []
    · subst hnil
      exact ⟨e, by rw [unwords_singleton, he]⟩
    · obtain ⟨e', he'⟩ := ih fun u hu => h u (List.mem_cons_of_mem w hu)
      refine ⟨e', ?_⟩
      rw [unwords_cons w hnil, escapedAfter_append, he, Option.bind_some,
        escapedAfter_cons_of_ne (by decide) hspace, he']

lemma isContent_iff_even {q : Char} {w : Text} {e : Bool} (h : escapedAfter? q false w = some e) :
    IsContent q w ↔ Even (w.rtakeWhile (· = '\\')).length := by
  rw [IsContent, h, Option.some.injEq]
  induction w using List.reverseRecOn generalizing e with
  | nil =>
    cases h
    simp
  | append_singleton w c ih =>
    rw [escapedAfter_append] at h
    obtain ⟨e', he', hc⟩ := Option.bind_eq_some_iff.mp h
    by_cases hslash : c = '\\'
    · subst hslash
      rw [List.rtakeWhile_concat_pos _ _ _ (by simp), List.length_append, List.length_singleton,
        Nat.even_add_one, ← ih he']
      cases e' <;> cases hc <;> simp
    · rw [List.rtakeWhile_concat_neg _ _ _ (by simp [hslash])]
      cases e' with
      | true =>
        cases hc
        simp
      | false =>
        simp only [escapedAfter?, hslash, if_false, Option.ite_none_left_eq_some,
          Option.some.injEq] at hc
        simp [← hc.2]

lemma ne_literal_of_escaped {q : Char} {w : Text} (hq : isQuote q = true)
    (hw : escapedAfter? q false w = some true) (i : Nat) (rest : Text) (after : List Span) :
    literalsFrom .outside i (q :: (w ++ q :: rest)) ≠ ⟨i + 1, i + 1 + w.length⟩ :: after := by
  intro heq
  have hh := literalsFrom_inside hw (i + 1) (i + 1) (q :: rest)
  simp only [insideState, Bool.false_eq_true, if_false, if_true, literalsFrom] at hh
  rw [literalsFrom, if_pos hq, hh] at heq
  have hbound := (stop_bounds (heq ▸ List.mem_cons_self)).1
  simp only at hbound
  omega

lemma exists_literal_of_texts {r v : Text} {s : Span} {before after : List (Text × Span)}
    (h : literalTexts r = before ++ (v, s) :: after) :
    ∃ u q rest, r = u ++ q :: (v ++ q :: rest) ∧ Closed u ∧ isQuote q = true ∧ IsContent q v ∧
      before = literalTexts u ∧ s = ⟨u.length + 1, u.length + 1 + v.length⟩ ∧
      after = (literalTexts rest).map fun (text, a) =>
        (text, a.shift (u.length + 1 + v.length + 1)) := by
  have hspans : literalsFrom .outside 0 r = before.map Prod.snd ++ s :: after.map Prod.snd := by
    have hh := congrArg (List.map Prod.snd) h
    simpa [literalTexts, literals, Function.comp_def] using hh
  obtain ⟨u, q, v', rest, rfl, hu, hq, hv, hbefore, hs, -⟩ := exists_literal hspans
  rw [literalTexts_append_literal hu hq hv] at h
  have hlen : (literalTexts u).length = before.length := by
    simpa [literalTexts, literals] using (congrArg List.length hbefore).symm
  obtain ⟨rfl, htail⟩ := List.append_inj h hlen
  simp only [List.cons.injEq, Prod.mk.injEq] at htail
  obtain ⟨⟨rfl, rfl⟩, rfl⟩ := htail
  exact ⟨u, q, rest, rfl, hu, hq, hv, rfl, rfl, rfl⟩

/-- The list in a literal is replaced by its form. Then the literals are the same but for this one,
unless the form ends in a backslash that takes the closing quote with it. -/
theorem literalTexts_replace_iff {ε : Type} (f : Formatter ε) (hf : f.resolve.Selects)
    (r v w : Text) (s : Span) (before after : List (Text × Span))
    (hl : literalTexts r = before ++ (v, s) :: after) (hw : f.format v = .ok (some w)) :
    literalTexts (r.take s.start ++ w ++ r.drop s.stop) =
        before ++ (w, ⟨s.start, s.start + w.length⟩) :: after.map (fun (text, a) =>
          (text, ⟨a.start + w.length - v.length, a.stop + w.length - v.length⟩)) ↔
      Even (w.rtakeWhile (· = '\\')).length := by
  obtain ⟨u, q, rest, rfl, hu, hq, hv, rfl, rfl, rfl⟩ := exists_literal_of_texts hl
  obtain ⟨e, he⟩ : ∃ e, escapedAfter? q false w = some e := by
    have hh := escapedAfter_unwords hq fun x hx => escapedAfter_words hq hv (f.mem_words_of_format hf hw hx)
    rwa [← collapse_eq_unwords, Formatter.collapse_format hw] at hh
  have hnew : (u ++ q :: (v ++ q :: rest)).take (u.length + 1) ++ w ++
      (u ++ q :: (v ++ q :: rest)).drop (u.length + 1 + v.length) = u ++ q :: (w ++ q :: rest) := by
    simp [List.take_length_add_append, Nat.add_assoc, Nat.add_comm 1]
  rw [hnew, ← isContent_iff_even he]
  constructor
  · intro heq
    cases e with
    | false => exact he
    | true =>
      have hspans := congrArg (List.map Prod.snd) heq
      simp only [literalTexts, List.map_append, List.map_map, List.map_cons, Function.comp_def,
        List.map_id'] at hspans
      rw [literals, literalsFrom_closed_append hu, Nat.zero_add] at hspans
      exact absurd (List.append_cancel_left hspans) (ne_literal_of_escaped hq he _ _ _)
  · intro hcontent
    rw [literalTexts_append_literal hu hq hcontent, List.map_map]
    congr 2
    apply List.map_congr_left
    rintro ⟨text, a⟩ _
    simp only [Function.comp_apply, Span.shift, Prod.mk.injEq, Span.mk.injEq, true_and]
    omega

theorem literalTexts_replace_iff_escaped_blank :
    let keep : Formatter Empty := ⟨[], fun t => .ok t⟩
    let r : Text := "f(\"c  b\\ a\", 'd')".toList
    keep.resolve.Selects ∧
      literalTexts r = [("c  b\\ a".toList, ⟨3, 10⟩), ("d".toList, ⟨14, 15⟩)] ∧
      keep.format "c  b\\ a".toList = .ok (some "a b\\ c".toList) ∧
      literalTexts (r.take 3 ++ "a b\\ c".toList ++ r.drop 10) =
        [("a b\\ c".toList, ⟨3, 9⟩), ("d".toList, ⟨13, 14⟩)] := by
  intro keep r
  have hkeep : keep.resolve.Selects := by
    intro raw kept h
    cases h
    exact List.Sublist.refl _
  have hl : literalTexts r = [("c  b\\ a".toList, ⟨3, 10⟩), ("d".toList, ⟨14, 15⟩)] := by decide
  have hw : keep.format "c  b\\ a".toList = .ok (some "a b\\ c".toList) := by decide
  exact ⟨hkeep, hl, hw, (literalTexts_replace_iff keep hkeep r _ _ ⟨3, 10⟩ [] _ hl hw).mpr (by decide)⟩

-- a backslash before a blank comes to stand before the closing quote
example :
    let keep : Formatter Empty := ⟨[], fun t => .ok t⟩
    let r : Text := "\"b\\ a\"".toList
    literalTexts r = [("b\\ a".toList, ⟨1, 5⟩)] ∧
      keep.format "b\\ a".toList = .ok (some "a b\\".toList) ∧
      literalTexts (r.take 1 ++ "a b\\".toList ++ r.drop 5) = [] := by
  decide

end Source

end ClassTidy
