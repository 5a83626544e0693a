import ClassTidy.Proofs.Splicing
import Mathlib

/-! New values in class attributes are found where the old ones were. -/

namespace ClassTidy

open Text Source

namespace Finding

structure Refills (t : Text) (f : Finding) (s : Span) : Prop where
  start : f.start = s.start
  stop : f.stop = s.stop
  chars : ∀ c ∈ f.replacement, c ∈ s.text t ∨ c = ' '

def growth (f : Finding) : Int := f.replacement.length - (f.stop - f.start)

end Finding

namespace Source

open Locator

inductive Rewriting : Text → Text → Prop
  | nil : Rewriting [] []
  | keep {t t' : Text} (c : Char) : Rewriting t t' → Rewriting (c :: t) (c :: t')
  | value {v w t t' : Text} {q : Char} : isQuote q = true → (∀ c ∈ w, c ∈ v ∨ c = ' ') →
    Rewriting t t' → Rewriting (q :: (v ++ q :: t)) (q :: (w ++ q :: t'))

namespace Rewriting

variable {t t' : Text}

lemma append (u : Text) (h : Rewriting t t') : Rewriting (u ++ t) (u ++ t') := by
  induction u with
  | nil => exact h
  | cons c u ih => exact ih.keep c

lemma mem (h : Rewriting t t') {c : Char} (hc : c ≠ ' ') (hmem : c ∈ t') : c ∈ t := by
  induction h with
  | nil => exact hmem
  | keep d _ ih =>
    rcases List.mem_cons.mp hmem with rfl | hmem
    · exact List.mem_cons_self
    · exact List.mem_cons_of_mem d (ih hmem)
  | @value v w t t' q _ hchars _ ih =>
    simp only [List.mem_cons, List.mem_append] at hmem ⊢
    rcases hmem with hq | hw | hq | hmem
    · exact Or.inl hq
    · exact Or.inr (Or.inl ((hchars c hw).resolve_right hc))
    · exact Or.inl hq
    · exact Or.inr (Or.inr (Or.inr (ih hmem)))

-- Up to its first quote the text is kept, and a quote that closes there did so before.
lemma first_quote (h : Rewriting t t') {x z : Text} {q : Char} (hx : QuoteFree x) (hq : isQuote q = true)
    (ht : t' = x ++ q :: z) : ∃ y, t = x ++ q :: y ∧ (q ∈ z → q ∈ y) := by
  have hspace : q ≠ ' ' := by
    rintro rfl
    cases hq
  induction h generalizing x with
  | nil => simp at ht
  | @keep t t' c hrest ih =>
    cases x with
    | nil =>
      obtain ⟨rfl, rfl⟩ : c = q ∧ t' = z := by simpa using ht
      exact ⟨t, rfl, hrest.mem hspace⟩
    | cons d x =>
      obtain ⟨rfl, hrest⟩ : c = d ∧ t' = x ++ q :: z := by simpa using ht
      obtain ⟨y, rfl, hy⟩ := ih (fun e he => hx e (List.mem_cons_of_mem c he)) hrest
      exact ⟨y, rfl, hy⟩
  | @value v w t t' p hp _ _ _ =>
    cases x with
    | nil =>
      obtain ⟨rfl, -⟩ : p = q ∧ w ++ p :: t' = z := by simpa using ht
      exact ⟨v ++ p :: t, rfl, fun _ => by simp⟩
    | cons d x =>
      obtain ⟨rfl, -⟩ : p = d ∧ _ := by simpa using ht
      exact absurd List.mem_cons_self (notMem_of_quoteFree hx hp)

end Rewriting

lemma attributeAt_plain_iff (t : Text) (s : Span) (n : Nat) :
    attributeAt? .plain t = some (s, n) ↔
      ∃ x q v rest, t = x ++ q :: (v ++ q :: rest) ∧ Opens .plain x ∧ AttributeForm.plain.quotes q = true ∧
        q ∉ v ∧ s = ⟨x.length + 1, x.length + 1 + v.length⟩ ∧ n = x.length + 1 + v.length + 1 := by
  have hallows : ∀ (q : Char) (v : Text), (∀ c ∈ v, AttributeForm.plain.allows q c = true) ↔ q ∉ v := by
    intro q v
    simp only [AttributeForm.allows, decide_eq_true_eq]
    exact ⟨fun h hmem => h q hmem rfl, fun h c hc heq => h (heq ▸ hc)⟩
  rw [attributeAt_eq_some_iff]
  constructor
  · rintro ⟨x, q, v, y, rest, rfl, hx, hq, hv, hy, rfl, rfl⟩
    cases hy
    exact ⟨x, q, v, rest, rfl, hx, hq, (hallows q v).mp hv, rfl, rfl⟩
  · rintro ⟨x, q, v, rest, rfl, hx, hq, hv, rfl, rfl⟩
    exact ⟨x, q, v, [], rest, rfl, hx, hq, (hallows q v).mpr hv, .plain, rfl, rfl⟩

lemma attributeAt_rewriting {t t' : Text} (h : Rewriting t t') (hat : attributeAt? .plain t = none) :
    attributeAt? .plain t' = none := by
  cases hat' : attributeAt? .plain t' with
  | none => rfl
  | some found =>
    obtain ⟨x, q, v, rest, ht', hx, hq, -⟩ := (attributeAt_plain_iff _ _ _).mp hat'
    obtain ⟨y, rfl, hy⟩ := h.first_quote hx.quoteFree (isQuote_of_quotes hq) ht'
    obtain ⟨v', rest', rfl, hv'⟩ := List.eq_append_cons_of_mem (hy (by simp))
    have hsome := (attributeAt_plain_iff _ _ _).mpr ⟨x, q, v', rest', rfl, hx, hq, hv', rfl, rfl⟩
    rw [hat] at hsome
    cases hsome

lemma attributesFrom_value {prev : Option Char} {x v : Text} {q : Char} (hprev : prev.any joinsName = false)
    (hx : Opens .plain x) (hq : AttributeForm.plain.quotes q = true) (hv : q ∉ v) (i : Nat) (t : Text) :
    attributesFrom .plain prev i 0 (x ++ q :: (v ++ q :: t)) =
      ⟨i + x.length + 1, i + x.length + 1 + v.length⟩ ::
        attributesFrom .plain (some q) (i + (x ++ q :: (v ++ [q])).length) 0 t := by
  have hsplit : x ++ q :: (v ++ q :: t) = x ++ q :: (v ++ [q]) ++ t := by simp
  have hat : attributeAt? .plain (x ++ q :: (v ++ [q]) ++ t) =
      some (⟨x.length + 1, x.length + 1 + v.length⟩, (x ++ q :: (v ++ [q])).length) := by
    rw [attributeAt_plain_iff]
    refine ⟨x, q, v, t, hsplit.symm, hx, hq, hv, rfl, ?_⟩
    simp
    omega
  have hlast : (x ++ q :: (v ++ [q])).getLast? = some q := by
    simp [List.getLast?_append, List.getLast?_cons]
  rw [hsplit, attributesFrom_some hprev hat (by simp), hlast]
  congr 1
  simp only [Span.shift, Span.mk.injEq]
  omega

inductive Moved (t : Text) : Int → List Finding → List Span → Prop
  | nil (d : Int) : Moved t d [] []
  | cons {d : Int} {f : Finding} {fs : List Finding} {s : Span} {ss : List Span}
      (hstart : s.start = f.start + d) (hstop : s.stop = s.start + f.replacement.length)
      (htext : s.text t = f.replacement) (hrest : Moved t (d + f.growth) fs ss) :
    Moved t d (f :: fs) (s :: ss)

lemma Moved.length_eq {t : Text} {d : Int} {fs : List Finding} {ss : List Span} (h : Moved t d fs ss) :
    ss.length = fs.length := by
  induction h with
  | nil => rfl
  | cons _ _ _ _ ih => rw [List.length_cons, List.length_cons, ih]

lemma Moved.getElem {t : Text} {d : Int} {fs : List Finding} {ss : List Span} (h : Moved t d fs ss) {i : Nat}
    {f : Finding} {s : Span} (hf : fs[i]? = some f) (hs : ss[i]? = some s) :
    s.text t = f.replacement ∧ s.start = f.start + (d + ((fs.take i).map Finding.growth).sum) ∧
      s.stop = s.start + f.replacement.length := by
  induction h generalizing i with
  | nil => simp at hf
  | @cons d g fs s' ss hstart hstop htext _ ih =>
    cases i with
    | zero =>
      obtain rfl : g = f := by simpa using hf
      obtain rfl : s' = s := by simpa using hs
      exact ⟨htext, by simpa using hstart, hstop⟩
    | succ i =>
      rw [List.getElem?_cons_succ] at hf hs
      rw [List.take_succ_cons, List.map_cons, List.sum_cons, ← add_assoc d]
      exact ih hf hs

-- What a scan of a new text finds, from behind `front` on, when findings for the values of its
-- attributes are applied. The front may be any new one, since values before may have been replaced.
structure Rescanned (prev : Option Char) (front t : Text) (fs : List Finding) (t' : Text) : Prop where
  rewriting : Rewriting t t'
  replaced : Finding.Replaced (front ++ t) front.length fs t'
  moved : ∀ front' : Text, Moved (front' ++ t') (front'.length - front.length) fs
    (attributesFrom .plain prev front'.length 0 t')

namespace Rescanned

variable {prev : Option Char} {front t t' : Text} {fs : List Finding}

lemma char {c : Char} (hstart : prev.any joinsName = true ∨ attributeAt? .plain (c :: t) = none)
    (h : Rescanned (some c) (front ++ [c]) t fs t') : Rescanned prev front (c :: t) fs (c :: t') where
  rewriting := h.rewriting.keep c
  replaced := by
    have hreplaced := h.replaced
    rw [List.append_assoc, List.length_append] at hreplaced
    exact hreplaced.cons_front (by simp)
  moved front' := by
    have hmoved := h.moved (front' ++ [c])
    have hd : ((front' ++ [c]).length : Int) - (front ++ [c]).length = front'.length - front.length := by
      simp
    rw [hd, List.append_assoc, List.length_append] at hmoved
    rwa [attributesFrom_none (hstart.imp_right (attributeAt_rewriting (h.rewriting.keep c)))]

section Value

variable {x v : Text} {q : Char} {f : Finding}

lemma replaced_value (hstart : f.start = (front.length + x.length + 1 : Nat))
    (hstop : f.stop = (front.length + x.length + 1 + v.length : Nat))
    (h : Rescanned (some q) (front ++ (x ++ q :: (v ++ [q]))) t fs t') :
    Finding.Replaced (front ++ (x ++ q :: (v ++ q :: t))) front.length (f :: fs)
      (x ++ q :: (f.replacement ++ q :: t')) := by
  have hrest := h.replaced
  have hsplit : front ++ (x ++ q :: (v ++ [q])) = front ++ (x ++ q :: v) ++ [q] := by simp
  have hlen : (front ++ (x ++ q :: v)).length = front.length + x.length + 1 + v.length := by
    simp
    omega
  have hbetween : between (front ++ (x ++ q :: (v ++ q :: t))) front.length (front.length + x.length + 1) =
      x ++ [q] := by
    have hmiddle := Span.text_middle front (x ++ [q]) (v ++ q :: t)
    simpa [Span.text, Nat.add_assoc] using hmiddle
  rw [hsplit, List.append_assoc _ [q], List.length_append] at hrest
  have hbehind : Finding.Replaced _ _ fs (q :: t') := hrest.cons_front (by simp)
  have hcons := Finding.Replaced.cons (n := front.length) hstart (hlen ▸ hstop) (by omega) (by omega) hbehind
  simpa [hbetween] using hcons

lemma moved_value (hprev : prev.any joinsName = false) (hx : Opens .plain x)
    (hq : AttributeForm.plain.quotes q = true) (hnew : q ∉ f.replacement)
    (hstart : f.start = (front.length + x.length + 1 : Nat))
    (hstop : f.stop = (front.length + x.length + 1 + v.length : Nat))
    (h : Rescanned (some q) (front ++ (x ++ q :: (v ++ [q]))) t fs t') (front' : Text) :
    Moved (front' ++ (x ++ q :: (f.replacement ++ q :: t'))) (front'.length - front.length) (f :: fs)
      (attributesFrom .plain prev front'.length 0 (x ++ q :: (f.replacement ++ q :: t'))) := by
  have hrest := h.moved (front' ++ (x ++ q :: (f.replacement ++ [q])))
  have hd : ((front' ++ (x ++ q :: (f.replacement ++ [q]))).length : Int) -
      (front ++ (x ++ q :: (v ++ [q]))).length = front'.length - front.length + f.growth := by
    simp only [Finding.growth, hstart, hstop, List.length_append, List.length_cons, List.length_nil]
    omega
  have hsplit : x ++ q :: (f.replacement ++ [q]) ++ t' = x ++ q :: (f.replacement ++ q :: t') := by simp
  rw [hd, List.append_assoc, List.length_append, hsplit] at hrest
  rw [attributesFrom_value hprev hx hq hnew]
  refine .cons ?_ rfl ?_ hrest
  · rw [hstart]
    push_cast
    omega
  · rw [← List.length_append, ← List.append_assoc, Span.text_enclosed]

lemma value (hprev : prev.any joinsName = false) (hx : Opens .plain x)
    (hq : AttributeForm.plain.quotes q = true) (hv : q ∉ v)
    (hf : f.Refills (front ++ (x ++ q :: (v ++ q :: t)))
      ⟨front.length + x.length + 1, front.length + x.length + 1 + v.length⟩)
    (h : Rescanned (some q) (front ++ (x ++ q :: (v ++ [q]))) t fs t') :
    Rescanned prev front (x ++ q :: (v ++ q :: t)) (f :: fs) (x ++ q :: (f.replacement ++ q :: t')) := by
  have hquote := isQuote_of_quotes hq
  have hchars : ∀ c ∈ f.replacement, c ∈ v ∨ c = ' ' := by
    have hh := hf.chars
    rwa [← List.length_append, ← List.append_assoc, Span.text_enclosed] at hh
  have hnew : q ∉ f.replacement := by
    intro hmem
    rcases hchars q hmem with hmem | rfl
    · exact hv hmem
    · cases hquote
  exact ⟨(Rewriting.value hquote hchars h.rewriting).append x, replaced_value hf.start hf.stop h,
    moved_value hprev hx hq hnew hf.start hf.stop h⟩

end Value

end Rescanned

lemma exists_rescanned (prev : Option Char) (front : Text) {t : Text} {fs : List Finding}
    (h : List.Forall₂ (Finding.Refills (front ++ t)) fs (attributesFrom .plain prev front.length 0 t)) :
    ∃ t', Rescanned prev front t fs t' := by
  -- an attribute that is found is passed as a whole
  induction hlen : t.length using Nat.strongRecOn generalizing prev front t fs with
  | ind n ih =>
    subst hlen
    cases t with
    | nil =>
      obtain rfl : fs = [] := List.forall₂_nil_right_iff.mp h
      refine ⟨[], .nil, ?_, fun front' => .nil _⟩
      have hnil := Finding.Replaced.nil (t := front ++ []) front.length
      simpa using hnil
    | cons c t =>
      by_cases hstart : prev.any joinsName = true ∨ attributeAt? .plain (c :: t) = none
      · rw [attributesFrom_none hstart] at h
        obtain ⟨t', ht'⟩ := ih t.length (by simp) (some c) (front ++ [c]) (by simpa using h) rfl
        exact ⟨c :: t', ht'.char hstart⟩
      · obtain ⟨hprev, hsome⟩ := not_or.mp hstart
        rw [Bool.not_eq_true] at hprev
        obtain ⟨⟨s, n⟩, hat⟩ := Option.ne_none_iff_exists'.mp hsome
        obtain ⟨x, q, v, rest, ht, hx, hq, hv, rfl, rfl⟩ := (attributeAt_plain_iff _ _ _).mp hat
        rw [ht, attributesFrom_value hprev hx hq hv] at h
        obtain ⟨f, fs, hf, hfs, rfl⟩ := List.forall₂_cons_right_iff.mp h
        obtain ⟨rest', hrest'⟩ := ih rest.length (by rw [ht]; simp; omega) (some q)
          (front ++ (x ++ q :: (v ++ [q]))) (by simpa using hfs) rfl
        rw [ht]
        exact ⟨_, hrest'.value hprev hx hq hv hf⟩

end Source

namespace Finding

variable {t : Text} {fs : List Finding}

lemma fits_of_refills {ss : List Span} (hss : ∀ s ∈ ss, Enclosed t s) (h : List.Forall₂ (Refills t) fs ss) :
    ∀ f ∈ fs, f.Fits t := by
  induction h with
  | nil => simp
  | @cons f s fs ss hf _ ih =>
    obtain ⟨hs, hss⟩ := List.forall_mem_cons.mp hss
    refine List.forall_mem_cons.mpr ⟨?_, ih hss⟩
    have hbounds := hs.bounds
    have hstart := hf.start
    have hstop := hf.stop
    exact ⟨by omega, by omega, by omega⟩

end Finding

lemma Formatter.mem_of_mem_format {ε : Type} {f : Formatter ε} (hf : f.resolve.Selects) {raw s : Text}
    (h : f.format raw = .ok (some s)) {c : Char} (hc : c ∈ s) : c ∈ raw ∨ c = ' ' := by
  rw [← collapse_format h, collapse_eq_unwords] at hc
  rcases mem_unwords hc with rfl | ⟨w, hw, hcw⟩
  · exact Or.inr rfl
  · exact Or.inl (mem_of_mem_words (f.mem_words_of_format hf h hw) hcw)

namespace Source

/-- Each value between quotes is replaced by characters of its own and spaces. Then the values of the new
text are the new ones, in their order and moved by what the ones before have grown. The forms of a
formatter that drops words at most are such values. -/
theorem rescan_finds_new_values (t : Text) :
    (∀ fs, List.Forall₂ (Finding.Refills t) fs (attributesFrom .plain none 0 0 t) →
      let new := applyFixes t fs
      let found := attributesFrom .plain none 0 0 new
      Finding.Replaced t 0 fs new ∧ found.length = fs.length ∧
        ∀ i f s, fs[i]? = some f → found[i]? = some s →
          s.text new = f.replacement ∧ s.start = f.start + ((fs.take i).map Finding.growth).sum ∧
            s.stop = s.start + f.replacement.length) ∧
    ∀ (ε : Type) (g : Formatter ε), g.resolve.Selects → ∀ (f : Finding) (s : Span), f.start = s.start →
      f.stop = s.stop → g.format (s.text t) = .ok (some f.replacement) → f.Refills t s := by
  constructor
  · intro fs h new found
    have hfits : ∀ f ∈ fs, f.Fits t := by
      refine Finding.fits_of_refills (fun s hs => ?_) h
      exact enclosed_of_mem_attributes (List.mem_append_left _ hs)
    obtain ⟨out, hout⟩ := exists_rescanned none [] h
    have hnew : out = new := hout.replaced.eq_applyFixes hfits
    subst hnew
    have hmoved : Moved new 0 fs found := hout.moved []
    refine ⟨hout.replaced, hmoved.length_eq, ?_⟩
    intro i f s hf hs
    have hh := hmoved.getElem hf hs
    rwa [zero_add] at hh
  · intro ε g hg f s hstart hstop hform
    exact ⟨hstart, hstop, fun c hc => g.mem_of_mem_format hg hform hc⟩

-- the first quote is never closed, and the value of a name that goes on to the left is kept
theorem rescan_finds_new_values_unclosed :
    let keep : Formatter Empty := ⟨[], fun t => .ok t⟩
    let place (a b : Int) (new : String) : Finding := ⟨a, b, 1, a, 1, b, [], new.toList, Finding.unsortedMessage⟩
    let t : Text := "class=\"z class='c  b' :class='f  e' x=class=' b class=a '".toList
    let fs := [place 16 20 "b c", place 45 56 "b class=a"]
    let new : Text := "class=\"z class='b c' :class='f  e' x=class='b class=a'".toList
    keep.resolve.Selects ∧ List.Forall₂ (Finding.Refills t) fs (attributesFrom .plain none 0 0 t) ∧
      Finding.Replaced t 0 fs new ∧ attributesFrom .plain none 0 0 new = [⟨16, 19⟩, ⟨44, 53⟩] ∧
      (⟨44, 53⟩ : Span).text new = "b class=a".toList ∧
      (44 : Int) = 45 + ((fs.take 1).map Finding.growth).sum := by
  intro keep place t fs new
  have hkeep : keep.resolve.Selects := by
    intro raw kept h
    cases h
    exact List.Sublist.refl _
  have hold : attributesFrom .plain none 0 0 t = [⟨16, 20⟩, ⟨45, 56⟩] := by decide
  have hfound : attributesFrom .plain none 0 0 new = [⟨16, 19⟩, ⟨44, 53⟩] := by decide
  have hnew : applyFixes t fs = new := by decide
  obtain ⟨hfixes, hforms⟩ := rescan_finds_new_values t
  have hrefills : List.Forall₂ (Finding.Refills t) fs (attributesFrom .plain none 0 0 t) := by
    have hform := hforms Empty keep hkeep
    rw [hold]
    exact .cons (hform _ _ rfl rfl (by decide)) (.cons (hform _ _ rfl rfl (by decide)) .nil)
  obtain ⟨hreplaced, -, hvalues⟩ := hfixes fs hrefills
  rw [hnew] at hreplaced hvalues
  obtain ⟨htext, hstart, -⟩ := hvalues 1 _ ⟨44, 53⟩ rfl (by rw [hfound]; rfl)
  exact ⟨hkeep, hrefills, hreplaced, hfound, htext, hstart⟩

end Source

end ClassTidy
