import ClassTidy.Lint.Fix
import ClassTidy.Proofs.Attributes
import ClassTidy.Proofs.Calls
import ClassTidy.Proofs.PlainTokens

/-! A text whose findings are repaired has no findings. -/

namespace ClassTidy

open Text Source

namespace Resolver

variable {ε : Type}

lemma selects_ofTable (table : Conflict.Table) : (ofTable table : Resolver ε).Selects := by
  intro raw kept h
  obtain rfl : table.merge raw = kept := Except.ok.inj h
  rw [table.words_merge]
  exact table.dropOverridden_sublist _

end Resolver

namespace Span

variable {a b v w : Text} {q r : Char} {s : Span}

lemma text_enclosed :
    (⟨a.length + 1, a.length + 1 + v.length⟩ : Span).text (a ++ q :: (v ++ r :: b)) = v := by
  have hmiddle := text_middle (a ++ [q]) v (r :: b)
  simpa using hmiddle

lemma text_carry_front (hle : s.start ≤ s.stop) (h : s.stop ≤ a.length + 1) :
    (s.carry (a.length + 1) v.length w.length).text (a ++ q :: (w ++ r :: b)) =
      s.text (a ++ q :: (v ++ r :: b)) := by
  have hfront : ∀ u, s.text (a ++ q :: (u ++ r :: b)) = s.text (a ++ [q]) := by
    intro u
    have hsplit : a ++ q :: (u ++ r :: b) = (a ++ [q]) ++ (u ++ r :: b) := by simp
    rw [hsplit, text_append (by simpa using h)]
  rw [carry_of_le (by omega) h, hfront, hfront]

lemma text_carry_back (hv : v ≠ []) (hle : s.start ≤ s.stop) (h : a.length + 1 + v.length ≤ s.start) :
    (s.carry (a.length + 1) v.length w.length).text (a ++ q :: (w ++ r :: b)) =
      s.text (a ++ q :: (v ++ r :: b)) := by
  have hpos : 0 < v.length := List.length_pos_iff.mpr hv
  have hback : ∀ u s', (shift s' (a ++ q :: u).length).text (a ++ q :: (u ++ r :: b)) =
      s'.text (r :: b) := by
    intro u s'
    have hsplit : a ++ q :: (u ++ r :: b) = (a ++ q :: u) ++ r :: b := by simp
    rw [hsplit, text_shift]
  obtain ⟨s', rfl⟩ : ∃ s' : Span, s = s'.shift (a ++ q :: v).length := by
    refine ⟨⟨s.start - (a ++ q :: v).length, s.stop - (a ++ q :: v).length⟩, ?_⟩
    cases s
    simp only [shift, mk.injEq, List.length_append, List.length_cons] at *
    omega
  have hlen : (a ++ q :: v).length + w.length - v.length = (a ++ q :: w).length := by
    simp
    omega
  rw [carry_shift (by simp; omega) hpos, hlen, hback, hback]

lemma text_carry_apart (hv : v ≠ []) (hle : s.start ≤ s.stop)
    (h : s.stop ≤ a.length + 1 ∨ a.length + 1 + v.length ≤ s.start) :
    (s.carry (a.length + 1) v.length w.length).text (a ++ q :: (w ++ r :: b)) =
      s.text (a ++ q :: (v ++ r :: b)) := by
  rcases h with h | h
  · exact text_carry_front hle h
  · exact text_carry_back hv hle h

lemma carry_self (hv : v ≠ []) :
    (⟨a.length + 1, a.length + 1 + v.length⟩ : Span).carry (a.length + 1) v.length w.length =
      ⟨a.length + 1, a.length + 1 + w.length⟩ := by
  have hpos : 0 < v.length := List.length_pos_iff.mpr hv
  exact carry_mk (carry_eq hpos (Or.inl ⟨by omega, rfl⟩)) (carry_eq hpos (Or.inr ⟨by omega, by omega⟩))

end Span

namespace Finding

lemma withoutOverlap_sublist (last : Int) (fs : List Finding) : (withoutOverlap last fs).Sublist fs := by
  induction fs generalizing last with
  | nil => exact .slnil
  | cons f fs ih =>
    rw [withoutOverlap]
    split
    · exact (ih last).cons f
    · exact (ih f.stop).cons_cons f

lemma withoutOverlap_eq_self {fs : List Finding} {last : Int} (hlast : ∀ f ∈ fs, last ≤ f.start)
    (h : fs.Pairwise fun f g => f.stop ≤ g.start) : withoutOverlap last fs = fs := by
  induction fs generalizing last with
  | nil => rfl
  | cons f fs ih =>
    obtain ⟨hf, hfs⟩ := List.pairwise_cons.mp h
    have hle := hlast f List.mem_cons_self
    rw [withoutOverlap, if_neg (by omega), ih hf hfs]

lemma atOrBefore_of_before {f g : Finding} (h : Before f g) : atOrBefore f g = true := by
  rw [atOrBefore_iff]
  rcases h with hlt | ⟨heq, hlt⟩
  · exact Or.inl hlt
  · exact Or.inr ⟨heq, Int.le_of_lt hlt⟩

lemma sortBy_eq_self {fs : List Finding} (hsorted : fs.Pairwise fun f g => atOrBefore f g = true) :
    sortBy atOrBefore fs = fs := by
  rw [sortBy_eq_insertionSort]
  exact hsorted.insertionSort_eq

lemma selected_eq_self {fs : List Finding} (hstart : ∀ f ∈ fs, 0 ≤ f.start)
    (hsorted : fs.Pairwise fun f g => atOrBefore f g = true)
    (h : fs.Pairwise fun f g => f.stop ≤ g.start) : selected fs = fs := by
  rw [selected, sortBy_eq_self hsorted]
  apply withoutOverlap_eq_self _ h
  intro f hf
  have hh := hstart f hf
  omega

end Finding

lemma Finding.splice_enclosed {f : Finding} {a b v : Text} {q r : Char}
    (hstart : f.start = (a.length + 1 : Nat)) (hstop : f.stop = (a.length + 1 + v.length : Nat)) :
    f.splice (a ++ q :: (v ++ r :: b)) = a ++ q :: (f.replacement ++ r :: b) := by
  have hsplit : a ++ q :: (v ++ r :: b) = (a ++ [q]) ++ (v ++ r :: b) := by simp
  have hlen : a.length + 1 + v.length ≤ (a ++ q :: (v ++ r :: b)).length := by
    simp
    omega
  rw [splice, hstart, hstop, position_natCast (by omega), position_natCast hlen, hsplit]
  have htake : ((a ++ [q]) ++ (v ++ r :: b)).take (a.length + 1) = a ++ [q] := List.take_left' (by simp)
  have hdrop : ((a ++ [q]) ++ (v ++ r :: b)).drop (a.length + 1 + v.length) = r :: b := by
    rw [← List.append_assoc]
    exact List.drop_left' (by simp; omega)
  rw [htake, hdrop]
  simp

namespace Checker

variable {ε : Type} {c : Checker ε} {t : Text}

def UsesDefaults (c : Checker ε) : Prop := c.locators = LocatorEntry.callNames.map Locator.ofCall

lemma mem_places (hc : c.UsesDefaults) (s : Span) :
    s ∈ c.places t ↔ (c.attributes = true ∧ s ∈ Source.attributes t) ∨
      ∃ name ∈ LocatorEntry.callNames, s ∈ (Locator.ofCall name).spans t := by
  rw [places, hc, List.mem_append, List.mem_flatMap]
  constructor
  · rintro (h | ⟨l, hl, hs⟩)
    · split at h
      · rename_i hattr
        exact Or.inl ⟨hattr, h⟩
      · cases h
    · obtain ⟨name, hname, rfl⟩ := List.mem_map.mp hl
      exact Or.inr ⟨name, hname, hs⟩
  · rintro (⟨hattr, h⟩ | ⟨name, hname, hs⟩)
    · rw [if_pos hattr]
      exact Or.inl h
    · exact Or.inr ⟨_, List.mem_map_of_mem hname, hs⟩

lemma enclosed_of_mem_places (hc : c.UsesDefaults) {s : Span} (h : s ∈ c.places t) : Enclosed t s := by
  rcases (mem_places hc s).mp h with ⟨-, hs⟩ | ⟨name, hname, hs⟩
  · exact enclosed_of_mem_attributes hs
  · exact Locator.enclosed_of_mem_spans (Locator.isCallName_of_mem hname) hs

lemma places_swap (hc : c.UsesDefaults) {a b v w : Text} {q r : Char} (h : Swappable v w)
    (hq : isQuote q = true) (hr : isQuote r = true) (hclose : ')' ∈ w → ')' ∈ v) {s : Span}
    (hs : s ∈ c.places (a ++ q :: (w ++ r :: b))) :
    ∃ s' ∈ c.places (a ++ q :: (v ++ r :: b)), s = s'.carry (a.length + 1) v.length w.length := by
  rcases (mem_places hc s).mp hs with ⟨hattr, hmem⟩ | ⟨name, hname, hmem⟩
  · rw [attributes_swap h hq hr] at hmem
    obtain ⟨s', hs', rfl⟩ := List.mem_map.mp hmem
    exact ⟨s', (mem_places hc s').mpr (Or.inl ⟨hattr, hs'⟩), rfl⟩
  · obtain ⟨s', hs', rfl⟩ := Locator.spans_swap (Locator.isCallName_of_mem hname) h hq hr hclose hmem
    exact ⟨s', (mem_places hc s').mpr (Or.inr ⟨name, hname, hs'⟩), rfl⟩

/-- Every reported list is made of plain tokens and shares no character with another list that is
looked at. -/
structure Orderly (c : Checker ε) (t : Text) : Prop where
  plain : ∀ s f, c.Reports t s f → ∀ w ∈ words (s.text t), Plain w
  apart : ∀ s f, c.Reports t s f → ∀ s' ∈ c.places t, s'.text t ≠ [] →
    s' = s ∨ s'.stop ≤ s.start ∨ s.stop ≤ s'.start

lemma orderly_of_forall (hc : c.UsesDefaults)
    (h : let spans := Source.attributes t ++
        LocatorEntry.callNames.flatMap fun name => (Locator.ofCall name).spans t
      ∀ s ∈ spans, (∀ w ∈ words (s.text t), Plain w) ∧
        ∀ s' ∈ spans, s' = s ∨ s'.stop ≤ s.start ∨ s.stop ≤ s'.start) : c.Orderly t := by
  have hmem : ∀ s ∈ c.places t, s ∈ Source.attributes t ++
      LocatorEntry.callNames.flatMap fun name => (Locator.ofCall name).spans t := by
    intro s hs
    rw [List.mem_append, List.mem_flatMap]
    exact ((mem_places hc s).mp hs).imp And.right id
  constructor
  · intro s f hs
    exact (h s (hmem s hs.place)).1
  · intro s f hs s' hs' _
    exact (h s (hmem s hs.place)).2 s' (hmem s' hs')

lemma text_ne_nil (hc : c.UsesDefaults) {s : Span} (h : s ∈ c.places t) (hlt : s.start < s.stop) :
    s.text t ≠ [] := by
  obtain ⟨a, q, v, r, b, rfl, -, -, rfl⟩ := enclosed_of_mem_places hc h
  rw [Span.text_enclosed]
  rintro rfl
  simp at hlt

namespace Reports

variable {s : Span} {f : Finding}

lemma start_lt_stop (hc : c.UsesDefaults) (h : c.Reports t s f) : s.start < s.stop := by
  obtain ⟨a, q, v, r, b, rfl, -, -, rfl⟩ := enclosed_of_mem_places hc h.place
  have hne := h.nonempty
  rw [Span.text_enclosed] at hne
  have hpos := List.length_pos_iff.mpr hne
  simp only
  omega

lemma swappable (hf : c.formatter.resolve.Selects) (ht : c.Orderly t) (h : c.Reports t s f) :
    Swappable (s.text t) f.replacement ∧ (')' ∈ f.replacement → ')' ∈ s.text t) := by
  have hwords : ∀ w ∈ words f.replacement, w ∈ words (s.text t) :=
    fun w hw => Formatter.mem_words_of_format hf h.form hw
  refine ⟨⟨inert_of_plain (ht.plain s f h), inert_of_plain fun w hw => ht.plain s f h w (hwords w hw),
    h.nonempty, h.formNonempty⟩, ?_⟩
  intro hmem
  obtain ⟨w, hw, hcw⟩ := exists_word_of_mem (by decide) hmem
  exact mem_of_mem_words (hwords w hw) hcw

lemma stop_lt_start (hc : c.UsesDefaults) (ht : c.Orderly t) {s' : Span} {g : Finding}
    (hf : c.Reports t s f) (hg : c.Reports t s' g) (hbefore : f.Before g) : s.stop < s'.start := by
  have hpos := hf.start_lt_stop hc
  have hpos' := hg.start_lt_stop hc
  rw [Finding.Before, hf.start, hf.stop, hg.start, hg.stop] at hbefore
  have hle : s.stop ≤ s'.start := by
    rcases ht.apart s f hf s' hg.place hg.nonempty with rfl | h | h
    · omega
    · omega
    · exact h
  refine Nat.lt_of_le_of_ne hle ?_
  -- the character before the second list is a quote, and the first list holds none
  intro heq
  have hinert := inert_of_plain (ht.plain s f hf)
  obtain ⟨a, q, v, r, b, rfl, hq, hr, rfl⟩ := enclosed_of_mem_places hc hf.place
  obtain ⟨a', q', v', r', b', ht', hq', -, rfl⟩ := enclosed_of_mem_places hc hg.place
  rw [Span.text_enclosed] at hinert
  have hne := hf.nonempty
  rw [Span.text_enclosed] at hne
  rcases List.eq_nil_or_concat v with rfl | ⟨u, d, rfl⟩
  · exact hne rfl
  · have hd := hinert.quoteFree d (by simp)
    have hcut : (a ++ q :: u) ++ (d :: (r :: b)) = a' ++ (q' :: (v' ++ r' :: b')) := by simpa using ht'
    have hlen : (a ++ q :: u).length = a'.length := by
      simp only [List.concat_eq_append, List.length_append, List.length_cons, List.length_nil] at heq
      simp
      omega
    obtain ⟨-, htail⟩ := List.append_inj hcut hlen
    obtain ⟨rfl, -⟩ : d = q' ∧ _ := by simpa using htail
    rw [hd] at hq'
    cases hq'

end Reports

def Becomes (c : Checker ε) (t : Text) (fs : List Finding) (s : Span) (new : Text) : Prop :=
  (∃ f ∈ fs, c.Reports t s f ∧ new = f.replacement) ∨ (∀ f ∈ fs, ¬ c.Reports t s f) ∧ new = s.text t

/-- What replacing the given findings does to the places of a text: each place comes from an old one. -/
structure Carried (c : Checker ε) (t : Text) (fs : List Finding) (u : Text) (move : Nat → Nat) : Prop where
  mono : Monotone move
  fixed : ∀ x : Nat, (∀ f ∈ fs, (x : Int) ≤ f.start) → move x = x
  front : ∀ n : Nat, (∀ f ∈ fs, (n : Int) ≤ f.start) → u.take n = t.take n
  places : ∀ s ∈ c.places u, s.start < s.stop →
    ∃ s' ∈ c.places t, s = ⟨move s'.start, move s'.stop⟩ ∧ c.Becomes t fs s' (s.text u)

lemma carried_nil (c : Checker ε) (t : Text) : Carried c t [] t id where
  mono := monotone_id
  fixed _ _ := rfl
  front _ _ := rfl
  places s hs _ := ⟨s, hs, rfl, Or.inr ⟨fun _ hf => absurd hf List.not_mem_nil, rfl⟩⟩

section CarriedCons

variable {f : Finding} {fs : List Finding} {u a b v : Text} {q r : Char} {move : Nat → Nat}

lemma Carried.exists_rest (h : Carried c (a ++ q :: (v ++ r :: b)) fs u move)
    (hbehind : ∀ g ∈ fs, ((a.length + 1 + v.length : Nat) : Int) < g.start) :
    ∃ b', u = a ++ q :: (v ++ r :: b') := by
  have hcut : a ++ q :: (v ++ r :: b) = (a ++ q :: (v ++ [r])) ++ b := by simp
  have hfront : u.take (a ++ q :: (v ++ [r])).length = a ++ q :: (v ++ [r]) := by
    rw [h.front _ ?_, hcut, List.take_left' rfl]
    intro g hg
    have hh := hbehind g hg
    simp
    omega
  have hu := List.take_append_drop (a ++ q :: (v ++ [r])).length u
  rw [hfront] at hu
  exact ⟨_, by simpa using hu.symm⟩

lemma Carried.becomes_cons (hc : c.UsesDefaults) (ht : c.Orderly t) {s₀ s : Span}
    (hs₀ : s₀ = ⟨a.length + 1, a.length + 1 + v.length⟩) (hf : c.Reports t s₀ f) (hv : v ≠ [])
    (h : Carried c t fs (a ++ q :: (v ++ r :: b)) move) (hbehind : ∀ g ∈ fs, f.stop < g.start)
    (hs : s ∈ c.places t) (hlt : move s.start < move s.stop)
    (hold : c.Becomes t fs s ((⟨move s.start, move s.stop⟩ : Span).text (a ++ q :: (v ++ r :: b)))) :
    c.Becomes t (f :: fs) s (((⟨move s.start, move s.stop⟩ : Span).carry (a.length + 1) v.length
      f.replacement.length).text (a ++ q :: (f.replacement ++ r :: b))) := by
  subst hs₀
  have hstart : f.start = (a.length + 1 : Nat) := hf.start
  have hstop : f.stop = (a.length + 1 + v.length : Nat) := hf.stop
  have hmove₁ : move (a.length + 1) = a.length + 1 := h.fixed _ fun g hg => by
    have hh := hbehind g hg
    omega
  have hmove₂ : move (a.length + 1 + v.length) = a.length + 1 + v.length := h.fixed _ fun g hg => by
    have hh := hbehind g hg
    omega
  have hlt' := h.mono.reflect_lt hlt
  rcases ht.apart _ f hf s hs (text_ne_nil hc hs hlt') with rfl | hapart
  · -- the place of the finding itself
    refine Or.inl ⟨f, List.mem_cons_self, hf, ?_⟩
    simp only [hmove₁, hmove₂]
    rw [Span.carry_self hv, Span.text_enclosed]
  · rw [Span.text_carry_apart hv (Nat.le_of_lt hlt)
      (hapart.imp (fun hle => hmove₁ ▸ h.mono hle) fun hge => hmove₂ ▸ h.mono hge)]
    rcases hold with ⟨g, hg, hrep, htext⟩ | ⟨hnone, htext⟩
    · exact Or.inl ⟨g, List.mem_cons_of_mem f hg, hrep, htext⟩
    · refine Or.inr ⟨List.forall_mem_cons.mpr ⟨?_, hnone⟩, htext⟩
      intro hrep
      have heq := hrep.span_eq hf.start hf.stop
      subst heq
      simp only at hapart hlt'
      omega

lemma carried_cons (hc : c.UsesDefaults) (hsel : c.formatter.resolve.Selects) (ht : c.Orderly t)
    {s₀ : Span} (hf : c.Reports t s₀ f) (hbehind : ∀ g ∈ fs, f.stop < g.start)
    (h : Carried c t fs u move) : ∃ move', Carried c t (f :: fs) (f.splice u) move' := by
  obtain ⟨hswap, hclose⟩ := hf.swappable hsel ht
  obtain ⟨a, q, v, r, b, htext, hq, hr, hs₀⟩ := enclosed_of_mem_places hc hf.place
  have hstart : f.start = (a.length + 1 : Nat) := by rw [hf.start, hs₀]
  have hstop : f.stop = (a.length + 1 + v.length : Nat) := by rw [hf.stop, hs₀]
  rw [hs₀, htext, Span.text_enclosed] at hswap hclose
  obtain ⟨b', rfl⟩ := Carried.exists_rest (htext ▸ h) fun g hg => hstop ▸ hbehind g hg
  rw [Finding.splice_enclosed hstart hstop]
  refine ⟨fun x => carry (a.length + 1) v.length f.replacement.length (move x), ?_, ?_, ?_, ?_⟩
  · exact (carry_mono _ _ _).comp h.mono
  · intro x hx
    have hxf := hx f List.mem_cons_self
    rw [h.fixed x fun g hg => hx g (List.mem_cons_of_mem f hg)]
    exact carry_of_le (by omega)
  · intro n hn
    have hnf := hn f List.mem_cons_self
    have hsame : ∀ z, (a ++ q :: z).take n = (a ++ [q]).take n := by
      intro z
      have hcut : a ++ q :: z = (a ++ [q]) ++ z := by simp
      rw [hcut, List.take_append_of_le_length (by simp; omega)]
    rw [htext, hsame, hsame (v ++ r :: b)]
  · intro s hs hlt
    obtain ⟨s', hs', rfl⟩ := places_swap hc hswap hq hr hclose hs
    have hlt' := (carry_mono _ _ _).reflect_lt hlt
    obtain ⟨s₁, hs₁, rfl, hold⟩ := h.places s' hs' hlt'
    exact ⟨s₁, hs₁, rfl, h.becomes_cons hc ht hs₀ hf hswap.oldNonempty hbehind hs₁ hlt' hold⟩

end CarriedCons

lemma carried_foldr (hc : c.UsesDefaults) (hsel : c.formatter.resolve.Selects) (ht : c.Orderly t)
    {fs : List Finding} (hfs : ∀ f ∈ fs, ∃ s, c.Reports t s f)
    (h : fs.Pairwise fun f g => f.stop < g.start) :
    ∃ move, Carried c t fs (fs.foldr Finding.splice t) move := by
  induction fs with
  | nil => exact ⟨id, carried_nil c t⟩
  | cons f fs ih =>
    obtain ⟨hf, hrest⟩ := List.pairwise_cons.mp h
    obtain ⟨s, hs⟩ := hfs f List.mem_cons_self
    obtain ⟨move, hmove⟩ := ih (fun g hg => hfs g (List.mem_cons_of_mem f hg)) hrest
    exact carried_cons hc hsel ht hs hf hmove

lemma check_applyFixes (hc : c.UsesDefaults) (hr : ∀ t, ∃ s, c.formatter.resolve t = .ok s)
    (hsel : c.formatter.resolve.Selects) (hset : c.formatter.resolve.Settles) (ht : c.Orderly t) :
    ∃ checked, c.check t = .ok checked ∧
      ∃ again, c.check (applyFixes t checked.findings) = .ok again ∧ again.findings = [] := by
  obtain ⟨checked, hcheck, -, hmem, hsorted⟩ := check_spec hr t
  have hreports : ∀ f ∈ checked.findings, ∃ s, c.Reports t s f := fun f hf => (hmem f).mp hf
  have hapart : checked.findings.Pairwise fun f g => f.stop < g.start := by
    refine hsorted.imp_of_mem ?_
    intro f g hf hg hfg
    obtain ⟨s, hs⟩ := hreports f hf
    obtain ⟨s', hs'⟩ := hreports g hg
    have hlt := hs.stop_lt_start hc ht hs' hfg
    rw [hs.stop, hs'.start]
    omega
  have hselected : Finding.selected checked.findings = checked.findings := by
    refine Finding.selected_eq_self ?_ (hsorted.imp Finding.atOrBefore_of_before)
      (hapart.imp Int.le_of_lt)
    intro f hf
    obtain ⟨s, hs⟩ := hreports f hf
    rw [hs.start]
    omega
  obtain ⟨move, hmove⟩ := carried_foldr hc hsel ht hreports hapart
  obtain ⟨again, hagain, -, hmem', -⟩ := check_spec hr (applyFixes t checked.findings)
  refine ⟨checked, hcheck, again, hagain, List.eq_nil_iff_forall_not_mem.mpr ?_⟩
  intro g hg
  obtain ⟨s, hs⟩ := (hmem' g).mp hg
  rw [applyFixes, hselected] at hs
  obtain ⟨s', hs', -, ⟨f, -, hrep, htext⟩ | ⟨hnone, htext⟩⟩ :=
    hmove.places s hs.place (hs.start_lt_stop hc)
  · -- the list has been brought into its form, which is left alone
    have hform := hs.form
    rw [htext, (Formatter.format_of_settles hset hrep.form).2] at hform
    cases hform
  · -- the list was there before and would have been reported
    have hrep : c.Reports t s' (findingAt t (.ofText t) s' g.replacement) := by
      refine ⟨hs', ?_, ?_, hs.formNonempty, rfl⟩
      · rw [← htext]
        exact hs.nonempty
      · rw [← htext]
        exact hs.form
    exact hnone _ ((hmem _).mpr ⟨s', hrep⟩) hrep

lemma check_applyFixes_nested (registry : Registry) (table : Conflict.Table) :
    let c : Checker Empty :=
      ⟨⟨registry, .ofTable table⟩, LocatorEntry.callNames.map Locator.ofCall, true⟩
    let t : Text := "class=\" cn('e:d d'):d\"".toList
    ∃ checked, c.check t = .ok checked ∧
      ∃ again, c.check (applyFixes t checked.findings) = .ok again ∧ again.findings ≠ [] := by
  intro c t
  have houter : c.formatter.format " cn('e:d d'):d".toList = .ok (some "cn('e:d d'):d".toList) :=
    Formatter.format_variants (u := "cn('e:d".toList) (v := "d'):d".toList) registry table rfl
      (by decide) (by decide) (by decide) (by decide)
  have hinner : c.formatter.format "e:d d".toList = .ok (some "d e:d".toList) :=
    Formatter.format_variants (u := "d".toList) (v := "e:d".toList) registry table rfl
      (by decide) (by decide) (by decide) (by decide)
  have htotal : ∀ t, ∃ s, c.formatter.resolve t = .ok s := fun t => ⟨_, rfl⟩
  choose form hform using Formatter.format_total htotal
  rw [hform, Except.ok.injEq] at houter hinner
  have hcandidates : c.candidates t = [⟨7, 21⟩, ⟨12, 17⟩] := rfl
  have hattribute : (⟨7, 21⟩ : Span).text t = " cn('e:d d'):d".toList := rfl
  have hliteral : (⟨12, 17⟩ : Span).text t = "e:d d".toList := rfl
  have hcheck := check_eq_ok hform t
  simp only [hcandidates, List.filterMap_cons, hattribute, hliteral, houter, hinner] at hcheck
  refine ⟨_, hcheck, ?_⟩
  -- the attribute is repaired, and the literal with it, which stays as it is
  set u := "class=\"cn('e:d d'):d\"".toList
  have hfix : applyFixes t [findingAt t (.ofText t) ⟨7, 21⟩ "cn('e:d d'):d".toList,
      findingAt t (.ofText t) ⟨12, 17⟩ "d e:d".toList] = u := by decide
  obtain ⟨again, hagain, -, hmem, -⟩ := check_spec htotal u
  refine ⟨again, hfix ▸ hagain, ?_⟩
  have hplaces : c.places u = [⟨7, 20⟩, ⟨11, 16⟩] := rfl
  have hreports : c.Reports u ⟨11, 16⟩ (findingAt u (.ofText u) ⟨11, 16⟩ "d e:d".toList) := by
    refine ⟨by rw [hplaces]; decide, by decide, ?_, by decide, rfl⟩
    rw [hform]
    exact congrArg Except.ok hinner
  exact List.ne_nil_of_mem ((hmem _).mpr ⟨_, hreports⟩)

end Checker

end ClassTidy
