import ClassTidy.Proofs.Repair

/-! Repairing a text by findings that may overlap. -/

namespace ClassTidy.Finding

/-- The text from position `n` on with the range of each finding replaced: the ranges stand apart and in
order, and all that is between and behind them is kept. -/
inductive Replaced (t : Text) : Nat → List Finding → Text → Prop
  | nil (n : Nat) : Replaced t n [] (t.drop n)
  | cons {n a b : Nat} {f : Finding} {fs : List Finding} {rest : Text} (hstart : f.start = a)
      (hstop : f.stop = b) (hle : n ≤ a) (hab : a ≤ b) (hrest : Replaced t b fs rest) :
    Replaced t n (f :: fs) (Text.between t n a ++ f.replacement ++ rest)

structure Fits (t : Text) (f : Finding) : Prop where
  nonneg : 0 ≤ f.start
  inside : f.start ≤ t.length
  ordered : f.start ≤ f.stop

instance (t : Text) (f : Finding) : Decidable (Fits t f) :=
  decidable_of_iff (0 ≤ f.start ∧ f.start ≤ t.length ∧ f.start ≤ f.stop)
    ⟨fun h => ⟨h.1, h.2.1, h.2.2⟩, fun h => ⟨h.nonneg, h.inside, h.ordered⟩⟩

section Replaced

variable {t out out' : Text} {n : Nat} {f : Finding} {fs : List Finding}

lemma Replaced.apart (h : Replaced t n fs out) :
    (∀ f ∈ fs, (n : Int) ≤ f.start) ∧ fs.Pairwise fun f g => f.stop ≤ g.start := by
  induction h with
  | nil => simp
  | @cons n a b f fs rest hstart hstop hle hab _ ih =>
    obtain ⟨hbehind, hpairwise⟩ := ih
    refine ⟨List.forall_mem_cons.mpr ⟨by omega, ?_⟩, .cons ?_ hpairwise⟩
    · intro g hg
      have hh := hbehind g hg
      omega
    · intro g hg
      rw [hstop]
      exact hbehind g hg

lemma Replaced.unique (h : Replaced t n fs out) (h' : Replaced t n fs out') : out = out' := by
  induction h generalizing out' with
  | nil n =>
    cases h'
    rfl
  | @cons n a b f fs rest hstart hstop _ _ _ ih =>
    cases h' with
    | @cons _ a' b' _ _ rest' hstart' hstop' _ _ hrest' =>
      obtain rfl : a = a' := by omega
      obtain rfl : b = b' := by omega
      rw [ih hrest']

lemma Replaced.cons_front {c : Char} (hc : t[n]? = some c) (h : Replaced t (n + 1) fs out) :
    Replaced t n fs (c :: out) := by
  have hdrop : ∀ u : Text, u[n]? = some c → u.drop n = c :: u.drop (n + 1) := by
    intro u hu
    obtain ⟨hlt, rfl⟩ := List.getElem?_eq_some_iff.mp hu
    exact List.drop_eq_getElem_cons hlt
  cases h with
  | nil =>
    rw [← hdrop t hc]
    exact .nil n
  | @cons _ a b f fs rest hstart hstop hle hab hrest =>
    have hbetween : Text.between t n a = c :: Text.between t (n + 1) a :=
      hdrop (t.take a) (by rwa [List.getElem?_take_of_lt (by omega)])
    rw [← List.cons_append, ← List.cons_append, ← hbetween]
    exact .cons hstart hstop (by omega) hab hrest

-- What stands behind a range is not moved by what is put there later.
lemma splice_take {a b : Nat} (hstart : f.start = a) (hstop : f.stop = b) (hab : a ≤ b)
    (ha : a ≤ t.length) (hout : b ≤ t.length ∨ out = []) :
    f.splice (t.take b ++ out) = t.take a ++ f.replacement ++ out := by
  have hfront : (t.take b ++ out).take a = t.take a := by
    rw [List.take_append_of_le_length (by simp; omega), List.take_take, Nat.min_eq_left hab]
  have hposition : Text.position (t.take b ++ out).length a = a :=
    Text.position_natCast (by simp; omega)
  rw [splice, hstart, hstop, hposition, hfront]
  congr 1
  rcases hout with hb | rfl
  · have hlen : (t.take b).length = b := by simp [hb]
    rw [Text.position_natCast (by simp; omega)]
    exact List.drop_left' hlen
  · rw [List.append_nil, List.drop_eq_nil_iff, Text.position, if_neg (by omega)]
    simp

lemma foldr_splice (hfits : ∀ f ∈ fs, f.Fits t) (hbehind : ∀ f ∈ fs, (n : Int) ≤ f.start)
    (hapart : fs.Pairwise fun f g => f.stop ≤ g.start) :
    ∃ out, Replaced t n fs out ∧ fs.foldr splice t = t.take n ++ out := by
  induction fs generalizing n with
  | nil => exact ⟨t.drop n, .nil n, by simp⟩
  | cons f fs ih =>
    obtain ⟨hfit, hfits⟩ := List.forall_mem_cons.mp hfits
    obtain ⟨hle, -⟩ := List.forall_mem_cons.mp hbehind
    obtain ⟨hstop, hapart⟩ := List.pairwise_cons.mp hapart
    obtain ⟨a, ha⟩ := Int.eq_ofNat_of_zero_le hfit.nonneg
    obtain ⟨b, hb⟩ := Int.eq_ofNat_of_zero_le (hfit.nonneg.trans hfit.ordered)
    have hinside := hfit.inside
    have hordered := hfit.ordered
    obtain ⟨rest, hrest, heq⟩ := ih hfits (n := b) (fun g hg => hb ▸ hstop g hg) hapart
    refine ⟨_, .cons ha hb (by omega) (by omega) hrest, ?_⟩
    -- a range that reaches past the end of the text has none behind it
    have hback : b ≤ t.length ∨ rest = [] := by
      by_cases hlen : b ≤ t.length
      · exact Or.inl hlen
      · have hnil : fs = [] := by
          refine List.eq_nil_iff_forall_not_mem.mpr fun g hg => ?_
          have hg₁ := (hfits g hg).inside
          have hg₂ := hstop g hg
          omega
        subst hnil
        cases hrest
        exact Or.inr (List.drop_eq_nil_iff.mpr (by omega))
    have hgap : t.take n ++ Text.between t n a = t.take a := by
      have hcut := List.take_append_drop n (t.take a)
      rwa [List.take_take, Nat.min_eq_left (by omega)] at hcut
    rw [List.foldr_cons, heq, splice_take ha hb (by omega) (by omega) hback, ← hgap]
    simp

end Replaced

section Selected

variable {last : Int} {fs : List Finding}

lemma le_start_of_mem_withoutOverlap (hordered : ∀ f ∈ fs, f.start ≤ f.stop) :
    ∀ f ∈ withoutOverlap last fs, last ≤ f.start := by
  induction fs generalizing last with
  | nil => simp [withoutOverlap]
  | cons f fs ih =>
    obtain ⟨hf, hfs⟩ := List.forall_mem_cons.mp hordered
    rw [withoutOverlap]
    split
    · exact ih hfs
    · refine List.forall_mem_cons.mpr ⟨by omega, fun g hg => ?_⟩
      have hh := ih hfs g hg
      omega

lemma withoutOverlap_apart (hordered : ∀ f ∈ fs, f.start ≤ f.stop) :
    (withoutOverlap last fs).Pairwise fun f g => f.stop ≤ g.start := by
  induction fs generalizing last with
  | nil => exact .nil
  | cons f fs ih =>
    obtain ⟨-, hfs⟩ := List.forall_mem_cons.mp hordered
    rw [withoutOverlap]
    split
    · exact ih hfs
    · exact .cons (le_start_of_mem_withoutOverlap hfs) (ih hfs)

-- What is left out starts inside of something that is used. Equal findings are counted, since one of
-- them may be used and another one left out.
lemma perm_withoutOverlap (last : Int) (hsorted : fs.Pairwise fun f g => f.start ≤ g.start) :
    ∃ skipped, fs.Perm (withoutOverlap last fs ++ skipped) ∧ ∀ f ∈ skipped, f.start < last ∨
      ∃ a ∈ withoutOverlap last fs, a.start ≤ f.start ∧ f.start < a.stop := by
  induction fs generalizing last with
  | nil => exact ⟨[], .nil, by simp⟩
  | cons f fs ih =>
    obtain ⟨hf, hfs⟩ := List.pairwise_cons.mp hsorted
    rw [withoutOverlap]
    split
    · rename_i hlt
      obtain ⟨skipped, hperm, hskipped⟩ := ih last hfs
      refine ⟨f :: skipped, ?_, List.forall_mem_cons.mpr ⟨Or.inl hlt, hskipped⟩⟩
      exact (hperm.cons f).trans List.perm_middle.symm
    · obtain ⟨skipped, hperm, hskipped⟩ := ih f.stop hfs
      refine ⟨skipped, hperm.cons f, ?_⟩
      intro g hg
      apply Or.inr
      rcases hskipped g hg with hlt | ⟨a, ha, hover⟩
      · have hmem : g ∈ fs := hperm.mem_iff.mpr (List.mem_append_right _ hg)
        exact ⟨f, List.mem_cons_self, hf g hmem, hlt⟩
      · exact ⟨a, List.mem_cons_of_mem f ha, hover⟩

lemma sortBy_perm (fs : List Finding) : (sortBy atOrBefore fs).Perm fs := by
  rw [sortBy_eq_insertionSort]
  exact List.perm_insertionSort _ fs

lemma sortBy_pairwise (fs : List Finding) :
    (sortBy atOrBefore fs).Pairwise fun f g => atOrBefore f g = true := by
  rw [sortBy_eq_insertionSort]
  exact List.pairwise_insertionSort (fun f g => atOrBefore f g = true) fs

lemma selected_pairwise (fs : List Finding) :
    (selected fs).Pairwise fun f g => atOrBefore f g = true :=
  (sortBy_pairwise fs).sublist (withoutOverlap_sublist _ _)

lemma mem_of_mem_selected {f : Finding} (h : f ∈ selected fs) : f ∈ fs :=
  (sortBy_perm fs).mem_iff.mp ((withoutOverlap_sublist _ _).mem h)

lemma selected_apart (hordered : ∀ f ∈ fs, f.start ≤ f.stop) :
    (selected fs).Pairwise fun f g => f.stop ≤ g.start :=
  withoutOverlap_apart fun f hf => hordered f ((sortBy_perm fs).mem_iff.mp hf)

lemma perm_selected (hstart : ∀ f ∈ fs, 0 ≤ f.start) :
    ∃ skipped, fs.Perm (selected fs ++ skipped) ∧
      ∀ f ∈ skipped, ∃ a ∈ selected fs, a.start ≤ f.start ∧ f.start < a.stop := by
  have hle : (sortBy atOrBefore fs).Pairwise fun f g => f.start ≤ g.start := by
    refine (sortBy_pairwise fs).imp ?_
    intro f g hfg
    rcases (atOrBefore_iff f g).mp hfg with hlt | ⟨heq, -⟩ <;> omega
  obtain ⟨skipped, hperm, hskipped⟩ := perm_withoutOverlap (-1) hle
  have hall : fs.Perm (selected fs ++ skipped) := (sortBy_perm fs).symm.trans hperm
  refine ⟨skipped, hall, ?_⟩
  intro f hf
  rcases hskipped f hf with hlt | hover
  · have hh := hstart f (hall.mem_iff.mpr (List.mem_append_right _ hf))
    omega
  · exact hover

lemma selected_eq_of_perm {fs' : List Finding} (hplaces : fs.Pairwise fun f g => ¬ f.SamePlace g)
    (h : fs'.Perm fs) : selected fs' = selected fs := by
  have hplaces' : fs'.Pairwise fun f g => ¬ f.SamePlace g :=
    h.symm.pairwise hplaces fun hne hsame => hne ⟨hsame.1.symm, hsame.2.symm⟩
  have hsorted : sortBy atOrBefore fs' = sortBy atOrBefore fs := by
    apply eq_of_pairwise_before (Checker.sortBy_pairwise_before hplaces')
      (Checker.sortBy_pairwise_before hplaces)
    intro f
    rw [(sortBy_perm fs').mem_iff, (sortBy_perm fs).mem_iff, h.mem_iff]
  rw [selected, selected, hsorted]

end Selected

section Repair

variable {t : Text} {fs : List Finding}

lemma replaced_applyFixes (hfits : ∀ f ∈ fs, f.Fits t) : Replaced t 0 (selected fs) (applyFixes t fs) := by
  have hselected : ∀ f ∈ selected fs, f.Fits t := fun f hf => hfits f (mem_of_mem_selected hf)
  obtain ⟨out, hout, heq⟩ := foldr_splice hselected (n := 0) (fun f hf => (hselected f hf).nonneg)
    (selected_apart fun f hf => (hfits f hf).ordered)
  rwa [applyFixes, heq, List.take_zero, List.nil_append]

lemma selected_eq_of_apart (hfits : ∀ f ∈ fs, f.Fits t) (hapart : fs.Pairwise fun f g => f.stop ≤ g.start) :
    selected fs = fs := by
  apply selected_eq_self (fun f hf => (hfits f hf).nonneg) ?_ hapart
  refine hapart.imp_of_mem ?_
  intro f g hf hg hle
  have hf := (hfits f hf).ordered
  have hg := (hfits g hg).ordered
  rw [atOrBefore_iff]
  omega

lemma Replaced.eq_applyFixes {out : Text} (h : Replaced t 0 fs out) (hfits : ∀ f ∈ fs, f.Fits t) :
    out = applyFixes t fs := by
  have hreplaced := replaced_applyFixes hfits
  rw [selected_eq_of_apart hfits h.apart.2] at hreplaced
  exact h.unique hreplaced

lemma applyFixes_spec (hfits : ∀ f ∈ fs, f.Fits t) :
    Replaced t 0 (selected fs) (applyFixes t fs) ∧
      (∀ f ∈ fs, f ∈ selected fs ∨ ∃ a ∈ selected fs, a.start ≤ f.start ∧ f.start < a.stop) ∧
      (Replaced t 0 fs (applyFixes t fs) ↔ fs.Pairwise fun f g => f.stop ≤ g.start) := by
  have hreplaced := replaced_applyFixes hfits
  refine ⟨hreplaced, ?_, fun h => h.apart.2, ?_⟩
  · obtain ⟨skipped, hperm, hskipped⟩ := perm_selected fun f hf => (hfits f hf).nonneg
    intro f hf
    exact (List.mem_append.mp (hperm.mem_iff.mp hf)).imp_right (hskipped f)
  · intro hapart
    rwa [selected_eq_of_apart hfits hapart] at hreplaced

/-- A repair uses some of the findings, by place and apart from each other, and each other one starts
inside of one that is used. It replaces the ranges of those and keeps the text between them, and unless
two findings have one place it does not matter in which order they are given. -/
theorem applyFixes_splices_selection (t : Text) (fs : List Finding) (hfits : ∀ f ∈ fs, f.Fits t) :
    (∃ used skipped, fs.Perm (used ++ skipped) ∧
      used.Pairwise (fun f g => atOrBefore f g = true) ∧
      used.Pairwise (fun f g => f.stop ≤ g.start) ∧
      (∀ f ∈ skipped, ∃ a ∈ used, a.start ≤ f.start ∧ f.start < a.stop) ∧
      Replaced t 0 used (applyFixes t fs)) ∧
    ((fs.Pairwise fun f g => ¬ f.SamePlace g) →
      ∀ fs', fs'.Perm fs → applyFixes t fs' = applyFixes t fs) := by
  constructor
  · obtain ⟨skipped, hperm, hskipped⟩ := perm_selected fun f hf => (hfits f hf).nonneg
    exact ⟨selected fs, skipped, hperm, selected_pairwise fs,
      selected_apart fun f hf => (hfits f hf).ordered, hskipped, replaced_applyFixes hfits⟩
  · intro hplaces fs' hperm
    rw [applyFixes, applyFixes, selected_eq_of_perm hplaces hperm]

-- of two ranges that start at one place the shorter one is used, and an empty range can follow it
theorem applyFixes_splices_selection_overlapping :
    let place (a b : Int) (new : String) : Finding := ⟨a, b, 1, a, 1, b, [], new.toList, unsortedMessage⟩
    let t : Text := "abcdef".toList
    let fs := [place 3 5 "-", place 1 3 "B", place 2 2 "++", place 1 2 "x", place 4 4 "y"]
    (∀ f ∈ fs, f.Fits t) ∧ (fs.Pairwise fun f g => ¬ f.SamePlace g) ∧
      (∃ used skipped, fs.Perm (used ++ skipped) ∧
        (∀ f ∈ skipped, ∃ a ∈ used, a.start ≤ f.start ∧ f.start < a.stop) ∧
        Replaced t 0 used "ax++c-f".toList) ∧
      applyFixes t fs.reverse = "ax++c-f".toList := by
  intro place t fs
  have hfits : ∀ f ∈ fs, f.Fits t := by decide
  have hplaces : fs.Pairwise fun f g => ¬ f.SamePlace g := by decide
  have hout : applyFixes t fs = "ax++c-f".toList := by decide
  obtain ⟨⟨used, skipped, hperm, -, -, hskipped, hused⟩, horder⟩ :=
    applyFixes_splices_selection t fs hfits
  refine ⟨hfits, hplaces, ⟨used, skipped, hperm, hskipped, hout ▸ hused⟩, ?_⟩
  rw [horder hplaces fs.reverse fs.reverse_perm, hout]

end Repair

end ClassTidy.Finding
