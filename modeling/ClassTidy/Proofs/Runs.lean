import ClassTidy.Proofs.Literals
import ClassTidy.Proofs.Words

/-! The words of a text are its maximal runs of characters that are not blank. -/

namespace ClassTidy

lemma Span.text_whole (t : Text) : (⟨0, t.length⟩ : Span).text t = t := by
  simp [Span.text, Text.between]

namespace Text

def BlankAt (t : Text) (i : Nat) : Prop := ∃ c, t[i]? = some c ∧ isBlank c = true

structure BlankFree (t : Text) (s : Span) : Prop where
  nonempty : s.start < s.stop
  inside : s.stop ≤ t.length
  clear : ∀ i, s.start ≤ i → i < s.stop → ¬ BlankAt t i

structure IsRun (t : Text) (s : Span) : Prop where
  blankFree : BlankFree t s
  maximal : ∀ s', BlankFree t s' → s'.start ≤ s.start → s.stop ≤ s'.stop → s' = s

structure Runs (t : Text) (runs : List Span) : Prop where
  apart : runs.Pairwise fun s s' => s.stop < s'.start
  mem_iff : ∀ s, s ∈ runs ↔ IsRun t s

variable {t u : Text} {i : Nat} {r r' : Span}

lemma blankAt_append_left (h : i < u.length) : BlankAt (u ++ t) i ↔ BlankAt u i := by
  rw [BlankAt, BlankAt, List.getElem?_append_left h]

lemma blankAt_append_right : BlankAt (u ++ t) (u.length + i) ↔ BlankAt t i := by
  rw [BlankAt, BlankAt, List.getElem?_append_right (Nat.le_add_right _ _), Nat.add_sub_cancel_left]

lemma blankFree_iff {start stop : Nat} :
    BlankFree t ⟨start, stop⟩ ↔
      start < stop ∧ stop ≤ t.length ∧ ∀ i, start ≤ i → i < stop → ¬ BlankAt t i :=
  ⟨fun h => ⟨h.nonempty, h.inside, h.clear⟩, fun h => ⟨h.1, h.2.1, h.2.2⟩⟩

lemma BlankFree.append_left (h : BlankFree u r) (t : Text) : BlankFree (u ++ t) r := by
  obtain ⟨hnonempty, hinside, hclear⟩ := h
  refine ⟨hnonempty, by rw [List.length_append]; omega, ?_⟩
  intro i hge hlt
  rw [blankAt_append_left (by omega)]
  exact hclear i hge hlt

lemma BlankFree.append_right (h : BlankFree t r) (u : Text) : BlankFree (u ++ t) (r.shift u.length) := by
  obtain ⟨hnonempty, hinside, hclear⟩ := h
  rw [Span.shift, blankFree_iff, List.length_append]
  refine ⟨by omega, by omega, ?_⟩
  intro i hge hlt
  obtain ⟨j, rfl⟩ := Nat.exists_eq_add_of_le (show u.length ≤ i by omega)
  rw [blankAt_append_right]
  exact hclear j (by omega) (by omega)

-- Where two texts meet at a blank, nothing that is free of blanks goes over from one to the other.
lemma blankFree_append (hmeet : BlankAt u (u.length - 1) ∨ BlankAt t 0) :
    BlankFree (u ++ t) r ↔ BlankFree u r ∨ ∃ r', BlankFree t r' ∧ r = r'.shift u.length := by
  constructor
  · rintro ⟨hnonempty, hinside, hclear⟩
    rw [List.length_append] at hinside
    rcases Nat.lt_or_ge u.length r.stop with hover | hstop
    · rcases Nat.lt_or_ge r.start u.length with hfront | hstart
      · exfalso
        rcases hmeet with hblank | hblank
        · rw [← blankAt_append_left (t := t) (by omega)] at hblank
          exact hclear _ (by omega) (by omega) hblank
        · rw [← blankAt_append_right (u := u)] at hblank
          exact hclear _ (by omega) hover hblank
      · right
        refine ⟨⟨r.start - u.length, r.stop - u.length⟩, blankFree_iff.mpr ⟨by omega, by omega, ?_⟩, ?_⟩
        · intro i hge hlt
          rw [← blankAt_append_right (u := u)]
          exact hclear _ (by omega) (by omega)
        · simp only [Span.shift, Nat.sub_add_cancel hstart, Nat.sub_add_cancel hover.le]
    · left
      refine ⟨hnonempty, hstop, ?_⟩
      intro i hge hlt
      rw [← blankAt_append_left (t := t) (by omega)]
      exact hclear i hge hlt
  · rintro (h | ⟨r', h, rfl⟩)
    · exact h.append_left t
    · exact h.append_right u

lemma isRun_append (hmeet : BlankAt u (u.length - 1) ∨ BlankAt t 0) :
    IsRun (u ++ t) r ↔ IsRun u r ∨ ∃ r', IsRun t r' ∧ r = r'.shift u.length := by
  constructor
  · intro h
    rcases (blankFree_append hmeet).mp h.blankFree with hfree | ⟨r', hfree, rfl⟩
    · exact Or.inl ⟨hfree, fun s' hs' => h.maximal s' (hs'.append_left t)⟩
    · refine Or.inr ⟨r', ⟨hfree, ?_⟩, rfl⟩
      intro s' hs' hstart hstop
      apply Span.shift_injective u.length
      exact h.maximal _ (hs'.append_right u) (Nat.add_le_add_right hstart _) (Nat.add_le_add_right hstop _)
  · rintro (h | ⟨r', h, rfl⟩)
    · refine ⟨h.blankFree.append_left t, ?_⟩
      intro s' hs' hstart hstop
      rcases (blankFree_append hmeet).mp hs' with hfree | ⟨s'', -, rfl⟩
      · exact h.maximal s' hfree hstart hstop
      · have hnonempty := h.blankFree.nonempty
        have hinside := h.blankFree.inside
        simp only [Span.shift] at hstart
        omega
    · refine ⟨h.blankFree.append_right u, ?_⟩
      intro s' hs' hstart hstop
      rcases (blankFree_append hmeet).mp hs' with hfree | ⟨s'', hfree, rfl⟩
      · have hnonempty := h.blankFree.nonempty
        have hinside := hfree.inside
        simp only [Span.shift] at hstop
        omega
      · rw [h.maximal s'' hfree (Nat.le_of_add_le_add_right hstart) (Nat.le_of_add_le_add_right hstop)]

lemma IsRun.stop_lt_start (h : IsRun t r) (h' : IsRun t r') (hlt : r.start < r'.start) : r.stop < r'.start := by
  by_contra! hge
  obtain ⟨hnonempty, hinside, hclear⟩ := h.blankFree
  obtain ⟨hnonempty', hinside', hclear'⟩ := h'.blankFree
  have hunion : BlankFree t ⟨r.start, max r.stop r'.stop⟩ := by
    refine blankFree_iff.mpr ⟨by omega, by omega, ?_⟩
    intro i hstart hstop
    rcases Nat.lt_or_ge i r.stop with hin | hout
    · exact hclear i hstart hin
    · exact hclear' i (by omega) (by omega)
  -- it holds both runs, so it is both of them
  have heq := h.maximal _ hunion (Nat.le_refl _) (Nat.le_max_left _ _)
  have heq' := h'.maximal _ hunion hlt.le (Nat.le_max_right _ _)
  rw [heq] at heq'
  rw [heq'] at hlt
  exact Nat.lt_irrefl _ hlt

namespace Runs

variable {runs runs' : List Span}

lemma nil : Runs [] [] := by
  refine ⟨.nil, ?_⟩
  intro r
  refine iff_of_false List.not_mem_nil ?_
  intro h
  exact Nat.not_lt_of_le h.blankFree.inside (Nat.zero_lt_of_lt h.blankFree.nonempty)

lemma blank {c : Char} (hc : isBlank c = true) : Runs [c] [] := by
  refine ⟨.nil, ?_⟩
  intro r
  refine iff_of_false List.not_mem_nil ?_
  intro h
  obtain ⟨hnonempty, hinside, hclear⟩ := h.blankFree
  rw [List.length_singleton] at hinside
  exact hclear 0 (by omega) (by omega) ⟨c, rfl, hc⟩

lemma word {w : Text} (hw : IsWord w) : Runs w [⟨0, w.length⟩] := by
  have hfree : BlankFree w ⟨0, w.length⟩ := by
    refine ⟨List.length_pos_iff.mpr hw.1, Nat.le_refl _, ?_⟩
    rintro i - - ⟨c, hc, hblank⟩
    rw [hw.2 c (List.mem_of_getElem? hc)] at hblank
    cases hblank
  refine ⟨List.pairwise_singleton _ _, ?_⟩
  intro r
  rw [List.mem_singleton]
  constructor
  · rintro rfl
    refine ⟨hfree, ?_⟩
    rintro ⟨start, stop⟩ hs' hstart hstop
    have hinside := hs'.inside
    simp only [Span.mk.injEq] at hstart hstop hinside ⊢
    omega
  · intro h
    exact (h.maximal _ hfree (Nat.zero_le _) h.blankFree.inside).symm

lemma append (h : Runs u runs) (h' : Runs t runs') (hmeet : BlankAt u (u.length - 1) ∨ BlankAt t 0) :
    Runs (u ++ t) (runs ++ runs'.map fun r => r.shift u.length) := by
  have hmem : ∀ r, r ∈ runs ++ runs'.map (fun r => r.shift u.length) ↔ IsRun (u ++ t) r := by
    intro r
    rw [isRun_append hmeet, List.mem_append, List.mem_map, h.mem_iff]
    simp only [h'.mem_iff, eq_comm]
  refine ⟨List.pairwise_append.mpr ⟨h.apart, ?_, ?_⟩, hmem⟩
  · rw [List.pairwise_map]
    exact h'.apart.imp fun hlt => Nat.add_lt_add_right hlt _
  · intro r hr r' hr'
    have hrun := (hmem r).mp (List.mem_append_left _ hr)
    have hrun' := (hmem r').mp (List.mem_append_right _ hr')
    obtain ⟨r', -, rfl⟩ := List.mem_map.mp hr'
    have hfree := ((h.mem_iff r).mp hr).blankFree
    have hnonempty := hfree.nonempty
    have hinside := hfree.inside
    apply hrun.stop_lt_start hrun'
    simp only [Span.shift]
    omega

lemma texts_append (h : Runs u runs) (t : Text) (runs' : List Span) :
    (runs ++ runs'.map fun r => r.shift u.length).map (fun r => r.text (u ++ t)) =
      runs.map (fun r => r.text u) ++ runs'.map fun r => r.text t := by
  rw [List.map_append, List.map_map]
  congr 1
  · apply List.map_congr_left
    intro r hr
    exact Span.text_append ((h.mem_iff r).mp hr).blankFree.inside t
  · apply List.map_congr_left
    intro r _
    exact Span.text_shift r u t

end Runs

lemma exists_runs (t : Text) : ∃ runs, Runs t runs ∧ words t = runs.map fun r => r.text t := by
  induction t using wordInduction with
  | nil => exact ⟨[], .nil, rfl⟩
  | blank c t hc ih =>
    obtain ⟨runs, hruns, hwords⟩ := ih
    refine ⟨_, (Runs.blank hc).append hruns (Or.inl ⟨c, rfl, hc⟩), ?_⟩
    rw [words_cons_blank hc, hwords]
    exact ((Runs.blank hc).texts_append t runs).symm
  | word w hw =>
    refine ⟨_, .word hw, ?_⟩
    rw [words_of_isWord hw, List.map_singleton, Span.text_whole]
  | wordBlank w c t hw hc ih =>
    obtain ⟨runs, hruns, hwords⟩ := ih
    refine ⟨_, (Runs.word hw).append hruns (Or.inr ⟨c, rfl, hc⟩), ?_⟩
    rw [(Runs.word hw).texts_append, ← hwords, List.map_singleton, Span.text_whole, words_word_blank hw hc,
      words_cons_blank hc, List.singleton_append]

/-- A collapsed text has the runs of the text in order with one space between neighbours, and collapsing it
again changes nothing. If there is a run, then cutting it at spaces and cutting it at blanks both give the
runs back. -/
theorem collapse_joins_runs (t : Text) :
    ∃ runs, Runs t runs ∧
      let texts := runs.map fun r => r.text t
      (∀ w ∈ texts, IsWord w) ∧ collapse t = unwords texts ∧ collapse (collapse t) = collapse t ∧
        (collapse t ≠ [] → (collapse t).splitOn ' ' = texts ∧ words (collapse t) = texts) := by
  obtain ⟨runs, hruns, hwords⟩ := exists_runs t
  refine ⟨runs, hruns, ?_⟩
  intro texts
  have htexts : texts = words t := hwords.symm
  rw [htexts]
  refine ⟨fun w hw => isWord_of_mem_words hw, collapse_eq_unwords t, collapse_collapse t, ?_⟩
  intro hne
  rw [Ne, collapse_eq_nil_iff] at hne
  exact ⟨splitOn_collapse hne, words_collapse t⟩

-- an ideographic space, a no-break space with a tab and a space behind it, and a file separator
theorem collapse_joins_runs_separators :
    let t : Text := "\u3000a\u00a0\t b\u001c".toList
    collapse t ≠ [] ∧ ∃ runs, Runs t runs ∧ (runs.map fun r => r.text t) = [['a'], ['b']] ∧
      collapse t = unwords [['a'], ['b']] ∧ (collapse t).splitOn ' ' = [['a'], ['b']] ∧
      words (collapse t) = [['a'], ['b']] := by
  intro t
  have hne : collapse t ≠ [] := by decide
  obtain ⟨runs, hruns, -, hjoin, -, hcut⟩ := collapse_joins_runs t
  obtain ⟨hspaces, hblanks⟩ := hcut hne
  have htexts : (runs.map fun r => r.text t) = [['a'], ['b']] := hspaces.symm.trans (by decide)
  rw [htexts] at hjoin hspaces hblanks
  exact ⟨hne, runs, hruns, htexts, hjoin, hspaces, hblanks⟩

end Text

end ClassTidy
