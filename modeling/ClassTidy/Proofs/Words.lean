import ClassTidy.Text.Blank
import Mathlib.Data.List.DropRight
import Mathlib.Data.List.TakeWhile
import Mathlib.Tactic.Lemma

/-! Collapsing blanks keeps the words of a text and puts one space between neighbours. -/

namespace ClassTidy.Text

def IsWord (t : Text) : Prop := t ≠ [] ∧ ∀ c ∈ t, isBlank c = false

instance (t : Text) : Decidable (IsWord t) :=
  inferInstanceAs (Decidable (t ≠ [] ∧ ∀ c ∈ t, isBlank c = false))

@[elab_as_elim]
theorem wordInduction {motive : Text → Prop} (nil : motive [])
    (blank : ∀ c t, isBlank c = true → motive t → motive (c :: t))
    (word : ∀ w, IsWord w → motive w)
    (wordBlank : ∀ w c t, IsWord w → isBlank c = true → motive (c :: t) → motive (w ++ c :: t))
    (t : Text) : motive t := by
  induction hn : t.length using Nat.strongRecOn generalizing t with
  | ind n ih =>
    subst hn
    cases t with
    | nil => exact nil
    | cons c t =>
      cases hc : isBlank c with
      | true => exact blank c t hc (ih t.length (by simp) t rfl)
      | false =>
        have hw : IsWord (c :: t.takeWhile fun d => !isBlank d) := by
          refine ⟨by simp, ?_⟩
          intro d hd
          rcases List.mem_cons.mp hd with rfl | hd
          · exact hc
          · simpa using List.mem_takeWhile_imp hd
        have ht : c :: t = (c :: t.takeWhile fun d => !isBlank d) ++ t.dropWhile fun d => !isBlank d := by
          simp
        cases hr : t.dropWhile fun d => !isBlank d with
        | nil =>
          rw [ht, hr, List.append_nil]
          exact word _ hw
        | cons d rest =>
          have hd : isBlank d = true := by
            have hh := List.head?_dropWhile_not (fun d => !isBlank d) t
            simpa [hr] using hh
          have hlen : (d :: rest).length < (c :: t).length := by
            have hh : (t.dropWhile fun d => !isBlank d).length ≤ t.length :=
              (List.dropWhile_suffix _).length_le
            rw [hr] at hh
            exact Nat.lt_succ_of_le hh
          rw [ht, hr]
          exact wordBlank _ d rest hw hd (ih _ hlen _ rfl)

@[simp] lemma words_nil : words [] = [] := by simp [words]

lemma words_append_blank {c : Char} (hc : isBlank c = true) (s t : Text) :
    words (s ++ c :: t) = words s ++ words t := by
  rw [words, List.splitOnP_append_cons s t hc, List.filter_append]
  rfl

lemma words_cons_blank {c : Char} (hc : isBlank c = true) (t : Text) : words (c :: t) = words t := by
  simpa using words_append_blank hc [] t

lemma words_of_isWord {w : Text} (hw : IsWord w) : words w = [w] := by
  rw [words, List.splitOnP_eq_singleton hw.2]
  simp [hw.1]

lemma words_word_blank {w : Text} {c : Char} (hw : IsWord w) (hc : isBlank c = true) (t : Text) :
    words (w ++ c :: t) = w :: words t := by
  rw [words_append_blank hc, words_of_isWord hw, List.singleton_append]

lemma isWord_of_mem_words {t w : Text} (h : w ∈ words t) : IsWord w := by
  induction t using wordInduction with
  | nil => simp at h
  | blank c t hc ih =>
    rw [words_cons_blank hc] at h
    exact ih h
  | word v hv =>
    rw [words_of_isWord hv, List.mem_singleton] at h
    exact h ▸ hv
  | wordBlank v c t hv hc ih =>
    rw [words_word_blank hv hc] at h
    rcases List.mem_cons.mp h with rfl | hw
    · exact hv
    · exact ih (by rwa [words_cons_blank hc])

lemma words_eq_nil_iff (t : Text) : words t = [] ↔ ∀ c ∈ t, isBlank c = true := by
  induction t using wordInduction with
  | nil => simp
  | blank c t hc ih => simp [words_cons_blank hc, ih, hc]
  | word w hw =>
    obtain ⟨c, w, rfl⟩ := List.exists_cons_of_ne_nil hw.1
    simp [words_of_isWord hw, hw.2 c]
  | wordBlank w c t hw hc ih =>
    rw [words_word_blank hw hc]
    obtain ⟨d, w, rfl⟩ := List.exists_cons_of_ne_nil hw.1
    simp [hw.2 d]

lemma words_append_blanks (s t : Text) (ht : ∀ c ∈ t, isBlank c = true) :
    words (s ++ t) = words s := by
  cases t with
  | nil => rw [List.append_nil]
  | cons c t =>
    have hnil := (words_eq_nil_iff t).mpr fun d hd => ht d (List.mem_cons_of_mem c hd)
    rw [words_append_blank (ht c List.mem_cons_self), hnil, List.append_nil]

lemma words_dropWhile (t : Text) : words (t.dropWhile isBlank) = words t := by
  induction t with
  | nil => rfl
  | cons c t ih =>
    cases hc : isBlank c with
    | true => rw [List.dropWhile_cons_of_pos hc, ih, words_cons_blank hc]
    | false => rw [List.dropWhile_cons_of_neg (by simp [hc])]

lemma trim_eq_rdropWhile (t : Text) : trim t = (t.dropWhile isBlank).rdropWhile isBlank := rfl

lemma words_trim (t : Text) : words (trim t) = words t := by
  have hsplit : trim t ++ (t.dropWhile isBlank).rtakeWhile isBlank = t.dropWhile isBlank :=
    List.rdropWhile_append_rtakeWhile
  rw [← words_dropWhile t, ← hsplit]
  exact (words_append_blanks _ _ fun c hc => List.mem_rtakeWhile_imp hc).symm

lemma trim_head (t : Text) (c : Char) (hc : c ∈ (trim t).head?) : isBlank c = false := by
  obtain ⟨rest, hrest⟩ := List.rdropWhile_prefix isBlank (t.dropWhile isBlank)
  have hh := List.head?_dropWhile_not isBlank t
  rw [← hrest, ← trim_eq_rdropWhile, List.head?_append, Option.mem_def.mp hc] at hh
  exact hh

lemma trim_last (t : Text) (c : Char) (hc : c ∈ (trim t).getLast?) : isBlank c = false := by
  obtain ⟨hne, rfl⟩ := List.mem_getLast?_eq_getLast hc
  rw [trim_eq_rdropWhile] at hne
  simpa using! List.rdropWhile_last_not isBlank (t.dropWhile isBlank) hne

@[simp] lemma unwords_nil : unwords [] = [] := rfl

@[simp] lemma unwords_singleton (t : Text) : unwords [t] = t := List.intercalate_singleton

lemma unwords_cons (t : Text) {ts : List Text} (h : ts ≠ []) :
    unwords (t :: ts) = t ++ ' ' :: unwords ts := by
  simp [unwords, List.intercalate_cons_of_ne_nil h]

lemma words_unwords {ts : List Text} (h : ∀ t ∈ ts, IsWord t) : words (unwords ts) = ts := by
  induction ts with
  | nil => rfl
  | cons t ts ih =>
    have ht := h t List.mem_cons_self
    by_cases hts : ts = []
    · subst hts
      rw [unwords_singleton, words_of_isWord ht]
    · rw [unwords_cons t hts, words_word_blank ht isBlank_space,
        ih fun u hu => h u (List.mem_cons_of_mem t hu)]

lemma splitOn_unwords {ts : List Text} (h : ∀ t ∈ ts, IsWord t) (hts : ts ≠ []) :
    (unwords ts).splitOn ' ' = ts := by
  apply List.splitOn_intercalate ' ' _ hts
  intro t ht hmem
  have hh := (h t ht).2 ' ' hmem
  rw [isBlank_space] at hh
  cases hh

lemma squeeze_word {w : Text} (hw : ∀ c ∈ w, isBlank c = false) (inRun : Bool) (hne : w ≠ [])
    (t : Text) : squeeze inRun (w ++ t) = w ++ squeeze false t := by
  induction w generalizing inRun with
  | nil => exact absurd rfl hne
  | cons c w ih =>
    have hc := hw c List.mem_cons_self
    by_cases hnil : w = []
    · subst hnil
      simp [squeeze, hc]
    · have hh := ih (fun d hd => hw d (List.mem_cons_of_mem c hd)) false hnil
      simp [squeeze, hc, hh]

lemma squeeze_true_eq (t : Text) (ht : ∀ c ∈ t.getLast?, isBlank c = false) :
    squeeze true t = unwords (words t) := by
  induction t using wordInduction with
  | nil => rfl
  | blank c t hc ih =>
    have ht' : ∀ d ∈ t.getLast?, isBlank d = false := by
      intro d hd
      apply ht d
      rw [List.getLast?_cons, Option.mem_def.mp hd]
      rfl
    rw [words_cons_blank hc, ← ih ht']
    simp [squeeze, hc]
  | word w hw =>
    have hh := squeeze_word hw.2 true hw.1 []
    rw [List.append_nil] at hh
    rw [hh, words_of_isWord hw]
    simp [squeeze]
  | wordBlank w c t hw hc ih =>
    have ht' : ∀ d ∈ (c :: t).getLast?, isBlank d = false := by
      intro d hd
      apply ht d
      rw [List.getLast?_append, Option.mem_def.mp hd]
      rfl
    -- the last character is not blank, so a word follows behind `c`
    have hne : words t ≠ [] := by
      rw [← words_cons_blank hc, Ne, words_eq_nil_iff]
      intro hblank
      have hmem := List.getLast?_eq_some_getLast (List.cons_ne_nil c t)
      have hlast := hblank _ (List.getLast_mem (List.cons_ne_nil c t))
      rw [ht' _ hmem] at hlast
      cases hlast
    have hrest := ih ht'
    rw [words_cons_blank hc] at hrest
    rw [squeeze_word hw.2 true hw.1, words_word_blank hw hc, unwords_cons w hne, ← hrest]
    simp [squeeze, hc]

lemma mem_unwords {ts : List Text} {c : Char} (h : c ∈ unwords ts) : c = ' ' ∨ ∃ w ∈ ts, c ∈ w := by
  induction ts with
  | nil => simp at h
  | cons t ts ih =>
    by_cases hts : ts = []
    · subst hts
      rw [unwords_singleton] at h
      exact Or.inr ⟨t, List.mem_cons_self, h⟩
    · rw [unwords_cons t hts, List.mem_append, List.mem_cons] at h
      rcases h with h | rfl | h
      · exact Or.inr ⟨t, List.mem_cons_self, h⟩
      · exact Or.inl rfl
      · rcases ih h with rfl | ⟨w, hw, hc⟩
        · exact Or.inl rfl
        · exact Or.inr ⟨w, List.mem_cons_of_mem t hw, hc⟩

lemma collapse_eq_unwords (t : Text) : collapse t = unwords (words t) := by
  have hrun : squeeze false (trim t) = squeeze true (trim t) := by
    cases h : trim t with
    | nil => rfl
    | cons c rest =>
      have hc : isBlank c = false := trim_head t c (by rw [h]; rfl)
      simp [squeeze, hc]
  rw [collapse, hrun, squeeze_true_eq _ (trim_last t), words_trim]

@[simp] lemma words_collapse (t : Text) : words (collapse t) = words t := by
  rw [collapse_eq_unwords, words_unwords fun _ hw => isWord_of_mem_words hw]

@[simp] lemma collapse_collapse (t : Text) : collapse (collapse t) = collapse t := by
  rw [collapse_eq_unwords (collapse t), words_collapse, collapse_eq_unwords]

lemma collapse_eq_nil_iff (t : Text) : collapse t = [] ↔ words t = [] := by
  constructor
  · intro h
    rw [← words_collapse, h, words_nil]
  · intro h
    rw [collapse_eq_unwords, h, unwords_nil]

lemma splitOn_collapse {t : Text} (h : words t ≠ []) : (collapse t).splitOn ' ' = words t := by
  rw [collapse_eq_unwords, splitOn_unwords (fun _ hw => isWord_of_mem_words hw) h]

end ClassTidy.Text
