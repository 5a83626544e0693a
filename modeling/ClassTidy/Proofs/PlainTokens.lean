import ClassTidy.Proofs.Swapping

/-! Lists of plain tokens are inert, in whatever order the tokens stand. -/

namespace ClassTidy

open Text Source

namespace Text

variable {t : Text} {c : Char}

lemma mem_of_mem_words {w : Text} (hw : w ∈ words t) (hc : c ∈ w) : c ∈ t := by
  induction t using wordInduction with
  | nil => simp at hw
  | blank d t hd ih =>
    rw [words_cons_blank hd] at hw
    exact List.mem_cons_of_mem d (ih hw)
  | word v hv =>
    rw [words_of_isWord hv, List.mem_singleton] at hw
    exact hw ▸ hc
  | wordBlank v d t hv hd ih =>
    rw [words_word_blank hv hd] at hw
    rcases List.mem_cons.mp hw with rfl | hw
    · exact List.mem_append_left _ hc
    · exact List.mem_append_right _ (ih (by rwa [words_cons_blank hd]))

lemma exists_word_of_mem (hc : isBlank c = false) (h : c ∈ t) : ∃ w ∈ words t, c ∈ w := by
  have hne : ∀ {d}, isBlank d = true → c ≠ d := by
    rintro d hd rfl
    rw [hc] at hd
    cases hd
  induction t using wordInduction with
  | nil => cases h
  | blank d t hd ih =>
    rw [words_cons_blank hd]
    exact ih (List.mem_of_ne_of_mem (hne hd) h)
  | word w hw => exact ⟨w, by simp [words_of_isWord hw], h⟩
  | wordBlank w d t hw hd ih =>
    rw [words_word_blank hw hd]
    rcases List.mem_append.mp h with h | h
    · exact ⟨w, List.mem_cons_self, h⟩
    · obtain ⟨v, hv, hcv⟩ := ih h
      rw [words_cons_blank hd] at hv
      exact ⟨v, List.mem_cons_of_mem w hv, hcv⟩

lemma exists_word_of_first {blanks rest : Text} (hb : ∀ d ∈ blanks, isBlank d = true)
    (hc : isBlank c = false) : ∃ w, c :: w ∈ words (blanks ++ c :: rest) := by
  induction blanks with
  | nil =>
    generalize ht : [] ++ c :: rest = t
    induction t using wordInduction with
    | nil => simp at ht
    | blank d t hd =>
      obtain ⟨rfl, -⟩ : c = d ∧ rest = t := by simpa using ht
      rw [hc] at hd
      cases hd
    | word w hw => exact ⟨rest, by simpa [words_of_isWord hw] using ht⟩
    | wordBlank w d t hw hd =>
      obtain ⟨e, w, rfl⟩ := List.exists_cons_of_ne_nil hw.1
      obtain ⟨rfl, -⟩ : c = e ∧ rest = w ++ d :: t := by simpa using ht
      rw [words_word_blank hw hd]
      exact ⟨w, List.mem_cons_self⟩
  | cons d blanks ih =>
    rw [List.cons_append, words_cons_blank (hb d List.mem_cons_self)]
    exact ih fun e he => hb e (List.mem_cons_of_mem d he)

lemma exists_word_of_last {rest blanks : Text} (hb : ∀ d ∈ blanks, isBlank d = true)
    (hc : isBlank c = false) : ∃ w, w ++ [c] ∈ words (rest ++ c :: blanks) := by
  have hcut : rest ++ c :: blanks = (rest ++ [c]) ++ blanks := by simp
  rw [hcut, words_append_blanks _ _ hb]
  induction rest using wordInduction with
  | nil => exact ⟨[], by simp [words_of_isWord ⟨List.cons_ne_nil c [], by simpa using hc⟩]⟩
  | blank d t hd ih =>
    rw [List.cons_append, words_cons_blank hd]
    exact ih (by simp)
  | word w hw =>
    have hword : IsWord (w ++ [c]) := by
      refine ⟨by simp, ?_⟩
      intro d hd
      rcases List.mem_append.mp hd with h | h
      · exact hw.2 d h
      · obtain rfl : d = c := by simpa using h
        exact hc
    exact ⟨w, by simp [words_of_isWord hword]⟩
  | wordBlank w d t hw hd ih =>
    obtain ⟨w', hw'⟩ := ih (by simp)
    rw [List.cons_append, words_cons_blank hd] at hw'
    exact ⟨w', by simp [words_word_blank hw hd, hw']⟩

end Text

/-- A token that looks like nothing else: it holds no quote, no backslash and no dollar sign, its
parentheses are balanced, it does not start with a closing brace, and it does not end with an equals
sign or an opening brace. -/
structure Plain (w : Text) : Prop where
  chars : ∀ c ∈ w, isQuote c = false ∧ c ≠ '\\' ∧ c ≠ '$'
  balanced : (Scan.code 0).after w = some (.code 0)
  front : w.head? ≠ some '\x7d'
  back : w.getLast? ≠ some '=' ∧ w.getLast? ≠ some '\x7b'

instance (w : Text) : Decidable (Plain w) :=
  have := List.decidableBAll (fun c => isQuote c = false ∧ c ≠ '\\' ∧ c ≠ '$') w
  decidable_of_iff
    ((∀ c ∈ w, isQuote c = false ∧ c ≠ '\\' ∧ c ≠ '$') ∧ (Scan.code 0).after w = some (.code 0) ∧
      w.head? ≠ some '\x7d' ∧ w.getLast? ≠ some '=' ∧ w.getLast? ≠ some '\x7b')
    ⟨fun ⟨h₁, h₂, h₃, h₄⟩ => ⟨h₁, h₂, h₃, h₄⟩, fun ⟨h₁, h₂, h₃, h₄⟩ => ⟨h₁, h₂, h₃, h₄⟩⟩

lemma after_words {t : Text} (h : ∀ w ∈ words t, (Scan.code 0).after w = some (.code 0)) :
    (Scan.code 0).after t = some (.code 0) := by
  have hblank : ∀ c, isBlank c = true → ∀ t, (Scan.code 0).after (c :: t) = (Scan.code 0).after t := by
    intro c hc t
    have hopen : c ≠ '(' := by
      rintro rfl
      exact absurd hc (by decide)
    have hclose : c ≠ ')' := by
      rintro rfl
      exact absurd hc (by decide)
    simp [Scan.after, Scan.step, isQuote_of_isBlank hc, hopen, hclose]
  induction t using wordInduction with
  | nil => rfl
  | blank c t hc ih =>
    rw [hblank c hc]
    exact ih (by rwa [words_cons_blank hc] at h)
  | word w hw => exact h w (by simp [words_of_isWord hw])
  | wordBlank w c t hw hc ih =>
    rw [words_word_blank hw hc] at h
    rw [Scan.after_append, h w List.mem_cons_self, Option.bind_some]
    refine ih ?_
    rw [words_cons_blank hc]
    exact fun v hv => h v (List.mem_cons_of_mem w hv)

lemma inert_of_plain {t : Text} (h : ∀ w ∈ words t, Plain w) : Inert t where
  chars := by
    intro c hc
    cases hb : isBlank c with
    | true =>
      refine ⟨isQuote_of_isBlank hb, ?_, ?_⟩
      · rintro rfl
        exact absurd hb (by decide)
      · rintro rfl
        exact absurd hb (by decide)
    | false =>
      obtain ⟨w, hw, hcw⟩ := exists_word_of_mem hb hc
      exact (h w hw).chars c hcw
  balanced := after_words fun w hw => (h w hw).balanced
  front := by
    rintro blanks c rest rfl hb rfl
    obtain ⟨w, hw⟩ := exists_word_of_first hb (show isBlank '\x7d' = false by decide)
    exact (h _ hw).front rfl
  back := by
    rintro rest c blanks rfl hb
    constructor
    · rintro rfl
      obtain ⟨w, hw⟩ := exists_word_of_last hb (show isBlank '=' = false by decide)
      exact (h _ hw).back.1 (by simp)
    · rintro rfl
      obtain ⟨w, hw⟩ := exists_word_of_last hb (show isBlank '\x7b' = false by decide)
      exact (h _ hw).back.2 (by simp)

end ClassTidy
