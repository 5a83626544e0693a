import ClassTidy.Format.Formatter
import ClassTidy.Proofs.Words

/-! Merging keeps one class for each slot, and merging again changes nothing. -/

namespace ClassTidy

namespace Conflict

lemma modifiersOf_append_baseOf (cls : Text) : modifiersOf cls ++ baseOf cls = cls := by
  rw [modifiersOf, baseOf, ← List.reverse_append, List.takeWhile_append_dropWhile, List.reverse_reverse]

end Conflict

namespace Conflict.Table

open Text

variable (table : Table)

lemma slot_ne {u v : Text} (hbase : baseOf u = baseOf v) (hne : u ≠ v) : table.slot u ≠ table.slot v := by
  rw [slot, slot, hbase]
  cases table.property? (baseOf v) with
  | none => simpa using hne
  | some property =>
    intro heq
    have hmodifiers : modifiersOf u = modifiersOf v := by simpa using heq
    apply hne
    rw [← modifiersOf_append_baseOf u, hmodifiers, hbase, modifiersOf_append_baseOf]

lemma dropOverridden_sublist (cs : List Text) : (table.dropOverridden cs).Sublist cs := by
  induction cs with
  | nil => exact .slnil
  | cons c cs ih =>
    rw [dropOverridden]
    split
    · exact ih.cons c
    · exact ih.cons_cons c

lemma dropOverridden_pairwise (cs : List Text) :
    (table.dropOverridden cs).Pairwise fun c d => table.slot c ≠ table.slot d := by
  induction cs with
  | nil => exact .nil
  | cons c cs ih =>
    rw [dropOverridden]
    split
    · exact ih
    · rename_i hfree
      refine .cons ?_ ih
      intro d hd heq
      have hmem := (table.dropOverridden_sublist cs).mem hd
      exact hfree (List.any_eq_true.mpr ⟨d, hmem, by simp [heq]⟩)

lemma dropOverridden_nodup (cs : List Text) : (table.dropOverridden cs).Nodup :=
  (table.dropOverridden_pairwise cs).imp fun hne heq => hne (congrArg table.slot heq)

lemma exists_slot_dropOverridden {cs : List Text} {c : Text} (h : c ∈ cs) :
    ∃ d ∈ table.dropOverridden cs, table.slot d = table.slot c := by
  induction cs generalizing c with
  | nil => cases h
  | cons b cs ih =>
    rw [dropOverridden]
    split
    · rename_i htaken
      rcases List.mem_cons.mp h with rfl | hc
      · obtain ⟨d, hd, heq⟩ := List.any_eq_true.mp htaken
        obtain ⟨e, he, hslot⟩ := ih hd
        exact ⟨e, he, hslot.trans (by simpa using heq)⟩
      · exact ih hc
    · rcases List.mem_cons.mp h with rfl | hc
      · exact ⟨c, List.mem_cons_self, rfl⟩
      · obtain ⟨d, hd, hslot⟩ := ih hc
        exact ⟨d, List.mem_cons_of_mem b hd, hslot⟩

lemma dropOverridden_eq_self {cs : List Text}
    (h : cs.Pairwise fun c d => table.slot c ≠ table.slot d) : table.dropOverridden cs = cs := by
  induction cs with
  | nil => rfl
  | cons c cs ih =>
    obtain ⟨hc, hcs⟩ := List.pairwise_cons.mp h
    have hfree : ¬ (cs.any fun d => table.slot d == table.slot c) = true := by
      rw [List.any_eq_true]
      rintro ⟨d, hd, heq⟩
      exact hc d hd (beq_iff_eq.mp heq).symm
    rw [dropOverridden, if_neg hfree, ih hcs]

lemma words_merge (t : Text) : words (table.merge t) = table.dropOverridden (words t) :=
  words_unwords fun _ hc => isWord_of_mem_words ((table.dropOverridden_sublist _).mem hc)

end Conflict.Table

namespace Resolver

open Text

variable {ε : Type}

/-- A resolver settles a list of words: of the words with one space between neighbours it keeps some
in their order, and what is left stays as it is when resolved once more. -/
def Settles (resolve : Resolver ε) : Prop :=
  ∀ ts : List Text, (∀ t ∈ ts, IsWord t) →
    ∃ kept, resolve (unwords ts) = .ok kept ∧ (words kept).Sublist ts ∧
      ∃ again, resolve (collapse kept) = .ok again ∧ words again = words kept

lemma settles_ofTable (table : Conflict.Table) : (ofTable table : Resolver ε).Settles := by
  intro ts hts
  have hwords : words (table.merge (unwords ts)) = table.dropOverridden ts := by
    rw [table.words_merge, words_unwords hts]
  refine ⟨table.merge (unwords ts), rfl, ?_, table.merge (collapse (table.merge (unwords ts))),
    rfl, ?_⟩
  · rw [hwords]
    exact table.dropOverridden_sublist ts
  · rw [table.words_merge, words_collapse, hwords]
    exact table.dropOverridden_eq_self (table.dropOverridden_pairwise ts)

end Resolver

end ClassTidy
