import ClassTidy.Token.Order
import Mathlib.Data.List.Sort
import Mathlib.Tactic.Lemma

/-! Tokens are ordered totally, so a list of tokens has one sorted form. -/

namespace ClassTidy

section Insertion

variable {α : Type} (le : α → α → Bool)

lemma insertBy_eq_orderedInsert (a : α) (as : List α) :
    insertBy le a as = as.orderedInsert (fun a b => le a b = true) a := by
  induction as with
  | nil => rfl
  | cons b bs ih => simp only [insertBy, List.orderedInsert_cons, ih]

lemma sortBy_eq_insertionSort (as : List α) :
    sortBy le as = as.insertionSort (fun a b => le a b = true) := by
  induction as with
  | nil => rfl
  | cons a as ih => rw [sortBy, insertBy_eq_orderedInsert, ih, List.insertionSort_cons]

lemma pairwise_of_short {R : α → α → Prop} {as : List α} (h : as.length ≤ 1) : as.Pairwise R := by
  match as with
  | [] => exact .nil
  | [a] => exact List.pairwise_singleton R a
  | _ :: _ :: _ => simp at h

end Insertion

namespace Registry

variable (r : Registry)

lemma compareTokens_eq_compareLex :
    r.compareTokens =
      compareLex (compareOn fun t => (r.normalize t).weight)
        (compareLex
          (compareLex (compareOn fun t => Text.fold (r.normalize t).base)
            (compareOn fun t => (r.normalize t).base))
          (compareLex (compareOn fun t => (r.normalize t).important)
            (compareLex (compareOn Text.fold) compare))) := rfl

lemma compareTokens_of_normalize {u v : Text} (h : r.normalize u = r.normalize v) :
    r.compareTokens u v = Token.compareSpelling u v := by
  simp [compareTokens, rank, Token.Ranked.compare, h, Token.compareSpelling]

instance : Std.TransCmp r.compareTokens := by
  rw [compareTokens_eq_compareLex]
  infer_instance

instance : Std.LawfulEqCmp r.compareTokens where
  eq_of_compare {a b} h := by
    -- equal for all keys, in particular for the last one, the spelling
    rw [compareTokens_eq_compareLex] at h
    simp only [compareLex, Ordering.then_eq_eq] at h
    exact Std.LawfulEqCmp.eq_of_compare h.2.2.2.2

def AtOrBefore (a b : Text) : Prop := (r.compareTokens a b).isLE = true

instance : DecidableRel r.AtOrBefore := fun a b =>
  inferInstanceAs (Decidable ((r.compareTokens a b).isLE = true))

instance : IsTrans Text r.AtOrBefore := ⟨fun _ _ _ => Std.TransCmp.isLE_trans⟩

instance : Std.Total r.AtOrBefore := ⟨fun a b => by
  cases h : r.compareTokens a b with
  | lt => exact Or.inl (by simp [AtOrBefore, h])
  | eq => exact Or.inl (by simp [AtOrBefore, h])
  | gt => exact Or.inr (by simp [AtOrBefore, Std.OrientedCmp.gt_iff_lt.mp h])⟩

instance : Std.Antisymm r.AtOrBefore := ⟨fun a b hab hba => by
  have heq : r.compareTokens a b = .eq := Std.OrientedCmp.isLE_antisymm hab hba
  exact Std.LawfulEqCmp.eq_of_compare heq⟩

lemma sortTokens_eq_insertionSort (ts : List Text) :
    r.sortTokens ts = ts.insertionSort r.AtOrBefore := by
  rw [sortTokens, sortBy_eq_insertionSort,
    ← List.map_insertionSort r.AtOrBefore _ r.rank ts (fun _ _ _ _ => Iff.rfl), List.map_map]
  exact List.map_id _

lemma sortTokens_perm (ts : List Text) : (r.sortTokens ts).Perm ts := by
  rw [sortTokens_eq_insertionSort]
  exact List.perm_insertionSort _ ts

lemma sortTokens_pairwise (ts : List Text) : (r.sortTokens ts).Pairwise r.AtOrBefore := by
  rw [sortTokens_eq_insertionSort]
  exact List.pairwise_insertionSort _ ts

lemma sortTokens_eq_self {ts : List Text} (h : ts.Pairwise r.AtOrBefore) : r.sortTokens ts = ts := by
  rw [sortTokens_eq_insertionSort]
  exact h.insertionSort_eq

lemma sortTokens_of_short {ts : List Text} (h : ts.length ≤ 1) : r.sortTokens ts = ts :=
  r.sortTokens_eq_self (pairwise_of_short h)

lemma sortTokens_eq_of_perm {ts us : List Text} (h : ts.Perm us) :
    r.sortTokens ts = r.sortTokens us := by
  have hp := (r.sortTokens_perm ts).trans (h.trans (r.sortTokens_perm us).symm)
  exact hp.eq_of_pairwise' (r.sortTokens_pairwise ts) (r.sortTokens_pairwise us)

lemma sortTokens_eq_iff {ts us : List Text} :
    r.sortTokens ts = us ↔ us.Perm ts ∧ us.Pairwise r.AtOrBefore := by
  constructor
  · rintro rfl
    exact ⟨r.sortTokens_perm ts, r.sortTokens_pairwise ts⟩
  · rintro ⟨hperm, hsorted⟩
    rw [r.sortTokens_eq_of_perm hperm.symm, r.sortTokens_eq_self hsorted]

lemma pairwise_lt_of_nodup {ts : List Text} (h : ts.Pairwise r.AtOrBefore) (hn : ts.Nodup) :
    ts.Pairwise fun a b => r.compareTokens a b = .lt := by
  refine (h.and hn).imp ?_
  rintro a b ⟨hle, hne⟩
  cases hab : r.compareTokens a b with
  | lt => rfl
  | eq => exact absurd (Std.LawfulEqCmp.eq_of_compare hab) hne
  | gt => simp [AtOrBefore, hab] at hle

/-- The order of tokens is total and tells all tokens apart, so what sorting gives is the one sorted
rearrangement of its list, whatever order the list was in. -/
theorem sortTokens_finds_sorted_form (r : Registry) :
    (∀ a b, r.compareTokens a b = (r.compareTokens b a).swap) ∧
    (∀ a b, r.compareTokens a b = .eq ↔ a = b) ∧
    (∀ a b c, (r.compareTokens a b).isLE → (r.compareTokens b c).isLE → (r.compareTokens a c).isLE) ∧
    (∀ ts us, r.sortTokens ts = us ↔
      us.Perm ts ∧ us.Pairwise fun a b => (r.compareTokens a b).isLE) ∧
    (∀ ts us, ts.Perm us → r.sortTokens ts = r.sortTokens us) ∧
    ∀ ts, r.sortTokens (r.sortTokens ts) = r.sortTokens ts := by
  refine ⟨fun a b => Std.OrientedCmp.eq_swap, fun a b => Std.LawfulEqCmp.compare_eq_iff_eq,
    fun a b c => Std.TransCmp.isLE_trans, fun ts us => r.sortTokens_eq_iff,
    fun ts us => r.sortTokens_eq_of_perm, ?_⟩
  intro ts
  exact r.sortTokens_eq_self (r.sortTokens_pairwise ts)

end Registry

end ClassTidy
