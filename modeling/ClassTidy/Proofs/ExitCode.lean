import ClassTidy.Command.Lint
import Mathlib

/-! What the exit code of a run says about its results. -/

namespace ClassTidy

variable {rs : List LintResult}

namespace LintResult

lemma findingCount_eq_sum (rs : List LintResult) :
    findingCount rs = (rs.map fun r => r.findings.length).sum := by
  induction rs with
  | nil => rfl
  | cons r rs ih =>
    rw [List.map_cons, List.sum_cons, ← ih]
    rfl

lemma findingCount_pos_iff : 0 < findingCount rs ↔ ∃ r ∈ rs, r.findings ≠ [] := by
  rw [findingCount_eq_sum, List.sum_pos_iff_exists_pos_nat]
  constructor
  · rintro ⟨n, hn, hpos⟩
    obtain ⟨r, hr, rfl⟩ := List.mem_map.mp hn
    exact ⟨r, hr, List.length_pos_iff.mp hpos⟩
  · rintro ⟨r, hr, hne⟩
    exact ⟨_, List.mem_map_of_mem hr, List.length_pos_iff.mpr hne⟩

end LintResult

namespace Command.Lint

lemma findingCount_unfixed_pos_iff : 0 < LintResult.findingCount (rs.filter fun r => !r.fixed) ↔
    ∃ r ∈ rs, r.fixed = false ∧ r.findings ≠ [] := by
  simp [LintResult.findingCount_pos_iff, and_assoc]

lemma exitCode_cases (rs : List LintResult) :
    (exitCode rs = 2 ∧ ¬ ∀ r ∈ rs, r.ok = true) ∨
    (exitCode rs = 1 ∧ (∀ r ∈ rs, r.ok = true) ∧ ∃ r ∈ rs, r.fixed = false ∧ r.findings ≠ []) ∨
    (exitCode rs = 0 ∧ (∀ r ∈ rs, r.ok = true) ∧ ¬ ∃ r ∈ rs, r.fixed = false ∧ r.findings ≠ []) := by
  rw [← findingCount_unfixed_pos_iff, ← List.all_eq_true, ← LintResult.allOk, exitCode]
  cases LintResult.allOk rs with
  | false => exact Or.inl ⟨rfl, by simp⟩
  | true =>
    by_cases hleft : 0 < LintResult.findingCount (rs.filter fun r => !r.fixed)
    · exact Or.inr (Or.inl ⟨by simp [hleft], rfl, hleft⟩)
    · exact Or.inr (Or.inr ⟨by simpa using hleft, rfl, hleft⟩)

lemma exitCode_eq_two_iff : exitCode rs = 2 ↔ ∃ r ∈ rs, r.ok = false := by
  have hfailed : (∃ r ∈ rs, r.ok = false) ↔ ¬ ∀ r ∈ rs, r.ok = true := by simp
  rw [hfailed]
  rcases exitCode_cases rs with ⟨hcode, hnot⟩ | ⟨hcode, hok, -⟩ | ⟨hcode, hok, -⟩
  · exact iff_of_true hcode hnot
  · exact iff_of_false (by simp [hcode]) (not_not_intro hok)
  · exact iff_of_false (by simp [hcode]) (not_not_intro hok)

lemma exitCode_eq_one_iff :
    exitCode rs = 1 ↔ (∀ r ∈ rs, r.ok = true) ∧ ∃ r ∈ rs, r.fixed = false ∧ r.findings ≠ [] := by
  rcases exitCode_cases rs with ⟨hcode, hnot⟩ | ⟨hcode, hleft⟩ | ⟨hcode, -, hdone⟩
  · exact iff_of_false (by simp [hcode]) fun h => hnot h.1
  · exact iff_of_true hcode hleft
  · exact iff_of_false (by simp [hcode]) fun h => hdone h.2

lemma exitCode_eq_zero_iff :
    exitCode rs = 0 ↔ (∀ r ∈ rs, r.ok = true) ∧ ∀ r ∈ rs, r.fixed = false → r.findings = [] := by
  have hnone : (∀ r ∈ rs, r.fixed = false → r.findings = []) ↔
      ¬ ∃ r ∈ rs, r.fixed = false ∧ r.findings ≠ [] := by simp
  rw [hnone]
  rcases exitCode_cases rs with ⟨hcode, hnot⟩ | ⟨hcode, -, hleft⟩ | ⟨hcode, hdone⟩
  · exact iff_of_false (by simp [hcode]) fun h => hnot h.1
  · exact iff_of_false (by simp [hcode]) fun h => h.2 hleft
  · exact iff_of_true hcode hdone

end Command.Lint

end ClassTidy
