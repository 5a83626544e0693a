import ClassTidy.Proofs.ExitCode
import ClassTidy.Proofs.Splicing
import ClassTidy.Proofs.Visits

/-! What a result marked as fixed says about its file. -/

namespace ClassTidy

open Fallible

lemma Span.bounds_of_text_ne_nil {s : Span} {t : Text} (h : s.text t ≠ []) :
    s.start < s.stop ∧ s.start < t.length := by
  have hpos := List.length_pos_iff.mpr h
  simp only [text, Text.between, List.length_drop, List.length_take] at hpos
  omega

namespace Checker

variable {ε : Type} {c : Checker ε} {t : Text}

lemma reports_of_assess {s : Span} {f : Finding} (hs : s ∈ c.candidates t)
    (h : c.assess t (.ofText t) s = .ok (some f)) : c.Reports t s f := by
  rw [candidates_eq_filter, List.mem_filter, decide_eq_true_iff] at hs
  rw [assess_eq] at h
  obtain ⟨new, hform, hnew⟩ := map_eq_ok_iff.mp h
  cases new with
  | none => cases hnew
  | some new =>
    simp only [findingOf?, Option.ite_none_left_eq_some, Option.some.injEq] at hnew
    obtain ⟨hne, rfl⟩ := hnew
    exact ⟨hs.1, hs.2, hform, fun hnil => hne (Or.inl hnil), rfl⟩

lemma check_sound {checked : Checked} (h : c.check t = .ok checked) :
    (∀ f ∈ checked.findings, ∃ s, c.Reports t s f) ∧ checked.findings.Pairwise Finding.Before := by
  obtain ⟨fs, hfs, rfl⟩ := map_eq_ok_iff.mp h
  obtain ⟨found, hfound, rfl⟩ := map_eq_ok_iff.mp hfs
  refine ⟨?_, sortBy_pairwise_before (firstOfEach_pairwise _)⟩
  intro f hf
  have hmem := (firstOfEach_sublist _).mem ((mem_sortBy _ _ f).mp hf)
  obtain ⟨_, hmem, rfl⟩ := List.mem_filterMap.mp hmem
  obtain ⟨s, hs, hassess⟩ := exists_of_mem_mapM hfound hmem
  exact ⟨s, reports_of_assess hs hassess⟩

lemma Reports.fits {s : Span} {f : Finding} (h : c.Reports t s f) : f.Fits t := by
  obtain ⟨hlt, hlen⟩ := Span.bounds_of_text_ne_nil h.nonempty
  refine ⟨?_, ?_, ?_⟩ <;> simp only [h.start, h.stop] <;> omega

end Checker

namespace FileCheck

variable {ε : Type}

/-- What a repair by the listed findings has done to the file at a path: its text, with one kind of line
end, has the ranges of the selected findings replaced, each finding that was not selected starts inside
of one that was, and the replaced ranges are all those listed just if no two of them overlap. -/
def RepairedBy (before : Tree) (p : Path) (fs : List Finding) (after : Tree) : Prop :=
  ∃ t new l, before.readText p = .ok t ∧ before.locate p = .ok l ∧
    after = { before with files := Tree.setFile l (Utf8.encode new) before.files } ∧
    Finding.Replaced t 0 (Finding.selected fs) new ∧
    (∀ f ∈ fs, f ∈ Finding.selected fs ∨
      ∃ a ∈ Finding.selected fs, a.start ≤ f.start ∧ f.start < a.stop) ∧
    (Finding.Replaced t 0 fs new ↔ fs.Pairwise fun f g => f.stop ≤ g.start)

section RepairedBy

variable {o : LintOptions} {resolve : Resolver ε} {fix : Bool} {tree tree' : Tree} {p : Path}
  {r : LintResult}

lemma Visit.repairedBy (h : Visit o resolve fix tree p r tree') (hfixed : r.fixed = true) :
    RepairedBy tree p r.findings tree' := by
  cases h with
  | unread => cases hfixed
  | kept => cases hfixed
  | refused => cases hfixed
  | @repaired c t checked l hc hread hcheck hfix hne hl hfree =>
    obtain ⟨hreports, -⟩ := Checker.check_sound hcheck
    have hfits : ∀ f ∈ checked.findings, f.Fits t := by
      intro f hf
      obtain ⟨s, hs⟩ := hreports f hf
      exact hs.fits
    exact ⟨t, _, l, hread, hl, rfl, Finding.applyFixes_spec hfits⟩

lemma Visit.fixed_of_findings {c : Checker ε} {t : Text} {checked : Checked}
    (h : Visit o resolve true tree p r tree') (hc : Checker.ofOptions o resolve = .ok c)
    (hread : tree.readText p = .ok t) (hcheck : c.check t = .ok checked) (hne : checked.findings ≠ [])
    (hlocked : tree.locked = []) : r.fixed = true ∧ r.findings = checked.findings := by
  cases h with
  | unread hread' => simp [hread] at hread'
  | kept hc' hread' hcheck' hkept =>
    cases hc.symm.trans hc'
    cases hread.symm.trans hread'
    cases hcheck.symm.trans hcheck'
    simp [hne] at hkept
  | refused _ _ _ _ _ _ hl => simp [hlocked] at hl
  | repaired hc' hread' hcheck' =>
    cases hc.symm.trans hc'
    cases hread.symm.trans hread'
    cases hcheck.symm.trans hcheck'
    exact ⟨rfl, rfl⟩

lemma runAll_getElem {ps : List Path} {i : Nat}
    (h : (runAll o resolve fix tree ps).results[i]? = some r) :
    ∃ p, ps[i]? = some p ∧ Visit o resolve fix (runAll o resolve fix tree (ps.take i)).tree p r
      (runAll o resolve fix tree (ps.take (i + 1))).tree := by
  induction ps generalizing tree i with
  | nil => simp [runAll] at h
  | cons p ps ih =>
    rw [runAll] at h
    cases hrun : run o resolve fix tree p with
    | error e => simp [hrun] at h
    | ok first =>
      simp only [hrun] at h
      cases i with
      | zero =>
        obtain rfl : first.result = r := by simpa using h
        exact ⟨p, rfl, by simpa [runAll, hrun] using (visit_of_run hrun).2⟩
      | succ i =>
        have hrest : (runAll o resolve fix first.tree ps).results[i]? = some r := by simpa using h
        obtain ⟨p', hp', hvisit⟩ := ih hrest
        exact ⟨p', by simpa using hp', by simpa [runAll, hrun] using hvisit⟩

end RepairedBy

end FileCheck

namespace LintResult

lemma fixed_of_exitCode_eq_zero {rs : List LintResult} (h : Command.Lint.exitCode rs = 0) {r : LintResult}
    (hr : r ∈ rs) (hne : r.findings ≠ []) : r.fixed = true := by
  have hdone := (Command.Lint.exitCode_eq_zero_iff.mp h).2 r hr
  cases hfixed : r.fixed with
  | true => rfl
  | false => exact absurd (hdone hfixed) hne

end LintResult

namespace FileCheck

/-- A result that is marked as fixed comes from a repair by its findings. So does each result of a run of
the command that is marked as fixed, and each one with findings if the exit code is zero. -/
theorem fixed_results_are_repaired {ε : Type} (o : LintOptions) (resolve : Resolver ε) (fix : Bool)
    (tree : Tree) (p : Path) (ps : List Path) :
    (∀ v, run o resolve fix tree p = .ok v → v.result.fixed = true →
      RepairedBy tree p v.result.findings v.tree) ∧
    ∀ i r, let results := (Command.Lint.checkAll o fix tree ps).results
      results[i]? = some r →
      r.fixed = true ∨ Command.Lint.exitCode results = 0 ∧ r.findings ≠ [] →
      ∃ p, ps[i]? = some p ∧ RepairedBy (Command.Lint.checkAll o fix tree (ps.take i)).tree p r.findings
        (Command.Lint.checkAll o fix tree (ps.take (i + 1))).tree := by
  refine ⟨fun v h hfixed => (visit_of_run h).2.repairedBy hfixed, ?_⟩
  intro i r results hr hmarked
  have hfixed : r.fixed = true := by
    rcases hmarked with hfixed | ⟨hexit, hne⟩
    · exact hfixed
    · exact LintResult.fixed_of_exitCode_eq_zero hexit (List.mem_of_getElem? hr) hne
  have hrun := checkAll_eq_runAll o fix tree
  have hresult : (runAll o (.default : Resolver Empty) fix tree ps).results[i]? = some r := by
    rw [hrun]
    exact hr
  obtain ⟨p', hp', hvisit⟩ := runAll_getElem hresult
  rw [hrun, hrun] at hvisit
  exact ⟨p', hp', hvisit.repairedBy hfixed⟩

-- The attribute is repaired, and the call inside of it is listed as well but stays as it was.
theorem fixed_results_are_repaired_nested :
    let o : LintOptions := ⟨some [⟨"cn\\(", none⟩], [.group "margin" ["^m-"]], true, false⟩
    let keep : Resolver Empty := fun t => .ok t
    let t : Text := "class=\"b cn('a m-1')\"".toList
    let tree : Tree := { files := [(["a.html"], Utf8.encode t)] }
    ∃ v, run o keep true tree (.ofString "a.html") = .ok v ∧ v.result.fixed = true ∧
      v.result.findings.map (fun f => (f.start, f.stop)) = [(7, 20), (13, 18)] ∧
      RepairedBy tree (.ofString "a.html") v.result.findings v.tree ∧
      ∀ new, ¬ Finding.Replaced t 0 v.result.findings new := by
  intro o keep t tree
  have hread : tree.readText (.ofString "a.html") = .ok t :=
    Tree.readText_of_locate (l := ["a.html"]) (by cbv) (by decide) rfl
  obtain ⟨c, hc⟩ : ∃ c, Checker.ofOptions o keep = .ok c := exists_eq_ok_iff.mpr (by decide)
  obtain ⟨checked, hcheck, hplaces⟩ : ∃ checked, c.check t = .ok checked ∧
      checked.findings.map (fun f => (f.start, f.stop)) = [(7, 20), (13, 18)] := by
    have hplaces : ((Checker.ofOptions o keep).toOption.bind fun c => (c.check t).toOption.map fun checked =>
        checked.findings.map fun f => (f.start, f.stop)) = some [(7, 20), (13, 18)] := by decide
    rw [hc] at hplaces
    cases hcheck : c.check t with
    | error e => exact e.elim
    | ok checked => exact ⟨checked, rfl, by simpa [hcheck, Except.toOption] using hplaces⟩
  obtain ⟨v, hv⟩ : ∃ v, run o keep true tree (.ofString "a.html") = .ok v :=
    exists_run hc (fun t => ⟨t, rfl⟩) (by cbv)
  obtain ⟨hfixed, hfindings⟩ := (visit_of_run hv).2.fixed_of_findings hc hread hcheck
    (by rintro hnil; simp [hnil] at hplaces) rfl
  rw [← hfindings] at hplaces
  refine ⟨v, hv, hfixed, hplaces, (fixed_results_are_repaired o keep true tree _ []).1 v hv hfixed, ?_⟩
  intro new hnew
  have hapart : [((7 : Int), (20 : Int)), (13, 18)].Pairwise fun f g => f.2 ≤ g.1 := by
    rw [← hplaces, List.pairwise_map]
    exact hnew.apart.2
  exact absurd hapart (by decide)

end FileCheck

end ClassTidy
