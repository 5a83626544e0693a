import ClassTidy.Command.Lint
import ClassTidy.Proofs.ExitCode
import ClassTidy.Proofs.FileText
import ClassTidy.Proofs.Repair

/-! A run that repairs orderly files leaves nothing to report. -/

namespace ClassTidy

open Text Source

lemma Formatter.eq_space_of_mem_format {ε : Type} {f : Formatter ε} {raw s : Text}
    (h : f.format raw = .ok (some s)) {c : Char} (hc : isBlank c = true) (hmem : c ∈ s) : c = ' ' := by
  rw [← collapse_format h, collapse_eq_unwords] at hmem
  rcases mem_unwords hmem with hspace | ⟨w, hw, hcw⟩
  · exact hspace
  · rw [(isWord_of_mem_words hw).2 c hcw] at hc
    cases hc

lemma mem_applyFixes {t : Text} {fs : List Finding} {c : Char} (h : c ∈ applyFixes t fs) :
    c ∈ t ∨ ∃ f ∈ fs, c ∈ f.replacement := by
  have hall : ∀ gs : List Finding, c ∈ gs.foldr Finding.splice t → c ∈ t ∨ ∃ f ∈ gs, c ∈ f.replacement := by
    intro gs hgs
    induction gs with
    | nil => exact Or.inl hgs
    | cons g gs ih =>
      have hrest : c ∈ gs.foldr Finding.splice t → c ∈ t ∨ ∃ f ∈ g :: gs, c ∈ f.replacement := by
        intro hmem
        exact (ih hmem).imp_right fun ⟨f, hf, hcf⟩ => ⟨f, List.mem_cons_of_mem g hf, hcf⟩
      rw [List.foldr_cons, Finding.splice, List.mem_append, List.mem_append] at hgs
      rcases hgs with (hfront | hnew) | hback
      · exact hrest (List.mem_of_mem_take hfront)
      · exact Or.inr ⟨g, List.mem_cons_self, hnew⟩
      · exact hrest (List.mem_of_mem_drop hback)
  refine (hall _ h).imp_right ?_
  rintro ⟨f, hf, hcf⟩
  exact ⟨f, (Checker.mem_sortBy _ _ f).mp ((Finding.withoutOverlap_sublist _ _).mem hf), hcf⟩

namespace Checker

variable {c : Checker Empty}

def Clean (c : Checker Empty) (t : Text) : Prop :=
  ∃ checked, c.check t = .ok checked ∧ checked.findings = []

structure IsDefault (c : Checker Empty) : Prop where
  locators : c.UsesDefaults
  total : ∀ t, ∃ s, c.formatter.resolve t = .ok s
  selects : c.formatter.resolve.Selects
  settles : c.formatter.resolve.Settles

lemma ofOptions_default : ofOptions {} (.default : Resolver Empty) =
    .ok ⟨⟨.default, .default⟩, LocatorEntry.callNames.map Locator.ofCall, true⟩ := by
  simp [ofOptions, Formatter.ofGroups, Locator.compileAll_none, bind, Except.bind, pure, Except.pure]

lemma isDefault_of_ofOptions (h : ofOptions {} .default = .ok c) : c.IsDefault := by
  obtain ⟨hf, hl, -⟩ := ofOptions_eq_ok h
  have hresolve : c.formatter.resolve = .ofTable .default := resolve_ofGroups hf
  rw [Locator.compileAll_none, Except.ok.injEq] at hl
  refine ⟨hl.symm, ?_, ?_, ?_⟩ <;> rw [hresolve]
  · exact fun t => ⟨_, rfl⟩
  · exact Resolver.selects_ofTable _
  · exact Resolver.settles_ofTable _

lemma Clean.orderly (hc : c.IsDefault) {t : Text} (h : c.Clean t) : c.Orderly t := by
  obtain ⟨checked, hcheck, hnone⟩ := h
  obtain ⟨checked', hcheck', -, hmem, -⟩ := check_spec hc.total t
  obtain rfl : checked = checked' := Except.ok.inj (hcheck.symm.trans hcheck')
  have hreports : ∀ s f, ¬ c.Reports t s f := by
    intro s f hs
    have hf := (hmem f).mpr ⟨s, hs⟩
    rw [hnone] at hf
    cases hf
  exact ⟨fun s f hs => absurd hs (hreports s f), fun s f hs => absurd hs (hreports s f)⟩

lemma repaired (hc : c.IsDefault) {t : Text} (ht : c.Orderly t) :
    ∃ checked, c.check t = .ok checked ∧ c.Clean (applyFixes t checked.findings) ∧
      ('\r' ∉ t → '\r' ∉ applyFixes t checked.findings) := by
  obtain ⟨checked, hcheck, again, hagain, hnone⟩ :=
    check_applyFixes hc.locators hc.total hc.selects hc.settles ht
  refine ⟨checked, hcheck, ⟨again, hagain, hnone⟩, ?_⟩
  intro hfree hmem
  obtain ⟨checked', hcheck', -, hfindings, -⟩ := check_spec hc.total t
  obtain rfl : checked = checked' := Except.ok.inj (hcheck.symm.trans hcheck')
  rcases mem_applyFixes hmem with hold | ⟨f, hf, hnew⟩
  · exact hfree hold
  · obtain ⟨s, hs⟩ := (hfindings f).mp hf
    have heq := Formatter.eq_space_of_mem_format hs.form (by decide) hnew
    exact absurd heq (by decide)

end Checker

namespace FileCheck

variable {c : Checker Empty} {tree : Tree} {p : Path}

lemma ofText_eq (hc : Checker.ofOptions {} .default = .ok c) {t : Text} {checked : Checked}
    (hcheck : c.check t = .ok checked) (fix : Bool) (tree : Tree) (p : Path) :
    ∃ log, ofText {} (.default : Resolver Empty) fix tree p t =
      let result := LintResult.ofChecked (some p.toString) checked
      let after := if fix then repair tree p t result else (result, tree)
      .ok ⟨after.1, after.2, log⟩ := by
  cases hlog : c.log p.toString t with
  | error e => exact e.elim
  | ok log =>
    refine ⟨log, ?_⟩
    simp only [ofText, hc, hcheck, hlog, Except.mapError, bind, Except.bind, pure, Except.pure]

lemma repair_of_nil {t : Text} {r : LintResult} (h : r.findings = []) : repair tree p t r = (r, tree) := by
  rw [repair, if_pos (by simp [h])]

lemma repair_ok {t : Text} {r : LintResult} (h : (repair tree p t r).1.ok = true) :
    (r.findings = [] ∧ (repair tree p t r).2 = tree) ∨
      tree.write p (Utf8.encode (applyFixes t r.findings)) = .ok (repair tree p t r).2 := by
  by_cases hnil : r.findings = []
  · rw [repair_of_nil hnil]
    exact Or.inl ⟨hnil, rfl⟩
  · right
    have hne : ¬ r.findings.isEmpty = true := by simpa using hnil
    rw [repair, if_neg hne] at h ⊢
    cases hw : tree.write p (Utf8.encode (applyFixes t r.findings)) with
    | error e =>
      rw [hw] at h
      cases h
    | ok tree' => rfl

lemma readText_of_run {fix : Bool} {first : FileCheck}
    (h : run {} (.default : Resolver Empty) fix tree p = .ok first) (hok : first.result.ok = true) :
    ∃ t, tree.readText p = .ok t ∧ ofText {} (.default : Resolver Empty) fix tree p t = .ok first := by
  cases hread : tree.readText p with
  | error e =>
    simp only [run, hread] at h
    split at h
    · rename_i heq
      cases heq
    · cases h
    · cases h
      cases hok
  | ok t =>
    rw [run, hread] at h
    exact ⟨t, rfl, h⟩

lemma run_fix (hc : Checker.ofOptions {} .default = .ok c)
    (horderly : ∀ t, tree.readText p = .ok t → c.Orderly t) {first : FileCheck}
    (h : run {} (.default : Resolver Empty) true tree p = .ok first) (hok : first.result.ok = true) :
    ∃ t, c.Clean t ∧ first.tree.readText p = .ok t ∧
      ∀ p', first.tree.readText p' = .ok t ∨ first.tree.readText p' = tree.readText p' := by
  have hdefault := Checker.isDefault_of_ofOptions hc
  obtain ⟨t, hread, hrun⟩ := readText_of_run h hok
  obtain ⟨checked, hcheck, hclean, hends⟩ := Checker.repaired hdefault (horderly t hread)
  obtain ⟨log, hlog⟩ := ofText_eq hc hcheck true tree p
  simp only [hlog, if_true, Except.ok.injEq] at hrun
  subst hrun
  rcases repair_ok hok with ⟨hnone, htree⟩ | hwrite
  · simp only [htree]
    exact ⟨t, ⟨checked, hcheck, hnone⟩, hread, fun _ => Or.inr trivial⟩
  · obtain ⟨bytes, -, hbytes⟩ := Tree.readText_eq_ok_iff.mp hread
    obtain ⟨hp, hothers⟩ := Tree.readText_write hread (hends (Utf8.notMem_of_readText hbytes)) hwrite
    exact ⟨_, hclean, hp, hothers⟩

lemma run_unlocked (hc : Checker.ofOptions {} .default = .ok c) (hlocked : tree.locked = []) {t : Text}
    (hread : tree.readText p = .ok t) :
    ∃ first, run {} (.default : Resolver Empty) true tree p = .ok first ∧ first.tree.locked = [] ∧
      first.result.ok = true ∧ (first.result.fixed = true ∨ first.result.findings = []) := by
  obtain ⟨checked, hcheck, -⟩ := Checker.check_spec (Checker.isDefault_of_ofOptions hc).total t
  obtain ⟨log, hlog⟩ := ofText_eq hc hcheck true tree p
  refine ⟨_, by rw [run, hread]; exact hlog, ?_⟩
  by_cases hnil : (LintResult.ofChecked (some p.toString) checked).findings = []
  · simp only [if_true, repair_of_nil hnil]
    exact ⟨hlocked, rfl, Or.inr hnil⟩
  · obtain ⟨old, hold, -⟩ := Tree.readText_eq_ok_iff.mp hread
    obtain ⟨l, hwrite⟩ := Tree.write_of_read hold hlocked
      (Utf8.encode (applyFixes t (LintResult.ofChecked (some p.toString) checked).findings))
    simp only [if_true, repair, if_neg (mt List.isEmpty_iff.mp hnil), hwrite]
    exact ⟨hlocked, rfl, Or.inl trivial⟩

lemma run_clean (hc : Checker.ofOptions {} .default = .ok c) {t : Text} (hread : tree.readText p = .ok t)
    (hclean : c.Clean t) :
    ∃ first, run {} (.default : Resolver Empty) false tree p = .ok first ∧ first.tree = tree ∧
      first.result.ok = true ∧ first.result.findings = [] := by
  obtain ⟨checked, hcheck, hnone⟩ := hclean
  obtain ⟨log, hlog⟩ := ofText_eq hc hcheck false tree p
  refine ⟨_, by rw [run, hread]; exact hlog, rfl, rfl, hnone⟩

end FileCheck

namespace Command.Lint

variable {c : Checker Empty}

def Leads (c : Checker Empty) (tree : Tree) (p : Path) : Prop :=
  ∃ t, tree.readText p = .ok t ∧ c.Clean t

lemma checkAll_cons {o : LintOptions} {fix : Bool} {tree : Tree} {p : Path} {ps : List Path}
    (h : (checkAll o fix tree (p :: ps)).stopped = none) :
    ∃ first, FileCheck.run o (.default : Resolver Empty) fix tree p = .ok first ∧
      (checkAll o fix first.tree ps).stopped = none ∧
      (checkAll o fix tree (p :: ps)).results = first.result :: (checkAll o fix first.tree ps).results ∧
      (checkAll o fix tree (p :: ps)).tree = (checkAll o fix first.tree ps).tree := by
  rw [checkAll] at h ⊢
  cases hrun : FileCheck.run o (.default : Resolver Empty) fix tree p with
  | error e => simp [hrun] at h
  | ok first =>
    simp only [hrun] at h
    exact ⟨first, rfl, h, rfl, rfl⟩

lemma checkAll_fix (hc : Checker.ofOptions {} .default = .ok c) (ps : List Path) (tree : Tree)
    (horderly : ∀ p ∈ ps, ∀ t, tree.readText p = .ok t → c.Orderly t)
    (hstop : (checkAll {} true tree ps).stopped = none)
    (hok : LintResult.allOk (checkAll {} true tree ps).results = true) :
    (∀ p ∈ ps, Leads c (checkAll {} true tree ps).tree p) ∧
      ∀ p, Leads c tree p → Leads c (checkAll {} true tree ps).tree p := by
  induction ps generalizing tree with
  | nil => exact ⟨fun p hp => absurd hp List.not_mem_nil, fun p hp => hp⟩
  | cons p ps ih =>
    obtain ⟨first, hrun, hrest, hresults, htree⟩ := checkAll_cons hstop
    rw [hresults, LintResult.allOk, List.all_cons, Bool.and_eq_true] at hok
    obtain ⟨t, hclean, hp, hothers⟩ :=
      FileCheck.run_fix hc (horderly p List.mem_cons_self) hrun hok.1
    -- a later path may lead to the file that has just been repaired
    have horderly' : ∀ p' ∈ ps, ∀ t', first.tree.readText p' = .ok t' → c.Orderly t' := by
      intro p' hp' t' ht'
      rcases hothers p' with hnew | hsame
      · obtain rfl : t = t' := Except.ok.inj (hnew.symm.trans ht')
        exact hclean.orderly (Checker.isDefault_of_ofOptions hc)
      · exact horderly p' (List.mem_cons_of_mem p hp') t' (hsame ▸ ht')
    obtain ⟨hall, hkept⟩ := ih first.tree horderly' hrest hok.2
    rw [htree]
    refine ⟨?_, ?_⟩
    · intro p' hp'
      rcases List.mem_cons.mp hp' with rfl | hp'
      · exact hkept p' ⟨t, hp, hclean⟩
      · exact hall p' hp'
    · rintro p' ⟨t', ht', hclean'⟩
      apply hkept
      rcases hothers p' with hnew | hsame
      · exact ⟨t, hnew, hclean⟩
      · exact ⟨t', hsame.trans ht', hclean'⟩

lemma checkAll_unlocked (hc : Checker.ofOptions {} .default = .ok c) (ps : List Path) (tree : Tree)
    (hlocked : tree.locked = []) (hread : ∀ p ∈ ps, ∃ t, tree.readText p = .ok t ∧ c.Orderly t) :
    (checkAll {} true tree ps).stopped = none ∧ ∀ r ∈ (checkAll {} true tree ps).results,
      r.ok = true ∧ (r.fixed = true ∨ r.findings = []) := by
  induction ps generalizing tree with
  | nil => exact ⟨rfl, fun r hr => absurd hr List.not_mem_nil⟩
  | cons p ps ih =>
    obtain ⟨t, ht, horderly⟩ := hread p List.mem_cons_self
    obtain ⟨first, hrun, hfree, hok, hleft⟩ := FileCheck.run_unlocked hc hlocked ht
    have horderly' : ∀ t', tree.readText p = .ok t' → c.Orderly t' := by
      intro t' ht'
      rwa [← Except.ok.inj (ht.symm.trans ht')]
    obtain ⟨new, hclean, -, hothers⟩ := FileCheck.run_fix hc horderly' hrun hok
    have hread' : ∀ p' ∈ ps, ∃ t', first.tree.readText p' = .ok t' ∧ c.Orderly t' := by
      intro p' hp'
      rcases hothers p' with hnew | hsame
      · exact ⟨new, hnew, hclean.orderly (Checker.isDefault_of_ofOptions hc)⟩
      · rw [hsame]
        exact hread p' (List.mem_cons_of_mem p hp')
    obtain ⟨hstop, hresults⟩ := ih first.tree hfree hread'
    simp only [checkAll, hrun]
    exact ⟨hstop, List.forall_mem_cons.mpr ⟨⟨hok, hleft⟩, hresults⟩⟩

lemma checkAll_clean (hc : Checker.ofOptions {} .default = .ok c) (ps : List Path) (tree : Tree)
    (h : ∀ p ∈ ps, Leads c tree p) :
    (checkAll {} false tree ps).stopped = none ∧
      ∀ r ∈ (checkAll {} false tree ps).results, r.ok = true ∧ r.findings = [] := by
  induction ps with
  | nil => exact ⟨rfl, fun r hr => absurd hr List.not_mem_nil⟩
  | cons p ps ih =>
    obtain ⟨t, hread, hclean⟩ := h p List.mem_cons_self
    obtain ⟨first, hrun, htree, hok, hnone⟩ := FileCheck.run_clean hc hread hclean
    obtain ⟨hstop, hresults⟩ := ih fun p' hp' => h p' (List.mem_cons_of_mem p hp')
    simp only [checkAll, hrun, htree]
    refine ⟨hstop, ?_⟩
    intro r hr
    rcases List.mem_cons.mp hr with rfl | hr
    · exact ⟨hok, hnone⟩
    · exact hresults r hr

lemma exitCode_eq_zero {rs : List LintResult}
    (h : ∀ r ∈ rs, r.ok = true ∧ (r.fixed = true ∨ r.findings = [])) : exitCode rs = 0 := by
  refine exitCode_eq_zero_iff.mpr ⟨fun r hr => (h r hr).1, ?_⟩
  intro r hr hfixed
  exact (h r hr).2.resolve_left (by simp [hfixed])

lemma allOk_of_exitCode {rs : List LintResult} (h : exitCode rs = 0) : LintResult.allOk rs = true :=
  List.all_eq_true.mpr (exitCode_eq_zero_iff.mp h).1

lemma status_stop_ne (run : Run) (logLines : List String) (e : RunError Empty) :
    (stop run logLines e).status ≠ .ok 0 := by
  cases e with
  | setup error => cases error <;> simp [stop]
  | resolver error => exact error.elim
  | path error => simp [stop]

def Asks (arguments : List String) (fix : Bool) (out : Option String) (paths : List String) : Prop :=
  ∃ a, manual.readArguments arguments = .ok a ∧ a.has "--fix" = fix ∧ a.value? "--config" = none ∧
    a.value? "--out" = out ∧ a.positionals = paths

section Asks

variable {arguments paths : List String} {fix : Bool} {out : Option String}

lemma eq_of_status (h : Asks arguments fix out paths) {env : Environment}
    (hstatus : (run arguments env).status = .ok 0) :
    (checkAll {} fix env.tree (paths.map Path.ofString)).stopped = none ∧
      exitCode (checkAll {} fix env.tree (paths.map Path.ofString)).results = 0 ∧
      reportTo (checkAll {} fix env.tree (paths.map Path.ofString)).tree out
        (checkAll {} fix env.tree (paths.map Path.ofString)).results = .ok (run arguments env).tree := by
  obtain ⟨a, hread, rfl, hconfig, rfl, rfl⟩ := h
  simp only [run, hread, runWith, hconfig, loadOptions] at hstatus ⊢
  generalize checkAll {} (a.has "--fix") env.tree (a.positionals.map Path.ofString) = checked at hstatus ⊢
  cases hstop : checked.stopped with
  | some e =>
    rw [hstop] at hstatus
    exact absurd hstatus (status_stop_ne _ _ e)
  | none =>
    simp only [hstop, finish] at hstatus ⊢
    cases hreport : reportTo checked.tree (a.value? "--out") checked.results with
    | error e => simp [hreport] at hstatus
    | ok tree => simpa [hreport] using hstatus

lemma status_of_exitCode (h : Asks arguments fix none paths) {env : Environment}
    (hstop : (checkAll {} fix env.tree (paths.map Path.ofString)).stopped = none)
    (hexit : exitCode (checkAll {} fix env.tree (paths.map Path.ofString)).results = 0) :
    (run arguments env).status = .ok 0 := by
  obtain ⟨a, hread, rfl, hconfig, hout, rfl⟩ := h
  simp only [run, hread, runWith, hconfig, loadOptions, hstop, finish, hout, reportTo, hexit]

end Asks

lemma status_of_unlocked (hc : Checker.ofOptions {} .default = .ok c) {arguments paths : List String}
    (h : Asks arguments true none paths) {env : Environment} (hlocked : env.tree.locked = [])
    (hread : ∀ p ∈ paths, ∃ t, env.tree.readText (.ofString p) = .ok t ∧ c.Orderly t) :
    (run arguments env).status = .ok 0 := by
  obtain ⟨hstop, hresults⟩ := checkAll_unlocked hc (paths.map Path.ofString) env.tree hlocked
    (List.forall_mem_map.mpr hread)
  exact status_of_exitCode h hstop (exitCode_eq_zero hresults)

lemma leads_reportTo {tree tree' : Tree} {rs : List LintResult} {out : Option String} {p : Path}
    (h : reportTo tree out rs = .ok tree') (hp : Leads c tree p)
    (hne : ∀ o ∈ out, tree'.locate p ≠ tree'.locate (.ofString o)) : Leads c tree' p := by
  obtain ⟨t, hread, hclean⟩ := hp
  cases out with
  | none =>
    cases h
    exact ⟨t, hread, hclean⟩
  | some o => exact ⟨t, Tree.readText_writeReport h hread (hne o rfl), hclean⟩

/-- With the default options, repairing an orderly text leaves a text without findings; and where the
texts of the files of a run are orderly, and the run repairs them and succeeds, a run after it on
the same files or on some of them has nothing to report and succeeds, unless the report of the first
run has taken the place of one of them. -/
theorem repaired_files_are_clean (c : Checker Empty) (hc : Checker.ofOptions {} .default = .ok c) :
    (∀ t, c.Orderly t → ∃ checked, c.check t = .ok checked ∧
      ∃ again, c.check (applyFixes t checked.findings) = .ok again ∧ again.findings = []) ∧
    ∀ (repairing plain paths paths' : List String) (out : Option String) (env : Environment),
      Asks repairing true out paths → Asks plain false none paths' → paths' ⊆ paths →
      (∀ p ∈ paths, ∀ t, env.tree.readText (.ofString p) = .ok t → c.Orderly t) →
      let after := run repairing env
      after.status = .ok 0 →
      (∀ o ∈ out, ∀ p ∈ paths', after.tree.locate (.ofString p) ≠ after.tree.locate (.ofString o)) →
      (run plain { env with tree := after.tree }).status = .ok 0 := by
  have hdefault := Checker.isDefault_of_ofOptions hc
  refine ⟨fun t ht => Checker.check_applyFixes hdefault.locators hdefault.total hdefault.selects
    hdefault.settles ht, ?_⟩
  intro repairing plain paths paths' out env hrepairing hplain hsub horderly after hstatus hapart
  obtain ⟨hstop, hexit, hreport⟩ := eq_of_status hrepairing hstatus
  obtain ⟨hclean, -⟩ := checkAll_fix hc (paths.map Path.ofString) env.tree
    (List.forall_mem_map.mpr horderly) hstop (allOk_of_exitCode hexit)
  have hleft : ∀ p ∈ paths'.map Path.ofString, Leads c after.tree p := by
    rw [List.forall_mem_map]
    intro p hp
    exact leads_reportTo hreport (hclean _ (List.mem_map_of_mem (hsub hp))) fun o ho => hapart o ho p hp
  obtain ⟨hstop', hresults⟩ := checkAll_clean hc _ after.tree hleft
  exact status_of_exitCode hplain hstop' (exitCode_eq_zero fun r hr => (hresults r hr).imp_right Or.inr)

theorem repaired_files_are_clean_two_files :
    let a : Text := "<p class=\" e:d  d\">".toList
    let b : Text := "x = cn('z', \"e:d d d\");\n".toList
    let tree : Tree := { files := [(["a.html"], Utf8.encode a), (["b.js"], Utf8.encode b)] }
    let repairing := run ["--fix", "a.html", "b.js"] { tree }
    ∃ c : Checker Empty, Checker.ofOptions {} .default = .ok c ∧ c.Orderly a ∧ c.Orderly b ∧
      repairing.status = .ok 0 ∧ (run ["b.js"] { tree := repairing.tree }).status = .ok 0 := by
  intro a b tree repairing
  obtain ⟨c, hc⟩ : ∃ c, Checker.ofOptions {} (.default : Resolver Empty) = .ok c :=
    ⟨_, Checker.ofOptions_default⟩
  have hdefault := (Checker.isDefault_of_ofOptions hc).locators
  have ha : c.Orderly a := Checker.orderly_of_forall hdefault (by decide +kernel)
  have hb : c.Orderly b := Checker.orderly_of_forall hdefault (by decide +kernel)
  have hreada : tree.readText (.ofString "a.html") = .ok a :=
    Tree.readText_of_locate (l := ["a.html"]) (by cbv) (by decide) rfl
  have hreadb : tree.readText (.ofString "b.js") = .ok b :=
    Tree.readText_of_locate (l := ["b.js"]) (by cbv) (by decide) rfl
  have hrepairing : Asks ["--fix", "a.html", "b.js"] true none ["a.html", "b.js"] :=
    ⟨⟨[(⟨["--fix"], false⟩, none)], ["a.html", "b.js"]⟩, rfl, rfl, rfl, rfl, rfl⟩
  have hplain : Asks ["b.js"] false none ["b.js"] := ⟨⟨[], ["b.js"]⟩, rfl, rfl, rfl, rfl, rfl⟩
  have hread : ∀ p ∈ ["a.html", "b.js"],
      ∃ t, tree.readText (.ofString p) = .ok t ∧ c.Orderly t := by
    intro p hp
    rcases List.mem_pair.mp hp with rfl | rfl
    · exact ⟨a, hreada, ha⟩
    · exact ⟨b, hreadb, hb⟩
  have horderly : ∀ p ∈ ["a.html", "b.js"],
      ∀ t, tree.readText (.ofString p) = .ok t → c.Orderly t := by
    intro p hp t ht
    obtain ⟨u, hu, horderly⟩ := hread p hp
    rwa [← Except.ok.inj (hu.symm.trans ht)]
  have hstatus : repairing.status = .ok 0 := status_of_unlocked hc hrepairing rfl hread
  refine ⟨c, hc, ha, hb, hstatus, ?_⟩
  exact (repaired_files_are_clean c hc).2 _ _ _ _ none { tree } hrepairing hplain (by simp) horderly
    hstatus (by simp)

-- A list in a call that stands in an attribute needs a second repair.
theorem nested_list_is_left :
    let t : Text := "class=\" cn('e:d d'):d\"".toList
    ∃ c, Checker.ofOptions {} (.default : Resolver Empty) = .ok c ∧ ∃ checked, c.check t = .ok checked ∧
      ∃ again, c.check (applyFixes t checked.findings) = .ok again ∧ again.findings ≠ [] :=
  ⟨_, Checker.ofOptions_default, Checker.check_applyFixes_nested .default .default⟩

end Command.Lint

end ClassTidy
