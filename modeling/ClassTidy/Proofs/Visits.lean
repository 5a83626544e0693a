import ClassTidy.Command.Lint
import ClassTidy.Proofs.Checking
import ClassTidy.Proofs.Fallible
import ClassTidy.Proofs.FileText
import Mathlib

/-! A visit changes at most the file at its path, and only to repair it. -/

namespace ClassTidy

open Fallible

def Path.holdsNull (p : Path) : Bool := p.toString.contains '\x00'

namespace Tree

variable {tree : Tree} {p : Path}

lemma follow_ne_nullByte (tree : Tree) (asked : String) (l : Location) (names : List String) :
    tree.follow asked l names ≠ .error .nullByte := by
  induction names generalizing l with
  | nil => simp [follow]
  | cons name names ih =>
    rw [follow]
    split
    · exact ih _
    · split
      · simp
      · split
        · simp
        · split
          · exact ih _
          · simp
          · simp

lemma locate_eq_nullByte_iff : tree.locate p = .error .nullByte ↔ p.holdsNull = true := by
  unfold locate Path.holdsNull
  simp only
  split
  · simp_all
  · rename_i hnull
    simp only [hnull, Bool.false_eq_true, iff_false]
    split
    · simp
    · exact tree.follow_ne_nullByte _ _ _

lemma readText_eq_nullByte_iff : tree.readText p = .error (.file .nullByte) ↔ p.holdsNull = true := by
  rw [← @locate_eq_nullByte_iff tree]
  simp only [readText, read, bind_eq_error_iff, mapError_eq_error_iff, TextError.file.injEq, reduceCtorEq,
    and_false, exists_false, or_false, exists_eq_right]
  refine or_iff_left ?_
  rintro ⟨l, -, hl⟩
  split at hl <;> cases hl

lemma write_of_readText {t : Text} (hread : tree.readText p = .ok t) (bytes : Utf8.Bytes) :
    ∃ l old, tree.locate p = .ok l ∧ tree.entry? l = some (.file old) ∧
      tree.write p bytes = if l ∈ tree.locked then .error .writeRefused
        else .ok { tree with files := setFile l bytes tree.files } := by
  obtain ⟨old, hold, -⟩ := readText_eq_ok_iff.mp hread
  obtain ⟨l, hl, he⟩ := read_eq_ok_iff.mp hold
  refine ⟨l, old, hl, he, ?_⟩
  by_cases h : l ∈ tree.locked <;>
    simp [write, hl, he, h, bind, Except.bind, pure, Except.pure, throw, throwThe, MonadExceptOf.throw]

end Tree

namespace FileCheck

variable {ε : Type}

inductive Visit (o : LintOptions) (resolve : Resolver ε) (fix : Bool) (tree : Tree) (p : Path) :
    LintResult → Tree → Prop
  | unread {e : TextError} (hread : tree.readText p = .error e) :
    Visit o resolve fix tree p (unreadable p.toString e.message) tree
  | kept {c : Checker ε} {t : Text} {checked : Checked} (hc : Checker.ofOptions o resolve = .ok c)
      (hread : tree.readText p = .ok t) (hcheck : c.check t = .ok checked)
      (hkept : fix = false ∨ checked.findings = []) :
    Visit o resolve fix tree p (.ofChecked (some p.toString) checked) tree
  | refused {c : Checker ε} {t : Text} {checked : Checked} {l : Location}
      (hc : Checker.ofOptions o resolve = .ok c) (hread : tree.readText p = .ok t)
      (hcheck : c.check t = .ok checked) (hfix : fix = true) (hne : checked.findings ≠ [])
      (hl : tree.locate p = .ok l) (hlocked : l ∈ tree.locked) :
    Visit o resolve fix tree p
      (unwritable p.toString FileError.writeRefused.message (.ofChecked (some p.toString) checked)) tree
  | repaired {c : Checker ε} {t : Text} {checked : Checked} {l : Location}
      (hc : Checker.ofOptions o resolve = .ok c) (hread : tree.readText p = .ok t)
      (hcheck : c.check t = .ok checked) (hfix : fix = true) (hne : checked.findings ≠ [])
      (hl : tree.locate p = .ok l) (hfree : l ∉ tree.locked) :
    Visit o resolve fix tree p { LintResult.ofChecked (some p.toString) checked with fixed := true }
      { tree with files := Tree.setFile l (Utf8.encode (applyFixes t checked.findings)) tree.files }

section Visit

variable {o : LintOptions} {resolve : Resolver ε} {fix : Bool} {tree tree' : Tree} {p : Path}
  {r : LintResult}

lemma ofText_eq_ok {t : Text} {v : FileCheck} (h : ofText o resolve fix tree p t = .ok v) :
    ∃ c checked, Checker.ofOptions o resolve = .ok c ∧ c.check t = .ok checked ∧
      let result := LintResult.ofChecked (some p.toString) checked
      let after := if fix then repair tree p t result else (result, tree)
      v.result = after.1 ∧ v.tree = after.2 := by
  simp only [ofText, bind_eq_ok_iff, mapError_eq_ok_iff] at h
  obtain ⟨c, hc, checked, hcheck, log, -, h⟩ := h
  cases h
  exact ⟨c, checked, hc, hcheck, rfl, rfl⟩

lemma visit_repair {c : Checker ε} {t : Text} {checked : Checked} (hc : Checker.ofOptions o resolve = .ok c)
    (hread : tree.readText p = .ok t) (hcheck : c.check t = .ok checked) :
    let after := repair tree p t (.ofChecked (some p.toString) checked)
    Visit o resolve true tree p after.1 after.2 := by
  by_cases hnil : checked.findings = []
  · rw [repair, if_pos (by simp [LintResult.ofChecked, hnil])]
    exact .kept hc hread hcheck (Or.inr hnil)
  · obtain ⟨l, old, hl, -, hwrite⟩ :=
      Tree.write_of_readText hread (Utf8.encode (applyFixes t checked.findings))
    rw [repair, if_neg (by simpa [LintResult.ofChecked] using hnil)]
    simp only [LintResult.ofChecked, hwrite]
    by_cases hlocked : l ∈ tree.locked
    · rw [if_pos hlocked]
      exact .refused hc hread hcheck rfl hnil hl hlocked
    · rw [if_neg hlocked]
      exact .repaired hc hread hcheck rfl hnil hl hlocked

lemma visit_of_ofText {t : Text} {v : FileCheck} (hread : tree.readText p = .ok t)
    (h : ofText o resolve fix tree p t = .ok v) : Visit o resolve fix tree p v.result v.tree := by
  obtain ⟨c, checked, hc, hcheck, hresult, htree⟩ := ofText_eq_ok h
  rw [hresult, htree]
  cases fix with
  | false => exact .kept hc hread hcheck (Or.inl rfl)
  | true => exact visit_repair hc hread hcheck

lemma visit_of_run {v : FileCheck} (h : run o resolve fix tree p = .ok v) :
    p.holdsNull = false ∧ Visit o resolve fix tree p v.result v.tree := by
  cases hread : tree.readText p with
  | ok t =>
    rw [run, hread] at h
    refine ⟨?_, visit_of_ofText hread h⟩
    rw [← Bool.not_eq_true, ← @Tree.readText_eq_nullByte_iff tree, hread]
    nofun
  | error e =>
    rw [← Bool.not_eq_true, ← @Tree.readText_eq_nullByte_iff tree, hread]
    simp only [run, hread] at h
    split at h
    · rename_i heq
      cases heq
    · cases h
    · rename_i e' hnull heq
      obtain rfl : e = e' := Except.error.inj heq
      cases h
      exact ⟨fun he => hnull (Except.error.inj he), .unread hread⟩

lemma run_of_holdsNull (h : p.holdsNull = true) : run o resolve fix tree p = .error (.path .nullByte) := by
  rw [run, Tree.readText_eq_nullByte_iff.mpr h]

lemma exists_run {c : Checker ε} (hc : Checker.ofOptions o resolve = .ok c)
    (hresolve : ∀ t, ∃ s, resolve t = .ok s) (hp : p.holdsNull = false) :
    ∃ v, run o resolve fix tree p = .ok v := by
  unfold run
  split
  · rename_i t hread
    rw [← Checker.resolve_ofGroups (Checker.ofOptions_eq_ok hc).1] at hresolve
    obtain ⟨checked, hcheck, -⟩ := Checker.check_spec hresolve t
    obtain ⟨found, hfound, -⟩ := map_eq_ok_iff.mp hcheck
    simp [ofText, hc, hcheck, Checker.log, hfound, Except.map, Except.mapError, bind, Except.bind, pure,
      Except.pure]
  · rename_i hread
    rw [Tree.readText_eq_nullByte_iff.mp hread] at hp
    cases hp
  · exact ⟨_, rfl⟩

lemma Visit.tree_of_error {e : SetupError} (ho : Checker.ofOptions o resolve = .error e)
    (h : Visit o resolve fix tree p r tree') : tree' = tree := by
  cases h with
  | unread => rfl
  | kept => rfl
  | refused => rfl
  | repaired hc => simp [ho] at hc

lemma Visit.frame (h : Visit o resolve fix tree p r tree') :
    (∀ k, tree'.kindAt k = tree.kindAt k) ∧ tree'.directories = tree.directories ∧
      tree'.locked = tree.locked ∧
      ∀ l, tree'.files.lookup l ≠ tree.files.lookup l → fix = true ∧ tree.locate p = .ok l := by
  cases h with
  | unread => simp
  | kept => simp
  | refused => simp
  | @repaired c t checked k hc hread hcheck hfix hne hk hfree =>
    obtain ⟨k', old, hk', hold, -⟩ := Tree.write_of_readText hread []
    obtain rfl : k = k' := Except.ok.inj (hk.symm.trans hk')
    refine ⟨Tree.kindAt_setFile hold _, rfl, rfl, ?_⟩
    intro l hl
    refine ⟨hfix, ?_⟩
    by_cases heq : l = k
    · rw [heq, hk]
    · rw [Tree.lookup_setFile, if_neg heq] at hl
      exact absurd rfl hl

end Visit

structure RunState (ε : Type) where
  results : List LintResult
  tree : Tree
  stopped : Option (RunError ε)

def runAll (o : LintOptions) (resolve : Resolver ε) (fix : Bool) : Tree → List Path → RunState ε
  | tree, [] => ⟨[], tree, none⟩
  | tree, p :: ps =>
    match run o resolve fix tree p with
    | .error e => ⟨[], tree, some e⟩
    | .ok first =>
      let rest := runAll o resolve fix first.tree ps
      { rest with results := first.result :: rest.results }

lemma checkAll_eq_runAll (o : LintOptions) (fix : Bool) (tree : Tree) (ps : List Path) :
    let checked := Command.Lint.checkAll o fix tree ps
    runAll o (.default : Resolver Empty) fix tree ps = ⟨checked.results, checked.tree, checked.stopped⟩ := by
  induction ps generalizing tree with
  | nil => rfl
  | cons p ps ih =>
    rw [runAll, Command.Lint.checkAll]
    cases run o (.default : Resolver Empty) fix tree p with
    | error e => rfl
    | ok first => simp only [ih]

inductive Visits (o : LintOptions) (resolve : Resolver ε) (fix : Bool) :
    Tree → List Path → List LintResult → Tree → Prop
  | nil (tree : Tree) : Visits o resolve fix tree [] [] tree
  | cons {tree tree₁ tree₂ : Tree} {p : Path} {ps : List Path} {r : LintResult} {rs : List LintResult}
      (hfirst : Visit o resolve fix tree p r tree₁) (hrest : Visits o resolve fix tree₁ ps rs tree₂) :
    Visits o resolve fix tree (p :: ps) (r :: rs) tree₂

section Visits

variable {o : LintOptions} {resolve : Resolver ε} {fix : Bool} {tree tree' : Tree} {ps : List Path}
  {rs : List LintResult}

lemma Visits.tree_of_error {e : SetupError} (ho : Checker.ofOptions o resolve = .error e)
    (h : Visits o resolve fix tree ps rs tree') : tree' = tree := by
  induction h with
  | nil => rfl
  | cons hfirst _ ih => rw [ih, hfirst.tree_of_error ho]

lemma Visits.frame (h : Visits o resolve fix tree ps rs tree') :
    (∀ k, tree'.kindAt k = tree.kindAt k) ∧ tree'.directories = tree.directories ∧
      tree'.locked = tree.locked ∧
      ∀ l, tree'.files.lookup l ≠ tree.files.lookup l → fix = true ∧ ∃ p ∈ ps, tree.locate p = .ok l := by
  induction h with
  | nil => simp
  | @cons tree tree₁ tree₂ p ps r rs hfirst _ ih =>
    obtain ⟨hkind, hdirectories, hlocked, hfiles⟩ := hfirst.frame
    obtain ⟨hkind', hdirectories', hlocked', hfiles'⟩ := ih
    refine ⟨fun k => (hkind' k).trans (hkind k), hdirectories'.trans hdirectories,
      hlocked'.trans hlocked, ?_⟩
    intro l hl
    by_cases hfirst : tree₁.files.lookup l = tree.files.lookup l
    · obtain ⟨hfix, p', hp', hlocate⟩ := hfiles' l (by rwa [hfirst])
      exact ⟨hfix, p', List.mem_cons_of_mem p hp', Tree.locate_congr hkind p' ▸ hlocate⟩
    · obtain ⟨hfix, hlocate⟩ := hfiles l hfirst
      exact ⟨hfix, p, List.mem_cons_self, hlocate⟩

lemma visits_runAll (o : LintOptions) (resolve : Resolver ε) (fix : Bool) (tree : Tree) (ps : List Path) :
    ∃ front, front <+: ps.takeWhile (fun p => !p.holdsNull) ∧
      Visits o resolve fix tree front (runAll o resolve fix tree ps).results
        (runAll o resolve fix tree ps).tree := by
  induction ps generalizing tree with
  | nil => exact ⟨[], List.nil_prefix, .nil tree⟩
  | cons p ps ih =>
    rw [runAll]
    cases hrun : run o resolve fix tree p with
    | error e => exact ⟨[], List.nil_prefix, .nil tree⟩
    | ok first =>
      obtain ⟨hp, hvisit⟩ := visit_of_run hrun
      obtain ⟨front, hfront, hvisits⟩ := ih first.tree
      refine ⟨p :: front, ?_, .cons hvisit hvisits⟩
      rw [List.takeWhile_cons_of_pos (by simp [hp])]
      exact List.prefix_cons_inj p |>.mpr hfront

lemma visits_runAll_of_ok {c : Checker ε} (hc : Checker.ofOptions o resolve = .ok c)
    (hresolve : ∀ t, ∃ s, resolve t = .ok s) (fix : Bool) (tree : Tree) (ps : List Path) :
    let reached := ps.takeWhile fun p => !p.holdsNull
    Visits o resolve fix tree reached (runAll o resolve fix tree ps).results
        (runAll o resolve fix tree ps).tree ∧
      ((runAll o resolve fix tree ps).stopped = none ↔ reached = ps) := by
  induction ps generalizing tree with
  | nil => exact ⟨.nil tree, by simp [runAll]⟩
  | cons p ps ih =>
    simp only [runAll]
    cases hp : p.holdsNull with
    | true => simpa [hp, run_of_holdsNull hp] using Visits.nil tree
    | false =>
      obtain ⟨first, hrun⟩ : ∃ v, run o resolve fix tree p = .ok v := exists_run hc hresolve hp
      obtain ⟨hvisits, hstop⟩ := ih first.tree
      simp only [hrun, List.takeWhile_cons, hp, Bool.not_false, if_true, List.cons.injEq, true_and]
      exact ⟨.cons (visit_of_run hrun).2 hvisits, hstop⟩

end Visits

/-- A run with usable patterns visits all its paths up to one that no file can have, and each visit is
one of those that `Visit` lists; with other patterns it changes nothing. The bytes of a file change
only where repairs are asked for, and only at a path that is visited. -/
theorem runAll_changes_visited_files (o : LintOptions) (resolve : Resolver ε)
    (hresolve : ∀ t, ∃ s, resolve t = .ok s) (fix : Bool) (tree : Tree) (ps : List Path) :
    let after := runAll o resolve fix tree ps
    let reached := ps.takeWhile fun p => !p.holdsNull
    (∀ c, Checker.ofOptions o resolve = .ok c →
      Visits o resolve fix tree reached after.results after.tree ∧
        (after.stopped = none ↔ reached = ps)) ∧
    (∀ e, Checker.ofOptions o resolve = .error e → after.tree = tree) ∧
    after.tree.directories = tree.directories ∧
    ∀ l, after.tree.files.lookup l ≠ tree.files.lookup l →
      fix = true ∧ ∃ p ∈ reached, tree.locate p = .ok l := by
  intro after reached
  obtain ⟨front, hfront, hvisits⟩ := visits_runAll o resolve fix tree ps
  obtain ⟨-, hdirectories, -, hfiles⟩ := hvisits.frame
  refine ⟨fun c hc => visits_runAll_of_ok hc hresolve fix tree ps, fun e he => hvisits.tree_of_error he,
    hdirectories, ?_⟩
  intro l hl
  obtain ⟨hfix, p, hp, hlocate⟩ := hfiles l hl
  exact ⟨hfix, p, hfront.subset hp, hlocate⟩

theorem runAll_changes_visited_files_null_path :
    let o : LintOptions := ⟨some [], [.group "margin" ["^m-"]], true, false⟩
    let keep : Resolver Empty := fun t => .ok t
    let bytes := Utf8.encode "class='b a'".toList
    let tree : Tree := { files := [(["a"], bytes), (["b"], bytes)] }
    let after := runAll o keep true tree (["gone", "a", "\x00", "b"].map Path.ofString)
    (∀ t, ∃ s, keep t = .ok s) ∧
      Visits o keep true tree (["gone", "a"].map Path.ofString) after.results after.tree ∧
      after.stopped ≠ none ∧ after.tree.files.lookup ["b"] = some bytes := by
  intro o keep bytes tree after
  have hkeep : ∀ t, ∃ s, keep t = .ok s := fun t => ⟨t, rfl⟩
  have hreached : (["gone", "a", "\x00", "b"].map Path.ofString).takeWhile (fun p => !p.holdsNull) =
      ["gone", "a"].map Path.ofString := by cbv
  obtain ⟨hvisits, -, -, hfiles⟩ := runAll_changes_visited_files o keep hkeep true tree
    (["gone", "a", "\x00", "b"].map Path.ofString)
  rw [hreached] at hvisits hfiles
  obtain ⟨c, hc⟩ : ∃ c, Checker.ofOptions o keep = .ok c := exists_eq_ok_iff.mpr (by decide)
  obtain ⟨hvisits, hstop⟩ := hvisits c hc
  refine ⟨hkeep, hvisits, fun hnone => absurd (congrArg List.length (hstop.mp hnone)) (by simp), ?_⟩
  by_contra hb
  obtain ⟨-, p, hp, hlocate⟩ := hfiles ["b"] hb
  have hgone : tree.locate (.ofString "gone") = .ok ["gone"] := by cbv
  have ha : tree.locate (.ofString "a") = .ok ["a"] := by cbv
  rcases List.mem_pair.mp hp with rfl | rfl
  · simp [hgone] at hlocate
  · simp [ha] at hlocate

end FileCheck

end ClassTidy
