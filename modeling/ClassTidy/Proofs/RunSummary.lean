import ClassTidy.Proofs.FixRuns
import ClassTidy.Proofs.OptionDocuments
import ClassTidy.Proofs.ReportText

/-! Exit code, findings, summary and report of a run agree. -/

namespace ClassTidy

open Fallible

namespace Json

lemma lookup_map_value (g : Json → Json) (fields : List (String × Json)) (k : String) :
    (fields.map fun f => (f.1, g f.2)).lookup k = (fields.lookup k).map g := by
  induction fields with
  | nil => rfl
  | cons f fields ih =>
    obtain ⟨k', v⟩ := f
    by_cases h : k = k'
    · simp [h]
    · have hne : (k == k') = false := beq_eq_false_iff_ne.mpr h
      simp only [List.map_cons, List.lookup_cons, hne, ih]

lemma parse_write_object {layout : Layout} (hlayout : layout.Spaced) {fields : List (String × Json)}
    (hv : (object fields).Plain) {blank : Text} (hblank : IsBlank blank) :
    ∃ fields', parse (write layout 0 (.object fields) ++ blank) = .ok (.object fields') ∧
      ∀ k, fields'.lookup k = (fields.lookup k).map sorted := by
  have hparse := parse_write hlayout hv hblank
  rw [sorted_object_eq] at hparse
  refine ⟨_, hparse, fun k => ?_⟩
  cases hv with
  | object hkeys _ => rw [lookup_sortBy_keyLe (by simpa [Function.comp_def] using hkeys), lookup_map_value]

def States (v : Json) (ok : Bool) (count : Nat) : Prop :=
  ∃ fields, v = .object fields ∧ fields.lookup "ok" = some (.bool ok) ∧
    fields.lookup "findings" = some (.int count)

lemma states_parse_write {layout : Layout} (hlayout : layout.Spaced) {v : Json} (hv : v.Plain) {ok : Bool}
    {count : Nat} (h : v.States ok count) {blank : Text} (hblank : IsBlank blank) :
    ∃ v', parse (write layout 0 v ++ blank) = .ok v' ∧ v'.States ok count := by
  obtain ⟨fields, rfl, hok, hcount⟩ := h
  obtain ⟨fields', hparse, hlookup⟩ := parse_write_object hlayout hv hblank
  refine ⟨_, hparse, fields', rfl, ?_, ?_⟩
  · simp [hlookup, hok, sorted]
  · simp [hlookup, hcount, sorted]

end Json

namespace LintResult

structure Consistent (fix : Bool) (r : LintResult) : Prop where
  ok : r.ok = true ↔ r.errors = []
  fixed : r.fixed = true → r.ok = true ∧ r.findings ≠ [] ∧ fix = true
  counted : r.counts.lookup "findings" = some (.int r.findings.length)

lemma Consistent.ok_eq_false_iff {fix : Bool} {r : LintResult} (h : r.Consistent fix) :
    r.ok = false ↔ r.errors ≠ [] := by
  rw [← Bool.not_eq_true, h.ok]

lemma carriage_not_mem_report {rs : List LintResult} (h : ∀ r ∈ rs, r.Reportable) : '\r' ∉ report rs := by
  intro hmem
  rcases List.mem_append.mp hmem with hmem | hmem
  · rcases Json.mem_write (plain_reportJson h) hmem with hle | ⟨depth, hused⟩ | hused
    · exact absurd hle (by decide)
    · simp [Json.Layout.indented] at hused
    · simp [Json.Layout.indented] at hused
  · simp at hmem

end LintResult

namespace FileCheck

variable {ε : Type} {o : LintOptions} {resolve : Resolver ε} {fix : Bool} {tree tree' : Tree}

lemma Visit.path {p : Path} {r : LintResult} (h : Visit o resolve fix tree p r tree') :
    r.path = some p.toString := by
  cases h <;> rfl

lemma Visit.consistent {p : Path} {r : LintResult} (h : Visit o resolve fix tree p r tree') :
    r.Consistent fix := by
  cases h with
  | unread => exact ⟨by simp [unreadable], by simp [unreadable], rfl⟩
  | kept => exact ⟨by simp [LintResult.ofChecked], by simp [LintResult.ofChecked], rfl⟩
  | refused => exact ⟨by simp [unwritable], by simp [unwritable], rfl⟩
  | repaired _ _ _ hfix hne => exact ⟨by simp [LintResult.ofChecked], fun _ => ⟨rfl, hne, hfix⟩, rfl⟩

lemma Visits.paths {ps : List Path} {rs : List LintResult} (h : Visits o resolve fix tree ps rs tree') :
    rs.map LintResult.path = ps.map fun p => some p.toString := by
  induction h with
  | nil => rfl
  | cons hfirst _ ih => rw [List.map_cons, List.map_cons, hfirst.path, ih]

lemma Visits.forall_results {ps : List Path} {rs : List LintResult} {P : LintResult → Prop}
    (hvisit : ∀ {tree p r tree'}, Visit o resolve fix tree p r tree' → P r)
    (h : Visits o resolve fix tree ps rs tree') : ∀ r ∈ rs, P r := by
  induction h with
  | nil => simp
  | cons hfirst _ ih => exact List.forall_mem_cons.mpr ⟨hvisit hfirst, ih⟩

end FileCheck

namespace Command.Lint

open FileCheck

section Results

variable {rs : List LintResult}

lemma length_findingLines (rs : List LintResult) :
    (findingLines rs).length = LintResult.findingCount rs := by
  simp [findingLines, List.length_flatMap, LintResult.findingCount_eq_sum]

lemma states_summaryLine (rs : List LintResult) :
    ∃ v, Json.parse (summaryLine rs).toList = .ok v ∧
      v.States (LintResult.allOk rs) (LintResult.findingCount rs) := by
  rw [summaryLine, String.toList_ofList, Json.compact, ← List.append_nil (Json.write _ _ _)]
  refine Json.states_parse_write Json.Layout.spaced_compact ?_ ⟨_, rfl, rfl, rfl⟩ (by simp [Json.IsBlank])
  refine .object (by simp) ?_
  simp [Json.Plain.bool, Json.Plain.int]

lemma states_report (hrs : ∀ r ∈ rs, r.Reportable) {tree tree' : Tree} {p : Path}
    (h : writeReport tree p rs = .ok tree') :
    ∃ t v, tree'.readText p = .ok t ∧ Json.parse t = .ok v ∧
      v.States (LintResult.allOk rs) (LintResult.findingCount rs) := by
  obtain ⟨made, hwrite⟩ : ∃ made : Tree, made.write p (Utf8.encode (LintResult.report rs)) = .ok tree' := by
    unfold writeReport at h
    split at h
    · exact ⟨_, h⟩
    · cases h
  have hread : tree'.readText p = .ok (LintResult.report rs) :=
    Tree.readText_eq_ok_iff.mpr ⟨_, Tree.read_of_write hwrite,
      Utf8.readText_encode (LintResult.carriage_not_mem_report hrs)⟩
  obtain ⟨v, hparse, hstates⟩ := Json.states_parse_write Json.Layout.spaced_indented
    (LintResult.plain_reportJson hrs) ⟨_, rfl, rfl, rfl⟩
    (show Json.IsBlank ['\n'] by simp [Json.IsBlank, Json.isSpace])
  exact ⟨_, v, hread, hparse, hstates⟩

end Results

lemma visits_checkAll {o : LintOptions} {fix : Bool} {tree : Tree} {ps : List Path}
    (h : (checkAll o fix tree ps).stopped = none) :
    Visits o (.default : Resolver Empty) fix tree ps (checkAll o fix tree ps).results
      (checkAll o fix tree ps).tree := by
  induction ps generalizing tree with
  | nil => exact .nil tree
  | cons p ps ih =>
    obtain ⟨first, hrun, hrest, hresults, htree⟩ := checkAll_cons h
    rw [hresults, htree]
    exact .cons (visit_of_run hrun).2 (ih hrest)

structure Concludes (arguments : List String) (env : Environment) (a : Arguments) (o : LintOptions)
    (after : Tree) : Prop where
  arguments : manual.readArguments arguments = .ok a
  options : loadOptions env.tree (a.value? "--config") = .ok o
  visited : (checks o a env).stopped = none
  reported : reportTo (checks o a env).tree (a.value? "--out") (checks o a env).results = .ok after

variable {arguments : List String} {env : Environment} {a : Arguments} {o : LintOptions} {after : Tree}

lemma Concludes.run_eq (h : Concludes arguments env a o after) :
    run arguments env =
      { output := unlines (findingLines (checks o a env).results ++ [summaryLine (checks o a env).results])
        errors := unlines (logLines o a env ++ errorLines (checks o a env).results)
        tree := after
        status := .ok (exitCode (checks o a env).results) } := by
  obtain ⟨harguments, hoptions, hvisited, hreported⟩ := h
  unfold checks at hvisited hreported
  simp only [run, harguments, runWith, hoptions, hvisited, finish, hreported, checks, logLines]

/-- A run that comes to its end has one result for each path. The exit code says whether there were errors,
and else whether findings are left. The findings printed, those that the summary counts and those that
the report counts are equally many, and summary and report give one verdict. -/
theorem exit_code_summary_report_agree (h : Concludes arguments env a o after) :
    let out := run arguments env
    let rs := (checks o a env).results
    let count := (rs.map fun r => r.findings.length).sum
    rs.map LintResult.path = a.positionals.map (fun p => some (Path.ofString p).toString) ∧
    (∀ r ∈ rs, r.Consistent (a.has "--fix")) ∧
    (out.status = .ok 2 ↔ ∃ r ∈ rs, r.errors ≠ []) ∧
    (out.status = .ok 1 ↔ (∀ r ∈ rs, r.errors = []) ∧ ∃ r ∈ rs, r.fixed = false ∧ r.findings ≠ []) ∧
    (out.status = .ok 0 ↔ (∀ r ∈ rs, r.errors = []) ∧ ∀ r ∈ rs, r.fixed = false → r.findings = []) ∧
    ∃ summary, out.output = unlines (findingLines rs ++ [summary]) ∧ (findingLines rs).length = count ∧
      ∃ ok, (ok = true ↔ ∀ r ∈ rs, r.errors = []) ∧
        (∃ v, Json.parse summary.toList = .ok v ∧ v.States ok count) ∧
        ∀ p, a.value? "--out" = some p →
          ∃ t v, out.tree.readText (.ofString p) = .ok t ∧ Json.parse t = .ok v ∧ v.States ok count := by
  intro out rs count
  have hvisits := visits_checkAll h.visited
  have hconsistent : ∀ r ∈ rs, r.Consistent (a.has "--fix") := hvisits.forall_results Visit.consistent
  have hreportable : ∀ r ∈ rs, r.Reportable := hvisits.forall_results LintResult.reportable_of_visit
  have hout : out = _ := h.run_eq
  have hcount : LintResult.findingCount rs = count := LintResult.findingCount_eq_sum rs
  have hok : (∀ r ∈ rs, r.ok = true) ↔ ∀ r ∈ rs, r.errors = [] :=
    forall₂_congr fun r hr => (hconsistent r hr).ok
  refine ⟨hvisits.paths.trans List.map_map, hconsistent, ?_, ?_, ?_, ?_⟩
  · rw [hout, Except.ok.injEq, exitCode_eq_two_iff]
    exact exists_congr fun r => and_congr_right fun hr => (hconsistent r hr).ok_eq_false_iff
  · rw [hout, Except.ok.injEq, exitCode_eq_one_iff, hok]
  · rw [hout, Except.ok.injEq, exitCode_eq_zero_iff, hok]
  · rw [← hcount]
    refine ⟨summaryLine rs, by rw [hout], length_findingLines rs, LintResult.allOk rs,
      List.all_eq_true.trans hok, states_summaryLine rs, ?_⟩
    intro p hp
    have hreported := h.reported
    rw [hp] at hreported
    rw [hout]
    exact states_report hreportable hreported

-- One file is missing and the other one is repaired.
theorem exit_code_summary_report_agree_missing_file :
    let tree : Tree := { files := [(["a.html"], Utf8.encode "class=\" d\"".toList)] }
    let arguments := ["--fix", "--out", "r/out.json", "gone", "a.html"]
    let out := run arguments { tree }
    (∃ a o after, Concludes arguments { tree } a o after) ∧ out.status = .ok 2 ∧
      ∃ t v, out.tree.readText (.ofString "r/out.json") = .ok t ∧ Json.parse t = .ok v ∧ v.States false 1 := by
  intro tree arguments out
  let a : Arguments :=
    ⟨[(⟨["--fix"], false⟩, none), (⟨["--out"], true⟩, some "r/out.json")], ["gone", "a.html"]⟩
  let missing := unreadable (Path.ofString "gone").toString (TextError.file (.notFound "gone")).message
  have hgone : tree.readText (.ofString "gone") = .error (.file (.notFound "gone")) := by cbv
  have hread : tree.readText (.ofString "a.html") = .ok "class=\" d\"".toList :=
    Tree.readText_of_locate (l := ["a.html"]) (by cbv) (by decide) rfl
  obtain ⟨c, hc, checked, hcheck, hone⟩ : ∃ c : Checker Empty, Checker.ofOptions {} .default = .ok c ∧
      ∃ checked, c.check "class=\" d\"".toList = .ok checked ∧ checked.findings.length = 1 :=
    ⟨_, Checker.ofOptions_default, map_eq_ok_iff.mp (by decide +kernel)⟩
  have hmissing : FileCheck.run {} (.default : Resolver Empty) true tree (.ofString "gone") =
      .ok ⟨missing, tree, []⟩ := by
    simp only [FileCheck.run, hgone, missing]
  obtain ⟨v, hv⟩ : ∃ v, FileCheck.run {} (.default : Resolver Empty) true tree (.ofString "a.html") = .ok v :=
    exists_run hc (fun t => ⟨_, rfl⟩) (by cbv)
  obtain ⟨-, hfindings⟩ := (visit_of_run hv).2.fixed_of_findings hc hread hcheck
    (List.ne_nil_of_length_pos (by omega)) rfl
  have hresults : (checks {} a { tree }).results = [missing, v.result] := by
    change (checkAll {} true tree [.ofString "gone", .ofString "a.html"]).results = _
    simp only [checkAll, hmissing, hv]
  have hvisited : (checks {} a { tree }).stopped = none := by
    change (checkAll {} true tree [.ofString "gone", .ofString "a.html"]).stopped = none
    simp only [checkAll, hmissing, hv]
  obtain ⟨after, hafter⟩ : ∃ after,
      reportTo (checks {} a { tree }).tree (a.value? "--out") (checks {} a { tree }).results = .ok after :=
    reportTo_checks fun rs => exists_eq_ok_iff.mpr (by cbv)
  have h : Concludes arguments { tree } a {} after := ⟨rfl, rfl, hvisited, hafter⟩
  obtain ⟨-, -, htwo, -, -, summary, -, -, ok, hok, -, hreport⟩ := exit_code_summary_report_agree h
  rw [hresults] at htwo hok hreport
  have hfalse : ok = false := by
    rw [← Bool.not_eq_true, hok]
    simp [missing, unreadable]
  obtain ⟨t, w, ht, hw, hstates⟩ := hreport "r/out.json" rfl
  refine ⟨⟨a, {}, after, h⟩, htwo.mpr (by simp [missing, unreadable]), t, w, ht, hw, ?_⟩
  simpa [hfalse, missing, unreadable, hfindings, hone] using hstates

end Command.Lint

end ClassTidy
