import ClassTidy.Command.Format
import ClassTidy.Proofs.CanonicalForm
import ClassTidy.Proofs.Encoding
import ClassTidy.Proofs.Fallible
import ClassTidy.Proofs.JsonText

/-! A formatter gives a new form only for a list that it changes. -/

namespace ClassTidy

open Fallible Text

namespace Formatter

variable {ε : Type} {f : Formatter ε} {raw s : Text}

lemma changed_eq_none_iff {old new : Text} : changed old new = none ↔ new = old := by
  simp [changed]

lemma changed_eq_some_iff {old new : Text} : changed old new = some s ↔ new ≠ old ∧ new = s := by
  simp [changed]

lemma canonical_eq_self_iff :
    f.canonical raw = .ok raw ↔
      (∀ c ∈ raw, isBlank c = true) ∨ collapse raw = raw ∧ ((words raw).length = 1 ∨
        ∃ resolved, f.resolve (unwords (f.registry.sortTokens (words raw))) = .ok resolved ∧
          collapse resolved = raw) := by
  rw [← words_eq_nil_iff]
  match hw : words raw with
  | [] => simp [canonical, hw]
  | [t] =>
    have hc : collapse raw = t := by rw [collapse_eq_unwords, hw, unwords_singleton]
    simp [canonical, hw, hc]
  | t :: u :: ts =>
    rw [canonical_of_two (by simp [hw]), map_eq_ok_iff, hw]
    constructor
    · rintro ⟨resolved, hresolved, rfl⟩
      exact Or.inr ⟨collapse_collapse resolved, Or.inr ⟨resolved, hresolved, rfl⟩⟩
    · rintro (hnil | ⟨-, hone | hresolved⟩)
      · cases hnil
      · simp at hone
      · exact hresolved

lemma format_eq_ok_iff {new : Option Text} :
    f.format raw = .ok new ↔ ∃ s, f.canonical raw = .ok s ∧ changed raw s = new := by
  rw [format_eq_changed, map_eq_ok_iff]

end Formatter

namespace Command

namespace Manual

variable {m : Manual} {p : Progress}

lemma take_nil (hp : p.positionalsTaken = true) (bound : Nat) : m.take (bound + 1) p [] = .ok p := by
  simp [take, hp]

lemma take_switch {s : Switch} (hvalue : s.takesValue = false) (hhelp : s ≠ Switch.help) (bound : Nat)
    (argument spelling : String) (rest : List (String × Tag)) :
    m.take (bound + 1) p ((argument, .switch (some ⟨s, spelling, none⟩)) :: rest) =
      m.take bound { p with
        arguments := { p.arguments with switches := p.arguments.switches ++ [(s, none)] } } rest := by
  simp [take, hvalue, Progress.addSwitch, hhelp, bind, Except.bind]

def separated (values : List String) : List (String × Tag) :=
  ("--", .separator) :: values.map fun a => (a, .positional)

@[simp] lemma map_fst_separated (values : List String) : (separated values).map Prod.fst = "--" :: values := by
  simp [separated, Function.comp_def]

lemma beforeSwitch_separated (values : List String) : beforeSwitch (separated values) = separated values := by
  simp [beforeSwitch, separated, List.takeWhile_eq_self_iff]

lemma take_separated (hm : m.arity = .any) (hp : p.positionalsTaken = false) (bound : Nat)
    (values : List String) :
    m.take (bound + 2) p (separated values) = .ok (p.takePositionals ("--" :: values)) := by
  -- the hyphens are counted as a positional too, and dropped only when all of them are taken
  have hcount : m.positionalCount (separated values) = some (separated values).length := by
    simp [positionalCount, hm, beforeSwitch_separated]
  have hne : ¬ ((separated values).length = 0 ∧ separated values = []) := by simp [separated]
  have hstep : m.take (bound + 2) p (separated values) =
      m.take (bound + 1) (p.takePositionals ("--" :: values)) [] := by
    rw [take]
    · simp only [hp, hcount, Bool.false_eq_true, if_false]
      rw [if_neg hne, List.take_length, List.drop_length, map_fst_separated]
    · simp [separated]
    · simp [separated]
  rw [hstep, take_nil rfl]

end Manual

lemma linesOf_flatMap {lines : List Text} (h : ∀ l ∈ lines, '\n' ∉ l) :
    linesOf (lines.flatMap (· ++ ['\n'])) = lines := by
  have hsplit : (lines.flatMap (· ++ ['\n'])).splitOn '\n' = lines ++ [[]] := by
    induction lines with
    | nil => rfl
    | cons l lines ih =>
      obtain ⟨hl, hlines⟩ := List.forall_mem_cons.mp h
      have hfirst : l.splitOnP (· == '\n') = [l] := by
        apply List.splitOnP_eq_singleton
        intro c hc
        exact beq_eq_false_iff_ne.mpr (ne_of_mem_of_not_mem hc hl)
      rw [List.splitOn_eq_splitOnP] at ih ⊢
      rw [List.flatMap_cons, List.append_assoc, List.singleton_append, List.splitOnP_append_cons l _ rfl,
        hfirst, ih hlines, List.singleton_append, List.cons_append]
  simp [linesOf, hsplit]

lemma toList_unlines (lines : List String) :
    (unlines lines).toList = (lines.map String.toList).flatMap (· ++ ['\n']) := by
  simp [unlines, String.toList_join, List.flatMap_map]

namespace Format

def Tells (f : Formatter Empty) (value line : Text) : Prop :=
  ∃ output changed,
    Json.parse line = .ok (.object [("changed", .bool changed), ("input", .str (String.ofList value)),
      ("output", .str (String.ofList output))]) ∧
    f.format value = .ok (Formatter.changed value output) ∧ (changed = true ↔ output ≠ value)

def Asked (arguments : List String) (env : Environment) (f : Formatter Empty) (values : List Text) : Prop :=
  ∃ a, manual.readArguments arguments = .ok a ∧ a.has "--json" = true ∧
    loadFormatter env.tree (a.value? "--groups") = .ok f ∧ valuesOf a env.input = .ok values

def answer (value output : Text) (changed : Bool) : Json :=
  .object [("input", .str (String.ofList value)), ("output", .str (String.ofList output)),
    ("changed", .bool changed)]

lemma plain_answer (value output : Text) (changed : Bool) : (answer value output changed).Plain := by
  refine .object (by simp) ?_
  simp [Json.Plain.str, Json.Plain.bool]

lemma sorted_answer (value output : Text) (changed : Bool) :
    (answer value output changed).sorted =
      .object [("changed", .bool changed), ("input", .str (String.ofList value)),
        ("output", .str (String.ofList output))] := by
  rw [answer, Json.sorted_object]
  simp [sortBy, insertBy, Json.keyLe, Json.sorted]

lemma outputLine_eq (f : Formatter Empty) (value : Text) :
    ∃ output changed, (outputLine f true value).toList = (answer value output changed).compact ∧
      f.format value = .ok (Formatter.changed value output) ∧ (changed = true ↔ output ≠ value) := by
  obtain ⟨new, hnew⟩ : ∃ new, f.format value = .ok new := by
    cases hformat : f.format value with
    | ok new => exact ⟨new, rfl⟩
    | error e => exact e.elim
  obtain ⟨output, -, rfl⟩ := Formatter.format_eq_ok_iff.mp hnew
  have hone : formatOne f value = Formatter.changed value output := by simp only [formatOne, hnew]
  refine ⟨output, (Formatter.changed value output).isSome, ?_, hnew, ?_⟩
  · simp only [outputLine, hone, Formatter.getD_changed, if_true, String.toList_ofList, answer]
  · simp [Formatter.changed]

lemma tells_outputLine (f : Formatter Empty) (value : Text) : Tells f value (outputLine f true value).toList := by
  obtain ⟨output, changed, hline, hformat, hchanged⟩ := outputLine_eq f value
  have hparse := Json.parse_write Json.Layout.spaced_compact (plain_answer value output changed)
    (List.forall_mem_nil _ : Json.IsBlank [])
  -- an object is read with its keys in order, whatever order it was written in
  rw [List.append_nil, sorted_answer] at hparse
  exact ⟨output, changed, by rw [hline]; exact hparse, hformat, hchanged⟩

lemma newline_notMem_outputLine (f : Formatter Empty) (value : Text) :
    '\n' ∉ (outputLine f true value).toList := by
  obtain ⟨output, changed, hline, -⟩ := outputLine_eq f value
  rw [hline]
  intro hmem
  rcases Json.mem_write (plain_answer value output changed) hmem with hle | hused
  · exact absurd hle (by decide)
  · simp [Json.Layout.Uses, Json.Layout.compact] at hused

lemma run_of_asked {arguments : List String} {env : Environment} {f : Formatter Empty} {values : List Text}
    (h : Asked arguments env f values) :
    run arguments env =
      { output := unlines (values.map (outputLine f true)), tree := env.tree, status := .ok 0 } := by
  obtain ⟨a, harguments, hjson, hf, hvalues⟩ := h
  simp only [run, harguments, runWith, hf, hvalues, hjson]

def jsonSwitch : Switch := ⟨["--json"], false⟩

lemma readArguments_separated (values : List String) :
    manual.readArguments ("--json" :: "--" :: values) = .ok ⟨[(jsonSwitch, none)], values⟩ := by
  have htag : manual.tagAll ("--json" :: "--" :: values) =
      .ok (("--json", .switch (some ⟨jsonSwitch, "--json", none⟩)) :: Manual.separated values) := rfl
  have htake := Manual.take_switch (m := manual) (p := {}) (s := jsonSwitch) rfl (by decide)
    (2 * values.length + 5) "--json" "--json" (Manual.separated values)
  rw [Manual.take_separated rfl rfl] at htake
  have hbound : 2 * ((Manual.separated values).length + 1) + 2 = 2 * values.length + 5 + 1 := by
    simp [Manual.separated]
    omega
  simp only [Manual.readArguments, htag, bind, Except.bind, List.length_cons, hbound, htake]
  simp [Manual.Progress.takePositionals, pure, Except.pure]

lemma asked_arguments (env : Environment) {values : List String} (h : values ≠ []) :
    Asked ("--json" :: "--" :: values) env ⟨.default, .default⟩ (values.map String.toList) := by
  refine ⟨_, readArguments_separated values, rfl, rfl, ?_⟩
  simp [valuesOf, h]

lemma asked_lines (tree : Tree) {lines : List Text} (h : ∀ l ∈ lines, '\n' ∉ l ∧ '\r' ∉ l) :
    Asked ["--json"] { tree, input := Utf8.encode (lines.flatMap (· ++ ['\n'])) } ⟨.default, .default⟩
      lines := by
  have hreturn : '\r' ∉ lines.flatMap (· ++ ['\n']) := by
    simpa using fun l hl => (h l hl).2
  have hlines := linesOf_flatMap fun l hl => (h l hl).1
  refine ⟨⟨[(jsonSwitch, none)], []⟩, rfl, rfl, rfl, ?_⟩
  simp [valuesOf, Utf8.readText_encode hreturn, Except.mapError, Except.map, hlines]

/-- A formatter leaves a list alone if it is blank, or collapsed and either a single token or what resolving
its sorted tokens gives; any new form is collapsed and differs from the old one. The command that formats
lists answers in JSON with one line for each list, in order, which says whether the list changes. It does so
for any lists that are given as arguments, and for any lines that it reads. -/
theorem format_tells_changes {ε : Type} :
    (∀ (f : Formatter ε) (raw : Text) (new : Option Text), f.format raw = .ok new →
      (new = none ↔ (∀ c ∈ raw, isBlank c = true) ∨ collapse raw = raw ∧ ((words raw).length = 1 ∨
        ∃ resolved, f.resolve (unwords (f.registry.sortTokens (words raw))) = .ok resolved ∧
          collapse resolved = raw)) ∧
      ∀ s, new = some s → s ≠ raw ∧ collapse s = s) ∧
    (∀ arguments env f values, Asked arguments env f values →
      let out := run arguments env
      out.status = .ok 0 ∧ ∃ lines : List Text, out.output.toList = lines.flatMap (· ++ ['\n']) ∧
        (∀ l ∈ lines, '\n' ∉ l) ∧ List.Forall₂ (Tells f) values lines) ∧
    (∀ values env, values ≠ [] →
      Asked ("--json" :: "--" :: values) env ⟨.default, .default⟩ (values.map String.toList)) ∧
    ∀ (lines : List Text) (tree : Tree), (∀ l ∈ lines, '\n' ∉ l ∧ '\r' ∉ l) →
      Asked ["--json"] { tree, input := Utf8.encode (lines.flatMap (· ++ ['\n'])) } ⟨.default, .default⟩
        lines := by
  refine ⟨?_, ?_, fun values env h => asked_arguments env h, fun lines tree h => asked_lines tree h⟩
  · intro f raw new hnew
    obtain ⟨form, hform, rfl⟩ := Formatter.format_eq_ok_iff.mp hnew
    refine ⟨?_, ?_⟩
    · rw [Formatter.changed_eq_none_iff, ← Formatter.canonical_eq_self_iff, hform, Except.ok.injEq]
    · intro s hs
      obtain ⟨hne, rfl⟩ := Formatter.changed_eq_some_iff.mp hs
      exact ⟨hne, Formatter.collapse_of_canonical hform hne⟩
  · intro arguments env f values hasked out
    have hout : out = _ := run_of_asked hasked
    refine ⟨by rw [hout], values.map fun value => (outputLine f true value).toList, ?_, ?_, ?_⟩
    · rw [hout, toList_unlines, List.map_map]
      rfl
    · exact List.forall_mem_map.mpr fun value _ => newline_notMem_outputLine f value
    · rw [List.forall₂_map_right_iff, List.forall₂_same]
      exact fun value _ => tells_outputLine f value

-- the resolver pads what it gives; the arguments have a line end inside, and what looks like a switch
theorem format_tells_changes_padded :
    let f : Formatter Empty := ⟨[], fun t => .ok ('\t' :: t ++ [' '])⟩
    let arguments := ["--json", "--", "b\na", "--", "--debug"]
    f.format "b a".toList = .ok (some "a b".toList) ∧ "a b".toList ≠ "b a".toList ∧
      collapse "a b".toList = "a b".toList ∧
      Asked arguments ⟨{}, []⟩ ⟨.default, .default⟩ ["b\na".toList, "--".toList, "--debug".toList] ∧
      ∃ first second third : Text,
        (run arguments ⟨{}, []⟩).output.toList = [first, second, third].flatMap (· ++ ['\n']) ∧
        Tells ⟨.default, .default⟩ "b\na".toList first ∧
        Tells ⟨.default, .default⟩ "--debug".toList third := by
  intro f arguments
  obtain ⟨hformat, hprints, harguments, -⟩ := format_tells_changes (ε := Empty)
  have hnew : f.format "b a".toList = .ok (some "a b".toList) := by decide
  obtain ⟨-, hchange⟩ := hformat f _ _ hnew
  obtain ⟨hne, hcollapsed⟩ := hchange _ rfl
  have hasked := harguments ["b\na", "--", "--debug"] ⟨{}, []⟩ (by simp)
  obtain ⟨-, lines, houtput, -, htells⟩ := hprints _ _ _ _ hasked
  obtain ⟨first, _, hfirst, htwo, rfl⟩ := List.forall₂_cons_left_iff.mp htells
  obtain ⟨second, _, -, hone, rfl⟩ := List.forall₂_cons_left_iff.mp htwo
  obtain ⟨third, _, hthird, hnil, rfl⟩ := List.forall₂_cons_left_iff.mp hone
  obtain rfl := List.forall₂_nil_left_iff.mp hnil
  exact ⟨hnew, hne, hcollapsed, hasked, first, second, third, houtput, hfirst, hthird⟩

end Format

end Command

end ClassTidy
