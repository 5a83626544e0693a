import ClassTidy.Lint.Report
import ClassTidy.Proofs.CanonicalForm

/-! A check reports each place whose list should have another form, once and in order, and nothing else. -/

namespace ClassTidy

open Fallible Text

namespace Formatter

variable {ε : Type}

lemma format_total {f : Formatter ε} (hf : ∀ t, ∃ s, f.resolve t = .ok s) (raw : Text) :
    ∃ new, f.format raw = .ok new := by
  obtain ⟨s, hs⟩ : ∃ s, f.canonical raw = .ok s := by
    rcases Nat.lt_or_ge 1 (words raw).length with htwo | hshort
    · obtain ⟨kept, hkept⟩ := hf (unwords (f.registry.sortTokens (words raw)))
      exact ⟨collapse kept, by rw [canonical_of_two htwo, hkept]; rfl⟩
    · obtain ⟨s, hs, _⟩ := f.canonical_of_short hshort
      exact ⟨s, hs⟩
  exact ⟨changed raw s, by rw [format_eq_changed, hs]; rfl⟩

lemma format_ne {f : Formatter ε} {raw s : Text} (h : f.format raw = .ok (some s)) : s ≠ raw := by
  rintro rfl
  have hnone := format_eq_none (canonical_of_format h)
  rw [h] at hnone
  cases hnone

lemma collapse_format {f : Formatter ε} {raw s : Text} (h : f.format raw = .ok (some s)) :
    collapse s = s :=
  collapse_of_canonical (canonical_of_format h) (format_ne h)

end Formatter

namespace Finding

def SamePlace (f g : Finding) : Prop := f.start = g.start ∧ f.stop = g.stop

def Before (f g : Finding) : Prop := f.start < g.start ∨ (f.start = g.start ∧ f.stop < g.stop)

instance : DecidableRel SamePlace := fun f g =>
  inferInstanceAs (Decidable (f.start = g.start ∧ f.stop = g.stop))

instance : DecidableRel Before := fun f g =>
  inferInstanceAs (Decidable (f.start < g.start ∨ (f.start = g.start ∧ f.stop < g.stop)))

lemma atOrBefore_iff (f g : Finding) :
    atOrBefore f g = true ↔ f.start < g.start ∨ (f.start = g.start ∧ f.stop ≤ g.stop) := by
  simp [atOrBefore]

instance : IsTrans Finding fun f g => atOrBefore f g = true := ⟨fun f g h => by
  simp only [atOrBefore_iff]
  omega⟩

instance : Std.Total fun f g => atOrBefore f g = true := ⟨fun f g => by
  simp only [atOrBefore_iff]
  omega⟩

lemma before_of_atOrBefore {f g : Finding} (h : atOrBefore f g = true) (hne : ¬ SamePlace f g) :
    Before f g := by
  rw [atOrBefore_iff] at h
  simp only [SamePlace, Before] at hne ⊢
  omega

lemma eq_of_pairwise_before {fs gs : List Finding} (hfs : fs.Pairwise Before) (hgs : gs.Pairwise Before)
    (h : ∀ f, f ∈ fs ↔ f ∈ gs) : fs = gs := by
  have hnodup : ∀ {hs : List Finding}, hs.Pairwise Before → hs.Nodup := by
    intro hs hsorted
    refine hsorted.imp ?_
    rintro f g hfg rfl
    simp only [Before] at hfg
    omega
  have hperm := (List.perm_ext_iff_of_nodup (hnodup hfs) (hnodup hgs)).mpr h
  refine hperm.eq_of_pairwise ?_ hfs hgs
  intro f g _ _ hfg hgf
  simp only [Before] at hfg hgf
  omega

end Finding

namespace Checker

variable {ε : Type}

def places (c : Checker ε) (t : Text) : List Span :=
  (if c.attributes then Source.attributes t else []) ++ c.locators.flatMap fun l => l.spans t

def placeOf? (t : Text) : ScanEvent → Option Span
  | .candidate s => if s.text t = [] then none else some s
  | _ => none

lemma candidates_eq_filterMap (c : Checker ε) (t : Text) :
    c.candidates t = (c.events t).filterMap (placeOf? t) := by
  unfold candidates
  congr 1
  funext e
  cases e <;> simp [placeOf?]

lemma filterMap_placeOf_candidates (t : Text) (spans : List Span) :
    (spans.map ScanEvent.candidate).filterMap (placeOf? t) = spans.filter fun s => s.text t ≠ [] := by
  induction spans with
  | nil => rfl
  | cons s spans ih => by_cases h : s.text t = [] <;> simp_all [placeOf?]

lemma filterMap_placeOf_locatorEvents (t : Text) (l : Locator) :
    (locatorEvents t l).filterMap (placeOf? t) = (l.spans t).filter fun s => s.text t ≠ [] := by
  have hskip : ((l.unclosed t).map (ScanEvent.unclosed l.entry.outer)).filterMap (placeOf? t) = [] := by
    simp [placeOf?]
  rw [locatorEvents, List.filterMap_append, hskip, List.nil_append, List.filterMap_cons]
  exact filterMap_placeOf_candidates t (l.spans t)

lemma candidates_eq_filter (c : Checker ε) (t : Text) :
    c.candidates t = (c.places t).filter fun s => s.text t ≠ [] := by
  rw [candidates_eq_filterMap, events, places, List.filterMap_append, List.filter_append,
    List.filterMap_flatMap, List.filter_flatMap]
  congr 1
  · split
    · exact filterMap_placeOf_candidates t _
    · rfl
  · congr 1
    funext l
    exact filterMap_placeOf_locatorEvents t l

lemma firstOfEach_sublist (fs : List Finding) : (firstOfEach fs).Sublist fs := by
  induction fs with
  | nil => exact .slnil
  | cons f fs ih => exact (List.filter_sublist.trans ih).cons_cons f

lemma firstOfEach_pairwise (fs : List Finding) :
    (firstOfEach fs).Pairwise fun f g => ¬ f.SamePlace g := by
  induction fs with
  | nil => exact .nil
  | cons f fs ih =>
    refine .cons ?_ (ih.filter _)
    rintro g hg ⟨hstart, hstop⟩
    simp [hstart, hstop] at hg

lemma exists_samePlace_firstOfEach {fs : List Finding} {f : Finding} (h : f ∈ fs) :
    ∃ g ∈ firstOfEach fs, f.SamePlace g := by
  induction fs with
  | nil => cases h
  | cons b fs ih =>
    by_cases hb : f.SamePlace b
    · exact ⟨b, List.mem_cons_self, hb⟩
    · rcases List.mem_cons.mp h with rfl | hf
      · exact absurd ⟨rfl, rfl⟩ hb
      · obtain ⟨g, hg, hstart, hstop⟩ := ih hf
        refine ⟨g, List.mem_cons_of_mem b (List.mem_filter.mpr ⟨hg, ?_⟩), hstart, hstop⟩
        simp only [Finding.SamePlace, hstart, hstop] at hb
        exact decide_eq_true (by omega)

lemma mem_firstOfEach {fs : List Finding} (h : ∀ f ∈ fs, ∀ g ∈ fs, f.SamePlace g → f = g)
    (f : Finding) : f ∈ firstOfEach fs ↔ f ∈ fs := by
  constructor
  · exact fun hf => (firstOfEach_sublist fs).mem hf
  · intro hf
    obtain ⟨g, hg, hsame⟩ := exists_samePlace_firstOfEach hf
    rwa [h f hf g ((firstOfEach_sublist fs).mem hg) hsame]

lemma sortBy_pairwise_before {fs : List Finding} (h : fs.Pairwise fun f g => ¬ f.SamePlace g) :
    (sortBy Finding.atOrBefore fs).Pairwise Finding.Before := by
  rw [sortBy_eq_insertionSort]
  have hperm := List.perm_insertionSort (fun f g => Finding.atOrBefore f g = true) fs
  have hapart := hperm.symm.pairwise h fun hne hsame => hne ⟨hsame.1.symm, hsame.2.symm⟩
  have hsorted := List.pairwise_insertionSort (fun f g => Finding.atOrBefore f g = true) fs
  refine (hsorted.and hapart).imp ?_
  rintro f g ⟨hle, hne⟩
  exact Finding.before_of_atOrBefore hle hne

lemma mem_sortBy (le : Finding → Finding → Bool) (fs : List Finding) (f : Finding) :
    f ∈ sortBy le fs ↔ f ∈ fs := by
  rw [sortBy_eq_insertionSort]
  exact List.mem_insertionSort _

/-- The finding replaces the list at the place by the form that it should have. -/
structure Reports (c : Checker ε) (t : Text) (s : Span) (f : Finding) : Prop where
  place : s ∈ c.places t
  nonempty : s.text t ≠ []
  form : c.formatter.format (s.text t) = .ok (some f.replacement)
  formNonempty : f.replacement ≠ []
  finding : f = findingAt t (.ofText t) s f.replacement

namespace Reports

variable {c : Checker ε} {t : Text} {s : Span} {f : Finding}

lemma start (h : c.Reports t s f) : f.start = s.start := congrArg Finding.start h.finding

lemma stop (h : c.Reports t s f) : f.stop = s.stop := congrArg Finding.stop h.finding

lemma original (h : c.Reports t s f) : f.original = s.text t := congrArg Finding.original h.finding

lemma span_eq {s' : Span} (h : c.Reports t s f) (hstart : f.start = s'.start)
    (hstop : f.stop = s'.stop) : s = s' := by
  rw [h.start, Int.natCast_inj] at hstart
  rw [h.stop, Int.natCast_inj] at hstop
  cases s
  cases s'
  simp_all

lemma unique {s' : Span} {g : Finding} (hf : c.Reports t s f) (hg : c.Reports t s' g)
    (h : f.SamePlace g) : f = g := by
  obtain rfl : s = s' := hf.span_eq (h.1.trans hg.start) (h.2.trans hg.stop)
  have hform : f.replacement = g.replacement := by
    have hh := hf.form.symm.trans hg.form
    simpa using hh
  rw [hf.finding, hg.finding, hform]

end Reports

def findingOf? (t : Text) (s : Span) : Option Text → Option Finding
  | none => none
  | some new =>
    if new = [] ∨ new = s.text t then none else some (findingAt t (.ofText t) s new)

lemma assess_eq (c : Checker ε) (t : Text) (s : Span) :
    c.assess t (.ofText t) s = (c.formatter.format (s.text t)).map (findingOf? t s) := by
  unfold assess
  congr 1
  funext new
  cases new <;> simp [findingOf?]

lemma check_eq_ok {c : Checker ε} {form : Text → Option Text}
    (h : ∀ raw, c.formatter.format raw = .ok (form raw)) (t : Text) :
    c.check t = .ok ⟨(c.candidates t).length, sortBy Finding.atOrBefore
      (firstOfEach ((c.candidates t).filterMap fun s => findingOf? t s (form (s.text t))))⟩ := by
  have hassess : c.assess t (.ofText t) = fun s => pure (findingOf? t s (form (s.text t))) := by
    funext s
    rw [assess_eq, h]
    rfl
  have hall : (c.candidates t).mapM (c.assess t (.ofText t)) =
      .ok ((c.candidates t).map fun s => findingOf? t s (form (s.text t))) := by
    rw [hassess, List.mapM_pure]
    rfl
  rw [check, discoveries, hall]
  simp [Except.map, List.filterMap_map]

lemma findingOf_eq_some_iff {c : Checker ε} {form : Text → Option Text}
    (h : ∀ raw, c.formatter.format raw = .ok (form raw)) (t : Text) (f : Finding) :
    (∃ s ∈ c.candidates t, findingOf? t s (form (s.text t)) = some f) ↔ ∃ s, c.Reports t s f := by
  constructor
  · rintro ⟨s, hs, hf⟩
    rw [candidates_eq_filter, List.mem_filter, decide_eq_true_iff] at hs
    cases hnew : form (s.text t) with
    | none => simp [hnew, findingOf?] at hf
    | some new =>
      simp only [hnew, findingOf?, Option.ite_none_left_eq_some, Option.some.injEq] at hf
      obtain ⟨hne, rfl⟩ := hf
      refine ⟨s, hs.1, hs.2, ?_, fun hnil => hne (Or.inl hnil), rfl⟩
      rw [h, hnew]
      rfl
  · rintro ⟨s, hs⟩
    have hform : form (s.text t) = some f.replacement := Except.ok.inj ((h _).symm.trans hs.form)
    have hne : ¬ (f.replacement = [] ∨ f.replacement = s.text t) := by
      rintro (hnil | heq)
      · exact hs.formNonempty hnil
      · exact Formatter.format_ne hs.form heq
    refine ⟨s, ?_, ?_⟩
    · rw [candidates_eq_filter, List.mem_filter, decide_eq_true_iff]
      exact ⟨hs.place, hs.nonempty⟩
    · rw [hform, findingOf?, if_neg hne, ← hs.finding]

lemma check_spec {c : Checker ε} (hr : ∀ t, ∃ s, c.formatter.resolve t = .ok s) (t : Text) :
    ∃ checked, c.check t = .ok checked ∧ checked.candidates = (c.candidates t).length ∧
      (∀ f, f ∈ checked.findings ↔ ∃ s, c.Reports t s f) ∧
      checked.findings.Pairwise Finding.Before := by
  choose form hform using Formatter.format_total hr
  refine ⟨_, check_eq_ok hform t, rfl, ?_, sortBy_pairwise_before (firstOfEach_pairwise _)⟩
  intro f
  have hmem : ∀ g, g ∈ (c.candidates t).filterMap (fun s => findingOf? t s (form (s.text t))) ↔
      ∃ s, c.Reports t s g := by
    intro g
    rw [List.mem_filterMap, findingOf_eq_some_iff hform]
  rw [mem_sortBy, mem_firstOfEach, hmem]
  intro g hg g' hg' hsame
  obtain ⟨s, hs⟩ := (hmem g).mp hg
  obtain ⟨s', hs'⟩ := (hmem g').mp hg'
  exact hs.unique hs' hsame

lemma ofOptions_eq_ok {o : LintOptions} {resolve : Resolver ε} {c : Checker ε}
    (h : ofOptions o resolve = .ok c) :
    Formatter.ofGroups o.groups resolve = .ok c.formatter ∧
      Locator.compileAll o.locators = .ok c.locators ∧ c.attributes = o.attributes := by
  unfold ofOptions at h
  obtain ⟨f, hf, h⟩ := bind_eq_ok_iff.mp h
  obtain ⟨ls, hls, h⟩ := bind_eq_ok_iff.mp h
  obtain rfl := Except.ok.inj h
  exact ⟨hf, hls, rfl⟩

lemma resolve_ofGroups {groups : List GroupDefinition} {resolve : Resolver ε} {f : Formatter ε}
    (h : Formatter.ofGroups groups resolve = .ok f) : f.resolve = resolve := by
  unfold Formatter.ofGroups at h
  split at h
  · rw [← Except.ok.inj h]
  · obtain ⟨registry, -, rfl⟩ := map_eq_ok_iff.mp h
    rfl

/-- Of the places of a text, each one whose list is not empty and has another form that is not empty
has one finding; the findings stand in order, and there are no others. -/
theorem check_findings_exact (o : LintOptions) (resolve : Resolver ε) (c : Checker ε)
    (hc : ofOptions o resolve = .ok c) (hr : ∀ t, ∃ s, resolve t = .ok s)
    (path : Option String) (t : Text) :
    ∃ checked, c.check t = .ok checked ∧
      (∀ s : Span, (∃! f, f ∈ checked.findings ∧ f.start = s.start ∧ f.stop = s.stop) ↔
        s ∈ c.places t ∧ s.text t ≠ [] ∧
          ∃ new, c.formatter.format (s.text t) = .ok (some new) ∧ new ≠ []) ∧
      (∀ f ∈ checked.findings, ∃ s ∈ c.places t, f.start = s.start ∧ f.stop = s.stop ∧
        f.original = s.text t ∧ c.formatter.format f.original = .ok (some f.replacement) ∧
        f.replacement ≠ f.original ∧ collapse f.replacement = f.replacement) ∧
      checked.findings.Pairwise Finding.Before ∧
      (LintResult.ofChecked path checked).findings = checked.findings ∧
      (LintResult.ofChecked path checked).counts =
        LintResult.countFields ((c.places t).countP fun s => s.text t ≠ [])
          checked.findings.length := by
  rw [← resolve_ofGroups (ofOptions_eq_ok hc).1] at hr
  obtain ⟨checked, hcheck, hcount, hmem, hsorted⟩ := check_spec hr t
  refine ⟨checked, hcheck, ?_, ?_, hsorted, rfl, ?_⟩
  · intro s
    constructor
    · rintro ⟨f, ⟨hf, hstart, hstop⟩, _⟩
      obtain ⟨s', hs⟩ := (hmem f).mp hf
      obtain rfl : s' = s := hs.span_eq hstart hstop
      exact ⟨hs.place, hs.nonempty, f.replacement, hs.form, hs.formNonempty⟩
    · rintro ⟨hplace, hne, new, hform, hnew⟩
      have hs : c.Reports t s (findingAt t (.ofText t) s new) := ⟨hplace, hne, hform, hnew, rfl⟩
      refine ⟨_, ⟨(hmem _).mpr ⟨s, hs⟩, rfl, rfl⟩, ?_⟩
      rintro f ⟨hf, hstart, hstop⟩
      obtain ⟨s', hs'⟩ := (hmem f).mp hf
      exact hs'.unique hs ⟨hstart, hstop⟩
  · intro f hf
    obtain ⟨s, hs⟩ := (hmem f).mp hf
    refine ⟨s, hs.place, hs.start, hs.stop, hs.original, ?_, ?_, Formatter.collapse_format hs.form⟩
    · rw [hs.original]
      exact hs.form
    · rw [hs.original]
      exact Formatter.format_ne hs.form
  · rw [LintResult.ofChecked, hcount, candidates_eq_filter, List.countP_eq_length_filter]

theorem check_findings_exact_overlapping :
    let o : LintOptions := ⟨some [⟨"cn\\(", none⟩], [.group "margin" ["^m-"]], true, false⟩
    let keep : Resolver Empty := fun t => .ok t
    let t : Text := "class=\"b cn('a m-1')\"".toList
    ∃ c, ofOptions o keep = .ok c ∧ (∀ t, ∃ s, keep t = .ok s) ∧ ∃ checked, c.check t = .ok checked ∧
      (checked.findings.map fun f => (f.start, f.stop)) = [(7, 20), (13, 18)] ∧
      checked.findings.Pairwise Finding.Before := by
  intro o keep t
  have hplaces : ((ofOptions o keep).toOption.bind fun c => (c.check t).toOption.map fun checked =>
      checked.findings.map fun f => (f.start, f.stop)) = some [(7, 20), (13, 18)] := by decide
  have hkeep : ∀ t, ∃ s, keep t = .ok s := fun t => ⟨t, rfl⟩
  cases hc : ofOptions o keep with
  | error e =>
    rw [hc] at hplaces
    cases hplaces
  | ok c =>
    obtain ⟨checked, hcheck, _, _, hsorted, _⟩ := check_findings_exact o keep c hc hkeep none t
    rw [hc] at hplaces
    refine ⟨c, rfl, hkeep, checked, hcheck, ?_, hsorted⟩
    simpa [Except.toOption, hcheck] using hplaces

end Checker

end ClassTidy
