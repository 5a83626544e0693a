import ClassTidy.Command.Format
import ClassTidy.Proofs.TreeShape
import ClassTidy.Proofs.Visits

/-! When a document that options are read from stops a command. -/

namespace ClassTidy

open Fallible

def Json.IsObject (v : Json) : Prop := ∃ fields, v = .object fields

def ShapeError.IsReported (e : ShapeError) : Prop := (Command.Failure.shape e).isReported = true

lemma ShapeError.not_isReported_noFields (kind : String) : ¬ (noFields kind).IsReported := by
  simp [IsReported, Command.Failure.isReported]

lemma ShapeError.isReported_iff_not {α : Type} {read : Except ShapeError α} {e : ShapeError} {fieldless : Prop}
    (hstops : fieldless → ∃ kind, read = .error (.noFields kind))
    (hreports : read = .error e → e.IsReported ∨ fieldless) (h : read = .error e) :
    e.IsReported ↔ ¬ fieldless := by
  refine ⟨?_, (hreports h).resolve_right⟩
  intro he hfieldless
  obtain ⟨kind, hkind⟩ := hstops hfieldless
  cases h.symm.trans hkind
  exact not_isReported_noFields kind he

lemma Json.fields_of_not_isObject {v : Json} (h : ¬ v.IsObject) :
    v.fields = .error (.noFields v.kindName) := by
  cases v with
  | object fields => exact absurd ⟨fields, rfl⟩ h
  | _ => rfl

/-! ### Group definitions -/

namespace GroupDefinition

variable {v : Json} {e : ShapeError} {items : List Json}

def IsRecord (v : Json) : Prop :=
  ∃ fields matchers, v = .object fields ∧ fields.lookup "matchers" = some (.list matchers)

lemma ofJson_of_isRecord (h : IsRecord v) : ∃ d, ofJson v = .ok d := by
  obtain ⟨fields, matchers, rfl, hm⟩ := h
  simp [ofJson, Json.field?, Json.fields, hm, Except.map, bind, Except.bind, pure, Except.pure]

lemma ofJson_of_not_isObject (h : ¬ v.IsObject) : ofJson v = .error (.noFields v.kindName) := by
  simp [ofJson, Json.field?, Json.fields_of_not_isObject h, Except.map, bind, Except.bind]

lemma ofJson_of_not_isRecord (hobject : v.IsObject) (h : ¬ IsRecord v) :
    ofJson v = .error .matchersNotList := by
  obtain ⟨fields, rfl⟩ := hobject
  simp only [ofJson, Json.field?, Json.fields, Except.map, bind, Except.bind]
  split
  · rename_i matchers hm
    exact absurd ⟨fields, matchers, rfl, hm⟩ h
  · rfl

lemma exists_ofJson_iff : (∃ d, ofJson v = .ok d) ↔ IsRecord v := by
  refine ⟨?_, ofJson_of_isRecord⟩
  rintro ⟨d, hd⟩
  by_contra h
  by_cases hobject : v.IsObject
  · simp [ofJson_of_not_isRecord hobject h] at hd
  · simp [ofJson_of_not_isObject hobject] at hd

lemma isReported_iff (h : ofJson v = .error e) : e.IsReported ↔ v.IsObject := by
  by_cases hobject : v.IsObject
  · have hrecord : ¬ IsRecord v := by
      intro hv
      obtain ⟨d, hd⟩ := ofJson_of_isRecord hv
      simp [h] at hd
    obtain rfl : e = .matchersNotList :=
      Except.error.inj (h.symm.trans (ofJson_of_not_isRecord hobject hrecord))
    exact iff_of_true rfl hobject
  · obtain rfl := Except.error.inj (h.symm.trans (ofJson_of_not_isObject hobject))
    exact iff_of_false (ShapeError.not_isReported_noFields _) hobject

/-- The first of the items that is no group definition has no fields at all. -/
def Fieldless (items : List Json) : Prop :=
  ∃ front v back, items = front ++ v :: back ∧ (∀ w ∈ front, IsRecord w) ∧ ¬ v.IsObject

lemma Fieldless.ne_nil (h : Fieldless items) : items ≠ [] := by
  obtain ⟨front, v, back, rfl, -⟩ := h
  simp

lemma mapM_ofJson_of_fieldless (h : Fieldless items) :
    ∃ kind, items.mapM ofJson = .error (.noFields kind) := by
  obtain ⟨front, v, back, rfl, hfront, hv⟩ := h
  exact ⟨_, mapM_eq_error_iff.mpr ⟨front, v, back, rfl, fun w hw => ofJson_of_isRecord (hfront w hw),
    ofJson_of_not_isObject hv⟩⟩

lemma isReported_or_fieldless (h : items.mapM ofJson = .error e) : e.IsReported ∨ Fieldless items := by
  obtain ⟨front, v, back, rfl, hfront, hv⟩ := mapM_eq_error_iff.mp h
  by_cases hobject : v.IsObject
  · exact Or.inl ((isReported_iff hv).mpr hobject)
  · exact Or.inr ⟨front, v, back, rfl, fun w hw => exists_ofJson_iff.mp (hfront w hw), hobject⟩

end GroupDefinition

/-! ### Options -/

def LocatorEntry.IsRecord (v : Json) : Prop :=
  (∃ outer, v = .str outer) ∨ ∃ outer inner, v = .list [.str outer, .str inner]

lemma LocatorEntry.exists_ofJson_iff {v : Json} : (∃ d, ofJson v = .ok d) ↔ IsRecord v := by
  unfold ofJson ofJson? IsRecord
  constructor
  · rintro ⟨d, hd⟩
    split at hd
    · rename_i entry hentry
      split at hentry
      · exact Or.inl ⟨_, rfl⟩
      · exact Or.inr ⟨_, _, rfl⟩
      · cases hentry
    · cases hd
  · rintro (⟨outer, rfl⟩ | ⟨outer, inner, rfl⟩)
    · exact ⟨_, rfl⟩
    · exact ⟨_, rfl⟩

lemma LocatorEntry.isReported {v : Json} {e : ShapeError} (h : ofJson v = .error e) : e.IsReported := by
  unfold ofJson at h
  split at h
  · cases h
  · cases h
    rfl

namespace LintOptions

variable {raw : Option Json} {e : ShapeError}

lemma groupItems_list (items : List Json) : groupItems (some (.list items)) = .ok items := by
  cases items <;> simp [groupItems, Json.orElse, Json.isTruthy]

lemma eq_of_groupItems {items : List Json} (h : groupItems raw = .ok items) (hne : items ≠ []) :
    raw = some (.list items) := by
  unfold groupItems at h
  split at h
  · rename_i items' hitems
    cases h
    unfold Json.orElse at hitems
    split at hitems
    · split at hitems
      · rw [hitems]
      · exact absurd (Json.list.inj hitems).symm hne
    · exact absurd (Json.list.inj hitems).symm hne
  · cases h

lemma isReported_of_groupItems (h : groupItems raw = .error e) : e.IsReported := by
  unfold groupItems at h
  split at h
  · cases h
  · cases h
    rfl

lemma isReported_of_locatorItems (h : locatorItems raw = .error e) : e.IsReported := by
  unfold locatorItems at h
  split at h <;> cases h
  rfl

lemma unknownKeys_eq_nil_iff {fields : List (String × Json)} :
    unknownKeys fields = [] ↔ ∀ f ∈ fields, f.1 ∈ knownKeys := by
  rw [unknownKeys, sortBy_eq_insertionSort, ← List.length_eq_zero_iff, List.length_insertionSort,
    List.length_eq_zero_iff]
  simp

def HasLocators (fields : List (String × Json)) : Prop :=
  ∀ v, fields.lookup "classRegex" = some v →
    v = .null ∨ ∃ entries, v = .list entries ∧ ∀ w ∈ entries, LocatorEntry.IsRecord w

lemma isReported_of_mapM {entries : Option (List Json)}
    (h : entries.mapM (fun items => items.mapM LocatorEntry.ofJson) = .error e) : e.IsReported := by
  cases entries with
  | none => cases h
  | some items =>
    obtain ⟨front, v, back, -, -, hv⟩ := mapM_eq_error_iff.mp (map_eq_error_iff.mp h)
    exact LocatorEntry.isReported hv

lemma mapM_list_eq_ok_iff {items : List Json} :
    (∃ locators, (some items).mapM (fun items => items.mapM LocatorEntry.ofJson) = .ok locators) ↔
      ∀ w ∈ items, LocatorEntry.IsRecord w := by
  simp only [← LocatorEntry.exists_ofJson_iff]
  rw [← exists_mapM_eq_ok_iff]
  constructor
  · rintro ⟨locators, h⟩
    obtain ⟨found, hfound, -⟩ := map_eq_ok_iff.mp h
    exact ⟨found, hfound⟩
  · rintro ⟨found, hfound⟩
    exact ⟨some found, map_eq_ok_iff.mpr ⟨found, hfound, rfl⟩⟩

lemma hasLocators_iff {fields : List (String × Json)} : HasLocators fields ↔
    ∃ entries, locatorItems (fields.lookup "classRegex") = .ok entries ∧
      ∃ locators, entries.mapM (fun items => items.mapM LocatorEntry.ofJson) = .ok locators := by
  unfold HasLocators
  match hraw : fields.lookup "classRegex" with
  | none => exact iff_of_true nofun ⟨none, rfl, none, rfl⟩
  | some .null => exact iff_of_true (fun v hv => Or.inl (Option.some.inj hv).symm) ⟨none, rfl, none, rfl⟩
  | some (.list items) =>
    simp only [locatorItems, Except.ok.injEq, exists_eq_left', mapM_list_eq_ok_iff]
    simp
  | some (.bool _) | some (.int _) | some (.float _) | some (.str _) | some (.object _) =>
    simp [locatorItems]

/-- The options are fine up to the groups, of which the first one that is no group definition has no
fields at all. -/
def Fieldless (doc : Json) : Prop :=
  ∃ fields items, doc = .object fields ∧ (∀ f ∈ fields, f.1 ∈ knownKeys) ∧ HasLocators fields ∧
    fields.lookup "groupDefinitions" = some (.list items) ∧ GroupDefinition.Fieldless items

lemma ofJson_of_fieldless {doc : Json} (h : Fieldless doc) :
    ∃ kind, ofJson doc = .error (.noFields kind) := by
  obtain ⟨fields, items, rfl, hkeys, hlocators, hgroups, hitems⟩ := h
  obtain ⟨entries, hentries, locators, hread⟩ := hasLocators_iff.mp hlocators
  obtain ⟨kind, hkind⟩ := GroupDefinition.mapM_ofJson_of_fieldless hitems
  refine ⟨kind, ?_⟩
  simp only [ofJson, ofFields, unknownKeys_eq_nil_iff.mpr hkeys, hgroups, groupItems_list]
  simp only [hentries, hread, hkind, bind, Except.bind]
  rfl

lemma isReported_or_fieldless {doc : Json} (h : ofJson doc = .error e) : e.IsReported ∨ Fieldless doc := by
  cases doc with
  | object fields =>
    unfold ofJson ofFields at h
    simp only at h
    split at h
    · cases h
      exact Or.inl rfl
    · rename_i hkeys
      simp only [bind_eq_error_iff] at h
      rcases h with h | ⟨entries, hentries, h | ⟨items, hitems, h | ⟨locators, hlocators, h | h⟩⟩⟩
      · exact Or.inl (isReported_of_locatorItems h)
      · exact Or.inl (isReported_of_groupItems h)
      · exact Or.inl (isReported_of_mapM h)
      · refine (GroupDefinition.isReported_or_fieldless h).imp_right ?_
        intro hfieldless
        have hknown : unknownKeys fields = [] := by simpa using hkeys
        exact ⟨fields, items, rfl, unknownKeys_eq_nil_iff.mp hknown,
          hasLocators_iff.mpr ⟨entries, hentries, locators, hlocators⟩,
          eq_of_groupItems hitems hfieldless.ne_nil, hfieldless⟩
      · obtain ⟨groups, -, h⟩ := h
        cases h
  | _ =>
    cases h
    exact Or.inl rfl

lemma isReported_iff {doc : Json} (h : ofJson doc = .error e) : e.IsReported ↔ ¬ Fieldless doc :=
  ShapeError.isReported_iff_not ofJson_of_fieldless isReported_or_fieldless h

end LintOptions

namespace FormatOptions

variable {e : ShapeError}

/-- There are no fields, or the first of the groups that is no group definition has none. -/
def Fieldless (doc : Json) : Prop :=
  ¬ doc.IsObject ∨ ∃ fields items, doc = .object fields ∧
    (fields.lookup "groupDefinitions").or (fields.lookup "group_definitions") = some (.list items) ∧
    GroupDefinition.Fieldless items

lemma listOfJson_eq_bind (raw : Option Json) :
    GroupDefinition.listOfJson raw =
      LintOptions.groupItems raw >>= fun items => items.mapM GroupDefinition.ofJson := by
  unfold GroupDefinition.listOfJson LintOptions.groupItems
  cases Json.orElse raw (.list []) <;> rfl

lemma ofJson_of_fieldless {doc : Json} (h : Fieldless doc) :
    ∃ kind, ofJson doc = .error (.noFields kind) := by
  rcases h with hdoc | ⟨fields, items, rfl, hgroups, hitems⟩
  · exact ⟨doc.kindName, by simp [ofJson, Json.fields_of_not_isObject hdoc, bind, Except.bind]⟩
  · obtain ⟨kind, hkind⟩ := GroupDefinition.mapM_ofJson_of_fieldless hitems
    refine ⟨kind, ?_⟩
    simp only [ofJson, Json.fields, hgroups, listOfJson_eq_bind, LintOptions.groupItems_list, hkind, bind,
      Except.bind]

lemma isReported_or_fieldless {doc : Json} (h : ofJson doc = .error e) : e.IsReported ∨ Fieldless doc := by
  by_cases hdoc : doc.IsObject
  · obtain ⟨fields, rfl⟩ := hdoc
    simp only [ofJson, Json.fields, listOfJson_eq_bind, bind_eq_error_iff] at h
    rcases h with h | ⟨_, hfields, (h | ⟨items, hitems, h⟩) | ⟨groups, -, h⟩⟩
    · cases h
    · exact Or.inl (LintOptions.isReported_of_groupItems h)
    · cases hfields
      refine (GroupDefinition.isReported_or_fieldless h).imp_right ?_
      intro hfieldless
      exact Or.inr ⟨fields, items, rfl, LintOptions.eq_of_groupItems hitems hfieldless.ne_nil, hfieldless⟩
    · cases h
  · exact Or.inr (Or.inl hdoc)

lemma isReported_iff {doc : Json} (h : ofJson doc = .error e) : e.IsReported ↔ ¬ Fieldless doc :=
  ShapeError.isReported_iff_not ofJson_of_fieldless isReported_or_fieldless h

end FormatOptions

/-! ### Commands -/

namespace Command

variable {f : Failure} {tree : Tree} {out : Outcome}

namespace Format

variable {arguments : List String} {a : Arguments} {env : Environment} {doc : Json}

end Format

namespace Lint

variable {arguments : List String} {a : Arguments} {env : Environment} {doc : Json} {o : LintOptions}

def checks (o : LintOptions) (a : Arguments) (env : Environment) : Run :=
  checkAll o (a.has "--fix") env.tree (a.positionals.map Path.ofString)

lemma reportTo_checks (hreport : ∀ rs, ∃ tree, reportTo env.tree (a.value? "--out") rs = .ok tree) :
    ∃ tree, reportTo (checks o a env).tree (a.value? "--out") (checks o a env).results = .ok tree := by
  obtain ⟨front, -, hvisits⟩ := FileCheck.visits_runAll o (.default : Resolver Empty) (a.has "--fix")
    env.tree (a.positionals.map Path.ofString)
  -- Repairs change what files hold but not which files there are, so the report can still be written.
  obtain ⟨hkinds, -, hlocked, -⟩ := hvisits.frame
  rw [FileCheck.checkAll_eq_runAll] at hkinds hlocked
  have hok := reportTo_isOk ⟨hkinds, hlocked⟩ (a.value? "--out") (checks o a env).results
  rw [exists_eq_ok_iff.mp (hreport _)] at hok
  exact exists_eq_ok_iff.mpr hok

def logLines (o : LintOptions) (a : Arguments) (env : Environment) : List String :=
  if a.has "--debug" || o.debug then (checks o a env).log.map LogRecord.line else []

end Lint

end Command

end ClassTidy
