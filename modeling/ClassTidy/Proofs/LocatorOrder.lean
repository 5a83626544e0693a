import ClassTidy.Proofs.Checking
import ClassTidy.Proofs.Fallible
import Mathlib

/-! Neither the order of locators nor repeating them matters. -/

namespace ClassTidy

open Fallible

namespace Locator

variable {es es' again : List LocatorEntry} {ls extra : List Locator}

lemma exists_compile_of_perm (h : es'.Perm es) (hls : es.mapM compile = .ok ls) :
    ∃ ls', es'.mapM compile = .ok ls' ∧ ls'.Perm ls := by
  obtain ⟨ls', hls', hperm⟩ := List.perm_comp_forall₂ h (mapM_eq_ok_iff.mp hls)
  exact ⟨ls', mapM_eq_ok_iff.mpr hls', hperm⟩

lemma exists_compile_of_subset (h : again ⊆ es) (hls : es.mapM compile = .ok ls) :
    ∃ extra, again.mapM compile = .ok extra ∧ extra ⊆ ls := by
  have hall := exists_mapM_eq_ok_iff.mp ⟨ls, hls⟩
  obtain ⟨extra, hextra⟩ := exists_mapM_eq_ok_iff.mpr fun e he => hall e (h he)
  refine ⟨extra, hextra, ?_⟩
  intro l hl
  obtain ⟨e, he, hel⟩ := exists_of_mem_mapM hextra hl
  exact mem_of_mapM hls (h he) hel

lemma exists_compile_again (hagain : again ⊆ es) (h : es'.Perm (es ++ again))
    (hls : es.mapM compile = .ok ls) : ∃ ls' extra, es'.mapM compile = .ok ls' ∧
      again.mapM compile = .ok extra ∧ extra ⊆ ls ∧ ls'.Perm (ls ++ extra) := by
  obtain ⟨extra, hextra, hsub⟩ := exists_compile_of_subset hagain hls
  have hboth : (es ++ again).mapM compile = .ok (ls ++ extra) := by
    rw [mapM_eq_ok_iff] at hls hextra ⊢
    exact List.rel_append hls hextra
  obtain ⟨ls', hls', hperm⟩ := exists_compile_of_perm h hboth
  exact ⟨ls', extra, hls', hextra, hsub, hperm⟩

end Locator

namespace Checker

variable {ε : Type} {c : Checker ε} {ls extra : List Locator} {t : Text}

def countLists (ls : List Locator) (t : Text) : Nat :=
  (ls.flatMap fun l => l.spans t).countP fun s => s.text t ≠ []

lemma mem_places_of_perm (hsub : extra ⊆ c.locators) (h : ls.Perm (c.locators ++ extra)) (s : Span) :
    s ∈ ({ c with locators := ls } : Checker ε).places t ↔ s ∈ c.places t := by
  have hls : ∀ l, l ∈ ls ↔ l ∈ c.locators := by
    intro l
    rw [h.mem_iff, List.mem_append]
    exact or_iff_left_of_imp fun hl => hsub hl
  simp only [places, List.mem_append, List.mem_flatMap, hls]

lemma length_candidates_of_perm (h : ls.Perm (c.locators ++ extra)) :
    (({ c with locators := ls } : Checker ε).candidates t).length =
      (c.candidates t).length + countLists extra t := by
  have hperm := (h.flatMap_right fun l => l.spans t).countP_eq fun s => decide (s.text t ≠ [])
  rw [List.flatMap_append, List.countP_append] at hperm
  simp only [candidates_eq_filter, ← List.countP_eq_length_filter, places, List.countP_append, countLists]
  omega

lemma reports_of_perm (hsub : extra ⊆ c.locators) (h : ls.Perm (c.locators ++ extra)) (s : Span) (f : Finding) :
    ({ c with locators := ls } : Checker ε).Reports t s f ↔ c.Reports t s f := by
  have hplace := mem_places_of_perm (t := t) hsub h s
  constructor
  · intro hs
    exact ⟨hplace.mp hs.place, hs.nonempty, hs.form, hs.formNonempty, hs.finding⟩
  · intro hs
    exact ⟨hplace.mpr hs.place, hs.nonempty, hs.form, hs.formNonempty, hs.finding⟩

lemma check_of_perm (hr : ∀ t, ∃ s, c.formatter.resolve t = .ok s) (hsub : extra ⊆ c.locators)
    (h : ls.Perm (c.locators ++ extra)) {checked : Checked} (hcheck : c.check t = .ok checked) :
    ({ c with locators := ls } : Checker ε).check t =
      .ok ⟨checked.candidates + countLists extra t, checked.findings⟩ := by
  obtain ⟨first, hfirst, hcount, hmem, hsorted⟩ := check_spec hr t
  obtain rfl := Except.ok.inj (hcheck.symm.trans hfirst)
  obtain ⟨other, hother, hcount', hmem', hsorted'⟩ :=
    check_spec (c := { c with locators := ls }) hr t
  have hfindings : other.findings = checked.findings := by
    apply Finding.eq_of_pairwise_before hsorted' hsorted
    intro f
    rw [hmem', hmem]
    exact exists_congr fun s => reports_of_perm hsub h s f
  rw [length_candidates_of_perm h, ← hcount] at hcount'
  rw [hother, ← hfindings, ← hcount']

lemma ofOptions_of_compile {o : LintOptions} {resolve : Resolver ε} (hc : ofOptions o resolve = .ok c)
    {es : List LocatorEntry} (hls : es.mapM Locator.compile = .ok ls) :
    ofOptions { o with locators := some es } resolve = .ok { c with locators := ls } := by
  obtain ⟨hformatter, -, hattributes⟩ := ofOptions_eq_ok hc
  have hall : Locator.compileAll (some es) = .ok ls := hls
  simp only [ofOptions, hformatter, hall, bind, Except.bind, pure, Except.pure, hattributes]

/-- Listing the locators in another order changes nothing in the result of a check. Listing some of them
again, anywhere and any number of times, changes the number of lists that were looked at, to which it
adds those of the entries that are listed again. -/
theorem result_ignores_listing (o : LintOptions) (resolve : Resolver ε) (c : Checker ε)
    (hc : ofOptions o resolve = .ok c) (hr : ∀ t, ∃ s, resolve t = .ok s) (path : Option String) (t : Text) :
    let entries := o.locators.getD LocatorEntry.defaults
    ∃ checked, c.check t = .ok checked ∧
      (∀ es, es.Perm entries → ∃ c', ofOptions { o with locators := some es } resolve = .ok c' ∧
        (c'.check t).map (LintResult.ofChecked path) = .ok (LintResult.ofChecked path checked)) ∧
      ∀ es again, again ⊆ entries → es.Perm (entries ++ again) →
        ∃ c' extra, ofOptions { o with locators := some es } resolve = .ok c' ∧
          Locator.compileAll (some again) = .ok extra ∧
          (c'.check t).map (LintResult.ofChecked path) =
            .ok { LintResult.ofChecked path checked with
              counts := LintResult.countFields (checked.candidates + countLists extra t)
                checked.findings.length } := by
  intro entries
  obtain ⟨hformatter, hls, -⟩ := ofOptions_eq_ok hc
  rw [← resolve_ofGroups hformatter] at hr
  obtain ⟨checked, hcheck, -⟩ := check_spec hr t
  refine ⟨checked, hcheck, ?_, ?_⟩
  · intro es hperm
    obtain ⟨ls, hes, hlocators⟩ := Locator.exists_compile_of_perm hperm hls
    refine ⟨_, ofOptions_of_compile hc hes, ?_⟩
    rw [check_of_perm hr (List.nil_subset _) (by simpa using hlocators) hcheck]
    rfl
  · intro es again hagain hperm
    obtain ⟨ls, extra, hes, hextra, hsub, hlocators⟩ := Locator.exists_compile_again hagain hperm hls
    refine ⟨_, extra, ofOptions_of_compile hc hes, hextra, ?_⟩
    rw [check_of_perm hr hsub hlocators hcheck]
    rfl

-- both entries lead to the list in the call, and one of them is listed twice in the end
theorem result_ignores_listing_nested :
    let long : LocatorEntry := ⟨"cn\\(", none⟩
    let short : LocatorEntry := ⟨"n\\(", none⟩
    let o : LintOptions := ⟨some [long, short], [.group "margin" ["^m-"]], true, false⟩
    let keep : Resolver Empty := fun t => .ok t
    let t : Text := "class=\"b cn('a m-1')\"".toList
    ∃ c, ofOptions o keep = .ok c ∧ (∀ t, ∃ s, keep t = .ok s) ∧ ∃ checked, c.check t = .ok checked ∧
      checked.candidates = 3 ∧ checked.findings.map (fun f => (f.start, f.stop)) = [(7, 20), (13, 18)] ∧
      (∃ c', ofOptions { o with locators := some [short, long] } keep = .ok c' ∧
        (c'.check t).map (LintResult.ofChecked none) = .ok (LintResult.ofChecked none checked)) ∧
      ∃ c', ofOptions { o with locators := some [short, long, short] } keep = .ok c' ∧
        (c'.check t).map (LintResult.ofChecked none) =
          .ok { LintResult.ofChecked none checked with
            counts := LintResult.countFields 4 checked.findings.length } := by
  intro long short o keep t
  have hchecked : ((ofOptions o keep).toOption.bind fun c => (c.check t).toOption.map fun checked =>
      (checked.candidates, checked.findings.map fun f => (f.start, f.stop))) =
        some (3, [(7, 20), (13, 18)]) := by decide +kernel
  have hlists : ((Locator.compileAll (some [short])).toOption.map fun extra => countLists extra t) = some 1 := by
    decide +kernel
  have hkeep : ∀ t, ∃ s, keep t = .ok s := fun t => ⟨t, rfl⟩
  cases hc : ofOptions o keep with
  | error e =>
    rw [hc] at hchecked
    cases hchecked
  | ok c =>
    obtain ⟨checked, hcheck, horder, hagain⟩ := result_ignores_listing o keep c hc hkeep none t
    obtain ⟨hcount, hplaces⟩ : checked.candidates = 3 ∧ _ := by
      simpa [hc, hcheck, Except.toOption] using hchecked
    obtain ⟨c', extra, hc', hextra, hresult⟩ := hagain [short, long, short] [short] (by decide) (by decide)
    have hone : countLists extra t = 1 := by simpa [hextra, Except.toOption] using hlists
    rw [hcount, hone] at hresult
    exact ⟨c, rfl, hkeep, checked, hcheck, hcount, hplaces, horder [short, long] (by decide), c', hc', hresult⟩

end Checker

end ClassTidy
