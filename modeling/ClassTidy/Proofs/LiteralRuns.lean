import ClassTidy.Proofs.QuotedRuns

/-! Where the runs that a default locator finds in a region are the literals of the region. -/

namespace ClassTidy

open Source

lemma Span.drop_shift (s : Span) (u t : Text) :
    (u ++ t).drop ((s.shift u.length).stop + 1) = t.drop (s.stop + 1) := by
  rw [Span.shift, Nat.add_right_comm, Nat.add_comm, List.drop_length_add_append]

namespace Locator

/-- Of a literal, given by what it holds and what follows it, nothing is taken for a run, and no run is
opened by the quote that closes it. -/
def PassedOver (v rest : Text) : Prop :=
  (∀ c ∈ v, isQuote c = true) ∧ (QuoteFree rest ∨ rest.head?.any isQuote = true)

instance (v rest : Text) : Decidable (PassedOver v rest) :=
  @instDecidableAnd _ _ (List.decidableBAll (fun c => isQuote c = true) v) inferInstance

section Literals

variable {q : Char} {v u : Text} {P : Text → Text → Prop}

lemma forall_literals_code {c : Char} (hc : isQuote c = false) :
    (∀ lit ∈ literals (c :: u), P (lit.text (c :: u)) ((c :: u).drop (lit.stop + 1))) ↔
      ∀ lit ∈ literals u, P (lit.text u) (u.drop (lit.stop + 1)) := by
  have hshift : literals (c :: u) = (literals u).map fun s => s.shift 1 := by
    rw [literals, literalsFrom_code hc, literalsFrom_outside]
  rw [hshift, List.forall_mem_map]
  apply forall₂_congr
  intro s _
  have htext : (s.shift 1).text (c :: u) = s.text u := Span.text_shift s [c] u
  have hdrop : (c :: u).drop ((s.shift 1).stop + 1) = u.drop (s.stop + 1) := Span.drop_shift s [c] u
  rw [htext, hdrop]

lemma forall_literals_literal (hq : isQuote q = true) (hv : IsContent q v) :
    (∀ lit ∈ literals (q :: (v ++ q :: u)),
        P (lit.text (q :: (v ++ q :: u))) ((q :: (v ++ q :: u)).drop (lit.stop + 1))) ↔
      P v u ∧ ∀ lit ∈ literals u, P (lit.text u) (u.drop (lit.stop + 1)) := by
  have hlen : (q :: (v ++ [q])).length = 0 + 1 + v.length + 1 := by
    simp
    omega
  have hsplit : q :: (v ++ q :: u) = q :: (v ++ [q]) ++ u := by simp
  have hall : literals (q :: (v ++ q :: u)) = ⟨0 + 1, 0 + 1 + v.length⟩ ::
      (literals u).map fun s => s.shift (q :: (v ++ [q])).length := by
    rw [literals, literalsFrom_literal hq hv, literalsFrom_outside (0 + 1 + v.length + 1), hlen]
  have hfirst : (⟨0 + 1, 0 + 1 + v.length⟩ : Span).text (q :: (v ++ q :: u)) = v := by
    have hmiddle := Span.text_middle [q] v (q :: u)
    simpa using hmiddle
  have hrest : (q :: (v ++ q :: u)).drop (0 + 1 + v.length + 1) = u := by
    rw [hsplit, List.drop_left' hlen]
  rw [hall, List.forall_mem_cons, List.forall_mem_map, hfirst, hrest]
  apply and_congr_right'
  apply forall₂_congr
  intro s _
  rw [hsplit, Span.text_shift, Span.drop_shift]

lemma lt_start_of_mem_literalsFrom {i : Nat} {s : Span} (h : s ∈ literalsFrom .outside i u) : i < s.start := by
  obtain ⟨before, after, hcut⟩ := List.append_of_mem h
  obtain ⟨x, q, v, rest, -, -, -, -, -, rfl, -⟩ := exists_literal hcut
  change i < i + x.length + 1
  omega

end Literals

section Runs

variable {q : Char} {v u : Text}

lemma le_start_of_mem_quotedRuns {i : Nat} {s : Span} (h : s ∈ quotedRuns none i u) : i ≤ s.start := by
  rw [quotedRuns_none] at h
  obtain ⟨s, -, rfl⟩ := List.mem_map.mp h
  exact Nat.le_add_left i s.start

lemma quotedRuns_quotes (hv : ∀ c ∈ v, isQuote c = true) (i : Nat) (t : Text) :
    quotedRuns (some i) i (v ++ t) = quotedRuns (some (i + v.length)) (i + v.length) t := by
  induction v generalizing i with
  | nil => rfl
  | cons c v ih =>
    obtain ⟨hc, hv⟩ := List.forall_mem_cons.mp hv
    rw [List.cons_append, quotedRuns_reopen hc, ih hv, List.length_cons, Nat.add_right_comm, Nat.add_assoc]

lemma quotedRuns_passedOver (hq : isQuote q = true) (h : PassedOver v u) (i : Nat) :
    quotedRuns none i (q :: (v ++ q :: u)) = quotedRuns none (i + 1 + v.length + 1) u := by
  obtain ⟨hv, hu⟩ := h
  rw [quotedRuns_quote hq, quotedRuns_quotes hv, quotedRuns_reopen hq]
  rcases hu with hu | hu
  · rw [quotedRuns_eq_nil hu, quotedRuns_eq_nil hu]
  · cases u with
    | nil => cases hu
    | cons c rest =>
      have hc : isQuote c = true := hu
      rw [quotedRuns_reopen hc, quotedRuns_quote hc]

lemma exists_run_of_not_passedOver (hq : isQuote q = true) (hrun : ¬ (v ≠ [] ∧ QuoteFree v))
    (hpass : ¬ PassedOver v u) (i : Nat) :
    ∃ s rest, quotedRuns none i (q :: (v ++ q :: u)) = s :: rest ∧ s ≠ ⟨i + 1, i + 1 + v.length⟩ ∧
      s.start ≤ i + 1 + v.length + 1 := by
  rw [quotedRuns_quote hq]
  by_cases hv : ∀ c ∈ v, isQuote c = true
  · -- the quote that closes the literal opens a run of code
    have hu : ¬ (QuoteFree u ∨ u.head?.any isQuote = true) := fun hu => hpass ⟨hv, hu⟩
    obtain ⟨hfree, hhead⟩ := not_or.mp hu
    obtain ⟨x, r, z, rfl, hx, hr⟩ := (quoteFree_or_split u).resolve_left hfree
    have hne : x ≠ [] := by
      rintro rfl
      exact hhead hr
    rw [quotedRuns_quotes hv, quotedRuns_reopen hq, quotedRuns_run hx hne hr]
    exact ⟨_, _, rfl, by simp; omega, le_rfl⟩
  · -- a run is found in the literal, behind the quotes it starts with
    obtain ⟨c, hfind⟩ : ∃ c, v.find? (fun c => !isQuote c) = some c := by
      simpa [← Option.isSome_iff_exists] using hv
    obtain ⟨hc, a, b, rfl, ha⟩ := List.find?_eq_some_iff_append.mp hfind
    have ha : ∀ d ∈ a, isQuote d = true := by simpa using ha
    rw [List.append_assoc, quotedRuns_quotes ha]
    rcases quoteFree_or_split (c :: b) with hfree | ⟨x, r, z, hsplit, hx, hr⟩
    · have hane : a ≠ [] := by
        rintro rfl
        exact hrun ⟨by simp, hfree⟩
      have hpos : 0 < a.length := List.length_pos_iff.mpr hane
      rw [quotedRuns_run hfree (by simp) hq]
      refine ⟨_, _, rfl, ?_, ?_⟩
      · simp only [ne_eq, Span.mk.injEq]
        omega
      · simp only [List.length_append]
        omega
    · have hne : x ≠ [] := by
        rintro rfl
        obtain ⟨rfl, -⟩ := List.cons.inj hsplit
        rw [hr] at hc
        cases hc
      have hlen := congrArg List.length hsplit
      rw [hsplit, List.append_assoc, List.cons_append, quotedRuns_run hx hne hr]
      simp only [List.length_append, List.length_cons] at hlen
      refine ⟨_, _, rfl, ?_, ?_⟩
      · simp only [ne_eq, Span.mk.injEq, List.length_append, List.length_cons]
        omega
      · simp only [List.length_append, List.length_cons]
        omega

lemma quotedRuns_eq_literals_iff (hu : Closed u) (i : Nat) :
    quotedRuns none i u = literalsFrom .outside i u ↔
      ∀ lit ∈ literals u, lit.text u ≠ [] ∧ QuoteFree (lit.text u) := by
  induction hu generalizing i with
  | nil => exact iff_of_true rfl (by simp [literals, literalsFrom])
  | @code c u hc _ ih =>
    rw [forall_literals_code (P := fun v _ => v ≠ [] ∧ QuoteFree v) hc, literalsFrom_code hc, ← ih (i + 1)]
    simp [quotedRuns, hc]
  | @literal q v u hq hv _ ih =>
    rw [forall_literals_literal (P := fun v _ => v ≠ [] ∧ QuoteFree v) hq hv, literalsFrom_literal hq hv,
      ← ih (i + 1 + v.length + 1)]
    by_cases hrun : v ≠ [] ∧ QuoteFree v
    · rw [quotedRuns_quote hq, quotedRuns_run hrun.2 hrun.1 hq, List.cons_inj_right]
      exact (and_iff_right hrun).symm
    · refine iff_of_false ?_ fun h => hrun h.1
      intro heq
      by_cases hpass : PassedOver v u
      · rw [quotedRuns_passedOver hq hpass] at heq
        have hmem : (⟨i + 1, i + 1 + v.length⟩ : Span) ∈ quotedRuns none (i + 1 + v.length + 1) u := by
          rw [heq]
          exact List.mem_cons_self
        have hstart := le_start_of_mem_quotedRuns hmem
        simp at hstart
        omega
      · obtain ⟨s, rest, hruns, hne, -⟩ := exists_run_of_not_passedOver hq hrun hpass i
        rw [hruns] at heq
        exact hne (List.cons.inj heq).1

lemma quotedRuns_subset_literals_iff (hu : Closed u) (i : Nat) :
    (∀ s ∈ quotedRuns none i u, s ∈ literalsFrom .outside i u) ↔
      ∀ lit ∈ literals u, (lit.text u ≠ [] ∧ QuoteFree (lit.text u)) ∨
        PassedOver (lit.text u) (u.drop (lit.stop + 1)) := by
  induction hu generalizing i with
  | nil => exact iff_of_true (by simp [quotedRuns]) (by simp [literals, literalsFrom])
  | @code c u hc _ ih =>
    rw [forall_literals_code (P := fun v rest => (v ≠ [] ∧ QuoteFree v) ∨ PassedOver v rest) hc,
      literalsFrom_code hc, ← ih (i + 1)]
    simp [quotedRuns, hc]
  | @literal q v u hq hv _ ih =>
    rw [forall_literals_literal (P := fun v rest => (v ≠ [] ∧ QuoteFree v) ∨ PassedOver v rest) hq hv,
      literalsFrom_literal hq hv, ← ih (i + 1 + v.length + 1)]
    -- runs behind the literal are not the literal
    have hlater : (∀ s ∈ quotedRuns none (i + 1 + v.length + 1) u,
          s ∈ ⟨i + 1, i + 1 + v.length⟩ :: literalsFrom .outside (i + 1 + v.length + 1) u) ↔
        ∀ s ∈ quotedRuns none (i + 1 + v.length + 1) u,
          s ∈ literalsFrom .outside (i + 1 + v.length + 1) u := by
      apply forall₂_congr
      intro s hs
      have hstart := le_start_of_mem_quotedRuns hs
      rw [List.mem_cons, or_iff_right]
      rintro rfl
      simp at hstart
      omega
    by_cases hrun : v ≠ [] ∧ QuoteFree v
    · rw [quotedRuns_quote hq, quotedRuns_run hrun.2 hrun.1 hq, List.forall_mem_cons, hlater]
      exact and_congr (iff_of_true List.mem_cons_self (Or.inl hrun)) Iff.rfl
    · by_cases hpass : PassedOver v u
      · rw [quotedRuns_passedOver hq hpass, hlater]
        exact (and_iff_right (Or.inr hpass)).symm
      · refine iff_of_false ?_ fun h => h.1.elim hrun hpass
        intro h
        obtain ⟨s, rest, hruns, hne, hstart⟩ := exists_run_of_not_passedOver hq hrun hpass i
        have hs := h s (by rw [hruns]; exact List.mem_cons_self)
        have hlit := lt_start_of_mem_literalsFrom ((List.mem_cons.mp hs).resolve_left hne)
        omega

end Runs

/-- A default locator finds what it finds in regions. In a region it finds the literals and nothing else just
if none of them is empty and none holds a quote. It finds literals only just if each of the others is made of
quotes and another literal follows at once or none follows. -/
theorem default_spans_eq_literals (ls : List Locator) (hls : compileAll none = .ok ls) (t : Text)
    (l : Locator) (hl : l ∈ ls) :
    (∀ s, s ∈ l.spans t ↔ ∃ region, .ok region ∈ l.regions t ∧ s ∈ l.spansInside t region) ∧
      ∀ region, .ok region ∈ l.regions t →
        let u := region.text t
        let found := (literals u).map fun lit => lit.shift region.start
        (l.spansInside t region = found ↔
          ∀ lit ∈ literals u, lit.text u ≠ [] ∧ QuoteFree (lit.text u)) ∧
        ((∀ s ∈ l.spansInside t region, s ∈ found) ↔
          ∀ lit ∈ literals u, (lit.text u ≠ [] ∧ QuoteFree (lit.text u)) ∨
            PassedOver (lit.text u) (u.drop (lit.stop + 1))) := by
  rw [compileAll_none, Except.ok.injEq] at hls
  subst hls
  obtain ⟨name, -, rfl⟩ := List.mem_map.mp hl
  refine ⟨mem_spans _ t, ?_⟩
  intro region hregion u found
  have hclosed : Closed u := mem_regions hregion
  have hshift := Span.shift_injective region.start
  rw [spansInside_ofCall, quotedSpansFrom_eq_quotedRuns]
  constructor
  · rw [hshift.list_map.eq_iff]
    exact quotedRuns_eq_literals_iff hclosed 0
  · rw [List.forall_mem_map, ← quotedRuns_subset_literals_iff hclosed 0]
    apply forall₂_congr
    intro s _
    exact List.mem_map_of_injective hshift

-- behind the empty literal of the second text the code up to the next quote is taken for a literal, and behind
-- that of the third one a literal follows at once
theorem default_spans_eq_literals_mixed_quotes :
    let t : Text := "cn('a (b', fn(x), \"c) d\")".toList
    let t₂ : Text := "cn(\"\", x, \"b\")".toList
    let t₃ : Text := "cn(\"\"'a')".toList
    let l := ofCall "cn"
    l ∈ LocatorEntry.callNames.map ofCall ∧ .ok ⟨3, 24⟩ ∈ l.regions t ∧
      l.spansInside t ⟨3, 24⟩ = [⟨4, 8⟩, ⟨19, 23⟩] ∧
      l.regions t₂ = [.ok ⟨3, 13⟩] ∧ (¬ ∀ s ∈ l.spansInside t₂ ⟨3, 13⟩, s ∈ [⟨4, 4⟩, ⟨11, 12⟩]) ∧
      l.regions t₃ = [.ok ⟨3, 8⟩] ∧ ∀ s ∈ l.spansInside t₃ ⟨3, 8⟩, s ∈ [⟨4, 4⟩, ⟨6, 7⟩] := by
  intro t t₂ t₃ l
  have hl : l ∈ LocatorEntry.callNames.map ofCall :=
    List.mem_map_of_mem (by decide)
  have hregion : .ok ⟨3, 24⟩ ∈ l.regions t := by decide
  have hregion₂ : l.regions t₂ = [.ok ⟨3, 13⟩] := by decide
  have hregion₃ : l.regions t₃ = [.ok ⟨3, 8⟩] := by decide
  have hspans := fun t => (default_spans_eq_literals _ compileAll_none t l hl).2
  refine ⟨hl, hregion, ?_, hregion₂, ?_, hregion₃, ?_⟩
  · exact (hspans t ⟨3, 24⟩ hregion).1.mpr (by decide)
  · exact (not_congr (hspans t₂ ⟨3, 13⟩ (by simp [hregion₂])).2).mpr (by decide)
  · exact (hspans t₃ ⟨3, 8⟩ (by simp [hregion₃])).2.mpr (by decide)

end Locator

end ClassTidy
