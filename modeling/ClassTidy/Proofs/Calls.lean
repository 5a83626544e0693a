import ClassTidy.Proofs.QuotedRuns

/-! The calls that the default locators find. -/

namespace ClassTidy.Locator

open Source Pattern

def IsCallName (name : Text) : Prop :=
  name ≠ [] ∧ ∀ c ∈ name, c ≠ '(' ∧ c ≠ ')' ∧ c ≠ '\\' ∧ isQuote c = false

instance (name : Text) : Decidable (IsCallName name) :=
  @instDecidableAnd _ _ inferInstance
    (List.decidableBAll (fun c => c ≠ '(' ∧ c ≠ ')' ∧ c ≠ '\\' ∧ isQuote c = false) name)

lemma isCallName_of_mem {name : String} (h : name ∈ LocatorEntry.callNames) : IsCallName name.toList := by
  have hall : ∀ name ∈ LocatorEntry.callNames, IsCallName name.toList := by decide
  exact hall name h

section Matching

variable {opening before t x rest : Text} {offset : Nat} {captures : List (Nat × Nat × Nat)}
  {k : Continuation}

lemma run_callNode_append (opening : Text) :
    (callNode opening).run ⟨before, opening ++ t, offset, captures⟩ k =
      (Node.upTo (.single 41) 0).run
        ⟨opening.reverse ++ before, t, offset + opening.length, captures⟩ k := by
  induction opening generalizing before offset with
  | nil => rfl
  | cons c opening ih =>
    have hstep : (callNode (c :: opening)).run ⟨before, c :: (opening ++ t), offset, captures⟩ k =
        (callNode opening).run ⟨c :: before, opening ++ t, offset + 1, captures⟩ k := by
      simp [callNode, Node.run, Place.take?, single_contains]
    rw [List.cons_append, hstep, ih]
    simp [Nat.add_assoc, Nat.add_comm 1]

lemma run_callNode_none (h : ¬ opening <+: t) :
    (callNode opening).run ⟨before, t, offset, captures⟩ k = none := by
  induction opening generalizing before t offset with
  | nil => exact absurd List.nil_prefix h
  | cons c opening ih =>
    cases t with
    | nil => rfl
    | cons d t =>
      by_cases hd : d = c
      · subst hd
        have hrest : ¬ opening <+: t := fun hp => h (List.cons_prefix_cons.mpr ⟨rfl, hp⟩)
        have hstep : (callNode (d :: opening)).run ⟨before, d :: t, offset, captures⟩ k =
            (callNode opening).run ⟨d :: before, t, offset + 1, captures⟩ k := by
          simp [callNode, Node.run, Place.take?, single_contains]
        rw [hstep, ih hrest]
      · simp [callNode, Node.run, Place.take?, single_contains, hd]

def callMatch (offset : Nat) (opening x : Text) : Match :=
  ⟨offset, offset + (opening ++ (x ++ [')'])).length,
    [(1, offset + opening.length, offset + opening.length + x.length)]⟩

lemma closing_contains (c : Char) : (CharClass.single 41).contains .exact c = decide (c = ')') :=
  single_contains ')' c

lemma matchAt_callNode (hx : ')' ∉ x) :
    (callNode opening).matchAt false ⟨before, opening ++ (x ++ ')' :: rest), offset, []⟩ =
      some (callMatch offset opening x) := by
  have hfree : ∀ c ∈ x, (CharClass.single 41).contains .exact c = false := by
    intro c hc
    rw [closing_contains, decide_eq_false_iff_not]
    rintro rfl
    exact hx hc
  rw [Node.matchAt, run_callNode_append, run_upTo hfree (by simp [closing_contains]),
    if_pos (Nat.zero_le _), takeRunner_cons_pos (by simp [closing_contains])]
  simp [callMatch]
  omega

lemma matchAt_callNode_none (h : ∀ z, t = opening ++ z → ')' ∉ z) :
    (callNode opening).matchAt false ⟨before, t, offset, []⟩ = none := by
  by_cases hp : opening <+: t
  · obtain ⟨z, rfl⟩ := hp
    have hz := h z rfl
    have hfree : ∀ c ∈ z, (CharClass.single 41).contains .exact c = false := by
      intro c hc
      rw [closing_contains, decide_eq_false_iff_not]
      rintro rfl
      exact hz hc
    have hrun : ∀ k, (Node.upTo (.single 41) 0).run
        ⟨opening.reverse ++ before, z ++ [], offset + opening.length, []⟩ k = none := by
      intro k
      rw [run_upTo hfree (by simp), if_pos (Nat.zero_le _), takeRunner_neg (by simp)]
    rw [List.append_nil] at hrun
    rw [Node.matchAt, run_callNode_append, hrun, Option.map_none]
  · rw [Node.matchAt, run_callNode_none hp, Option.map_none]

end Matching

-- Behind an earlier call that has no closing parenthesis yet.
def Covered (opening u : Text) : Prop := ∃ u₁ u₂, u = u₁ ++ (opening ++ u₂) ∧ ')' ∉ u₂

section Covered

variable {name u x rest z : Text}

lemma not_covered_nil (opening : Text) (h : opening ≠ []) : ¬ Covered opening [] := by
  rintro ⟨u₁, u₂, heq, -⟩
  simp [h] at heq

lemma covered_cons {opening : Text} {c : Char} (h : Covered opening u) : Covered opening (c :: u) := by
  obtain ⟨u₁, u₂, rfl, hu⟩ := h
  exact ⟨c :: u₁, u₂, rfl, hu⟩

lemma covered_append {opening : Text} (h : Covered opening u) (z : Text) : Covered opening (z ++ u) := by
  obtain ⟨u₁, u₂, rfl, hu⟩ := h
  exact ⟨z ++ u₁, u₂, by simp, hu⟩

lemma closing_notMem_opening (hname : IsCallName name) : ')' ∉ name ++ ['('] := by
  intro hmem
  rcases List.mem_append.mp hmem with h | h
  · exact (hname.2 _ h).2.1 rfl
  · simp at h

lemma covered_of_closing (hname : IsCallName name) (h : Covered (name ++ ['(']) (z ++ ')' :: u)) :
    Covered (name ++ ['(']) u := by
  obtain ⟨u₁, u₂, heq, hu⟩ := h
  have hfree : ')' ∉ name ++ ['('] ++ u₂ := by
    rw [List.mem_append]
    exact not_or.mpr ⟨closing_notMem_opening hname, hu⟩
  obtain ⟨u', -, rfl⟩ := split_before hfree heq
  exact ⟨u', u₂, rfl, hu⟩

-- Two openings do not overlap, so one that starts behind another starts behind all of it.
lemma eq_opening_append (hname : IsCallName name) (hu : u ≠ [])
    (h : name ++ ['('] ++ z = u ++ (name ++ ['('] ++ x)) : ∃ u', u = name ++ ['('] ++ u' := by
  have hparen : '(' ∉ name := fun hmem => (hname.2 _ hmem).1 rfl
  rcases List.append_eq_append_iff.mp h with ⟨y, rfl, -⟩ | ⟨y, hy, hx⟩
  · exact ⟨y, rfl⟩
  · rcases List.eq_nil_or_concat y with rfl | ⟨y, d, rfl⟩
    · exact ⟨[], by simpa using hy.symm⟩
    · -- the end `y` of the first opening would be the name of the second
      obtain ⟨rfl, rfl⟩ : name = u ++ y ∧ '(' = d := by
        have hh : name ++ ['('] = (u ++ y) ++ [d] := by simpa using hy
        exact ⟨(List.append_inj' hh rfl).1, by simpa using (List.append_inj' hh rfl).2⟩
      have hy' : '(' ∉ y := fun hmem => hparen (by simp [hmem])
      obtain ⟨heq, -⟩ := split_first hparen hy' (by simpa using hx : (u ++ y) ++ '(' :: x = y ++ '(' :: z)
      exact absurd (by simpa using heq) hu

end Covered

section Matches

variable {name x rest t : Text}

lemma matchesFrom_callNode_some (opening : Text) (hx : ')' ∉ x) (before : Text) (offset : Nat) :
    ∃ before', (callNode opening).matchesFrom (opening ++ (x ++ ')' :: rest)) before offset 0 =
      callMatch offset opening x :: (callNode opening).matchesFrom rest before'
        (offset + (opening ++ (x ++ [')'])).length) 0 := by
  have hsplit : opening ++ (x ++ ')' :: rest) = (opening ++ (x ++ [')'])) ++ rest := by simp
  have hat : (callNode opening).matchAt false ⟨before, opening ++ (x ++ ')' :: rest), offset, []⟩ =
      some (callMatch offset opening x) := matchAt_callNode hx
  rw [hsplit] at hat ⊢
  exact ⟨_, matchesFrom_of_some (by simp) hat⟩

lemma matchesFrom_callNode_none {opening : Text}
    (h : ∀ z, t = opening ++ z → ')' ∉ z) (before : Text) (offset : Nat) :
    (callNode opening).matchesFrom t before offset 0 =
      match t with
      | [] => []
      | c :: t => (callNode opening).matchesFrom t (c :: before) (offset + 1) 0 := by
  cases t with
  | nil => exact matchesFrom_nil (matchAt_callNode_none h)
  | cons c t => exact matchesFrom_of_none (matchAt_callNode_none h)

def IsFound (name t : Text) (offset : Nat) (m : Match) : Prop :=
  ∃ u x rest, t = u ++ (name ++ ['('] ++ (x ++ ')' :: rest)) ∧ ')' ∉ x ∧
    ¬ Covered (name ++ ['(']) u ∧ m = callMatch (offset + u.length) (name ++ ['(']) x

variable {offset : Nat} {m : Match}

lemma isFound_opening (hname : IsCallName name) (hx : ')' ∉ x) :
    IsFound name (name ++ ['('] ++ (x ++ ')' :: rest)) offset m ↔
      m = callMatch offset (name ++ ['(']) x ∨
        IsFound name rest (offset + (name ++ ['('] ++ (x ++ [')'])).length) m := by
  constructor
  · rintro ⟨u, x', rest', heq, hx', hu, rfl⟩
    by_cases hnil : u = []
    · subst hnil
      obtain ⟨rfl, -⟩ := split_first hx hx' (List.append_cancel_left heq)
      exact Or.inl rfl
    · obtain ⟨u', rfl⟩ := eq_opening_append hname hnil heq
      have hrest : x ++ ')' :: rest = u' ++ (name ++ ['('] ++ (x' ++ ')' :: rest')) := by
        simpa using heq
      have hu' : ')' ∈ u' := by
        by_contra hfree
        exact hu ⟨[], u', rfl, hfree⟩
      obtain ⟨u₁, u₂, rfl, hu₁⟩ := List.eq_append_cons_of_mem hu'
      obtain ⟨rfl, rfl⟩ : x = u₁ ∧ rest = u₂ ++ (name ++ ['('] ++ (x' ++ ')' :: rest')) :=
        split_first hx hu₁ (by simpa using hrest)
      refine Or.inr ⟨u₂, x', rest', rfl, hx', ?_, ?_⟩
      · intro hcov
        have hh := covered_append hcov (name ++ ['('] ++ (x ++ [')']))
        exact hu (by simpa using hh)
      · congr 1
        simp
        omega
  · rintro (rfl | ⟨u, x', rest', rfl, hx', hu, rfl⟩)
    · exact ⟨[], x, rest, rfl, hx, not_covered_nil _ (by simp), rfl⟩
    · refine ⟨name ++ ['('] ++ (x ++ ')' :: u), x', rest', by simp, hx', ?_, ?_⟩
      · rw [← List.append_assoc]
        exact fun hcov => hu (covered_of_closing hname hcov)
      · congr 1
        simp
        omega

lemma isFound_cons {c : Char} (hnone : ∀ z, c :: t = name ++ ['('] ++ z → ')' ∉ z) :
    IsFound name (c :: t) offset m ↔ IsFound name t (offset + 1) m := by
  constructor
  · rintro ⟨u, x, rest, heq, hx, hu, rfl⟩
    cases u with
    | nil => exact absurd (by simp) (hnone _ heq)
    | cons d u =>
      obtain ⟨rfl, rfl⟩ : c = d ∧ t = u ++ (name ++ ['('] ++ (x ++ ')' :: rest)) := by
        simpa using heq
      refine ⟨u, x, rest, rfl, hx, fun hcov => hu (covered_cons hcov), ?_⟩
      congr 1
      simp
      omega
  · rintro ⟨u, x, rest, rfl, hx, hu, rfl⟩
    refine ⟨c :: u, x, rest, rfl, hx, ?_, ?_⟩
    · rintro ⟨u₁, u₂, heq, hu₂⟩
      cases u₁ with
      | nil =>
        have hz := hnone (u₂ ++ (name ++ ['('] ++ (x ++ ')' :: rest))) (by
          rw [← List.cons_append, heq]
          simp)
        exact hz (by simp)
      | cons d u₁ =>
        obtain ⟨rfl, rfl⟩ : c = d ∧ u = u₁ ++ (name ++ ['('] ++ u₂) := by simpa using heq
        exact hu ⟨u₁, u₂, rfl, hu₂⟩
    · congr 1
      simp
      omega

lemma mem_matchesFrom_callNode (hname : IsCallName name) (t before : Text) (offset : Nat) :
    m ∈ (callNode (name ++ ['('])).matchesFrom t before offset 0 ↔ IsFound name t offset m := by
  -- a match takes more than one character, so the induction is on the length
  induction hn : t.length using Nat.strongRecOn generalizing t before offset with
  | ind n ih =>
    subst hn
    by_cases hfound : ∃ x rest, t = name ++ ['('] ++ (x ++ ')' :: rest) ∧ ')' ∉ x
    · obtain ⟨x, rest, rfl, hx⟩ := hfound
      obtain ⟨before', hall⟩ := matchesFrom_callNode_some (name ++ ['(']) hx before offset
      rw [hall, List.mem_cons, isFound_opening hname hx]
      exact or_congr Iff.rfl (ih rest.length (by simp; omega) rest before' _ rfl)
    · have hnone : ∀ z, t = name ++ ['('] ++ z → ')' ∉ z := by
        rintro z rfl hz
        obtain ⟨x, rest, rfl, hx⟩ := List.eq_append_cons_of_mem hz
        exact hfound ⟨x, rest, rfl, hx⟩
      rw [matchesFrom_callNode_none hnone]
      cases t with
      | nil => simp [IsFound]
      | cons c t =>
        rw [isFound_cons hnone]
        exact ih t.length (by simp) t (c :: before) (offset + 1) rfl

end Matches

section Regions

variable {name : Text}

lemma openFrom_name (hname : ∀ c ∈ name, c ≠ '(' ∧ c ≠ '\\') (prev : Option Char)
    (hprev : name = [] → prev ≠ some '\\') (rest : Text) :
    openFrom? prev (name ++ '(' :: rest) = some name.length := by
  induction name generalizing prev with
  | nil => simp [openFrom?, hprev rfl]
  | cons c name ih =>
    obtain ⟨hparen, hslash⟩ := hname c List.mem_cons_self
    have hrest := ih (fun d hd => hname d (List.mem_cons_of_mem c hd)) (some c) (by simp [hslash])
    simp [openFrom?, hparen, hrest]

lemma openParen_callMatch (hname : IsCallName name) (u x rest : Text) :
    openParen? (u ++ (name ++ ['('] ++ (x ++ ')' :: rest))) (callMatch u.length (name ++ ['(']) x).start
      (callMatch u.length (name ++ ['(']) x).stop = some (u.length + name.length) := by
  generalize ht : u ++ (name ++ ['('] ++ (x ++ ')' :: rest)) = t
  have hsplit : t = u ++ ((name ++ ['('] ++ (x ++ [')'])) ++ rest) := by simp [← ht]
  have hlen : u.length + (name ++ ['('] ++ (x ++ [')'])).length ≤ t.length := by
    simp [hsplit]
  have hstart : Text.position t.length (callMatch u.length (name ++ ['(']) x).start = u.length :=
    Text.position_natCast (Nat.le_trans (Nat.le_add_right _ _) hlen)
  have hstop : Text.position t.length (callMatch u.length (name ++ ['(']) x).stop =
      u.length + (name ++ ['('] ++ (x ++ [')'])).length := Text.position_natCast hlen
  have hslice : Text.slice t (callMatch u.length (name ++ ['(']) x).start
      (callMatch u.length (name ++ ['(']) x).stop = name ++ '(' :: (x ++ [')']) := by
    rw [Text.slice, hstart, hstop, hsplit, List.take_length_add_append, List.drop_left' rfl,
      List.take_left' rfl]
    simp
  have hopen : ∀ prev, openFrom? prev (name ++ '(' :: (x ++ [')'])) = some name.length := by
    intro prev
    exact openFrom_name (fun c hc => ⟨(hname.2 c hc).1, (hname.2 c hc).2.2.1⟩) prev
      (fun hnil => absurd hnil hname.1) _
  rw [openParen?, hslice, hstart]
  simp only [hopen, Option.map_some]

lemma regionOf_callMatch (hname : IsCallName name) (u x rest : Text) :
    regionOf (u ++ (name ++ ['('] ++ (x ++ ')' :: rest))) (callMatch u.length (name ++ ['(']) x) =
      some (match closeFrom? (x ++ ')' :: rest) with
        | some n => .ok ⟨u.length + name.length + 1, u.length + name.length + 1 + n⟩
        | none => .error (u.length + name.length)) := by
  have hne : (callMatch u.length (name ++ ['(']) x).stop ≠
      (callMatch u.length (name ++ ['(']) x).start := by simp [callMatch]
  have hdrop : (u ++ (name ++ ['('] ++ (x ++ ')' :: rest))).drop (u.length + name.length + 1) =
      x ++ ')' :: rest := by
    rw [← List.append_assoc]
    exact List.drop_left' (by simp; omega)
  cases hn : closeFrom? (x ++ ')' :: rest) with
  | none => simp only [regionOf, hne, if_false, openParen_callMatch hname, Option.map_some, hdrop, hn]
  | some n => simp only [regionOf, hne, if_false, openParen_callMatch hname, Option.map_some, hdrop, hn]

lemma mem_regions_ofCall {name : String} (hname : IsCallName name.toList) (t : Text) (region : Span) :
    .ok region ∈ (ofCall name).regions t ↔
      ∃ u x rest, t = u ++ (name.toList ++ ['('] ++ (x ++ ')' :: rest)) ∧
        ¬ Covered (name.toList ++ ['(']) u ∧ (Scan.code 0).after x = some (.code 0) ∧
        region = ⟨u.length + name.toList.length + 1, u.length + name.toList.length + 1 + x.length⟩ := by
  have hmatches : ∀ m, m ∈ (callNode (name.toList ++ ['('])).matchesFrom t [] 0 0 ↔
      IsFound name.toList t 0 m := fun m => mem_matchesFrom_callNode hname t [] 0
  simp only [IsFound, Nat.zero_add] at hmatches
  constructor
  · intro h
    obtain ⟨m, hm, hregion⟩ := List.mem_filterMap.mp h
    obtain ⟨u, x, rest, rfl, hx, hu, rfl⟩ := (hmatches m).mp hm
    rw [regionOf_callMatch hname, Option.some.injEq] at hregion
    cases hn : closeFrom? (x ++ ')' :: rest) with
    | none => simp [hn] at hregion
    | some n =>
      obtain ⟨y, rest', heq, rfl, hy⟩ := (closeFrom_eq_some_iff _ n).mp hn
      simp only [hn, Except.ok.injEq] at hregion
      exact ⟨u, y, rest', by rw [heq], hu, hy, hregion.symm⟩
  · rintro ⟨u, x, rest, rfl, hu, hx, rfl⟩
    obtain ⟨y, rest', heq, hy⟩ := List.eq_append_cons_of_mem (show ')' ∈ x ++ ')' :: rest by simp)
    have hclose : closeFrom? (y ++ ')' :: rest') = some x.length :=
      (closeFrom_eq_some_iff _ _).mpr ⟨x, rest, heq.symm, rfl, hx⟩
    refine List.mem_filterMap.mpr ⟨_, (hmatches _).mpr ⟨u, y, rest', by rw [heq], hy, hu, rfl⟩, ?_⟩
    rw [heq, regionOf_callMatch hname, hclose]

lemma mem_spans_ofCall {name : String} (hname : IsCallName name.toList) (t : Text) (s : Span) :
    s ∈ (ofCall name).spans t ↔
      ∃ u x rest s', t = u ++ (name.toList ++ ['('] ++ (x ++ ')' :: rest)) ∧
        ¬ Covered (name.toList ++ ['(']) u ∧ (Scan.code 0).after x = some (.code 0) ∧
        s' ∈ quotedRuns none 0 x ∧ s = s'.shift (u.length + name.toList.length + 1) := by
  have htext : ∀ u x rest : Text, (⟨u.length + name.toList.length + 1,
      u.length + name.toList.length + 1 + x.length⟩ : Span).text
        (u ++ (name.toList ++ ['('] ++ (x ++ ')' :: rest))) = x := by
    intro u x rest
    have hmiddle := Span.text_middle (u ++ (name.toList ++ ['('])) x (')' :: rest)
    simpa [Nat.add_assoc] using hmiddle
  rw [mem_spans]
  constructor
  · rintro ⟨region, hregion, hs⟩
    obtain ⟨u, x, rest, rfl, hu, hx, rfl⟩ := (mem_regions_ofCall hname _ _).mp hregion
    rw [spansInside_ofCall, htext, quotedSpansFrom_eq_quotedRuns] at hs
    obtain ⟨s', hs', rfl⟩ := List.mem_map.mp hs
    exact ⟨u, x, rest, s', rfl, hu, hx, hs', rfl⟩
  · rintro ⟨u, x, rest, s', rfl, hu, hx, hs', rfl⟩
    refine ⟨_, (mem_regions_ofCall hname _ _).mpr ⟨u, x, rest, rfl, hu, hx, rfl⟩, ?_⟩
    rw [spansInside_ofCall, htext, quotedSpansFrom_eq_quotedRuns]
    exact List.mem_map.mpr ⟨s', hs', rfl⟩

lemma enclosed_of_mem_spans {name : String} (hname : IsCallName name.toList) {t : Text} {s : Span}
    (h : s ∈ (ofCall name).spans t) : Enclosed t s := by
  obtain ⟨u, x, rest, s', rfl, -, -, hs', rfl⟩ := (mem_spans_ofCall hname _ _).mp h
  have hs := (enclosed_of_mem_quotedRuns hs').append (u ++ (name.toList ++ ['('])) (')' :: rest)
  simpa [Nat.add_assoc] using hs

end Regions

section Swap

variable {a b v w z : Text} {q r : Char}

lemma opening_quoteFree {name : Text} (hname : IsCallName name) : QuoteFree (name ++ ['(']) := by
  intro c hc
  rcases List.mem_append.mp hc with h | h
  · exact (hname.2 c h).2.2.2
  · obtain rfl : c = '(' := by simpa using h
    rfl

lemma covered_swap {name : Text} (hname : IsCallName name) (hv : Inert v) (hq : isQuote q = true)
    (hr : isQuote r = true) (hclose : ')' ∈ w → ')' ∈ v)
    (h : Covered (name ++ ['(']) (a ++ q :: (v ++ r :: b))) :
    Covered (name ++ ['(']) (a ++ q :: (w ++ r :: b)) := by
  obtain ⟨u₁, u₂, heq, hu⟩ := h
  rcases split_at_block (opening_quoteFree hname) (by simp) hq hr heq.symm with
    ⟨a', rfl, rfl⟩ | ⟨v₁, v₂, rfl, rfl⟩ | ⟨b', rfl, rfl⟩
  · refine ⟨u₁, a' ++ q :: (w ++ r :: b), by simp, ?_⟩
    simp only [List.mem_append, List.mem_cons, not_or] at hu ⊢
    exact ⟨hu.1, hu.2.1, fun hw => hu.2.2.1 (hclose hw), hu.2.2.2⟩
  · have hin : Inert ((v₁ ++ name) ++ '(' :: v₂) := by simpa using hv
    exact absurd (List.mem_append_left _ hin.closes.2) hu
  · exact ⟨a ++ q :: (w ++ r :: b'), u₂, by simp, hu⟩

lemma quotedRuns_of_inert {u x rest : Text} (hw : Inert (u ++ '(' :: z))
    (hx : (Scan.code 0).after x = some (.code 0)) (h : x ++ ')' :: rest = z ++ r :: b) :
    quotedRuns none 0 x = [] := by
  rcases List.append_eq_append_iff.mp h with ⟨y, rfl, -⟩ | ⟨y, rfl, -⟩
  · have hfree : QuoteFree x := fun c hc => hw.quoteFree c (by simp [hc])
    simpa [quotedRuns] using quotedRuns_quoteFree hfree none 0 []
  · rw [Scan.after_append, hw.closes.1] at hx
    cases hx

lemma spans_swap {name : String} (hname : IsCallName name.toList) (h : Swappable v w)
    (hq : isQuote q = true) (hr : isQuote r = true) (hclose : ')' ∈ w → ')' ∈ v) {s : Span}
    (hs : s ∈ (ofCall name).spans (a ++ q :: (w ++ r :: b))) :
    ∃ s' ∈ (ofCall name).spans (a ++ q :: (v ++ r :: b)),
      s = s'.carry (a.length + 1) v.length w.length := by
  have hvpos : 0 < v.length := List.length_pos_iff.mpr h.oldNonempty
  have hparen : ∀ {p}, isQuote p = true → ')' ≠ p := by
    rintro p hp rfl
    cases hp
  obtain ⟨u, x, rest, s', heq, hu, hx, hs', rfl⟩ := (mem_spans_ofCall hname _ _).mp hs
  simp only [mem_spans_ofCall hname]
  rcases split_at_block (opening_quoteFree hname) (by simp) hq hr heq.symm with
    ⟨a', rfl, hrest⟩ | ⟨w₁, w₂, rfl, hrest⟩ | ⟨b', rfl, rfl⟩
  · rcases split_at_char (hparen hq) (hparen hr) hrest with ⟨a'', rfl⟩ | ⟨w₁, w₂, rfl, rfl⟩ | ⟨b', rfl, rfl⟩
    · -- the call ends before the run
      obtain ⟨hstart, hstop⟩ := (enclosed_of_mem_quotedRuns hs').bounds
      refine ⟨_, ⟨u, x, a'' ++ q :: (v ++ r :: b), s', by simp, hu, hx, hs', rfl⟩, ?_⟩
      rw [Span.carry_of_le] <;> simp [Span.shift] <;> omega
    · exact absurd hx (not_after_inert hq h.new)
    · -- the run is inside of the call
      rw [quotedRuns_swap h.old.quoteFree h.new.quoteFree h.oldNonempty h.newNonempty hq hr none 0
        (by simp)] at hs'
      obtain ⟨s₀, hs₀, rfl⟩ := List.mem_map.mp hs'
      refine ⟨_, ⟨u, a' ++ q :: (v ++ r :: b'), rest, s₀, by simp, hu, ?_, hs₀, rfl⟩, ?_⟩
      · rw [after_swap h hq, hx]
      · rw [← Span.carry_add]
        congr 1
        simp
        omega
  · have hin : Inert ((w₁ ++ name.toList) ++ '(' :: w₂) := by simpa using h.new
    rw [quotedRuns_of_inert hin hx hrest] at hs'
    cases hs'
  · -- the call starts behind the run
    have hu' : ¬ Covered (name.toList ++ ['(']) (a ++ q :: (v ++ r :: b')) :=
      fun hcov => hu (covered_swap hname h.old hq hr hclose hcov)
    refine ⟨_, ⟨a ++ q :: (v ++ r :: b'), x, rest, s', by simp, hu', hx, hs', rfl⟩, ?_⟩
    rw [Span.carry_shift _ hvpos]
    · congr 1
      simp
      omega
    · simp
      omega

end Swap

end ClassTidy.Locator
