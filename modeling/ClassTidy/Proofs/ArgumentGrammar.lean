import ClassTidy.Proofs.Regions

/-! A closing parenthesis is found where the text derives from the grammar of arguments. -/

namespace ClassTidy.Source

inductive Content (q : Char) : Text → Prop
  | nil : Content q []
  | plain {c : Char} {v : Text} : c ≠ '\\' → c ≠ q → Content q v → Content q (c :: v)
  | escape {c : Char} {v : Text} : Content q v → Content q ('\\' :: c :: v)

lemma isContent_cons_iff {q c : Char} (hslash : c ≠ '\\') (v : Text) :
    IsContent q (c :: v) ↔ c ≠ q ∧ IsContent q v := by
  simp [IsContent, escapedAfter?, hslash]

lemma Content.isContent {q : Char} {v : Text} (h : Content q v) : IsContent q v := by
  induction h with
  | nil => rfl
  | plain hslash hq _ ih => exact (isContent_cons_iff hslash _).mpr ⟨hq, ih⟩
  | escape _ ih => exact ih

lemma content_of_isContent {q : Char} : ∀ {v : Text}, IsContent q v → Content q v
  | [], _ => .nil
  | [c], h => by
    by_cases hslash : c = '\\'
    · subst hslash
      cases h
    · exact .plain hslash ((isContent_cons_iff hslash []).mp h).1 .nil
  | c :: d :: v, h => by
    by_cases hslash : c = '\\'
    · subst hslash
      exact .escape (content_of_isContent h)
    · obtain ⟨hq, hrest⟩ := (isContent_cons_iff hslash _).mp h
      exact .plain hslash hq (content_of_isContent hrest)

/-- The grammar of arguments. Outside of literals a backslash is a character like any other. -/
inductive Balanced : Text → Prop
  | nil : Balanced []
  | code {c : Char} {t : Text} : isQuote c = false → c ≠ '(' → c ≠ ')' → Balanced t → Balanced (c :: t)
  | literal {q : Char} {v t : Text} : isQuote q = true → Content q v → Balanced t →
      Balanced (q :: (v ++ q :: t))
  | nested {t u : Text} : Balanced t → Balanced u → Balanced ('(' :: (t ++ ')' :: u))

lemma Balanced.after {t : Text} (h : Balanced t) (depth : Nat) :
    (Scan.code depth).after t = some (.code depth) := by
  induction h generalizing depth with
  | nil => rfl
  | code hquote hopen hclose _ ih => simp [Scan.after, Scan.step, hquote, hopen, hclose, ih depth]
  | literal hq hv _ ih => rw [after_literal hq hv.isContent, ih depth]
  | nested _ _ ih ih' =>
    simp [Scan.after, Scan.after_append, Scan.step, isQuote, ih (depth + 1), ih' depth]

def Unwinds : (depth : Nat) → Text → Prop
  | 0, t => Balanced t
  | depth + 1, t => ∃ inner rest, t = inner ++ ')' :: rest ∧ Balanced inner ∧ Unwinds depth rest

lemma Unwinds.prepend {t : Text} {depth : Nat} (h : Unwinds depth t) (front : Text)
    (hfront : ∀ u, Balanced u → Balanced (front ++ u)) : Unwinds depth (front ++ t) := by
  cases depth with
  | zero => exact hfront t h
  | succ depth =>
    obtain ⟨inner, rest, rfl, hinner, hrest⟩ := h
    exact ⟨front ++ inner, rest, by simp, hfront inner hinner, hrest⟩

lemma Unwinds.opening {t : Text} {depth : Nat} (h : Unwinds (depth + 1) t) :
    Unwinds depth ('(' :: t) := by
  obtain ⟨inner, rest, rfl, hinner, hrest⟩ := h
  have hall : '(' :: (inner ++ ')' :: rest) = ('(' :: (inner ++ [')'])) ++ rest := by simp
  rw [hall]
  exact hrest.prepend _ fun u hu => by simpa using Balanced.nested hinner hu

lemma unwinds_of_after {t : Text} {depth : Nat} (h : (Scan.code depth).after t = some (.code 0)) :
    Unwinds depth t := by
  induction closed_of_after h generalizing depth with
  | nil =>
    cases h
    exact Balanced.nil
  | @code c t hc _ ih =>
    obtain ⟨s, hs, ht⟩ := Option.bind_eq_some_iff.mp h
    simp only [Scan.step, hc, Bool.false_eq_true, if_false] at hs
    by_cases hopen : c = '('
    · subst hopen
      cases hs
      exact (ih ht).opening
    · by_cases hclose : c = ')'
      · subst hclose
        cases depth with
        | zero => simp at hs
        | succ depth =>
          cases hs
          exact ⟨[], t, rfl, .nil, ih ht⟩
      · simp only [hopen, hclose, if_false, Option.some.injEq] at hs
        subst hs
        exact (ih ht).prepend [c] fun u hu => .code hc hopen hclose hu
  | @literal q v t hq hv _ ih =>
    rw [after_literal hq hv] at h
    have hall : q :: (v ++ q :: t) = (q :: (v ++ [q])) ++ t := by simp
    rw [hall]
    exact (ih h).prepend _ fun u hu => by simpa using Balanced.literal hq (content_of_isContent hv) hu

lemma after_eq_code_iff_balanced (t : Text) : (Scan.code 0).after t = some (.code 0) ↔ Balanced t :=
  ⟨unwinds_of_after, fun h => h.after 0⟩

structure ClosesAt (t : Text) (o c : Nat) : Prop where
  behind : o < c
  inside : c < t.length
  closing : t[c]? = some ')'
  balanced : Balanced (Text.between t (o + 1) c)

lemma ClosesAt.drop_eq {t : Text} {o c : Nat} (h : ClosesAt t o c) :
    t.drop (o + 1) = Text.between t (o + 1) c ++ ')' :: t.drop (c + 1) := by
  have hbehind := h.behind
  obtain ⟨_, hget⟩ := List.getElem?_eq_some_iff.mp h.closing
  have hrest : (t.drop (o + 1)).drop (c - (o + 1)) = ')' :: t.drop (c + 1) := by
    rw [List.drop_drop, Nat.add_sub_cancel' (by omega : o + 1 ≤ c), List.drop_eq_getElem_cons h.inside, hget]
  rw [Text.between, List.drop_take, ← hrest, List.take_append_drop]

lemma closesAt_of_drop {t u rest : Text} {o : Nat} (hdrop : t.drop (o + 1) = u ++ ')' :: rest)
    (hu : Balanced u) : ClosesAt t o (o + 1 + u.length) := by
  have hget : t[o + 1 + u.length]? = some ')' := by
    rw [← List.getElem?_drop, hdrop]
    simp
  refine ⟨by omega, (List.getElem?_eq_some_iff.mp hget).1, hget, ?_⟩
  rwa [Text.between_of_drop hdrop]

lemma closesAt_iff (t : Text) (o c : Nat) :
    ClosesAt t o c ↔ ∃ n, closeFrom? (t.drop (o + 1)) = some n ∧ c = o + 1 + n := by
  simp only [closeFrom_eq_some_iff, after_eq_code_iff_balanced]
  constructor
  · intro h
    have hbehind := h.behind
    have hinside := h.inside
    refine ⟨_, ⟨_, _, h.drop_eq, rfl, h.balanced⟩, ?_⟩
    simp only [Text.between, List.length_drop, List.length_take]
    omega
  · rintro ⟨_, ⟨u, rest, hdrop, rfl, hu⟩, rfl⟩
    exact closesAt_of_drop hdrop hu

lemma closeParen_natCast (t : Text) (o : Nat) :
    (∃ n, closeFrom? (t.drop (o + 1)) = some n ∧ closeParen t o = .ok ((o + 1 + n : Nat) : Int)) ∨
      (closeFrom? (t.drop (o + 1)) = none ∧ closeParen t o = .error (.unbalanced o)) := by
  have hread : Text.readFrom t (o + 1) = some (t.drop (o + 1)) := by
    rw [Text.readFrom, if_pos (by omega)]
    rfl
  cases hclose : closeFrom? (t.drop (o + 1)) with
  | none => exact Or.inr ⟨rfl, by simp only [closeParen, hread, hclose]⟩
  | some n =>
    refine Or.inl ⟨n, rfl, ?_⟩
    simp only [closeParen, hread, hclose]
    push_cast
    rfl

lemma closeParen_eq_ok_iff (t : Text) (o c : Nat) : closeParen t o = .ok (c : Int) ↔ ClosesAt t o c := by
  rw [closesAt_iff]
  rcases closeParen_natCast t o with ⟨n, hclose, hparen⟩ | ⟨hclose, hparen⟩
  · simp only [hclose, hparen, Option.some.injEq, exists_eq_left', Except.ok.injEq, Int.natCast_inj]
    exact eq_comm
  · simp [hclose, hparen]

/-- The scan for the closing parenthesis of one at `o` finds the place up to which the text derives from
the grammar of arguments. There is at most one such place, and the scan fails only if there is none. -/
theorem closeParen_recognizes_arguments (t : Text) (o : Nat) :
    (∀ c : Nat, closeParen t o = .ok (c : Int) ↔ ClosesAt t o c) ∧
    (∀ c c', ClosesAt t o c → ClosesAt t o c' → c = c') ∧
    (closeParen t o = .error (.unbalanced o) ↔ ¬ ∃ c, ClosesAt t o c) := by
  refine ⟨closeParen_eq_ok_iff t o, ?_, ?_⟩
  · intro c c' hc hc'
    have hsame := ((closeParen_eq_ok_iff t o c).mpr hc).symm.trans ((closeParen_eq_ok_iff t o c').mpr hc')
    exact Int.natCast_inj.mp (Except.ok.inj hsame)
  · simp only [closesAt_iff]
    rcases closeParen_natCast t o with ⟨n, hclose, hparen⟩ | ⟨hclose, hparen⟩ <;> simp [hclose, hparen]

-- a parenthesis between quotes closes nothing, and a backslash is taken as such only between quotes
example : closeParen "f(a, ')\\')', \\(g)) b)".toList 1 = .ok 17 := by decide

end ClassTidy.Source
