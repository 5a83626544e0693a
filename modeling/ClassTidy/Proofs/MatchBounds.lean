import ClassTidy.Pattern.Match
import Mathlib.Data.List.Basic
import Mathlib.Tactic.Lemma

/-! Matches and their captures lie in the text that is searched. -/

namespace ClassTidy.Pattern

structure Place.Within (n : Nat) (s : Place) : Prop where
  before : s.before.length = s.offset
  after : s.offset + s.after.length = n
  captures : ∀ c ∈ s.captures, c.2.1 ≤ c.2.2 ∧ c.2.2 ≤ n

namespace Place.Within

variable {n : Nat} {s s' : Place}

lemma offset_le (h : s.Within n) : s.offset ≤ n := by
  have hh := h.after
  omega

lemma take (h : s.Within n) {p : Char → Bool} (htake : s.take? p = some s') :
    s'.Within n ∧ s.offset ≤ s'.offset := by
  obtain ⟨before, after, offset, captures⟩ := s
  cases after with
  | nil => cases htake
  | cons c rest =>
    simp only [Place.take?, Option.ite_none_right_eq_some, Option.some.injEq] at htake
    obtain ⟨-, rfl⟩ := htake
    have hbefore := h.before
    have hafter := h.after
    simp only [List.length_cons] at hbefore hafter
    exact ⟨⟨by simp [hbefore], by simp only; omega, h.captures⟩, Nat.le_succ offset⟩

lemma takeAll {same : Char → Char → Bool} {t : Text} (h : s.Within n)
    (htake : s.takeAll? same t = some s') : s'.Within n ∧ s.offset ≤ s'.offset := by
  induction t generalizing s with
  | nil =>
    cases htake
    exact ⟨h, Nat.le_refl _⟩
  | cons c t ih =>
    obtain ⟨s₁, hfirst, hrest⟩ := Option.bind_eq_some_iff.mp htake
    obtain ⟨h₁, hle⟩ := h.take hfirst
    obtain ⟨h', hle'⟩ := ih h₁ hrest
    exact ⟨h', Nat.le_trans hle hle'⟩

lemma back (h : s.Within n) (hback : s.back? = some s') : s'.Within n := by
  obtain ⟨before, after, offset, captures⟩ := s
  cases before with
  | nil => cases hback
  | cons c rest =>
    obtain rfl := Option.some.inj hback
    have hbefore := h.before
    have hafter := h.after
    simp only [List.length_cons] at hbefore hafter
    exact ⟨by simp only; omega, by simp only [List.length_cons]; omega, h.captures⟩

lemma backBy {m : Nat} (h : s.Within n) (hback : s.backBy? m = some s') : s'.Within n := by
  induction m generalizing s with
  | zero =>
    cases hback
    exact h
  | succ m ih =>
    obtain ⟨s₁, hfirst, hrest⟩ := Option.bind_eq_some_iff.mp hback
    exact ih (h.back hfirst) hrest

lemma withCaptures (h : s.Within n) (h' : s'.Within n) :
    ({ s with captures := s'.captures } : Place).Within n :=
  ⟨h.before, h.after, h'.captures⟩

lemma capture (h : s.Within n) {i : Nat} (hle : i ≤ s.offset) (group : Nat) :
    ({ s with captures := (group, i, s.offset) :: s.captures } : Place).Within n :=
  ⟨h.before, h.after, List.forall_mem_cons.mpr ⟨⟨hle, h.offset_le⟩, h.captures⟩⟩

end Place.Within

/-- Whatever a continuation accepts is a place in the text that does not lie before the start. -/
def Runner.Forward (n : Nat) (body : Runner) : Prop :=
  ∀ s k r, s.Within n → body s k = some r → ∃ s' : Place, s'.Within n ∧ s.offset ≤ s'.offset ∧ k s' = some r

namespace Runner.Forward

variable {n : Nat} {body : Runner}

lemma times (h : body.Forward n) (m : Nat) : (body.times m).Forward n := by
  induction m with
  | zero =>
    intro s k r hs hrun
    exact ⟨s, hs, Nat.le_refl _, hrun⟩
  | succ m ih =>
    intro s k r hs hrun
    obtain ⟨s₁, hs₁, hle₁, hrest⟩ := h s _ r hs hrun
    obtain ⟨s', hs', hle', hk⟩ := ih s₁ k r hs₁ hrest
    exact ⟨s', hs', Nat.le_trans hle₁ hle', hk⟩

lemma further (h : body.Forward n) (eager : Bool) (bound : Nat) (budget last : Option Nat) :
    (body.further eager bound budget last).Forward n := by
  induction bound generalizing budget last with
  | zero =>
    intro s k r hs hrun
    exact ⟨s, hs, Nat.le_refl _, hrun⟩
  | succ bound ih =>
    intro s k r hs hrun
    -- a way that is taken is one more round, or ends here, whichever of the two is tried first
    have hmore : (if budget = some 0 ∨ last = some s.offset then none
        else body s fun s' => body.further eager bound (budget.map (· - 1)) (some s.offset) s' k) = some r →
        ∃ s' : Place, s'.Within n ∧ s.offset ≤ s'.offset ∧ k s' = some r := by
      intro hround
      simp only [Option.ite_none_left_eq_some] at hround
      obtain ⟨s₁, hs₁, hle₁, hrest⟩ := h s _ r hs hround.2
      obtain ⟨s', hs', hle', hk⟩ := ih _ _ s₁ k r hs₁ hrest
      exact ⟨s', hs', Nat.le_trans hle₁ hle', hk⟩
    have hend : k s = some r → ∃ s' : Place, s'.Within n ∧ s.offset ≤ s'.offset ∧ k s' = some r :=
      fun hk => ⟨s, hs, Nat.le_refl _, hk⟩
    simp only [Runner.further, Option.orElse_eq_or] at hrun
    cases eager with
    | true =>
      rcases Option.or_eq_some_iff.mp hrun with hround | ⟨-, hk⟩
      · exact hmore hround
      · exact hend hk
    | false =>
      rcases Option.or_eq_some_iff.mp hrun with hk | ⟨-, hround⟩
      · exact hend hk
      · exact hmore hround

lemma repeated (h : body.Forward n) (least : Nat) (most : Option Nat) (eager : Bool) :
    (body.repeated least most eager).Forward n := by
  intro s k r hs hrun
  obtain ⟨s₁, hs₁, hle₁, hrest⟩ := h.times least s _ r hs hrun
  obtain ⟨s', hs', hle', hk⟩ := h.further eager _ _ _ s₁ k r hs₁ hrest
  exact ⟨s', hs', Nat.le_trans hle₁ hle', hk⟩

lemma within_of_some (h : body.Forward n) {s s' : Place} (hs : s.Within n) (hrun : body s some = some s') :
    s'.Within n ∧ s.offset ≤ s'.offset := by
  obtain ⟨s₁, hs₁, hle, heq⟩ := h s some s' hs hrun
  obtain rfl := Option.some.inj heq
  exact ⟨hs₁, hle⟩

lemma once (h : body.Forward n) : body.once.Forward n := by
  intro s k r hs hrun
  obtain ⟨s', hbody, hk⟩ := Option.bind_eq_some_iff.mp hrun
  obtain ⟨hs', hle⟩ := h.within_of_some hs hbody
  exact ⟨s', hs', hle, hk⟩

end Runner.Forward

lemma Node.run_forward (n : Nat) (node : Node) : Runner.Forward n node.run := by
  induction node with
  | empty =>
    intro s k r hs hrun
    exact ⟨s, hs, Nat.le_refl _, hrun⟩
  | one cls rule =>
    intro s k r hs hrun
    obtain ⟨s', htake, hk⟩ := Option.bind_eq_some_iff.mp hrun
    exact ⟨s', (hs.take htake).1, (hs.take htake).2, hk⟩
  | any lineEnd =>
    intro s k r hs hrun
    obtain ⟨s', htake, hk⟩ := Option.bind_eq_some_iff.mp hrun
    exact ⟨s', (hs.take htake).1, (hs.take htake).2, hk⟩
  | anchor a =>
    intro s k r hs hrun
    simp only [Node.run, Option.ite_none_right_eq_some] at hrun
    exact ⟨s, hs, Nat.le_refl _, hrun.2⟩
  | seq a b iha ihb =>
    intro s k r hs hrun
    obtain ⟨s₁, hs₁, hle₁, hrest⟩ := iha s _ r hs hrun
    obtain ⟨s', hs', hle', hk⟩ := ihb s₁ k r hs₁ hrest
    exact ⟨s', hs', Nat.le_trans hle₁ hle', hk⟩
  | alt a b iha ihb =>
    intro s k r hs hrun
    simp only [Node.run, Option.orElse_eq_or] at hrun
    rcases Option.or_eq_some_iff.mp hrun with hfirst | ⟨-, hsecond⟩
    · exact iha s k r hs hfirst
    · exact ihb s k r hs hsecond
  | iterate body least most greed ih =>
    cases greed with
    | greedy => exact ih.repeated least most true
    | lazy => exact ih.repeated least most false
    | possessive => exact (ih.once.repeated least most true).once
  | capture group body ih =>
    intro s k r hs hrun
    obtain ⟨s', hs', hle, hk⟩ := ih s _ r hs hrun
    exact ⟨_, hs'.capture hle group, hle, hk⟩
  | atomic body ih => exact ih.once
  | again group rule =>
    intro s k r hs hrun
    simp only [Node.run] at hrun
    cases hcaptured : s.captured? group with
    | none => simp [hcaptured] at hrun
    | some span =>
      simp only [hcaptured] at hrun
      obtain ⟨s', htake, hk⟩ := Option.bind_eq_some_iff.mp hrun
      exact ⟨s', (hs.takeAll htake).1, (hs.takeAll htake).2, hk⟩
  | ifCaptured group yes no ihyes ihno =>
    intro s k r hs hrun
    simp only [Node.run] at hrun
    split at hrun
    · exact ihyes s k r hs hrun
    · exact ihno s k r hs hrun
  | lookAhead positive body ih =>
    intro s k r hs hrun
    simp only [Node.run] at hrun
    cases hbody : body.run s some with
    | none =>
      simp only [hbody, Option.ite_none_left_eq_some] at hrun
      exact ⟨s, hs, Nat.le_refl _, hrun.2⟩
    | some s' =>
      simp only [hbody, Option.ite_none_right_eq_some] at hrun
      exact ⟨_, hs.withCaptures (ih.within_of_some hs hbody).1, Nat.le_refl _, hrun.2⟩
  | lookBehind positive width body ih =>
    intro s k r hs hrun
    simp only [Node.run] at hrun
    cases hbody : (s.backBy? width).bind fun b => body.run b some with
    | none =>
      simp only [hbody, Option.ite_none_left_eq_some] at hrun
      exact ⟨s, hs, Nat.le_refl _, hrun.2⟩
    | some s' =>
      simp only [hbody, Option.ite_none_right_eq_some] at hrun
      obtain ⟨b, hback, hrun'⟩ := Option.bind_eq_some_iff.mp hbody
      exact ⟨_, hs.withCaptures (ih.within_of_some (hs.backBy hback) hrun').1, Nat.le_refl _, hrun.2⟩

end Pattern

open Pattern

structure Match.Within (n : Nat) (m : Match) : Prop where
  ordered : m.start ≤ m.stop
  inside : m.stop ≤ n
  captures : ∀ c ∈ m.captures, c.2.1 ≤ c.2.2 ∧ c.2.2 ≤ n

lemma Match.Within.captured {n group i j : Nat} {m : Match} (h : m.Within n)
    (hcaptured : m.captured? group = some (i, j)) : i ≤ j ∧ j ≤ n := by
  obtain ⟨front, back, heq, -⟩ := List.lookup_eq_some_iff.mp hcaptured
  exact h.captures (group, i, j) (by rw [heq]; simp)

namespace Pattern

section

variable {n : Nat} {node : Node} {m : Match} {s : Place}

lemma within_of_matchAt {advance : Bool} (hs : s.Within n) (h : node.matchAt advance s = some m) :
    m.Within n := by
  obtain ⟨r, hrun, rfl⟩ := Option.map_eq_some_iff.mp h
  obtain ⟨s', hs', hle, hk⟩ := node.run_forward n s _ r hs hrun
  obtain ⟨-, rfl⟩ : _ ∧ s' = r := by simpa only [Option.ite_none_left_eq_some, Option.some.injEq] using hk
  exact ⟨hle, hs'.offset_le, hs'.captures⟩

lemma within_of_mem_matchesAt (hs : s.Within n) (h : m ∈ (node.matchesAt s).1) : m.Within n := by
  unfold Node.matchesAt at h
  cases hfirst : node.matchAt false s with
  | none => simp [hfirst] at h
  | some m₁ =>
    have h₁ := within_of_matchAt hs hfirst
    simp only [hfirst] at h
    split at h
    · cases hnext : node.matchAt true s with
      | none =>
        obtain rfl : m = m₁ := by simpa [hnext] using h
        exact h₁
      | some m₂ =>
        obtain rfl | rfl : m = m₁ ∨ m = m₂ := by simpa [hnext] using h
        · exact h₁
        · exact within_of_matchAt hs hnext
    · obtain rfl : m = m₁ := by simpa using h
      exact h₁

lemma within_of_mem_matchesFrom {after before : Text} {offset skip : Nat} (hbefore : before.length = offset)
    (hafter : offset + after.length = n) (h : m ∈ node.matchesFrom after before offset skip) : m.Within n := by
  induction after generalizing before offset skip with
  | nil =>
    cases skip with
    | zero => exact within_of_mem_matchesAt ⟨hbefore, hafter, by simp⟩ h
    | succ skip => cases h
  | cons c after ih =>
    have hlater : ∀ {skip}, m ∈ node.matchesFrom after (c :: before) (offset + 1) skip → m.Within n := by
      intro skip hmem
      refine ih (by simp [hbefore]) ?_ hmem
      rw [List.length_cons] at hafter
      omega
    cases skip with
    | zero =>
      rcases List.mem_append.mp h with hhere | hmem
      · exact within_of_mem_matchesAt ⟨hbefore, hafter, by simp⟩ hhere
      · exact hlater hmem
    | succ skip => exact hlater h

end

lemma within_of_mem_matchesIn {p : Pattern} {t : Text} {m : Match} (h : m ∈ p.matchesIn t) :
    m.Within t.length :=
  within_of_mem_matchesFrom rfl (Nat.zero_add _) h

end Pattern

end ClassTidy
