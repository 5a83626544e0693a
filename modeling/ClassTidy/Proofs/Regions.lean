import ClassTidy.Proofs.Literals
import ClassTidy.Source.Locator

/-! The region of a call ends where its parenthesis is closed, and every literal in it is closed. -/

namespace ClassTidy

lemma Text.between_of_drop {t u rest : Text} {n : Nat} (h : t.drop n = u ++ rest) :
    Text.between t n (n + u.length) = u := by
  rw [Text.between, List.drop_take, Nat.add_sub_cancel_left, h, List.take_left]

namespace Source

def Scan.after : Scan → Text → Option Scan
  | s, [] => some s
  | s, c :: t => (s.step c).bind fun s' => s'.after t

lemma Scan.after_append (s : Scan) (t u : Text) :
    s.after (t ++ u) = (s.after t).bind fun s' => s'.after u := by
  induction t generalizing s with
  | nil => rfl
  | cons c t ih =>
    simp only [List.cons_append, Scan.after, Option.bind_assoc]
    congr 1
    funext s'
    exact ih s'

lemma Scan.step_eq_none_iff (s : Scan) (c : Char) : s.step c = none ↔ s = .code 0 ∧ c = ')' := by
  cases s with
  | code depth =>
    by_cases hclose : c = ')'
    · subst hclose
      cases depth <;> simp [Scan.step, isQuote]
    · simp only [Scan.step, hclose, if_false, and_false, iff_false]
      split
      · simp
      · split <;> simp
  | quoted q depth =>
    simp only [Scan.step, reduceCtorEq, false_and, iff_false]
    split
    · simp
    · split <;> simp
  | escaped q depth => simp [Scan.step]

lemma Scan.run_eq_some_iff (s : Scan) (t : Text) (n : Nat) :
    s.run t = some n ↔ ∃ u rest, t = u ++ ')' :: rest ∧ u.length = n ∧ s.after u = some (.code 0) := by
  induction t generalizing s n with
  | nil => simp [Scan.run]
  | cons c t ih =>
    cases hstep : s.step c with
    | none =>
      obtain ⟨rfl, rfl⟩ := (Scan.step_eq_none_iff s c).mp hstep
      simp only [Scan.run, hstep, Option.some.injEq]
      constructor
      · rintro rfl
        exact ⟨[], t, rfl, rfl, rfl⟩
      · rintro ⟨u, rest, ht, rfl, hu⟩
        cases u with
        | nil => rfl
        | cons d u =>
          obtain ⟨rfl, rfl⟩ : ')' = d ∧ t = u ++ ')' :: rest := by simpa using ht
          simp [Scan.after, hstep] at hu
    | some s' =>
      simp only [Scan.run, hstep, Option.map_eq_some_iff]
      constructor
      · rintro ⟨m, hm, rfl⟩
        obtain ⟨u, rest, rfl, rfl, hu⟩ := (ih s' m).mp hm
        exact ⟨c :: u, rest, rfl, rfl, by simp [Scan.after, hstep, hu]⟩
      · rintro ⟨u, rest, ht, rfl, hu⟩
        cases u with
        | nil =>
          cases hu
          obtain ⟨rfl, rfl⟩ : c = ')' ∧ t = rest := by simpa using ht
          simp [Scan.step, isQuote] at hstep
        | cons d u =>
          obtain ⟨rfl, rfl⟩ : c = d ∧ t = u ++ ')' :: rest := by simpa using ht
          simp only [Scan.after, hstep, Option.bind_some] at hu
          exact ⟨u.length, (ih s' u.length).mpr ⟨u, rest, rfl, rfl, hu⟩, rfl⟩

def insideScan (q : Char) (depth : Nat) (escaped : Bool) : Scan :=
  if escaped then .escaped q depth else .quoted q depth

lemma after_inside {q : Char} {escaped e : Bool} {v : Text} (h : escapedAfter? q escaped v = some e)
    (depth : Nat) : (insideScan q depth escaped).after v = some (insideScan q depth e) := by
  induction v generalizing escaped with
  | nil =>
    cases h
    rfl
  | cons c v ih =>
    cases escaped with
    | true => exact ih h
    | false =>
      simp only [escapedAfter?] at h
      simp only [insideScan, Bool.false_eq_true, if_false, Scan.after, Scan.step]
      split at h
      · rename_i hslash
        rw [if_pos hslash]
        exact ih h
      · rename_i hslash
        split at h
        · cases h
        · rename_i hq
          rw [if_neg hslash, if_neg hq]
          exact ih h

lemma after_literal {q : Char} {v : Text} (hq : isQuote q = true) (hv : IsContent q v) (depth : Nat)
    (t : Text) : (Scan.code depth).after (q :: (v ++ q :: t)) = (Scan.code depth).after t := by
  have hin : (Scan.quoted q depth).after v = some (.quoted q depth) := after_inside hv depth
  simp [Scan.after, Scan.after_append, Scan.step, hq, hin, ne_backslash_of_isQuote hq]

lemma Scan.eq_code_of_step {depth : Nat} {c : Char} (hc : isQuote c = false) {s : Scan}
    (h : (Scan.code depth).step c = some s) : ∃ d, s = .code d := by
  simp only [Scan.step, hc, Bool.false_eq_true, if_false] at h
  split at h
  · exact ⟨_, (Option.some.inj h).symm⟩
  · split at h
    · cases depth with
      | zero => cases h
      | succ d => exact ⟨d, (Option.some.inj h).symm⟩
    · exact ⟨_, (Option.some.inj h).symm⟩

-- A scan that is between quotes neither before a text nor behind it has met closed literals only.
lemma closed_of_after {u : Text} {depth depth' : Nat}
    (h : (Scan.code depth).after u = some (.code depth')) : Closed u := by
  induction u using literalInduction generalizing depth with
  | nil => exact .nil
  | code c t hc ih =>
    obtain ⟨s, hs, ht⟩ := Option.bind_eq_some_iff.mp h
    obtain ⟨d, rfl⟩ := Scan.eq_code_of_step hc hs
    exact .code hc (ih ht)
  | literal q v t hq hv ih =>
    rw [after_literal hq hv] at h
    exact .literal hq hv (ih h)
  | unclosed q v e hq hv =>
    have hin : (Scan.quoted q depth).after v = some (insideScan q depth e) := after_inside hv depth
    simp only [Scan.after, Scan.step, hq, if_true, Option.bind_some, hin, Option.some.injEq] at h
    cases e <;> cases h

lemma closeFrom_eq_some_iff (t : Text) (n : Nat) :
    closeFrom? t = some n ↔
      ∃ u rest, t = u ++ ')' :: rest ∧ u.length = n ∧ (Scan.code 0).after u = some (.code 0) :=
  Scan.run_eq_some_iff _ t n

end Source

namespace Locator

open Source

lemma regionOf_eq_ok {t : Text} {m : Match} {region : Span}
    (h : regionOf t m = some (.ok region)) :
    ∃ opened u rest, openParen? t m.start m.stop = some opened ∧
      t.drop (opened + 1) = u ++ ')' :: rest ∧
      region = ⟨opened + 1, opened + 1 + u.length⟩ ∧ (Scan.code 0).after u = some (.code 0) := by
  unfold regionOf at h
  split at h
  · cases h
  · obtain ⟨opened, hopen, hclose⟩ := Option.map_eq_some_iff.mp h
    cases hn : closeFrom? (t.drop (opened + 1)) with
    | none => simp [hn] at hclose
    | some n =>
      obtain ⟨u, rest, hdrop, rfl, hu⟩ := (closeFrom_eq_some_iff _ n).mp hn
      simp only [hn, Except.ok.injEq] at hclose
      exact ⟨opened, u, rest, hopen, hdrop, hclose.symm, hu⟩

lemma mem_regions {l : Locator} {t : Text} {region : Span} (h : .ok region ∈ l.regions t) :
    Closed (region.text t) := by
  obtain ⟨m, -, hm⟩ := List.mem_filterMap.mp h
  obtain ⟨opened, u, rest, -, hdrop, rfl, hu⟩ := regionOf_eq_ok hm
  rw [Span.text, Text.between_of_drop hdrop]
  exact closed_of_after hu

end Locator

end ClassTidy
