import ClassTidy.Proofs.ArgumentGrammar

/-! The scan for a closing parenthesis and the scan for literals agree on a region. -/

namespace ClassTidy

namespace Span

def withQuotes (s : Span) : Span := ⟨s.start - 1, s.stop + 1⟩

def holds (s : Span) (i : Nat) : Bool := s.start ≤ i && i < s.stop

lemma holds_withQuotes (s : Span) (i : Nat) :
    s.withQuotes.holds i = true ↔ s.start ≤ i + 1 ∧ i ≤ s.stop := by
  simp only [holds, Bool.and_eq_true, decide_eq_true_eq]
  simp only [withQuotes]
  omega

end Span

namespace Source

/-! ### Both scans side by side -/

namespace LiteralScan

def step (i : Nat) (c : Char) : LiteralScan → LiteralScan
  | outside => if isQuote c then inside c (i + 1) else outside
  | inside q start =>
    if c = '\\' then escaped q start else if c = q then outside else inside q start
  | escaped q start => inside q start

def after : LiteralScan → (offset : Nat) → Text → LiteralScan
  | scan, _, [] => scan
  | scan, i, c :: t => (scan.step i c).after (i + 1) t

def openQuote? : LiteralScan → Option (Char × Bool)
  | outside => none
  | inside q _ => some (q, false)
  | escaped q _ => some (q, true)

end LiteralScan

lemma literalsFrom_append (scan : LiteralScan) (i : Nat) (u t : Text) :
    literalsFrom scan i (u ++ t) =
      literalsFrom scan i u ++ literalsFrom (scan.after i u) (i + u.length) t := by
  induction u generalizing scan i with
  | nil => cases scan <;> simp [literalsFrom, LiteralScan.after]
  | cons c u ih =>
    have hlength : i + (c :: u).length = i + 1 + u.length := by simp; omega
    rw [hlength]
    cases scan with
    | outside =>
      simp only [List.cons_append, literalsFrom, LiteralScan.after, LiteralScan.step]
      split <;> exact ih _ _
    | inside q start =>
      simp only [List.cons_append, literalsFrom, LiteralScan.after, LiteralScan.step]
      split
      · exact ih _ _
      · split
        · rw [ih, List.cons_append]
        · exact ih _ _
    | escaped q start => exact ih _ _

def Scan.openQuote? : Scan → Option (Char × Bool)
  | code _ => none
  | quoted q _ => some (q, false)
  | escaped q _ => some (q, true)

lemma openQuote_step {s s' : Scan} {scan : LiteralScan} (h : s.openQuote? = scan.openQuote?) {c : Char}
    (hs : s.step c = some s') (i : Nat) : s'.openQuote? = (scan.step i c).openQuote? := by
  match s, scan, h with
  | .code depth, .outside, _ =>
    cases hc : isQuote c with
    | true =>
      simp only [Scan.step, hc, if_true, Option.some.injEq] at hs
      subst hs
      simp [LiteralScan.step, hc, Scan.openQuote?, LiteralScan.openQuote?]
    | false =>
      obtain ⟨d, rfl⟩ := Scan.eq_code_of_step hc hs
      simp [LiteralScan.step, hc, Scan.openQuote?, LiteralScan.openQuote?]
  | .quoted q depth, .inside _ start, rfl =>
    simp only [Scan.step] at hs
    simp only [LiteralScan.step]
    split at hs
    · cases hs
      rw [if_pos ‹_›]
      rfl
    · split at hs
      · cases hs
        rw [if_neg ‹_›, if_pos ‹_›]
        rfl
      · cases hs
        rw [if_neg ‹_›, if_neg ‹_›]
        rfl
  | .escaped q depth, .escaped _ start, rfl =>
    cases hs
    rfl

-- On a text that the scan for a closing parenthesis passes, both scans have the same quote open.
lemma openQuote_after {s s' : Scan} {scan : LiteralScan} (h : s.openQuote? = scan.openQuote?) {t : Text}
    (ht : s.after t = some s') (i : Nat) : s'.openQuote? = (scan.after i t).openQuote? := by
  induction t generalizing s scan i with
  | nil =>
    cases ht
    exact h
  | cons c t ih =>
    obtain ⟨s₁, hstep, hrest⟩ := Option.bind_eq_some_iff.mp ht
    exact ih (openQuote_step h hstep i) hrest (i + 1)

lemma Scan.exists_after_take {s s' : Scan} {t : Text} (h : s.after t = some s') (n : Nat) :
    ∃ s₁, s.after (t.take n) = some s₁ := by
  rw [← List.take_append_drop n t, Scan.after_append] at h
  obtain ⟨s₁, h₁, -⟩ := Option.bind_eq_some_iff.mp h
  exact ⟨s₁, h₁⟩

/-! ### Where literals are -/

lemma lt_start_of_mem {i : Nat} {t : Text} {s : Span} (h : s ∈ literalsFrom .outside i t) : i < s.start := by
  obtain ⟨before, behind, hcut⟩ := List.append_of_mem h
  obtain ⟨u, q, v, rest, -, -, -, -, -, rfl, -⟩ := exists_literal hcut
  simp only
  omega

lemma literalsFrom_pairwise (i : Nat) (t : Text) :
    (literalsFrom .outside i t).Pairwise fun a b => a.withQuotes.stop ≤ b.withQuotes.start := by
  induction t using literalInduction generalizing i with
  | nil => exact .nil
  | code c t hc ih =>
    rw [literalsFrom_code hc]
    exact ih (i + 1)
  | literal q v t hq hv ih =>
    rw [literalsFrom_literal hq hv]
    refine .cons ?_ (ih _)
    intro s hs
    have hlt := lt_start_of_mem hs
    simp only [Span.withQuotes]
    omega
  | unclosed q v e hq hv =>
    rw [literalsFrom_open hq hv]
    exact .nil

lemma delimited_of_mem {t : Text} {s : Span} (h : s ∈ literals t) :
    0 < s.start ∧ s.start ≤ s.stop ∧
      ∃ q, isQuote q = true ∧ t[s.start - 1]? = some q ∧ t[s.stop]? = some q := by
  obtain ⟨before, behind, hcut⟩ := List.append_of_mem h
  obtain ⟨u, q, v, rest, rfl, -, hq, -, -, rfl, -⟩ := exists_literal hcut
  refine ⟨by simp, by simp, q, hq, ?_, ?_⟩
  · simp
  · have hplace : 0 + u.length + 1 + v.length = (u ++ q :: v).length := by simp; omega
    have hsame : u ++ q :: (v ++ q :: rest) = (u ++ q :: v) ++ q :: rest := by simp
    rw [hplace, hsame]
    simp

lemma isSome_of_take_literal {q : Char} {v : Text} (hq : isQuote q = true) (hv : IsContent q v) {n : Nat}
    (hn : n ≤ v.length) {d : Nat} {s : Scan} {rest : Text}
    (hs : (Scan.code d).after ((q :: (v ++ rest)).take (n + 1)) = some s) : s.openQuote?.isSome = true := by
  rw [IsContent, ← List.take_append_drop n v, escapedAfter_append] at hv
  obtain ⟨e, he, -⟩ := Option.bind_eq_some_iff.mp hv
  have hinside : (Scan.quoted q d).after (v.take n) = some (insideScan q d e) := after_inside he d
  rw [List.take_succ_cons, List.take_append_of_le_length hn] at hs
  simp only [Scan.after, Scan.step, hq, if_true, Option.bind_some, hinside, Option.some.injEq] at hs
  subst hs
  cases e <;> rfl

lemma after_take_isQuoted_iff {t : Text} {d e : Nat} (h : (Scan.code d).after t = some (.code e)) (i n : Nat)
    (hn : n ≤ t.length) {s : Scan} (hs : (Scan.code d).after (t.take n) = some s) :
    s.openQuote?.isSome = true ↔ ∃ l ∈ literalsFrom .outside i t, l.start ≤ i + n ∧ i + n ≤ l.stop := by
  -- before the first character no scan is inside of quotes, and every literal starts later
  have hfirst : ∀ (u : Text) (i d : Nat), (Scan.code d).openQuote?.isSome = true ↔
      ∃ l ∈ literalsFrom .outside i u, l.start ≤ i + 0 ∧ i + 0 ≤ l.stop := by
    intro u i d
    refine iff_of_false (by simp [Scan.openQuote?]) ?_
    rintro ⟨l, hl, hle, -⟩
    have hlt := lt_start_of_mem hl
    omega
  induction closed_of_after h generalizing d i n with
  | nil =>
    obtain rfl : n = 0 := by simpa using hn
    cases hs
    exact hfirst [] i d
  | @code c t hc _ ih =>
    cases n with
    | zero =>
      cases hs
      exact hfirst (c :: t) i d
    | succ n =>
      obtain ⟨s₁, hstep, hrest⟩ := Option.bind_eq_some_iff.mp h
      obtain ⟨d₁, rfl⟩ := Scan.eq_code_of_step hc hstep
      rw [List.take_succ_cons, Scan.after, hstep, Option.bind_some] at hs
      have hrec := ih hrest (i + 1) n (by simpa using hn) hs
      rwa [Nat.add_right_comm, Nat.add_assoc, ← literalsFrom_code hc] at hrec
  | @literal q v t hq hv _ ih =>
    cases n with
    | zero =>
      cases hs
      exact hfirst _ i d
    | succ n =>
      rw [literalsFrom_literal hq hv]
      by_cases hin : n ≤ v.length
      · refine iff_of_true (isSome_of_take_literal hq hv hin hs) ⟨_, List.mem_cons_self, ?_⟩
        simp only
        omega
      · obtain ⟨k, rfl⟩ : ∃ k, n = v.length + (k + 1) := ⟨n - v.length - 1, by omega⟩
        rw [List.take_succ_cons, List.take_length_add_append, List.take_succ_cons, after_literal hq hv] at hs
        rw [after_literal hq hv] at h
        have hrec := ih h (i + 1 + v.length + 1) k (by simp at hn; omega) hs
        have hplace : i + (v.length + (k + 1) + 1) = i + 1 + v.length + 1 + k := by omega
        rw [hplace]
        refine hrec.trans ⟨?_, ?_⟩
        · rintro ⟨l, hl, hbounds⟩
          exact ⟨l, List.mem_cons_of_mem _ hl, hbounds⟩
        · rintro ⟨l, hl, hbounds⟩
          rcases List.mem_cons.mp hl with rfl | hl
          · simp only at hbounds
            omega
          · exact ⟨l, hl, hbounds⟩

/-! ### What is outside of literals -/

def unquotedFrom (offset : Nat) (t : Text) : Text :=
  ((t.zipIdx offset).filter fun p =>
    !(literalsFrom .outside offset t).any fun s => s.withQuotes.holds p.2).map Prod.fst

def unquoted (t : Text) : Text := unquotedFrom 0 t

lemma unquotedFrom_code {c : Char} (hc : isQuote c = false) (i : Nat) (t : Text) :
    unquotedFrom i (c :: t) = c :: unquotedFrom (i + 1) t := by
  have hkept : (literalsFrom .outside (i + 1) t).any (fun s => s.withQuotes.holds i) = false := by
    rw [List.any_eq_false]
    intro s hs
    have hlt := lt_start_of_mem hs
    rw [Span.holds_withQuotes]
    omega
  simp [unquotedFrom, literalsFrom_code hc, List.zipIdx_cons, hkept]

lemma unquotedFrom_literal {q : Char} {v : Text} (hq : isQuote q = true) (hv : IsContent q v) (i : Nat)
    (t : Text) : unquotedFrom i (q :: (v ++ q :: t)) = unquotedFrom (i + 1 + v.length + 1) t := by
  have hsplit : (q :: (v ++ q :: t)).zipIdx i =
      (q :: (v ++ [q])).zipIdx i ++ t.zipIdx (i + 1 + v.length + 1) := by
    have hcut : q :: (v ++ q :: t) = (q :: (v ++ [q])) ++ t := by simp
    rw [hcut, List.zipIdx_append]
    congr 2
    simp
    omega
  have hfirst : ∀ j, (⟨i + 1, i + 1 + v.length⟩ : Span).withQuotes.holds j = true ↔
      i ≤ j ∧ j < i + 1 + v.length + 1 := by
    intro j
    rw [Span.holds_withQuotes]
    simp only
    omega
  rw [unquotedFrom, hsplit, literalsFrom_literal hq hv, List.filter_append, List.filter_eq_nil_iff.mpr,
    List.nil_append, unquotedFrom]
  · congr 1
    refine List.filter_congr fun p hp => ?_
    have hle := List.le_snd_of_mem_zipIdx hp
    have hnot : ¬ (⟨i + 1, i + 1 + v.length⟩ : Span).withQuotes.holds p.2 = true := by
      rw [hfirst]
      omega
    simp [hnot]
  · intro p hp
    have hle := List.le_snd_of_mem_zipIdx hp
    have hlt := List.snd_lt_add_of_mem_zipIdx hp
    have hin : (⟨i + 1, i + 1 + v.length⟩ : Span).withQuotes.holds p.2 = true := by
      rw [hfirst]
      simp at hlt
      omega
    simp [hin]

lemma isQuote_of_mem_unquotedFrom {t : Text} (ht : Closed t) (i : Nat) :
    ∀ c ∈ unquotedFrom i t, isQuote c = false := by
  induction ht generalizing i with
  | nil => simp [unquotedFrom]
  | code hc _ ih =>
    rw [unquotedFrom_code hc]
    exact List.forall_mem_cons.mpr ⟨hc, ih (i + 1)⟩
  | literal hq hv _ ih =>
    rw [unquotedFrom_literal hq hv]
    exact ih _

lemma depth_of_step {c : Char} (hc : isQuote c = false) {d e : Nat}
    (h : (Scan.code d).step c = some (.code e)) : e + [c].count ')' = d + [c].count '(' := by
  simp only [Scan.step, hc, Bool.false_eq_true, if_false] at h
  by_cases hopen : c = '('
  · subst hopen
    cases h
    rfl
  · by_cases hclose : c = ')'
    · subst hclose
      cases d with
      | zero => simp at h
      | succ d =>
        cases h
        rfl
    · simp only [hopen, hclose, if_false, Option.some.injEq, Scan.code.injEq] at h
      simp [h, hopen, hclose]

lemma count_unquotedFrom {t : Text} {d e : Nat} (h : (Scan.code d).after t = some (.code e)) (i : Nat) :
    (∀ p, p <+: unquotedFrom i t → p.count ')' ≤ d + p.count '(') ∧
      e + (unquotedFrom i t).count ')' = d + (unquotedFrom i t).count '(' := by
  induction closed_of_after h generalizing d i with
  | nil =>
    cases h
    simp [unquotedFrom]
  | @code c t hc _ ih =>
    obtain ⟨s, hstep, hrest⟩ := Option.bind_eq_some_iff.mp h
    obtain ⟨d₁, rfl⟩ := Scan.eq_code_of_step hc hstep
    have hdepth := depth_of_step hc hstep
    obtain ⟨hfronts, htotal⟩ := ih hrest (i + 1)
    rw [unquotedFrom_code hc, ← List.singleton_append, List.count_append, List.count_append]
    refine ⟨?_, by omega⟩
    intro p hp
    rcases List.prefix_cons_iff.mp hp with rfl | ⟨p', rfl, hp'⟩
    · simp
    · have hle := hfronts p' hp'
      rw [← List.singleton_append, List.count_append, List.count_append]
      omega
  | literal hq hv _ ih =>
    rw [after_literal hq hv] at h
    rw [unquotedFrom_literal hq hv]
    exact ih h _

def BalancedParens (t : Text) : Prop :=
  (∀ p, p <+: t → p.count ')' ≤ p.count '(') ∧ t.count '(' = t.count ')'

def InQuotes (t : Text) (n : Nat) : Prop :=
  ∃ s, (Scan.code 0).after (t.take n) = some s ∧ s.openQuote?.isSome = true

lemma inQuotes_iff {t : Text} (h : (Scan.code 0).after t = some (.code 0)) {n : Nat} (hn : n ≤ t.length) :
    InQuotes t n ↔ ∃ l ∈ literals t, l.start ≤ n ∧ n ≤ l.stop := by
  obtain ⟨s, hs⟩ := Scan.exists_after_take h n
  have hquoted := after_take_isQuoted_iff h 0 n hn hs
  rw [Nat.zero_add] at hquoted
  rw [InQuotes, hs]
  simp only [Option.some.injEq, exists_eq_left']
  exact hquoted

/-- Where a closing parenthesis is found, no literal of the region before it is left open. The literals
stand apart with their quotes, which are the same on both sides. Both scans have the same quote open
throughout, and the scan for the parenthesis is inside of quotes on the literals only. The rest of the
region has no quotes, and its parentheses are balanced. -/
theorem scans_agree_on_region (t : Text) (o c : Nat) (h : closeParen t o = .ok (c : Int)) :
    let region := Text.between t (o + 1) c
    LiteralScan.outside.after 0 region = .outside ∧
    (literals region).Pairwise (fun a b => a.withQuotes.stop ≤ b.withQuotes.start) ∧
    (∀ l ∈ literals region, 0 < l.start ∧ l.start ≤ l.stop ∧
      ∃ q, isQuote q = true ∧ region[l.start - 1]? = some q ∧ region[l.stop]? = some q) ∧
    (∀ n ≤ region.length, ∃ s scan, (Scan.code 0).after (region.take n) = some s ∧
      literals region = literals (region.take n) ++ literalsFrom scan n (region.drop n) ∧
      LiteralScan.outside.after 0 (region.take n) = scan ∧ s.openQuote? = scan.openQuote?) ∧
    (∀ n ≤ region.length, InQuotes region n ↔ ∃ l ∈ literals region, l.start ≤ n ∧ n ≤ l.stop) ∧
    (∀ i < region.length, InQuotes region i ∨ InQuotes region (i + 1) ↔
      ∃ l ∈ literals region, l.withQuotes.holds i = true) ∧
    (∀ x ∈ unquoted region, isQuote x = false) ∧ BalancedParens (unquoted region) := by
  intro region
  have hregion : (Scan.code 0).after region = some (.code 0) :=
    (after_eq_code_iff_balanced region).mpr ((closeParen_eq_ok_iff t o c).mp h).balanced
  have hclosed : Closed region := closed_of_after hregion
  obtain ⟨hfronts, htotal⟩ := count_unquotedFrom hregion 0
  simp only [Nat.zero_add] at hfronts htotal
  refine ⟨?_, literalsFrom_pairwise 0 region, fun l => delimited_of_mem, ?_,
    fun n => inQuotes_iff hregion, ?_, isQuote_of_mem_unquotedFrom hclosed 0, hfronts, htotal.symm⟩
  · have hnone : (Scan.code 0).openQuote? = (LiteralScan.outside.after 0 region).openQuote? :=
      openQuote_after rfl hregion 0
    cases hend : LiteralScan.outside.after 0 region with
    | outside => rfl
    | inside q start => simp [hend, Scan.openQuote?, LiteralScan.openQuote?] at hnone
    | escaped q start => simp [hend, Scan.openQuote?, LiteralScan.openQuote?] at hnone
  · intro n hn
    obtain ⟨s, hs⟩ := Scan.exists_after_take hregion n
    refine ⟨s, _, hs, ?_, rfl, openQuote_after rfl hs 0⟩
    have hcut := literalsFrom_append .outside 0 (region.take n) (region.drop n)
    rwa [List.take_append_drop, Nat.zero_add, List.length_take, Nat.min_eq_left hn] at hcut
  · intro i hi
    rw [inQuotes_iff hregion (Nat.le_of_lt hi), inQuotes_iff hregion hi, ← exists_or]
    refine exists_congr fun l => ?_
    rw [← and_or_left, Span.holds_withQuotes]
    refine and_congr_right fun hl => ?_
    have hordered := (delimited_of_mem hl).2.1
    omega

-- A quote behind a backslash does not end a literal, and the parenthesis in it does not count.
theorem scans_agree_on_region_escaped :
    let t : Text := "f(a, ')\\')', \\(g)) b)".toList
    let region := Text.between t 2 17
    closeParen t 1 = .ok 17 ∧ literals region = [⟨4, 8⟩] ∧ unquoted region = "a, , \\(g)".toList ∧
      LiteralScan.outside.after 0 region = .outside ∧
      (∀ n ≤ region.length, InQuotes region n ↔ 4 ≤ n ∧ n ≤ 8) ∧ BalancedParens (unquoted region) := by
  intro t region
  have hclose : closeParen t 1 = .ok 17 := by decide
  have hliterals : literals region = [⟨4, 8⟩] := by decide
  obtain ⟨hend, -, -, -, hquoted, -, -, hbalanced⟩ := scans_agree_on_region t 1 17 hclose
  refine ⟨hclose, hliterals, by decide, hend, ?_, hbalanced⟩
  intro n hn
  have hplace : InQuotes region n ↔ ∃ l ∈ literals region, l.start ≤ n ∧ n ≤ l.stop := hquoted n hn
  simpa [hliterals] using hplace

end Source

end ClassTidy
