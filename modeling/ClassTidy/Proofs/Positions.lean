import ClassTidy.Proofs.Attributes
import ClassTidy.Proofs.Extraction
import ClassTidy.Proofs.FixedResults
import Mathlib.Data.Prod.Lex

/-! Lines and columns are what counting line ends gives. -/

namespace ClassTidy

open Text

namespace Text

lemma lineStartsFrom_append (i : Nat) (s t : Text) :
    lineStartsFrom i (s ++ t) = lineStartsFrom i s ++ lineStartsFrom (i + s.length) t := by
  induction s generalizing i with
  | nil => simp [lineStartsFrom]
  | cons c s ih =>
    have hlength : i + (c :: s).length = i + 1 + s.length := by simp; omega
    rw [List.cons_append, lineStartsFrom, lineStartsFrom, ih, hlength]
    split
    · rw [List.cons_append]
    · rfl

lemma length_lineStartsFrom (i : Nat) (t : Text) : (lineStartsFrom i t).length = t.count '\n' := by
  induction t generalizing i with
  | nil => rfl
  | cons c t ih =>
    rw [lineStartsFrom, List.count_cons]
    split <;> simp [*]

lemma lineStartsFrom_bounds {i n : Nat} {t : Text} (h : n ∈ lineStartsFrom i t) :
    i < n ∧ n ≤ i + t.length := by
  induction t generalizing i with
  | nil => cases h
  | cons c t ih =>
    rw [List.length_cons]
    rw [lineStartsFrom] at h
    split at h
    · rcases List.mem_cons.mp h with rfl | h
      · omega
      · have hn := ih h
        omega
    · have hn := ih h
      omega

namespace LineIndex

lemma countUpTo_eq {starts : Array Nat} {offset low high k : Nat} (h : high ≤ starts.size) (hlow : low ≤ k)
    (hhigh : k ≤ high) (hcut : ∀ i (hi : i < starts.size), starts[i] ≤ offset ↔ i < k) :
    countUpTo starts offset low high h = k := by
  -- the cut stays from `low` to `high`
  fun_induction countUpTo starts offset low high h with
  | case1 low high h hlt middle hmiddle hbehind ih =>
    apply ih hlow
    have hle := (hcut middle hmiddle).not
    omega
  | case2 low high h hlt middle hmiddle hupTo ih =>
    apply ih _ hhigh
    have hle := hcut middle hmiddle
    omega
  | case3 low high h hge => omega

lemma countUpTo_append {front back : List Nat} {offset : Nat} (hfront : ∀ n ∈ front, n ≤ offset)
    (hback : ∀ n ∈ back, offset < n) :
    countUpTo (front ++ back).toArray offset 0 (front ++ back).toArray.size (Nat.le_refl _) = front.length := by
  apply countUpTo_eq
  · exact Nat.zero_le _
  · simp
  · intro i hi
    rw [List.getElem_toArray]
    rcases Nat.lt_or_ge i front.length with hlt | hge
    · rw [List.getElem_append_left hlt]
      exact iff_of_true (hfront _ (List.getElem_mem hlt)) hlt
    · rw [List.getElem_append_right hge]
      exact iff_of_false (hback _ (List.getElem_mem _)).not_ge hge.not_gt

end LineIndex

/-- The line that an offset is on starts here: behind a line end or at the front of the text, with no line
end from here to the offset. -/
structure LineStart (t : Text) (offset start : Nat) : Prop where
  le : start ≤ offset
  behind : start = 0 ∨ t[start - 1]? = some '\n'
  clear : ∀ i < offset, start ≤ i → t[i]? ≠ some '\n'

lemma LineStart.start_le {t : Text} {offset start start' : Nat} (h : LineStart t offset start)
    (h' : LineStart t offset start') : start ≤ start' := by
  by_contra hlt
  have hle := h.le
  exact h'.clear (start - 1) (by omega) (by omega) (h.behind.resolve_left (by omega))

def lineStart (t : Text) (line : Nat) : Nat :=
  (((t.splitOn '\n').take (line - 1)).flatMap (· ++ ['\n'])).length

lemma splitOn_append_newline (s t : Text) :
    (s ++ '\n' :: t).splitOn '\n' = s.splitOn '\n' ++ t.splitOn '\n' := by
  rw [List.splitOn_eq_splitOnP, List.splitOnP_append_cons s t (by rfl), List.splitOn_eq_splitOnP,
    List.splitOn_eq_splitOnP]

lemma length_splitOn_newline (t : Text) : (t.splitOn '\n').length = t.count '\n' + 1 := by
  induction t with
  | nil => rfl
  | cons c t ih =>
    rw [List.splitOn_eq_splitOnP] at ih ⊢
    rw [List.splitOnP_cons_eq_if_modifyHead, List.count_cons]
    split <;> simp [*]

lemma flatMap_splitOn_newline (t : Text) : (t.splitOn '\n').flatMap (· ++ ['\n']) = t ++ ['\n'] := by
  induction t with
  | nil => rfl
  | cons c t ih =>
    rw [List.splitOn_eq_splitOnP] at ih ⊢
    rw [List.splitOnP_cons_eq_if_modifyHead]
    split
    · rename_i hc
      rw [List.flatMap_cons, ih, beq_iff_eq.mp hc]
      rfl
    · obtain ⟨line, lines, hlines⟩ := List.exists_cons_of_ne_nil (List.splitOnP_ne_nil (· == '\n') t)
      rw [hlines] at ih ⊢
      rw [List.modifyHead_cons, List.flatMap_cons, List.cons_append, List.cons_append, List.cons_append, ← ih,
        List.flatMap_cons]

structure Cut (t : Text) (offset : Nat) (ended begun : Text) : Prop where
  front : t.take offset = ended ++ begun
  ended : ended = [] ∨ ∃ u, ended = u ++ ['\n']
  begun : '\n' ∉ begun

lemma exists_cut (t : Text) (offset : Nat) : ∃ ended begun, Cut t offset ended begun := by
  suffices h : ∀ u : Text, ∃ ended begun,
      u = ended ++ begun ∧ (ended = [] ∨ ∃ v, ended = v ++ ['\n']) ∧ '\n' ∉ begun by
    obtain ⟨ended, begun, hfront, hended, hbegun⟩ := h (t.take offset)
    exact ⟨ended, begun, hfront, hended, hbegun⟩
  intro u
  induction u using List.reverseRecOn with
  | nil => exact ⟨[], [], rfl, Or.inl rfl, List.not_mem_nil⟩
  | append_singleton u c ih =>
    by_cases hc : c = '\n'
    · subst hc
      exact ⟨u ++ ['\n'], [], by simp, Or.inr ⟨u, rfl⟩, List.not_mem_nil⟩
    · obtain ⟨ended, begun, rfl, hended, hbegun⟩ := ih
      refine ⟨ended, begun ++ [c], by simp, hended, ?_⟩
      simp [hbegun, Ne.symm hc]

namespace Cut

variable {t ended begun : Text} {offset : Nat}

lemma length_eq (h : Cut t offset ended begun) (hle : offset ≤ t.length) :
    ended.length + begun.length = offset := by
  rw [← List.length_append, ← h.front, List.length_take_of_le hle]

lemma lineEndsBefore_eq (h : Cut t offset ended begun) : t.lineEndsBefore offset = ended.count '\n' := by
  rw [lineEndsBefore, h.front, List.count_append, List.count_eq_zero_of_not_mem h.begun, Nat.add_zero]

lemma starts_eq (h : Cut t offset ended begun) (hle : offset ≤ t.length) :
    (LineIndex.ofText t).starts =
      (0 :: lineStartsFrom 0 ended ++ lineStartsFrom offset (t.drop offset)).toArray := by
  have hbegun : lineStartsFrom (0 + ended.length) begun = [] := by
    apply List.eq_nil_of_length_eq_zero
    rw [length_lineStartsFrom, List.count_eq_zero_of_not_mem h.begun]
  have ht : t = ended ++ begun ++ t.drop offset := by rw [← h.front, List.take_append_drop]
  have hstarts : lineStartsFrom 0 t = lineStartsFrom 0 ended ++ lineStartsFrom offset (t.drop offset) := by
    conv_lhs => rw [ht]
    rw [lineStartsFrom_append, lineStartsFrom_append, hbegun, List.append_nil, List.length_append,
      Nat.zero_add, h.length_eq hle]
  rw [LineIndex.ofText, hstarts, List.cons_append]

lemma getElem_starts (h : Cut t offset ended begun) :
    (0 :: lineStartsFrom 0 ended)[ended.count '\n']? = some ended.length := by
  obtain rfl | ⟨u, rfl⟩ := h.ended
  · rfl
  · have hlast : lineStartsFrom (0 + u.length) ['\n'] = [u.length + 1] := by simp [lineStartsFrom]
    rw [lineStartsFrom_append, hlast, ← List.cons_append, List.getElem?_append_right] <;>
      simp [length_lineStartsFrom]

lemma locate_eq (h : Cut t offset ended begun) (hle : offset ≤ t.length) :
    (LineIndex.ofText t).locate offset = (ended.count '\n' + 1, begun.length) := by
  have hlength := h.length_eq hle
  have hfront : ∀ n ∈ 0 :: lineStartsFrom 0 ended, n ≤ offset := by
    intro n hn
    rcases List.mem_cons.mp hn with rfl | hn
    · exact Nat.zero_le _
    · have hbound := lineStartsFrom_bounds hn
      omega
  have hback : ∀ n ∈ lineStartsFrom offset (t.drop offset), offset < n :=
    fun n hn => (lineStartsFrom_bounds hn).1
  have hline := LineIndex.countUpTo_append hfront hback
  rw [List.length_cons, length_lineStartsFrom] at hline
  have hstart : (0 :: lineStartsFrom 0 ended ++ lineStartsFrom offset (t.drop offset)).toArray.getD
      (ended.count '\n') 0 = ended.length := by
    rw [Array.getD_eq_getD_getElem?, List.getElem?_toArray, List.getElem?_append_left, h.getElem_starts]
    · rfl
    · simp [length_lineStartsFrom]
  simp only [LineIndex.locate, h.starts_eq hle]
  rw [hline, Nat.add_sub_cancel, hstart, ← hlength, Nat.add_sub_cancel_left]

lemma isLineStart (h : Cut t offset ended begun) (hle : offset ≤ t.length) :
    LineStart t offset ended.length := by
  have hlength := h.length_eq hle
  have hget : ∀ i < offset, t[i]? = (ended ++ begun)[i]? := by
    intro i hi
    rw [← h.front, List.getElem?_take_of_lt hi]
  refine ⟨by omega, ?_, ?_⟩
  · obtain rfl | ⟨u, rfl⟩ := h.ended
    · exact Or.inl rfl
    · rw [List.length_append, List.length_singleton] at hlength ⊢
      right
      rw [hget _ (by omega)]
      simp
  · intro i hi hge hnewline
    rw [hget i hi, List.getElem?_append_right hge] at hnewline
    exact h.begun (List.mem_of_getElem? hnewline)

lemma lineStart_eq (h : Cut t offset ended begun) : t.lineStart (ended.count '\n' + 1) = ended.length := by
  obtain rfl | ⟨u, rfl⟩ := h.ended
  · simp [lineStart]
  · have ht : t = u ++ '\n' :: (begun ++ t.drop offset) := by
      conv_lhs => rw [← List.take_append_drop offset t, h.front]
      simp
    have hcount : (u ++ ['\n']).count '\n' = (u.splitOn '\n').length := by
      rw [length_splitOn_newline, List.count_append, List.count_singleton_self]
    have hlines : (t.splitOn '\n').take ((u ++ ['\n']).count '\n') = u.splitOn '\n' := by
      rw [ht, splitOn_append_newline, hcount, List.take_left]
    rw [lineStart, Nat.add_sub_cancel, hlines, flatMap_splitOn_newline]

end Cut

namespace LineIndex

variable {t : Text} {offset : Nat}

lemma locate_eq_iff (hle : offset ≤ t.length) (line column : Nat) :
    (ofText t).locate offset = (line, column) ↔
      line = t.lineEndsBefore offset + 1 ∧ ∃ start, LineStart t offset start ∧ start + column = offset := by
  obtain ⟨ended, begun, hcut⟩ := exists_cut t offset
  have hstart := hcut.isLineStart hle
  have hlength := hcut.length_eq hle
  rw [hcut.locate_eq hle, hcut.lineEndsBefore_eq, Prod.mk.injEq]
  constructor
  · rintro ⟨rfl, rfl⟩
    exact ⟨rfl, _, hstart, hlength⟩
  · rintro ⟨rfl, start, hstart', hcolumn⟩
    obtain rfl := Nat.le_antisymm (hstart'.start_le hstart) (hstart.start_le hstart')
    exact ⟨rfl, by omega⟩

lemma lineStart_add_column (hle : offset ≤ t.length) {line column : Nat}
    (h : (ofText t).locate offset = (line, column)) : t.lineStart line + column = offset := by
  obtain ⟨ended, begun, hcut⟩ := exists_cut t offset
  rw [hcut.locate_eq hle] at h
  cases h
  rw [hcut.lineStart_eq, hcut.length_eq hle]

lemma locate_strictMonoOn (t : Text) :
    StrictMonoOn (fun offset => toLex ((ofText t).locate offset)) (Set.Iic t.length) := by
  intro a ha b hb hab
  obtain ⟨line, column, hline⟩ : ∃ line column, (ofText t).locate a = (line, column) := ⟨_, _, rfl⟩
  obtain ⟨line', column', hline'⟩ : ∃ line column, (ofText t).locate b = (line, column) := ⟨_, _, rfl⟩
  have hcount : t.lineEndsBefore a ≤ t.lineEndsBefore b :=
    (List.take_sublist_take_left hab.le).count_le _
  have hstart := lineStart_add_column ha hline
  have hstart' := lineStart_add_column hb hline'
  obtain ⟨hline₁, -⟩ := (locate_eq_iff ha _ _).mp hline
  obtain ⟨hline₂, -⟩ := (locate_eq_iff hb _ _).mp hline'
  simp only [hline, hline', Prod.Lex.toLex_lt_toLex]
  rcases Nat.lt_or_ge line line' with hlt | hge
  · exact Or.inl hlt
  · obtain rfl : line = line' := by omega
    exact Or.inr ⟨rfl, by omega⟩

end LineIndex

end Text

namespace Checker

variable {ε : Type} {c : Checker ε} {t : Text}

lemma places_bounds {s : Span} (h : s ∈ c.places t) : s.start ≤ s.stop ∧ s.stop ≤ t.length := by
  rw [places, List.mem_append] at h
  rcases h with h | h
  · split at h
    · obtain ⟨hle, hlt⟩ := (Source.enclosed_of_mem_attributes h).bounds
      exact ⟨hle, hlt.le⟩
    · cases h
  · obtain ⟨l, -, hs⟩ := List.mem_flatMap.mp h
    obtain ⟨m, -, o, k, hcalls, hinside⟩ := (Locator.mem_spans_iff_calls l t s).mp hs
    obtain ⟨hlt, hlen⟩ := hcalls.bounds
    obtain ⟨-, hle, hstop⟩ := Locator.spansInside_bounds ⟨o + 1, k⟩ hlt hlen hinside
    exact ⟨hle, hstop.trans hlen⟩

lemma Reports.place_lt {s : Span} {f : Finding} (h : c.Reports t s f) :
    toLex (f.line, f.column) < toLex (f.stopLine, f.stopColumn) := by
  obtain ⟨hlt, -⟩ := Span.bounds_of_text_ne_nil h.nonempty
  have hstop := (places_bounds h.place).2
  have hmono := LineIndex.locate_strictMonoOn t (Set.mem_Iic.mpr (hlt.le.trans hstop)) (Set.mem_Iic.mpr hstop) hlt
  rw [Prod.Lex.toLex_lt_toLex] at hmono ⊢
  rw [h.finding]
  simp only [findingAt]
  omega

end Checker

namespace Text.LineIndex

/-- A line is counted by the line ends before an offset, and a column from the character behind the last of
them. Line and column determine the offset and are ordered like offsets, so that in a finding the place where
the list starts comes before the one where it stops. -/
theorem locate_tells_place {ε : Type} (t : Text) :
    let index := ofText t
    (∀ offset ≤ t.length, ∀ line column, index.locate offset = (line, column) ↔
      line = t.lineEndsBefore offset + 1 ∧ ∃ start, LineStart t offset start ∧ start + column = offset) ∧
    (∀ offset ≤ t.length, ∀ line column, index.locate offset = (line, column) →
      t.lineStart line + column = offset) ∧
    StrictMonoOn (fun offset => toLex (index.locate offset)) (Set.Iic t.length) ∧
    ∀ (c : Checker ε) (checked : Checked), c.check t = .ok checked → ∀ f ∈ checked.findings,
      ∃ s : Span, f.start = s.start ∧ f.stop = s.stop ∧ s.start < s.stop ∧ s.stop ≤ t.length ∧
        (f.line, f.column) = Prod.map Nat.cast Nat.cast (index.locate s.start) ∧
        (f.stopLine, f.stopColumn) = Prod.map Nat.cast Nat.cast (index.locate s.stop) ∧
        toLex (f.line, f.column) < toLex (f.stopLine, f.stopColumn) := by
  intro index
  refine ⟨fun offset hle => locate_eq_iff hle, fun offset hle line column => lineStart_add_column hle,
    locate_strictMonoOn t, ?_⟩
  intro c checked hcheck f hf
  obtain ⟨s, hs⟩ := (Checker.check_sound hcheck).1 f hf
  obtain ⟨hlt, -⟩ := Span.bounds_of_text_ne_nil hs.nonempty
  refine ⟨s, hs.start, hs.stop, hlt, (Checker.places_bounds hs.place).2, ?_, ?_, hs.place_lt⟩
  · rw [hs.finding]
    rfl
  · rw [hs.finding]
    rfl

-- just behind a line end, on one, and behind the last one; the list goes over a line end
theorem locate_tells_place_line_ends :
    let t : Text := "\n\nclass=\"b\na\"\n".toList
    let c : Checker Empty := ⟨⟨[], fun t => .ok t⟩, [], true⟩
    (ofText t).locate 1 = (2, 0) ∧ (ofText t).locate 10 = (3, 8) ∧ (ofText t).locate 14 = (5, 0) ∧
      t.lineStart 3 + 8 = 10 ∧
      ∃ checked f, c.check t = .ok checked ∧ f ∈ checked.findings ∧ (f.start, f.stop) = (9, 12) ∧
        (f.line, f.column) = (3, 7) ∧ (f.stopLine, f.stopColumn) = (4, 1) ∧
        toLex (f.line, f.column) < toLex (f.stopLine, f.stopColumn) := by
  intro t c
  obtain ⟨hlocate, hstart, -, hfindings⟩ := locate_tells_place (ε := Empty) t
  have hbehind : (ofText t).locate 1 = (2, 0) :=
    (hlocate 1 (by decide) 2 0).mpr ⟨by decide, 1, ⟨by decide, by decide, by decide⟩, rfl⟩
  have hon : (ofText t).locate 10 = (3, 8) :=
    (hlocate 10 (by decide) 3 8).mpr ⟨by decide, 2, ⟨by decide, by decide, by decide⟩, rfl⟩
  have hend : (ofText t).locate 14 = (5, 0) :=
    (hlocate 14 (by decide) 5 0).mpr ⟨by decide, 14, ⟨by decide, by decide, by decide⟩, rfl⟩
  have hfirst : (ofText t).locate 9 = (3, 7) :=
    (hlocate 9 (by decide) 3 7).mpr ⟨by decide, 2, ⟨by decide, by decide, by decide⟩, rfl⟩
  have hlast : (ofText t).locate 12 = (4, 1) :=
    (hlocate 12 (by decide) 4 1).mpr ⟨by decide, 11, ⟨by decide, by decide, by decide⟩, rfl⟩
  refine ⟨hbehind, hon, hend, hstart 10 (by decide) 3 8 hon, ?_⟩
  have hplaces : ((c.check t).toOption.map fun checked => checked.findings.map fun f => (f.start, f.stop)) =
      some [(9, 12)] := by decide
  cases hcheck : c.check t with
  | error e => exact e.elim
  | ok checked =>
    rw [hcheck] at hplaces
    have hfound : checked.findings.map (fun f => (f.start, f.stop)) = [(9, 12)] := Option.some.inj hplaces
    obtain ⟨f, hf, hplace⟩ : ∃ f ∈ checked.findings, (f.start, f.stop) = (9, 12) := by
      apply List.mem_map.mp
      rw [hfound]
      exact List.mem_singleton_self _
    obtain ⟨⟨start, stop⟩, hs, hs', -, -, hline, hstopLine, hlt⟩ := hfindings c checked hcheck f hf
    simp only [hs, hs', Prod.mk.injEq] at hplace
    obtain ⟨rfl, rfl⟩ : start = 9 ∧ stop = 12 := by omega
    rw [hfirst] at hline
    rw [hlast] at hstopLine
    exact ⟨checked, f, rfl, hf, by rw [hs, hs']; rfl, hline, hstopLine, hlt⟩

end Text.LineIndex

end ClassTidy
