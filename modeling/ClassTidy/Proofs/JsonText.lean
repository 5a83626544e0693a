import ClassTidy.Json.Reader
import ClassTidy.Json.Writer
import ClassTidy.Proofs.TokenOrder
import Mathlib.Data.List.Forall2
import Mathlib.Data.List.TakeDrop

/-! What was written as JSON is read as the same value. -/

namespace ClassTidy.Json

/-! ### Texts -/

lemma hexCode_hexDigits {n : Nat} (h : n < 32) :
    (Text.hexDigits 4 n).length = 4 ∧ hexCode? (Text.hexDigits 4 n) = some n := by
  revert n
  decide

lemma takeCodeEscape_hexDigits {c : Char} (h : c.toNat < 0x20) {rest : Text} (hrest : rest ≠ []) :
    takeCodeEscape ('u' :: Text.hexDigits 4 c.toNat ++ rest) = .ok (c, rest) := by
  obtain ⟨hlength, hcode⟩ := hexCode_hexDigits h
  have hlong : ¬ (Text.hexDigits 4 c.toNat ++ rest).length ≤ 4 := by
    have := List.length_pos_iff.mpr hrest
    simp only [List.length_append]
    omega
  have htake : takeCode ('u' :: Text.hexDigits 4 c.toNat ++ rest) = .ok (c.toNat, rest) := by
    simp only [takeCode, List.cons_append, List.drop_succ_cons, List.drop_zero, if_neg hlong,
      List.take_left' hlength, List.drop_left' hlength, hcode]
  have hhigh : isHighSurrogate c.toNat = false := by
    simp only [isHighSurrogate, Bool.and_eq_false_iff, decide_eq_false_iff_not]
    omega
  have hchar : charOfCode c.toNat = c := by
    rw [charOfCode, if_neg (by simp; omega), Char.ofNat_toNat]
  rw [takeCodeEscape, htake]
  simp [hhigh, hchar, bind, Except.bind, pure, Except.pure]

lemma takeEscape_writeChar (c : Char) (opened : Text) {rest : Text} (hrest : rest ≠ []) :
    writeChar c = [c] ∧ c ≠ '\x22' ∧ c ≠ '\\' ∧ ¬ c.toNat < 0x20 ∨
      ∃ escape, writeChar c = '\\' :: escape ∧
        takeEscape opened ('\\' :: escape ++ rest) = .ok (c, rest) := by
  unfold writeChar
  split
  · rename_i h
    refine Or.inr ⟨_, rfl, ?_⟩
    rcases h with rfl | rfl <;> rfl
  · rename_i hplain
    obtain ⟨hquote, hslash⟩ := not_or.mp hplain
    split
    · rename_i e he
      refine Or.inr ⟨_, rfl, ?_⟩
      unfold shortEscape? at he
      split at he <;> cases he <;> rfl
    · split
      · rename_i hcontrol
        refine Or.inr ⟨_, rfl, ?_⟩
        simpa [takeEscape] using takeCodeEscape_hexDigits hcontrol hrest
      · rename_i hcontrol
        exact Or.inl ⟨rfl, hquote, hslash, hcontrol⟩

lemma takeChars_flatMap (opened : Text) (cs rest : Text) (bound : Nat) (hbound : cs.length < bound) :
    takeChars opened bound (cs.flatMap writeChar ++ '\x22' :: rest) = .ok (cs, rest) := by
  induction cs generalizing bound with
  | nil =>
    obtain ⟨bound, rfl⟩ := Nat.exists_eq_add_one.mpr hbound
    simp [takeChars]
  | cons c cs ih =>
    obtain ⟨bound, rfl⟩ := Nat.exists_eq_add_one.mpr (Nat.zero_lt_of_lt hbound)
    have htail := ih bound (by simpa using hbound)
    rw [List.flatMap_cons, List.append_assoc]
    have hne : cs.flatMap writeChar ++ '\x22' :: rest ≠ [] := by simp
    rcases takeEscape_writeChar c opened hne with
      ⟨hwrite, hquote, hslash, hcontrol⟩ | ⟨escape, hwrite, hescape⟩
    · simp [hwrite, takeChars, hquote, hslash, hcontrol, htail, bind, Except.bind, pure, Except.pure]
    · rw [List.cons_append] at hescape
      simp [hwrite, takeChars, hescape, htail, bind, Except.bind, pure, Except.pure]

lemma length_le_flatMap_writeChar (cs : Text) : cs.length ≤ (cs.flatMap writeChar).length := by
  have hpos (c : Char) : 1 ≤ (writeChar c).length := by
    unfold writeChar
    split
    · simp
    · split
      · simp
      · split <;> simp
  induction cs with
  | nil => simp
  | cons c cs ih =>
    have := hpos c
    simp only [List.flatMap_cons, List.length_append, List.length_cons]
    omega

lemma takeString_writeString (s : String) (rest : Text) :
    takeString (writeString s ++ rest) = .ok (s, rest) := by
  have hlength := length_le_flatMap_writeChar s.toList
  have hchars := takeChars_flatMap (writeString s ++ rest) s.toList rest
    ((writeString s ++ rest).length + 1)
    (by simp only [writeString, List.cons_append, List.length_cons, List.length_append]; omega)
  have hdrop : (writeString s ++ rest).drop 1 = s.toList.flatMap writeChar ++ '\x22' :: rest := by
    simp [writeString]
  rw [takeString, hdrop, hchars]
  simp [bind, Except.bind, pure, Except.pure]

/-! ### Numbers -/

def Ends (rest : Text) : Prop :=
  ∀ c ∈ rest.head?, c.isDigit = false ∧ c ≠ '.' ∧ c ≠ 'e' ∧ c ≠ 'E'

lemma takeDigits_append {ds rest : Text} (hds : ∀ d ∈ ds, d.isDigit = true) (hrest : Ends rest) :
    takeDigits (ds ++ rest) = (ds, rest) := by
  have hstop : rest.takeWhile Char.isDigit = [] ∧ rest.dropWhile Char.isDigit = rest := by
    cases rest with
    | nil => simp
    | cons c rest =>
      have hc : c.isDigit = false := (hrest c rfl).1
      simp [hc]
  rw [takeDigits, List.span_eq_takeWhile_dropWhile, List.takeWhile_append_of_pos hds,
    List.dropWhile_append_of_pos hds, hstop.1, hstop.2, List.append_nil]

lemma digitChar_ne_zero {n : Nat} (h : n < 10) (hpos : 0 < n) : n.digitChar ≠ '0' := by
  revert n
  decide

lemma head_toDigits_ne_zero {n : Nat} (hpos : 0 < n) : (Nat.toDigits 10 n).head? ≠ some '0' := by
  induction n using Nat.strong_induction_on with
  | _ n ih =>
    by_cases h : n < 10
    · rw [Nat.toDigits_of_lt_base h]
      simpa using digitChar_ne_zero h hpos
    · rw [Nat.toDigits_of_base_le (by decide) (by omega), List.head?_append_of_ne_nil _ Nat.toDigits_ne_nil]
      exact ih (n / 10) (by omega) (by omega)

lemma takeWhole_toDigits (n : Nat) {rest : Text} (hrest : Ends rest) :
    takeWhole (Nat.toDigits 10 n ++ rest) = some (Nat.toDigits 10 n, rest) := by
  rcases Nat.eq_zero_or_pos n with rfl | hpos
  · rfl
  · have hdigits : ∀ d ∈ Nat.toDigits 10 n, d.isDigit = true := fun d hd =>
      Nat.isDigit_of_mem_toDigits (by decide) (by decide) hd
    have htake := takeDigits_append hdigits hrest
    have hhead := head_toDigits_ne_zero hpos
    have hne : Nat.toDigits 10 n ≠ [] := Nat.toDigits_ne_nil
    unfold takeWhole
    split
    · rename_i heq
      exact absurd ((List.head?_append_of_ne_nil _ hne).symm.trans (congrArg List.head? heq)) hhead
    · simp [htake]

lemma takeFraction_of_ends {rest : Text} (h : Ends rest) : takeFraction rest = none := by
  unfold takeFraction
  split
  · exact absurd rfl (h '.' rfl).2.1
  · rfl

lemma takePower_of_ends {rest : Text} (h : Ends rest) : takePower rest = none := by
  cases rest with
  | nil => rfl
  | cons c rest =>
    obtain ⟨-, -, he, hE⟩ := h c rfl
    simp [takePower, he, hE]

lemma toDigits_cons (n : Nat) : ∃ d ds, Nat.toDigits 10 n = d :: ds ∧ d.isDigit = true := by
  obtain ⟨d, ds, h⟩ := List.exists_cons_of_ne_nil (Nat.toDigits_ne_nil (n := n) (b := 10))
  exact ⟨d, ds, h, Nat.isDigit_of_mem_toDigits (by decide) (by decide) (h ▸ List.mem_cons_self)⟩

lemma ne_of_isDigit {c d : Char} (hd : d.isDigit = true) (hc : c.isDigit = false) : d ≠ c := by
  rintro rfl
  rw [hd] at hc
  cases hc

lemma takeNumber_writeInt (n : Int) {rest : Text} (hrest : Ends rest) :
    takeNumber none (writeInt n ++ rest) = .ok (.int n, rest) := by
  obtain ⟨d, ds, hds, hd⟩ := toDigits_cons n.natAbs
  have hsign : d ≠ '-' := ne_of_isDigit hd rfl
  have hwhole : takeWhole (d :: (ds ++ rest)) = some (d :: ds, rest) := by
    rw [← List.cons_append, ← hds, takeWhole_toDigits n.natAbs hrest]
  have hvalue : Nat.ofDigitChars 10 (d :: ds) 0 = n.natAbs := by
    rw [← hds, Nat.ofDigitChars_ten_toDigits]
  rw [writeInt, hds]
  split
  · simp only [takeNumber, List.cons_append, hwhole, takeFraction_of_ends hrest, takePower_of_ends hrest,
      Option.map_none, Option.getD_none, Option.isNone_none, Bool.and_self, if_true, hvalue, Option.any_none,
      Bool.false_eq_true, if_false, Except.ok.injEq, Prod.mk.injEq, Json.int.injEq, and_true]
    omega
  · unfold takeNumber
    split
    rename_i negative unsigned heq
    split at heq
    · rename_i hminus
      exact absurd (List.cons.inj hminus).1 hsign
    cases heq
    simp only [List.cons_append, hwhole, takeFraction_of_ends hrest, takePower_of_ends hrest,
      Option.map_none, Option.getD_none, Option.isNone_none, Bool.and_self, if_true, Bool.false_eq_true,
      if_false, hvalue, Option.any_none, Except.ok.injEq, Prod.mk.injEq, Json.int.injEq, and_true]
    omega

/-! ### Values -/

inductive Plain : Json → Prop
  | null : Plain .null
  | bool (b : Bool) : Plain (.bool b)
  | int (n : Int) : Plain (.int n)
  | str (s : String) : Plain (.str s)
  | list {items : List Json} (h : ∀ v ∈ items, Plain v) : Plain (.list items)
  | object {fields : List (String × Json)} (hkeys : (fields.map Prod.fst).Nodup)
      (h : ∀ f ∈ fields, Plain f.2) : Plain (.object fields)

def keyLe {α : Type} (a b : String × α) : Bool := decide (a.1 ≤ b.1)

mutual

def sorted : Json → Json
  | list items => list (sortedItems items)
  | object fields => object (sortBy keyLe (sortedFields fields))
  | v => v

def sortedItems : List Json → List Json
  | [] => []
  | v :: vs => sorted v :: sortedItems vs

def sortedFields : List (String × Json) → List (String × Json)
  | [] => []
  | (k, v) :: fields => (k, sorted v) :: sortedFields fields

end

lemma sortedItems_eq_map (items : List Json) : sortedItems items = items.map sorted := by
  induction items with
  | nil => rfl
  | cons v vs ih => rw [sortedItems, ih, List.map_cons]

lemma sortedFields_eq_map (fields : List (String × Json)) :
    sortedFields fields = fields.map fun f => (f.1, f.2.sorted) := by
  induction fields with
  | nil => rfl
  | cons f fields ih => rw [sortedFields, ih, List.map_cons]

lemma writeItems_eq_map (layout : Layout) (depth : Nat) (items : List Json) :
    writeItems layout depth items = items.map (write layout depth) := by
  induction items with
  | nil => rfl
  | cons v vs ih => rw [writeItems, ih, List.map_cons]

lemma writeFields_eq_map (layout : Layout) (depth : Nat) (fields : List (String × Json)) :
    writeFields layout depth fields =
      fields.map fun f => (f.1, writeString f.1 ++ layout.afterKey ++ write layout depth f.2) := by
  induction fields with
  | nil => rfl
  | cons f fields ih => rw [writeFields, ih, List.map_cons]

lemma sortBy_map_value {α β : Type} (g : String × α → β) (fields : List (String × α)) :
    sortBy keyLe (fields.map fun f => (f.1, g f)) = (sortBy keyLe fields).map fun f => (f.1, g f) := by
  rw [sortBy_eq_insertionSort, sortBy_eq_insertionSort]
  exact (List.map_insertionSort (fun a b => keyLe a b = true) (fun a b => keyLe a b = true)
    (fun f => (f.1, g f)) fields fun _ _ _ _ => Iff.rfl).symm

lemma perm_sortBy_keyLe {α : Type} (fields : List (String × α)) : (sortBy keyLe fields).Perm fields := by
  rw [sortBy_eq_insertionSort]
  exact List.perm_insertionSort (fun a b => keyLe a b = true) fields

lemma write_object (layout : Layout) (depth : Nat) (fields : List (String × Json)) :
    write layout depth (.object fields) =
      layout.enclose depth '\x7b' '\x7d' ((sortBy keyLe fields).map fun f =>
        writeString f.1 ++ layout.afterKey ++ write layout (depth + 1) f.2) := by
  rw [write, writeFields_eq_map]
  change layout.enclose depth _ _ ((sortBy keyLe _).map Prod.snd) = _
  rw [sortBy_map_value, List.map_map]
  rfl

lemma sorted_object (fields : List (String × Json)) :
    sorted (.object fields) = .object ((sortBy keyLe fields).map fun f => (f.1, f.2.sorted)) := by
  rw [sorted, sortedFields_eq_map, sortBy_map_value]

lemma setField_of_not_mem {k : String} {fields : List (String × Json)} (hk : k ∉ fields.map Prod.fst)
    (v : Json) : setField k v fields = fields ++ [(k, v)] := by
  induction fields with
  | nil => rfl
  | cons f fields ih =>
    simp only [List.map_cons, List.mem_cons, not_or] at hk
    rw [setField, if_neg (Ne.symm hk.1), ih hk.2, List.cons_append]

lemma foldl_setField (front : List (String × Json)) {fields : List (String × Json)}
    (h : ((front ++ fields).map Prod.fst).Nodup) :
    fields.foldl (fun acc (k, v) => setField k v acc) front = front ++ fields := by
  induction fields generalizing front with
  | nil => simp
  | cons f fields ih =>
    obtain ⟨k, v⟩ := f
    have hk : k ∉ front.map Prod.fst := by
      rw [List.map_append, List.nodup_append] at h
      exact fun hmem => h.2.2 k hmem k List.mem_cons_self rfl
    simp only [List.foldl_cons, setField_of_not_mem hk]
    rw [ih _ (by simpa using h), List.append_assoc, List.singleton_append]

lemma ofFields_of_nodup {fields : List (String × Json)} (h : (fields.map Prod.fst).Nodup) :
    ofFields fields = .object fields := by
  rw [ofFields, foldl_setField [] h, List.nil_append]

def IsBlank (t : Text) : Prop := ∀ c ∈ t, isSpace c = true

lemma skipSpace_append {blank : Text} (h : IsBlank blank) {c : Char} (hc : isSpace c = false) (t : Text) :
    skipSpace (blank ++ c :: t) = c :: t := by
  rw [skipSpace, List.dropWhile_append_of_pos h, List.dropWhile_cons_of_neg (by simp [hc])]

lemma skipSpace_cons {c : Char} (hc : isSpace c = false) (t : Text) : skipSpace (c :: t) = c :: t := by
  simp [skipSpace, hc]

structure Layout.Spaced (layout : Layout) : Prop where
  padding : ∀ depth, IsBlank (layout.padding depth)
  between : ∀ depth, ∃ blank, layout.between depth = ',' :: blank ∧ IsBlank blank
  afterKey : ∃ blank, layout.afterKey = ':' :: blank ∧ IsBlank blank

lemma Layout.spaced_indented : Layout.indented.Spaced := by
  have hblank (n : Nat) : IsBlank ('\n' :: List.replicate n ' ') := by
    intro c hc
    rcases List.mem_cons.mp hc with rfl | hc
    · rfl
    · rw [List.eq_of_mem_replicate hc]
      rfl
  exact ⟨fun _ => hblank _, fun _ => ⟨_, rfl, hblank _⟩, [' '], rfl, by simp [IsBlank, isSpace]⟩

lemma Layout.spaced_compact : Layout.compact.Spaced :=
  ⟨fun _ => List.forall_mem_nil _, fun _ => ⟨[], rfl, List.forall_mem_nil _⟩, [], rfl, List.forall_mem_nil _⟩

def Begins (text : Text) : Prop :=
  ∃ c cs, text = c :: cs ∧ isSpace c = false ∧ c ≠ ']' ∧ c ≠ '\x7d' ∧ c ≠ '\ufeff'

structure Reads (text : Text) (v : Json) : Prop where
  begins : Begins text
  take : ∀ bound rest, 2 * text.length < bound → Ends rest → takeValue none bound (text ++ rest) = .ok (v, rest)

lemma Reads.of_succ {text : Text} {v : Json} (hbegins : Begins text)
    (h : ∀ bound rest, 2 * text.length ≤ bound → Ends rest →
      takeValue none (bound + 1) (text ++ rest) = .ok (v, rest)) : Reads text v := by
  refine ⟨hbegins, ?_⟩
  intro bound rest hbound hrest
  obtain ⟨bound, rfl⟩ := Nat.exists_eq_add_one.mpr (Nat.zero_lt_of_lt hbound)
  exact h bound rest (Nat.le_of_lt_succ hbound) hrest

lemma reads_null : Reads "null".toList .null :=
  .of_succ ⟨'n', _, rfl, rfl, by decide⟩ fun _ _ _ _ => rfl

lemma reads_bool (b : Bool) : Reads (if b then "true".toList else "false".toList) (.bool b) := by
  cases b with
  | true => exact .of_succ ⟨'t', _, rfl, rfl, by decide⟩ fun _ _ _ _ => rfl
  | false => exact .of_succ ⟨'f', _, rfl, rfl, by decide⟩ fun _ _ _ _ => rfl

lemma reads_writeString (s : String) : Reads (writeString s) (.str s) := by
  refine .of_succ ⟨'\x22', _, rfl, rfl, by decide⟩ ?_
  intro bound rest _ _
  have htake := takeString_writeString s rest
  simp only [writeString, List.cons_append] at htake ⊢
  simp only [takeValue, htake, bind, Except.bind, pure, Except.pure]

-- A sign starts one of the words as well, but a digit behind it does not go on with that word.
lemma takeWord_writeInt (n : Int) (rest : Text) : takeWord? (writeInt n ++ rest) = none := by
  obtain ⟨d, ds, hds, hd⟩ := toDigits_cons n.natAbs
  have hne (c : Char) (hc : c.isDigit = false) : (c == d) = false := by
    simpa using (ne_of_isDigit hd hc).symm
  rw [writeInt, hds]
  split
  · simp [takeWord?, wordValues, List.isPrefixOf, hne 'I' rfl]
  · simp [takeWord?, wordValues, List.isPrefixOf, hne 'n' rfl, hne 't' rfl, hne 'f' rfl, hne 'N' rfl,
      hne 'I' rfl, hne '-' rfl]

lemma writeInt_cons (n : Int) : ∃ c cs, writeInt n = c :: cs ∧ (c = '-' ∨ c.isDigit = true) := by
  obtain ⟨d, ds, hds, hd⟩ := toDigits_cons n.natAbs
  rw [writeInt, hds]
  split
  · exact ⟨_, _, rfl, Or.inl rfl⟩
  · exact ⟨_, _, rfl, Or.inr hd⟩

lemma reads_writeInt (n : Int) : Reads (writeInt n) (.int n) := by
  obtain ⟨c, cs, hcs, hc⟩ := writeInt_cons n
  have hne (c' : Char) (hdigit : c'.isDigit = false) (hsign : '-' ≠ c') : c ≠ c' := by
    rcases hc with rfl | hc
    · exact hsign
    · exact ne_of_isDigit hc hdigit
  apply Reads.of_succ
  · refine ⟨c, cs, hcs, ?_, hne ']' rfl (by decide), hne '\x7d' rfl (by decide), hne '\ufeff' rfl (by decide)⟩
    simp [isSpace, hne ' ' rfl (by decide), hne '\t' rfl (by decide), hne '\n' rfl (by decide),
      hne '\r' rfl (by decide)]
  · intro bound rest _ hrest
    unfold takeValue
    rw [takeWord_writeInt, takeNumber_writeInt n hrest, hcs]
    split
    · rename_i heq
      exact absurd (List.cons.inj heq).1 (hne '\x22' rfl (by decide))
    · rename_i heq
      exact absurd (List.cons.inj heq).1 (hne '[' rfl (by decide))
    · rename_i heq
      exact absurd (List.cons.inj heq).1 (hne '\x7b' rfl (by decide))
    · rfl

/-! ### Lists and objects -/

lemma ends_cons {c : Char} (hc : c.isDigit = false ∧ c ≠ '.' ∧ c ≠ 'e' ∧ c ≠ 'E') (t : Text) :
    Ends (c :: t) := by
  rintro _ ⟨⟩
  exact hc

lemma ends_of_isSpace {c : Char} (hc : isSpace c = true) (t : Text) : Ends (c :: t) := by
  simp only [isSpace, Bool.or_eq_true, decide_eq_true_eq] at hc
  refine ends_cons ?_ t
  rcases hc with ((rfl | rfl) | rfl) | rfl <;> decide

lemma ends_of_isBlank {blank : Text} (h : IsBlank blank) {c : Char}
    (hc : c.isDigit = false ∧ c ≠ '.' ∧ c ≠ 'e' ∧ c ≠ 'E') (t : Text) : Ends (blank ++ c :: t) := by
  cases blank with
  | nil => exact ends_cons hc t
  | cons b blank => exact ends_of_isSpace (h b List.mem_cons_self) _

lemma Begins.append {text : Text} (h : Begins text) (t : Text) : Begins (text ++ t) := by
  obtain ⟨c, cs, rfl, hc⟩ := h
  exact ⟨c, cs ++ t, rfl, hc⟩

lemma Begins.intercalate {text : Text} (h : Begins text) (between : Text) (texts : List Text) :
    Begins (between.intercalate (text :: texts)) := by
  cases texts with
  | nil => rwa [List.intercalate_singleton]
  | cons text' texts =>
    rw [List.intercalate_cons_cons]
    exact (h.append _).append _

lemma Begins.skipSpace {text : Text} (h : Begins text) {blank : Text} (hblank : IsBlank blank)
    (t : Text) : skipSpace (blank ++ (text ++ t)) = text ++ t := by
  obtain ⟨c, cs, rfl, hc, -⟩ := h
  exact skipSpace_append hblank hc _

section Between

variable {between blank pad : Text}

lemma takeItems_intercalate (hbetween : between = ',' :: blank) (hblank : IsBlank blank)
    (hpad : IsBlank pad) {texts : List Text} {vs : List Json} (h : List.Forall₂ Reads texts vs)
    (hne : texts ≠ []) (bound : Nat) (rest : Text)
    (hbound : 2 * (between.intercalate texts).length + 1 < bound) :
    takeItems none bound (between.intercalate texts ++ (pad ++ ']' :: rest)) = .ok (vs, rest) := by
  induction h generalizing bound with
  | nil => exact absurd rfl hne
  | @cons text v texts vs htext htexts ih =>
    obtain ⟨bound, rfl⟩ := Nat.exists_eq_add_one.mpr (Nat.zero_lt_of_lt hbound)
    -- The bound falls by one with each item, while an item and its comma are two characters at least.
    cases htexts with
    | nil =>
      rw [List.intercalate_singleton] at hbound ⊢
      have htake := htext.take bound (pad ++ ']' :: rest) (by omega) (ends_of_isBlank hpad (by decide) rest)
      simp only [takeItems, htake, bind, Except.bind, skipSpace_append hpad (c := ']') rfl, pure, Except.pure]
    | @cons text' v' texts vs htext' htexts =>
      subst hbetween
      rw [List.intercalate_cons_cons] at hbound ⊢
      simp only [List.length_append, List.length_cons] at hbound
      have hnext := ih (by simp) bound (by omega)
      have hbegins := htext'.begins.intercalate (',' :: blank) texts
      generalize (',' :: blank).intercalate (text' :: texts) = joined at hbound hnext hbegins ⊢
      have htake := htext.take bound (',' :: (blank ++ (joined ++ (pad ++ ']' :: rest)))) (by omega)
        (ends_cons (by decide) _)
      simp only [List.append_assoc, List.cons_append, takeItems, htake, bind, Except.bind,
        skipSpace_cons (c := ',') rfl, hbegins.skipSpace hblank, hnext, pure, Except.pure]

inductive FieldReads : Text → String × Json → Prop
  | mk {k : String} {v : Json} {blank value : Text} (hblank : IsBlank blank) (hvalue : Reads value v) :
    FieldReads (writeString k ++ ':' :: (blank ++ value)) (k, v)

lemma FieldReads.begins {text : Text} {f : String × Json} (h : FieldReads text f) : Begins text := by
  cases h
  exact (reads_writeString _).begins.append _

-- One field is read, and a brace or a comma behind it decides whether that was the last one.
lemma FieldReads.takeFields {text : Text} {f : String × Json} (h : FieldReads text f) {bound : Nat}
    (hbound : 2 * text.length < bound) {t rest : Text} {fields : List (String × Json)} (ht : Ends t)
    (hnext : skipSpace t = '\x7d' :: rest ∧ fields = [] ∨
      ∃ next, skipSpace t = ',' :: next ∧ takeFields none bound (skipSpace next) = .ok (fields, rest)) :
    takeFields none (bound + 1) (text ++ t) = .ok (f :: fields, rest) := by
  obtain @⟨k, v, blank, value, hblank, hvalue⟩ := h
  have hkey := takeString_writeString k (':' :: (blank ++ (value ++ t)))
  have htake := hvalue.take bound t (by simp at hbound; omega) ht
  simp only [writeString, List.cons_append, List.append_assoc] at hkey ⊢
  simp only [Json.takeFields, hkey, bind, Except.bind, skipSpace_cons (c := ':') rfl,
    hvalue.begins.skipSpace hblank, htake, pure, Except.pure]
  rcases hnext with ⟨hclosed, rfl⟩ | ⟨next, hcomma, hnext⟩
  · simp only [hclosed]
  · simp only [hcomma, hnext]

lemma takeFields_intercalate (hbetween : between = ',' :: blank) (hblank : IsBlank blank)
    (hpad : IsBlank pad) {texts : List Text} {fields : List (String × Json)}
    (h : List.Forall₂ FieldReads texts fields) (hne : texts ≠ []) (bound : Nat) (rest : Text)
    (hbound : 2 * (between.intercalate texts).length + 1 < bound) :
    takeFields none bound (between.intercalate texts ++ (pad ++ '\x7d' :: rest)) = .ok (fields, rest) := by
  induction h generalizing bound with
  | nil => exact absurd rfl hne
  | @cons text f texts fields htext htexts ih =>
    obtain ⟨bound, rfl⟩ := Nat.exists_eq_add_one.mpr (Nat.zero_lt_of_lt hbound)
    cases htexts with
    | nil =>
      rw [List.intercalate_singleton] at hbound ⊢
      exact htext.takeFields (by omega) (ends_of_isBlank hpad (by decide) rest)
        (Or.inl ⟨skipSpace_append hpad rfl rest, rfl⟩)
    | @cons text' f' texts fields htext' htexts =>
      subst hbetween
      rw [List.intercalate_cons_cons] at hbound ⊢
      simp only [List.length_append, List.length_cons] at hbound
      have hnext := ih (by simp) bound (by omega)
      have hbegins := htext'.begins.intercalate (',' :: blank) texts
      generalize (',' :: blank).intercalate (text' :: texts) = joined at hbound hnext hbegins ⊢
      rw [List.append_assoc, List.append_assoc, List.cons_append]
      refine htext.takeFields (by omega) (ends_cons (by decide) _) (Or.inr ⟨_, skipSpace_cons rfl _, ?_⟩)
      rw [hbegins.skipSpace hblank, hnext]

end Between

section Enclose

variable {layout : Layout}

lemma enclose_append (layout : Layout) (depth : Nat) (first last : Char) {texts : List Text}
    (hne : texts ≠ []) (rest : Text) :
    layout.enclose depth first last texts ++ rest =
      first :: (layout.padding (depth + 1) ++ ((layout.between (depth + 1)).intercalate texts ++
        (layout.padding depth ++ last :: rest))) := by
  simp [Layout.enclose, hne]

lemma length_enclose (layout : Layout) (depth : Nat) (first last : Char) {texts : List Text}
    (hne : texts ≠ []) :
    ((layout.between (depth + 1)).intercalate texts).length + 2 ≤
      (layout.enclose depth first last texts).length := by
  simp only [Layout.enclose, List.isEmpty_iff, hne, if_false, List.length_append, List.length_cons]
  omega

lemma reads_list (hlayout : layout.Spaced) (depth : Nat) {texts : List Text} {vs : List Json}
    (h : List.Forall₂ Reads texts vs) : Reads (layout.enclose depth '[' ']' texts) (.list vs) := by
  cases h with
  | nil => exact .of_succ ⟨'[', _, rfl, rfl, by decide⟩ fun _ _ _ _ => rfl
  | @cons text v texts vs htext htexts =>
    refine .of_succ ⟨'[', _, rfl, rfl, by decide⟩ ?_
    intro bound rest hbound _
    have hlength := length_enclose layout depth '[' ']' (List.cons_ne_nil text texts)
    obtain ⟨blank, hbetween, hblank⟩ := hlayout.between (depth + 1)
    have hitems := takeItems_intercalate hbetween hblank (hlayout.padding depth) (.cons htext htexts)
      (List.cons_ne_nil text texts) bound rest (by omega)
    have hbegins := htext.begins.intercalate (layout.between (depth + 1)) texts
    have hskip := hbegins.skipSpace (hlayout.padding (depth + 1)) (layout.padding depth ++ ']' :: rest)
    obtain ⟨c, cs, hcs, -, hbracket, -⟩ := hbegins
    rw [enclose_append layout depth '[' ']' (List.cons_ne_nil text texts)]
    simp only [takeValue, hskip]
    split
    · rename_i heq
      rw [hcs] at heq
      exact absurd (List.cons.inj heq).1 hbracket
    · simp only [hitems, bind, Except.bind, pure, Except.pure]

lemma reads_object (hlayout : layout.Spaced) (depth : Nat) {texts : List Text} {fields : List (String × Json)}
    (h : List.Forall₂ FieldReads texts fields) (hkeys : (fields.map Prod.fst).Nodup) :
    Reads (layout.enclose depth '\x7b' '\x7d' texts) (.object fields) := by
  cases h with
  | nil => exact .of_succ ⟨'\x7b', _, rfl, rfl, by decide⟩ fun _ _ _ _ => rfl
  | @cons text f texts fields htext htexts =>
    refine .of_succ ⟨'\x7b', _, rfl, rfl, by decide⟩ ?_
    intro bound rest hbound _
    have hlength := length_enclose layout depth '\x7b' '\x7d' (List.cons_ne_nil text texts)
    obtain ⟨blank, hbetween, hblank⟩ := hlayout.between (depth + 1)
    have hfields := takeFields_intercalate hbetween hblank (hlayout.padding depth) (.cons htext htexts)
      (List.cons_ne_nil text texts) bound rest (by omega)
    have hbegins := htext.begins.intercalate (layout.between (depth + 1)) texts
    have hskip := hbegins.skipSpace (hlayout.padding (depth + 1)) (layout.padding depth ++ '\x7d' :: rest)
    obtain ⟨c, cs, hcs, -, -, hbrace, -⟩ := hbegins
    rw [enclose_append layout depth '\x7b' '\x7d' (List.cons_ne_nil text texts)]
    simp only [takeValue, hskip]
    split
    · rename_i heq
      rw [hcs] at heq
      exact absurd (List.cons.inj heq).1 hbrace
    · simp only [hfields, bind, Except.bind, pure, Except.pure, ofFields_of_nodup hkeys]

theorem reads_write (hlayout : layout.Spaced) {v : Json} (hv : Plain v) (depth : Nat) :
    Reads (write layout depth v) v.sorted := by
  induction hv generalizing depth with
  | null => simpa only [write, sorted] using reads_null
  | bool b => simpa only [write, sorted] using reads_bool b
  | int n => simpa only [write, sorted] using reads_writeInt n
  | str s => simpa only [write, sorted] using reads_writeString s
  | @list items _ ih =>
    rw [write, sorted, writeItems_eq_map, sortedItems_eq_map]
    refine reads_list hlayout depth ?_
    rw [List.forall₂_map_left_iff, List.forall₂_map_right_iff, List.forall₂_same]
    exact fun v hv => ih v hv (depth + 1)
  | @object fields hkeys _ ih =>
    obtain ⟨blank, hafter, hblank⟩ := hlayout.afterKey
    have hperm := perm_sortBy_keyLe fields
    rw [write_object, sorted_object]
    refine reads_object hlayout depth ?_ ?_
    · rw [List.forall₂_map_left_iff, List.forall₂_map_right_iff, List.forall₂_same]
      intro f hf
      have hvalue := ih f (hperm.mem_iff.mp hf) (depth + 1)
      simpa [hafter] using FieldReads.mk (k := f.1) hblank hvalue
    · rw [List.map_map]
      exact (hperm.map Prod.fst).nodup_iff.mpr hkeys

theorem parse_write (hlayout : layout.Spaced) {v : Json} (hv : Plain v) {blank : Text}
    (hblank : IsBlank blank) : parse (write layout 0 v ++ blank) = .ok v.sorted := by
  obtain ⟨hbegins, htake⟩ := reads_write hlayout hv 0
  have hskip : skipSpace (blank ++ []) = [] := List.dropWhile_append_of_pos hblank
  rw [List.append_nil] at hskip
  have hends : Ends blank := by
    cases blank with
    | nil => nofun
    | cons b blank => exact ends_of_isSpace (hblank b List.mem_cons_self) blank
  have hvalue := htake (2 * (write layout 0 v ++ blank).length + 2) blank (by simp; omega) hends
  have hstart := hbegins.skipSpace (List.forall_mem_nil _) blank
  obtain ⟨c, cs, hcs, -, -, -, hmark⟩ := hbegins
  rw [List.nil_append] at hstart
  have hall : takeAll none (write layout 0 v ++ blank) = .ok v.sorted := by
    unfold takeAll
    rw [hstart, hvalue]
    split
    · rename_i heq
      rw [hcs] at heq
      exact absurd (List.cons.inj heq).1 hmark
    · simp only [bind, Except.bind, hskip, pure, Except.pure]
  rw [parse, hall]
  rfl

end Enclose

/-! ### Control characters -/

def Layout.Uses (layout : Layout) (c : Char) : Prop :=
  (∃ depth, c ∈ layout.padding depth ∨ c ∈ layout.between depth) ∨ c ∈ layout.afterKey

lemma le_toNat_of_all {t : Text} (ht : t.all (fun c => decide (0x20 ≤ c.toNat)) = true) {c : Char}
    (h : c ∈ t) : 0x20 ≤ c.toNat := by
  simpa using List.all_eq_true.mp ht c h

lemma le_toNat_of_mem_writeChar {c d : Char} (h : d ∈ writeChar c) : 0x20 ≤ d.toNat := by
  have hhex : ∀ n < 0x20, (Text.hexDigits 4 n).all (fun d => decide (0x20 ≤ d.toNat)) = true := by decide
  have hshort : ∀ e, shortEscape? c = some e → 0x20 ≤ e.toNat := by
    intro e he
    unfold shortEscape? at he
    split at he <;> cases he <;> decide
  unfold writeChar at h
  split at h
  · rename_i hc
    rcases hc with rfl | rfl <;> rcases List.mem_pair.mp h with rfl | rfl <;> decide
  · split at h
    · rename_i e he
      rcases List.mem_pair.mp h with rfl | rfl
      · decide
      · exact hshort _ he
    · split at h
      · rename_i hcontrol
        rcases List.mem_cons.mp h with rfl | h
        · decide
        · rcases List.mem_cons.mp h with rfl | h
          · decide
          · exact le_toNat_of_all (hhex _ hcontrol) h
      · rename_i hcontrol
        rw [List.mem_singleton.mp h]
        omega

lemma le_toNat_of_mem_writeString {s : String} {d : Char} (h : d ∈ writeString s) : 0x20 ≤ d.toNat := by
  simp only [writeString, List.cons_append, List.mem_cons, List.mem_append, List.mem_flatMap,
    List.not_mem_nil, or_false] at h
  rcases h with rfl | ⟨c, -, hd⟩ | rfl
  · decide
  · exact le_toNat_of_mem_writeChar hd
  · decide

lemma le_toNat_of_mem_writeInt {n : Int} {d : Char} (h : d ∈ writeInt n) : 0x20 ≤ d.toNat := by
  have hdigits : ∀ m, d ∈ Nat.toDigits 10 m → 0x20 ≤ d.toNat := by
    intro m hd
    have hdigit : d.isDigit = true := Nat.isDigit_of_mem_toDigits (by decide) (by decide) hd
    exact Nat.le_trans (by decide) (Char.isDigit_iff_toNat.mp hdigit).1
  unfold writeInt at h
  split at h
  · rcases List.mem_cons.mp h with rfl | h
    · decide
    · exact hdigits _ h
  · exact hdigits _ h

lemma mem_intercalate {between : Text} {texts : List Text} {c : Char} (h : c ∈ between.intercalate texts) :
    c ∈ between ∨ ∃ text ∈ texts, c ∈ text := by
  induction texts with
  | nil => simp at h
  | cons text texts ih =>
    cases texts with
    | nil => simpa using Or.inr h
    | cons text' texts =>
      rw [List.intercalate_cons_cons, List.mem_append, List.mem_append] at h
      rcases h with (h | h) | h
      · exact Or.inr ⟨text, List.mem_cons_self, h⟩
      · exact Or.inl h
      · exact (ih h).imp_right fun ⟨u, hu, hc⟩ => ⟨u, List.mem_cons_of_mem text hu, hc⟩

lemma mem_enclose {layout : Layout} {depth : Nat} {first last : Char} {texts : List Text} {c : Char}
    (h : c ∈ layout.enclose depth first last texts) :
    c = first ∨ c = last ∨ layout.Uses c ∨ ∃ text ∈ texts, c ∈ text := by
  unfold Layout.enclose at h
  split at h
  · exact (List.mem_pair.mp h).imp_right Or.inl
  · simp only [List.cons_append, List.mem_cons, List.mem_append, List.not_mem_nil, or_false] at h
    rcases h with rfl | ((h | h) | h) | rfl
    · exact Or.inl rfl
    · exact Or.inr (Or.inr (Or.inl (Or.inl ⟨_, Or.inl h⟩)))
    · rcases mem_intercalate h with h | h
      · exact Or.inr (Or.inr (Or.inl (Or.inl ⟨_, Or.inr h⟩)))
      · exact Or.inr (Or.inr (Or.inr h))
    · exact Or.inr (Or.inr (Or.inl (Or.inl ⟨_, Or.inl h⟩)))
    · exact Or.inr (Or.inl rfl)

lemma mem_write {layout : Layout} {v : Json} (hv : Plain v) {depth : Nat} {c : Char}
    (h : c ∈ write layout depth v) : 0x20 ≤ c.toNat ∨ layout.Uses c := by
  induction hv generalizing depth with
  | null =>
    rw [write] at h
    exact Or.inl (le_toNat_of_all rfl h)
  | bool b =>
    rw [write] at h
    cases b with
    | false => exact Or.inl (le_toNat_of_all rfl h)
    | true => exact Or.inl (le_toNat_of_all rfl h)
  | int n =>
    rw [write] at h
    exact Or.inl (le_toNat_of_mem_writeInt h)
  | str s =>
    rw [write] at h
    exact Or.inl (le_toNat_of_mem_writeString h)
  | list _ ih =>
    rw [write, writeItems_eq_map] at h
    rcases mem_enclose h with rfl | rfl | h | ⟨text, htext, h⟩
    · exact Or.inl (by decide)
    · exact Or.inl (by decide)
    · exact Or.inr h
    · obtain ⟨v, hv, rfl⟩ := List.mem_map.mp htext
      exact ih v hv h
  | object _ _ ih =>
    rw [write_object] at h
    rcases mem_enclose h with rfl | rfl | h | ⟨text, htext, h⟩
    · exact Or.inl (by decide)
    · exact Or.inl (by decide)
    · exact Or.inr h
    · obtain ⟨f, hf, rfl⟩ := List.mem_map.mp htext
      rw [List.mem_append, List.mem_append] at h
      rcases h with (h | h) | h
      · exact Or.inl (le_toNat_of_mem_writeString h)
      · exact Or.inr (Or.inr h)
      · exact ih f ((perm_sortBy_keyLe _).mem_iff.mp hf) h

end ClassTidy.Json
