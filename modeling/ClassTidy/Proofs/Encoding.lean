import ClassTidy.Files.Utf8
import ClassTidy.Proofs.Words

/-! A text that is encoded is read again, if it has one kind of line end. -/

namespace ClassTidy.Utf8

lemma toNat_toUInt8 {n : Nat} (h : n < 256) : n.toUInt8.toNat = n := by
  simp [Nat.mod_eq_of_lt h]

lemma takeMore_cons {more least greatest code good n : Nat} (hleast : least ≤ n) (hgreatest : n ≤ greatest)
    (hn : n < 256) (rest : Bytes) :
    takeMore (more + 1) least greatest code good (n.toUInt8 :: rest) =
      takeMore more 0x80 0xbf (code * 0x40 + (n - 0x80)) (good + 1) rest := by
  rw [takeMore, toNat_toUInt8 hn, if_pos ⟨hleast, hgreatest⟩]

lemma toNat_valid (c : Char) : c.toNat < 0xd800 ∨ (0xdfff < c.toNat ∧ c.toNat < 0x110000) := c.valid

lemma decodeFrom_cons {n more least greatest bits code : Nat} {rest rest' : Bytes} (hn : n < 256)
    (hlead : lead? n = some ⟨bits, more, least, greatest⟩)
    (htake : takeMore more least greatest bits 1 rest = .ok (code, rest')) (bound offset : Nat) :
    decodeFrom (bound + 1) offset (n.toUInt8 :: rest) =
      (decodeFrom bound (offset + 1 + more) rest').map (Char.ofNat code :: ·) := by
  rw [decodeFrom, toNat_toUInt8 hn, hlead]
  simp only [htake]

section Sequences

variable {n : Nat}

lemma lead_one (h : n < 0x80) : lead? n = some ⟨n, 0, 0x80, 0xbf⟩ := by
  rw [lead?, if_pos h]

lemma lead_two (h : 0x80 ≤ n) (h' : n < 0x800) :
    lead? (0xc0 + n / 0x40) = some ⟨n / 0x40, 1, 0x80, 0xbf⟩ := by
  rw [lead?, if_neg (by omega), if_neg (by omega), if_pos (by omega), Nat.add_sub_cancel_left]

lemma lead_three (h : n < 0x10000) :
    lead? (0xe0 + n / 0x1000) = some ⟨n / 0x1000, 2, if 0xe0 + n / 0x1000 = 0xe0 then 0xa0 else 0x80,
      if 0xe0 + n / 0x1000 = 0xed then 0x9f else 0xbf⟩ := by
  rw [lead?, if_neg (by omega), if_neg (by omega), if_neg (by omega), if_pos (by omega),
    Nat.add_sub_cancel_left]

lemma lead_four (h : n < 0x110000) :
    lead? (0xf0 + n / 0x40000) = some ⟨n / 0x40000, 3, if 0xf0 + n / 0x40000 = 0xf0 then 0x90 else 0x80,
      if 0xf0 + n / 0x40000 = 0xf4 then 0x8f else 0xbf⟩ := by
  rw [lead?, if_neg (by omega), if_neg (by omega), if_neg (by omega), if_neg (by omega),
    if_pos (by omega), Nat.add_sub_cancel_left]

end Sequences

lemma decodeFrom_encodeChar (c : Char) (bound offset : Nat) (rest : Bytes) :
    ∃ n, decodeFrom (bound + 1) offset (encodeChar c ++ rest) =
      (decodeFrom bound (offset + n) rest).map (c :: ·) := by
  have hvalid := toNat_valid c
  have hread : ∀ (bytes : Bytes) {n bits more least greatest : Nat}, n < 256 →
      lead? n = some ⟨bits, more, least, greatest⟩ →
      takeMore more least greatest bits 1 (bytes ++ rest) = .ok (c.toNat, rest) →
      ∃ n', decodeFrom (bound + 1) offset (n.toUInt8 :: bytes ++ rest) =
        (decodeFrom bound (offset + n') rest).map (c :: ·) := by
    intro bytes n bits more least greatest hn hlead htake
    refine ⟨1 + more, ?_⟩
    rw [List.cons_append, decodeFrom_cons hn hlead htake, Char.ofNat_toNat, Nat.add_assoc]
  simp only [encodeChar]
  split
  · rename_i h
    exact hread [] (by omega) (lead_one h) rfl
  · rename_i hone
    split
    · rename_i htwo
      refine hread _ (by omega) (lead_two (by omega) htwo) ?_
      rw [List.cons_append, takeMore_cons (by omega) (by omega) (by omega), takeMore]
      simp
      omega
    · rename_i htwo
      split
      · rename_i hthree
        refine hread _ (by omega) (lead_three hthree) ?_
        rw [List.cons_append, takeMore_cons ?_ ?_ (by omega), List.cons_append,
          takeMore_cons (by omega) (by omega) (by omega), takeMore]
        · simp
          omega
        · split <;> omega
        · split <;> omega
      · rename_i hthree
        refine hread _ (by omega) (lead_four (by omega)) ?_
        rw [List.cons_append, takeMore_cons ?_ ?_ (by omega), List.cons_append,
          takeMore_cons (by omega) (by omega) (by omega), List.cons_append,
          takeMore_cons (by omega) (by omega) (by omega), takeMore]
        · simp
          omega
        · split <;> omega
        · split <;> omega

lemma encodeChar_length_pos (c : Char) : 0 < (encodeChar c).length := by
  simp only [encodeChar]
  split
  · simp
  · split
    · simp
    · split <;> simp

lemma decodeFrom_encode (t : Text) (bound offset : Nat) (h : (encode t).length ≤ bound) :
    decodeFrom bound offset (encode t) = .ok t := by
  induction t generalizing bound offset with
  | nil => cases bound <;> rfl
  | cons c t ih =>
    have hpos := encodeChar_length_pos c
    have hcons : encode (c :: t) = encodeChar c ++ encode t := rfl
    rw [hcons, List.length_append] at h
    cases bound with
    | zero => omega
    | succ bound =>
      obtain ⟨n, hn⟩ := decodeFrom_encodeChar c bound offset (encode t)
      rw [hcons, hn, ih bound _ (by omega)]
      rfl

lemma decode_encode (t : Text) : decode (encode t) = .ok t := decodeFrom_encode t _ 0 (Nat.le_refl _)

lemma unifyLineEnds_eq_self {t : Text} (h : '\r' ∉ t) : unifyLineEnds t = t := by
  fun_induction unifyLineEnds t with
  | case1 => rfl
  | case2 t ih => simp at h
  | case3 t _ ih => simp at h
  | case4 c t _ _ ih => rw [ih fun hmem => h (List.mem_cons_of_mem c hmem)]

lemma notMem_unifyLineEnds (t : Text) : '\r' ∉ unifyLineEnds t := by
  fun_induction unifyLineEnds t with
  | case1 => simp
  | case2 t ih => simpa using ih
  | case3 t _ ih => simpa using ih
  | case4 c t _ hc ih =>
    rw [List.mem_cons, not_or]
    exact ⟨fun heq => hc heq.symm, ih⟩

lemma notMem_of_readText {bytes : Bytes} {t : Text} (h : readText bytes = .ok t) : '\r' ∉ t := by
  cases hd : decode bytes with
  | error e => simp [readText, hd, Except.map] at h
  | ok u =>
    rw [readText, hd] at h
    rw [← Except.ok.inj h]
    exact notMem_unifyLineEnds u

lemma readText_encode {t : Text} (h : '\r' ∉ t) : readText (encode t) = .ok t := by
  rw [readText, decode_encode]
  exact congrArg Except.ok (unifyLineEnds_eq_self h)

end ClassTidy.Utf8
