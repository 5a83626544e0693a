import ClassTidy.Group.Default
import ClassTidy.Token.Basic
import Mathlib.Data.List.Infix
import Mathlib.Tactic.Lemma

/-! Variants do not change what a token is about. -/

namespace ClassTidy.Token

/-- How many brackets are open when a text has been read from its end. An opening bracket that has none to
close counts for nothing. -/
def depth : Text → Nat
  | [] => 0
  | c :: t => if c = ']' then depth t + 1 else if c = '[' then depth t - 1 else depth t

def IsBase (t : Text) : Prop := ∀ front back, t = front ++ ':' :: back → depth back ≠ 0

def EndsVariants (t back : Text) : Prop := depth back = 0 ∧ ∃ front, t = front ++ ':' :: back

variable {t u back read : Text}

lemma isBase_nil : IsBase [] := by
  intro front back h
  simp at h

lemma isBase_cons {c : Char} : IsBase (c :: t) ↔ IsBase t ∧ ¬ (c = ':' ∧ depth t = 0) := by
  constructor
  · intro h
    refine ⟨?_, ?_⟩
    · rintro front back rfl
      exact h (c :: front) back rfl
    · rintro ⟨rfl, hdepth⟩
      exact h [] t rfl hdepth
  · rintro ⟨ht, hc⟩ front back heq
    cases front with
    | nil =>
      obtain ⟨rfl, rfl⟩ := List.cons.inj heq
      exact fun hdepth => hc ⟨rfl, hdepth⟩
    | cons d front => exact ht front back (List.cons.inj heq).2

lemma not_endsVariants_of_isBase (ht : IsBase t) : ¬ EndsVariants t back := by
  rintro ⟨hdepth, front, heq⟩
  exact ht front back heq hdepth

lemma endsVariants_unique (ht : EndsVariants u t) (hu : EndsVariants u back) (htb : IsBase t)
    (hub : IsBase back) : t = back := by
  obtain ⟨htd, front, rfl⟩ := ht
  obtain ⟨hud, front', heq⟩ := hu
  -- if the two differ, the longer one holds the colon before the shorter one
  rcases List.append_eq_append_iff.mp heq with ⟨mid, hfront, hrest⟩ | ⟨mid, hfront, hrest⟩
  · cases mid with
    | nil => exact (List.cons.inj hrest).2
    | cons d mid => exact absurd hud (htb mid back (List.cons.inj hrest).2)
  · cases mid with
    | nil => exact (List.cons.inj hrest).2.symm
    | cons d mid => exact absurd htd (hub mid t (List.cons.inj hrest).2)

lemma afterColon_spec (reversed : Text) (hread : IsBase read) :
    (afterColon? (depth read) reversed read = none ∧ IsBase (reversed.reverse ++ read)) ∨
      ∃ back, afterColon? (depth read) reversed read = some back ∧ IsBase back ∧
        EndsVariants (reversed.reverse ++ read) back := by
  induction reversed generalizing read with
  | nil => exact Or.inl ⟨rfl, hread⟩
  | cons c rest ih =>
    by_cases hstop : c = ':' ∧ depth read = 0
    · obtain ⟨rfl, hdepth⟩ := hstop
      exact Or.inr ⟨read, by simp [afterColon?, hdepth], hread, hdepth, rest.reverse, by simp⟩
    · -- the character goes in front of what was read, which still has no colon outside of brackets
      have hstep : afterColon? (depth read) (c :: rest) read =
          afterColon? (depth (c :: read)) rest (c :: read) := by
        rw [afterColon?, depth, if_neg hstop]
        split
        · rfl
        · split <;> rfl
      rw [hstep, List.reverse_cons, List.append_assoc, List.singleton_append]
      exact ih (isBase_cons.mpr ⟨hread, hstop⟩)

lemma dropVariants_spec (t : Text) :
    IsBase (dropVariants t) ∧ (dropVariants t = t ∨ EndsVariants t (dropVariants t)) := by
  have hspec := afterColon_spec t.reverse isBase_nil
  rw [List.reverse_reverse, List.append_nil] at hspec
  rcases hspec with ⟨hnone, hbase⟩ | ⟨back, hsome, hbase, hends⟩
  · have heq : dropVariants t = t := congrArg (Option.getD · t) hnone
    exact ⟨heq.symm ▸ hbase, Or.inl heq⟩
  · have heq : dropVariants t = back := congrArg (Option.getD · t) hsome
    exact heq.symm ▸ ⟨hbase, Or.inr hends⟩

lemma dropVariants_eq_iff :
    dropVariants t = back ↔ IsBase back ∧ (back = t ∨ EndsVariants t back) := by
  obtain ⟨hbase, hcut⟩ := dropVariants_spec t
  constructor
  · rintro rfl
    exact ⟨hbase, hcut⟩
  · rintro ⟨hback, rfl | hends⟩
    · exact hcut.resolve_right (not_endsVariants_of_isBase hback)
    · rcases hcut with heq | hcut
      · exact absurd hends (not_endsVariants_of_isBase (heq ▸ hbase))
      · exact endsVariants_unique hcut hends hbase hback

lemma dropVariants_of_isBase (h : IsBase t) : dropVariants t = t :=
  dropVariants_eq_iff.mpr ⟨h, Or.inl rfl⟩

-- brackets of `t` that stay open hide the new colon, but no colon that `t` has itself
lemma dropVariants_variant_iff (v : Text) :
    dropVariants (v ++ ':' :: t) = dropVariants t ↔ (dropVariants t = t → depth t = 0) := by
  obtain ⟨hbase, hcut⟩ := dropVariants_spec t
  rw [dropVariants_eq_iff]
  constructor
  · rintro ⟨-, hends⟩ heq
    rw [heq] at hends
    rcases hends with hwhole | ⟨hdepth, -⟩
    · have hlength := congrArg List.length hwhole
      simp at hlength
      omega
    · exact hdepth
  · intro hdepth
    refine ⟨hbase, Or.inr ?_⟩
    rcases hcut with heq | ⟨hends, front, heq⟩
    · rw [heq]
      exact ⟨hdepth heq, v, rfl⟩
    · refine ⟨hends, v ++ ':' :: front, ?_⟩
      nth_rewrite 1 [heq]
      simp

end Token

namespace Registry

open Token

lemma normalize_plain (r : Registry) {t : Text} (h : t.head? ≠ some '!') :
    r.normalize t = ⟨false, dropVariants t, r.weight (dropVariants t)⟩ := by
  have hsplit : splitImportant t = (false, t) := by
    cases t with
    | nil => rfl
    | cons c t =>
      have hc : c ≠ '!' := fun hc => h (congrArg some hc)
      simp [splitImportant, hc]
  simp only [normalize, hsplit]

lemma normalize_important (r : Registry) (t : Text) :
    r.normalize ('!' :: t) = ⟨true, dropVariants t, r.weight (dropVariants t)⟩ := rfl

/-- Dropping the variants of a token leaves what stands behind its last colon outside of brackets. A variant
put before a token changes neither its base nor its weight, with or without the important mark, just if the
token has variants already or leaves no bracket open. -/
theorem variants_keep_base_and_weight (r : Registry) :
    (∀ t, dropVariants t <:+ t ∧ IsBase (dropVariants t) ∧
      (dropVariants t = t ∨ EndsVariants t (dropVariants t)) ∧
      dropVariants (dropVariants t) = dropVariants t) ∧
    (∀ t v, t.head? ≠ some '!' → (dropVariants t = t → depth t = 0) → v.head? ≠ some '!' →
      let base := dropVariants t
      r.normalize t = ⟨false, base, r.weight base⟩ ∧
        r.normalize (v ++ ':' :: t) = ⟨false, base, r.weight base⟩ ∧
        r.normalize ('!' :: v ++ ':' :: t) = ⟨true, base, r.weight base⟩) ∧
    ∀ t v, (r.normalize ('!' :: v ++ ':' :: t)).base = dropVariants t ↔ (dropVariants t = t → depth t = 0) := by
  refine ⟨?_, ?_, ?_⟩
  · intro t
    obtain ⟨hbase, hcut⟩ := dropVariants_spec t
    refine ⟨?_, hbase, hcut, dropVariants_of_isBase hbase⟩
    rcases hcut with heq | ⟨-, front, heq⟩
    · rw [heq]
    · exact ⟨front ++ [':'], by rw [List.append_assoc, List.singleton_append, ← heq]⟩
  · intro t v ht hdepth hv base
    have hfront : (v ++ ':' :: t).head? ≠ some '!' := by
      cases v with
      | nil => simp
      | cons c v => exact hv
    refine ⟨r.normalize_plain ht, ?_, ?_⟩
    · rw [r.normalize_plain hfront, (dropVariants_variant_iff v).mpr hdepth]
    · rw [List.cons_append, normalize_important, (dropVariants_variant_iff v).mpr hdepth]
  · intro t v
    exact dropVariants_variant_iff v

-- the variant has brackets that match none, and the first token has colons inside of brackets on both sides
-- of the one that counts; the second token leaves a bracket open before its own variant
theorem variants_keep_base_and_weight_brackets :
    let r := (Registry.compile [.group "width" ["^w-"]]).toOption.getD []
    let t : Text := "[&:not([x:y])]:w-[a:b]".toList
    let v : Text := "md]:[x".toList
    let u : Text := "]a:w-b".toList
    t.head? ≠ some '!' ∧ depth t = 0 ∧ v.head? ≠ some '!' ∧
      r.normalize t = ⟨false, "w-[a:b]".toList, 0⟩ ∧
      r.normalize (v ++ ':' :: t) = ⟨false, "w-[a:b]".toList, 0⟩ ∧
      r.normalize ('!' :: v ++ ':' :: t) = ⟨true, "w-[a:b]".toList, 0⟩ ∧
      depth u ≠ 0 ∧ (r.normalize ('!' :: v ++ ':' :: u)).base = "w-b".toList := by
  intro r t v u
  have hbase : dropVariants t = "w-[a:b]".toList := by decide
  have hweight : r.weight "w-[a:b]".toList = 0 := by decide +kernel
  obtain ⟨-, hvariants, hopen⟩ := variants_keep_base_and_weight r
  obtain ⟨hplain, hvariant, himportant⟩ := hvariants t v (by decide) (by decide) (by decide)
  rw [hbase, hweight] at hplain hvariant himportant
  have hu : (r.normalize ('!' :: v ++ ':' :: u)).base = dropVariants u := (hopen u v).mpr (by decide)
  exact ⟨by decide, by decide, by decide, hplain, hvariant, himportant, by decide, hu.trans (by decide)⟩

end Registry

end ClassTidy
