import ClassTidy.Proofs.Fallible
import ClassTidy.Proofs.Merging
import ClassTidy.Proofs.TokenOrder

/-! Formatting brings a list into a canonical form, which is a function of its tokens. -/

namespace ClassTidy.Formatter

open Fallible Text

variable {ε : Type}

lemma changed_self (old : Text) : changed old old = none := if_pos rfl

lemma getD_changed (old new : Text) : (changed old new).getD old = new := by
  unfold changed
  split
  · rename_i heq
    exact heq.symm
  · rfl

def canonical (f : Formatter ε) (raw : Text) : Except ε Text :=
  match words raw with
  | [] => .ok raw
  | [t] => .ok t
  | t :: u :: ts => (f.resolve (unwords (f.registry.sortTokens (t :: u :: ts)))).map collapse

lemma canonical_of_two {f : Formatter ε} {raw : Text} (h : 2 ≤ (words raw).length) :
    f.canonical raw = (f.resolve (unwords (f.registry.sortTokens (words raw)))).map collapse := by
  cases hw : words raw with
  | nil => simp [hw] at h
  | cons t ts =>
    cases ts with
    | nil => simp [hw] at h
    | cons u ts => simp only [canonical, hw]

lemma changed_collapse (raw resolved : Text) :
    (if collapse resolved = collapse raw then changed raw (collapse raw)
      else some (collapse resolved)) = changed raw (collapse resolved) := by
  split
  · rename_i heq
    rw [heq]
  · rename_i hne
    -- a collapsed text that equals the old one also equals the old one collapsed
    have hraw : collapse resolved ≠ raw := by
      rintro rfl
      simp at hne
    rw [changed, if_neg hraw]

lemma format_eq_changed (f : Formatter ε) (raw : Text) :
    f.format raw = (f.canonical raw).map (changed raw) := by
  match hw : words raw with
  | [] =>
    have hc : collapse raw = [] := (collapse_eq_nil_iff raw).mpr hw
    simp [format, canonical, hw, hc, changed_self, Except.map]
  | [t] =>
    have ht : t ≠ [] := (isWord_of_mem_words (hw ▸ List.mem_singleton_self t : t ∈ words raw)).1
    have hs : (collapse raw).splitOn ' ' = [t] := by rw [splitOn_collapse (by simp [hw]), hw]
    have hc : collapse raw = t := by rw [collapse_eq_unwords, hw, unwords_singleton]
    rw [format, hs, hc]
    simp [canonical, hw, ht, Except.map]
  | t :: u :: ts =>
    have hne : words raw ≠ [] := by simp [hw]
    have hc : collapse raw ≠ [] := fun h => hne ((collapse_eq_nil_iff raw).mp h)
    rw [canonical_of_two (by simp [hw]), format, splitOn_collapse hne]
    simp only [List.isEmpty_iff, hc, if_false, hw, List.length_cons]
    rw [if_neg (by omega)]
    cases f.resolve (unwords (f.registry.sortTokens (t :: u :: ts))) with
    | error e => rfl
    | ok resolved => exact congrArg Except.ok (changed_collapse raw resolved)

lemma format_getD (f : Formatter ε) (raw : Text) :
    (f.format raw).map (fun new => new.getD raw) = f.canonical raw := by
  rw [format_eq_changed]
  cases f.canonical raw with
  | error e => rfl
  | ok s => exact congrArg Except.ok (getD_changed raw s)

lemma format_eq_none {f : Formatter ε} {raw : Text} (h : f.canonical raw = .ok raw) :
    f.format raw = .ok none := by
  rw [format_eq_changed, h]
  exact congrArg Except.ok (changed_self raw)

lemma canonical_of_format {f : Formatter ε} {raw s : Text} (h : f.format raw = .ok (some s)) :
    f.canonical raw = .ok s := by
  rw [← format_getD, h]
  rfl

lemma canonical_eq_self {f : Formatter ε} {s again : Text}
    (hs : (words s).Pairwise f.registry.AtOrBefore) (hc : collapse s = s)
    (hr : f.resolve s = .ok again) (ha : words again = words s) : f.canonical s = .ok s := by
  have hu : unwords (words s) = s := by rw [← collapse_eq_unwords, hc]
  match hw : words s with
  | [] => simp only [canonical, hw]
  | [t] =>
    rw [hw, unwords_singleton] at hu
    simp only [canonical, hw, hu]
  | t :: u :: ts =>
    rw [canonical_of_two (by simp [hw]), f.registry.sortTokens_eq_self hs, hu, hr]
    change Except.ok (collapse again) = _
    rw [collapse_eq_unwords, ha, hu]

lemma collapse_of_canonical {f : Formatter ε} {raw s : Text} (h : f.canonical raw = .ok s) (hne : s ≠ raw) :
    collapse s = s := by
  match hw : words raw with
  | [] => simp [canonical, hw, hne.symm] at h
  | [t] =>
    have hword : IsWord t := isWord_of_mem_words (t := raw) (by simp [hw])
    simp only [canonical, hw, Except.ok.injEq] at h
    rw [← h, collapse_eq_unwords, words_of_isWord hword, unwords_singleton]
  | t :: u :: ts =>
    rw [canonical_of_two (by simp [hw]), map_eq_ok_iff] at h
    obtain ⟨resolved, -, rfl⟩ := h
    exact collapse_collapse resolved

lemma isWord_of_mem_sortTokens (registry : Registry) (raw : Text) :
    ∀ t ∈ registry.sortTokens (words raw), IsWord t := by
  intro t ht
  exact isWord_of_mem_words ((registry.sortTokens_perm (words raw)).mem_iff.mp ht)

lemma canonical_of_short (f : Formatter ε) {raw : Text} (h : (words raw).length ≤ 1) :
    ∃ s, f.canonical raw = .ok s ∧ words s = words raw ∧ f.canonical s = .ok s := by
  match hw : words raw with
  | [] =>
    have hraw : f.canonical raw = .ok raw := by simp only [canonical, hw]
    exact ⟨raw, hraw, hw, hraw⟩
  | [t] =>
    have hword : IsWord t := isWord_of_mem_words (t := raw) (by simp [hw])
    have ht : words t = [t] := words_of_isWord hword
    exact ⟨t, by simp only [canonical, hw], ht, by simp only [canonical, ht]⟩
  | t :: u :: ts => simp [hw] at h

lemma canonical_of_settles {f : Formatter ε} (hf : f.resolve.Settles) (raw : Text) :
    ∃ s, f.canonical raw = .ok s ∧ (words s).Sublist (f.registry.sortTokens (words raw)) ∧
      f.canonical s = .ok s := by
  rcases Nat.lt_or_ge 1 (words raw).length with htwo | hshort
  · obtain ⟨kept, hkept, hsub, again, hagain, heq⟩ := hf _ (isWord_of_mem_sortTokens f.registry raw)
    refine ⟨collapse kept, ?_, ?_, ?_⟩
    · rw [canonical_of_two htwo, hkept]
      rfl
    · rw [words_collapse]
      exact hsub
    · apply canonical_eq_self _ (collapse_collapse kept) hagain
      · rw [words_collapse, heq]
      · rw [words_collapse]
        exact (f.registry.sortTokens_pairwise (words raw)).sublist hsub
  · obtain ⟨s, hs, hw, hself⟩ := f.canonical_of_short hshort
    refine ⟨s, hs, ?_, hself⟩
    rw [hw, f.registry.sortTokens_of_short hshort]

lemma format_of_settles {f : Formatter ε} (hf : f.resolve.Settles) {raw s : Text}
    (h : f.format raw = .ok (some s)) :
    (words s).Sublist (f.registry.sortTokens (words raw)) ∧ f.format s = .ok none := by
  obtain ⟨s', hs, hsub, hself⟩ := canonical_of_settles hf raw
  rw [canonical_of_format h, Except.ok.injEq] at hs
  subst hs
  exact ⟨hsub, format_eq_none hself⟩

lemma canonical_of_table (registry : Registry) (table : Conflict.Table) (raw : Text) :
    ∃ s, (⟨registry, .ofTable table⟩ : Formatter ε).canonical raw = .ok s ∧
      words s = table.dropOverridden (registry.sortTokens (words raw)) := by
  rcases Nat.lt_or_ge 1 (words raw).length with htwo | hshort
  · refine ⟨collapse (table.merge (unwords (registry.sortTokens (words raw)))),
      canonical_of_two htwo, ?_⟩
    rw [words_collapse, table.words_merge, words_unwords (isWord_of_mem_sortTokens registry raw)]
  · obtain ⟨s, hs, hw, _⟩ := canonical_of_short ⟨registry, .ofTable table⟩ hshort
    refine ⟨s, hs, ?_⟩
    rw [registry.sortTokens_of_short hshort, hw,
      table.dropOverridden_eq_self (pairwise_of_short hshort)]

lemma format_variants (registry : Registry) (table : Conflict.Table) {u v raw : Text}
    (hnorm : registry.normalize u = registry.normalize v)
    (hbase : Conflict.baseOf u = Conflict.baseOf v) (hlt : Token.compareSpelling u v = .lt)
    (hwords : (words raw).Perm [u, v]) (hne : unwords [u, v] ≠ raw) :
    (⟨registry, .ofTable table⟩ : Formatter ε).format raw = .ok (some (unwords [u, v])) := by
  have huv : u ≠ v := by
    rintro rfl
    simp [Token.compareSpelling] at hlt
  have hsorted : registry.sortTokens (words raw) = [u, v] := by
    rw [registry.sortTokens_eq_of_perm hwords]
    apply registry.sortTokens_eq_self
    simp [Registry.AtOrBefore, registry.compareTokens_of_normalize hnorm, hlt]
  have hkept : table.dropOverridden [u, v] = [u, v] :=
    table.dropOverridden_eq_self (by simpa using table.slot_ne hbase huv)
  have hword : ∀ w ∈ [u, v], IsWord w := fun w hw => isWord_of_mem_words (hwords.mem_iff.mpr hw)
  have hresolve : (Resolver.ofTable table : Resolver ε) (unwords [u, v]) = .ok (unwords [u, v]) := by
    rw [Resolver.ofTable, Conflict.Table.merge, words_unwords hword, hkept]
  have hcanonical : (⟨registry, .ofTable table⟩ : Formatter ε).canonical raw =
      .ok (collapse (unwords [u, v])) := by
    rw [canonical_of_two (by simp [hwords.length_eq]), hsorted]
    exact congrArg (Except.map collapse) hresolve
  rw [format_eq_changed, hcanonical, collapse_eq_unwords, words_unwords hword]
  exact congrArg Except.ok (if_neg hne)

/-- With any conflict table, the default one among them, the output of a formatter is left alone by
the same formatter. -/
theorem merging_format_idempotent (registry : Registry) (table : Conflict.Table) (raw s : Text)
    (h : (⟨registry, .ofTable table⟩ : Formatter ε).format raw = .ok (some s)) :
    (⟨registry, .ofTable table⟩ : Formatter ε).format s = .ok none := by
  have hf : (Resolver.ofTable table : Resolver ε).Settles := Resolver.settles_ofTable table
  exact (format_of_settles hf h).2

theorem merging_format_idempotent_padding :
    let registry := (Registry.compile [.group "spacing" ["^p-"]]).toOption.getD []
    let f : Formatter Empty :=
      ⟨registry, .ofTable (.ofRules [("padding".toList, ["p-".toList])])⟩
    f.format " p-4  flex p-2\tblock".toList = .ok (some "p-4 block flex".toList) ∧
      f.format "p-4 block flex".toList = .ok none :=
  ⟨by decide, merging_format_idempotent _ _ " p-4  flex p-2\tblock".toList _ (by decide)⟩

/-- The new list ascends strictly and holds tokens of the old one; a token that is gone has lost its slot
to one that stayed. -/
theorem merging_format_sorted (registry : Registry) (table : Conflict.Table) (raw : Text) :
    ∃ new, (⟨registry, .ofTable table⟩ : Formatter ε).format raw = .ok new ∧
      ((words (new.getD raw)).Pairwise fun a b => registry.compareTokens a b = .lt) ∧
      (∀ t ∈ words (new.getD raw), t ∈ words raw) ∧
      ∀ t ∈ words raw, ∃ u ∈ words (new.getD raw), table.slot u = table.slot t := by
  obtain ⟨s, hs, hwords⟩ := canonical_of_table (ε := ε) registry table raw
  refine ⟨changed raw s, by rw [format_eq_changed, hs]; rfl, ?_⟩
  have hmem := fun t => (registry.sortTokens_perm (words raw)).mem_iff (a := t)
  have hsub := table.dropOverridden_sublist (registry.sortTokens (words raw))
  rw [getD_changed, hwords]
  refine ⟨?_, ?_, ?_⟩
  · exact registry.pairwise_lt_of_nodup ((registry.sortTokens_pairwise _).sublist hsub)
      (table.dropOverridden_nodup _)
  · intro t ht
    exact (hmem t).mp (hsub.mem ht)
  · intro t ht
    exact table.exists_slot_dropOverridden ((hmem t).mpr ht)

theorem format_eq_of_perm_words (f : Formatter ε) (a b : Text) (h : (words a).Perm (words b))
    (hne : words a ≠ []) :
    (f.format a).map (fun new => new.getD a) = (f.format b).map (fun new => new.getD b) := by
  rw [format_getD, format_getD]
  match ha : words a with
  | [] => exact absurd ha hne
  | [t] =>
    rw [ha] at h
    have hb : words b = [t] := List.perm_singleton.mp h.symm
    simp only [canonical, ha, hb]
  | t :: u :: ts =>
    have hlen : (words a).length = (words b).length := h.length_eq
    have htwo : 2 ≤ (words a).length := by simp [ha]
    rw [canonical_of_two htwo, canonical_of_two (hlen ▸ htwo), f.registry.sortTokens_eq_of_perm h]

theorem format_eq_of_perm_words_refused :
    let f : Formatter Text := ⟨[], fun t => .error t⟩
    (words "b a  b".toList).Perm (words "\tb b\na ".toList) ∧ words "b a  b".toList ≠ [] ∧
      (f.format "b a  b".toList).map (fun new => new.getD "b a  b".toList) =
        (f.format "\tb b\na ".toList).map (fun new => new.getD "\tb b\na ".toList) :=
  ⟨by decide, by decide, format_eq_of_perm_words _ _ _ (by decide) (by decide)⟩

theorem settling_format_idempotent (f : Formatter ε) (hf : f.resolve.Settles) (raw s : Text)
    (h : f.format raw = .ok (some s)) :
    f.format s = .ok none ∧ (∀ t, (words s).count t ≤ (words raw).count t) ∧
      (words s).Pairwise fun a b => (f.registry.compareTokens a b).isLE = true := by
  obtain ⟨hsub, hnone⟩ := format_of_settles hf h
  refine ⟨hnone, ?_, (f.registry.sortTokens_pairwise _).sublist hsub⟩
  intro t
  calc (words s).count t ≤ (f.registry.sortTokens (words raw)).count t := hsub.count_le t
    _ = (words raw).count t := (f.registry.sortTokens_perm (words raw)).count_eq t

theorem settling_format_idempotent_repeated :
    let f : Formatter Empty := ⟨[], .ofTable ⟨[], []⟩⟩
    f.resolve.Settles ∧ f.format "b  a B b".toList = .ok (some "a B b".toList) ∧
      f.format "a B b".toList = .ok none ∧
      (words "a B b".toList).count ['b'] ≤ (words "b  a B b".toList).count ['b'] := by
  have hsettles : (Resolver.ofTable ⟨[], []⟩ : Resolver Empty).Settles := Resolver.settles_ofTable _
  have hformat : (⟨[], .ofTable ⟨[], []⟩⟩ : Formatter Empty).format "b  a B b".toList =
      .ok (some "a B b".toList) := by decide
  obtain ⟨hnone, hcount, _⟩ := settling_format_idempotent _ hsettles _ _ hformat
  exact ⟨hsettles, hformat, hnone, hcount ['b']⟩

end ClassTidy.Formatter
