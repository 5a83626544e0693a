import ClassTidy.Lint.File
import ClassTidy.Proofs.Encoding

/-! What was written is read again, and all other files keep their texts. -/

namespace ClassTidy

def Entry.isDirectory : Entry → Bool
  | .file _ => false
  | .directory => true

namespace Tree

variable {tree tree' : Tree} {l : Location} {bytes : Utf8.Bytes} {p p' : Path}

lemma lookup_setFile (l k : Location) (bytes : Utf8.Bytes) (files : List (Location × Utf8.Bytes)) :
    (setFile l bytes files).lookup k = if k = l then some bytes else files.lookup k := by
  induction files with
  | nil =>
    by_cases h : k = l
    · simp [setFile, h]
    · simp [setFile, h, List.lookup_cons, beq_eq_false_iff_ne.mpr h]
  | cons f files ih =>
    obtain ⟨j, old⟩ := f
    rw [setFile]
    split
    · rename_i hj
      subst hj
      by_cases h : k = j
      · simp [h]
      · simp [List.lookup_cons, h, beq_eq_false_iff_ne.mpr h]
    · rename_i hj
      rw [List.lookup_cons, List.lookup_cons, ih]
      by_cases h : k = j
      · subst h
        simp [hj]
      · simp [beq_eq_false_iff_ne.mpr h]

lemma entry_setFile (tree : Tree) (l k : Location) (bytes : Utf8.Bytes) :
    Tree.entry? { tree with files := setFile l bytes tree.files } k =
      if k = l then some (.file bytes) else tree.entry? k := by
  unfold entry?
  simp only [lookup_setFile]
  by_cases h : k = l
  · simp [h]
  · simp [h]

def kindAt (tree : Tree) (k : Location) : Option Bool := Option.map Entry.isDirectory <| tree.entry? k

lemma kind_cases {e e' : Option Entry} (h : e.map Entry.isDirectory = e'.map Entry.isDirectory) :
    (e = none ∧ e' = none) ∨ (∃ old old', e = some (.file old) ∧ e' = some (.file old')) ∨
      (e = some .directory ∧ e' = some .directory) := by
  match e, e' with
  | none, none => exact Or.inl ⟨rfl, rfl⟩
  | some (.file old), some (.file old') => exact Or.inr (Or.inl ⟨old, old', rfl, rfl⟩)
  | some .directory, some .directory => exact Or.inr (Or.inr ⟨rfl, rfl⟩)
  | none, some _ => cases h
  | some _, none => cases h
  | some (.file _), some .directory => cases h
  | some .directory, some (.file _) => cases h

-- Following names asks only what is a file and what is a directory.
lemma follow_congr (h : ∀ k, tree.kindAt k = tree'.kindAt k)
    (asked : String) (l : Location) (names : List String) :
    tree.follow asked l names = tree'.follow asked l names := by
  induction names generalizing l with
  | nil => rfl
  | cons name names ih =>
    rw [follow, follow, ih (above l)]
    rcases kind_cases (h (l ++ [name])) with ⟨he, he'⟩ | ⟨old, old', he, he'⟩ | ⟨he, he'⟩
    · rw [he, he']
    · rw [he, he']
    · rw [he, he', ih]

lemma read_eq_ok_iff : tree.read p = .ok bytes ↔
    ∃ l, tree.locate p = .ok l ∧ tree.entry? l = some (.file bytes) := by
  unfold read
  cases tree.locate p with
  | error e => simp [bind, Except.bind]
  | ok l =>
    simp only [bind, Except.bind]
    cases hl : tree.entry? l with
    | none => simp [hl, throw, throwThe, MonadExceptOf.throw]
    | some e => cases e <;> simp [hl, throw, throwThe, MonadExceptOf.throw, pure, Except.pure]

lemma write_eq_ok (h : tree.write p bytes = .ok tree') :
    ∃ l, tree.locate p = .ok l ∧ tree.entry? l ≠ some .directory ∧
      tree' = { tree with files := setFile l bytes tree.files } := by
  unfold write at h
  cases hl : tree.locate p with
  | error e => simp [hl, bind, Except.bind] at h
  | ok l =>
    refine ⟨l, rfl, ?_⟩
    simp only [hl, bind, Except.bind] at h
    split at h
    · simp [throw, throwThe, MonadExceptOf.throw] at h
    · split at h
      · simp [throw, throwThe, MonadExceptOf.throw] at h
      · rename_i hkind
        exact ⟨hkind, by simpa [pure, Except.pure] using h.symm⟩

lemma write_of_read {old : Utf8.Bytes} (hold : tree.read p = .ok old) (hlocked : tree.locked = [])
    (bytes : Utf8.Bytes) :
    ∃ l, tree.write p bytes = .ok { tree with files := setFile l bytes tree.files } := by
  obtain ⟨l, hl, he⟩ := read_eq_ok_iff.mp hold
  refine ⟨l, ?_⟩
  simp [write, hl, he, hlocked, bind, Except.bind, pure, Except.pure]

lemma locate_congr (h : ∀ k, tree.kindAt k = tree'.kindAt k) (p : Path) : tree.locate p = tree'.locate p := by
  simp only [locate, follow_congr h]

lemma kindAt_setFile {old : Utf8.Bytes} (hold : tree.entry? l = some (.file old)) (bytes : Utf8.Bytes)
    (k : Location) : ({ tree with files := setFile l bytes tree.files } : Tree).kindAt k = tree.kindAt k := by
  rw [kindAt, kindAt, entry_setFile]
  by_cases h : k = l
  · subst h
    simp [hold, Entry.isDirectory]
  · rw [if_neg h]

lemma locate_setFile {old : Utf8.Bytes} (hold : tree.entry? l = some (.file old)) (bytes : Utf8.Bytes)
    (p : Path) : ({ tree with files := setFile l bytes tree.files } : Tree).locate p = tree.locate p :=
  locate_congr (kindAt_setFile hold bytes) p

lemma read_write {old : Utf8.Bytes} (hold : tree.read p = .ok old) (h : tree.write p bytes = .ok tree') :
    tree'.read p = .ok bytes ∧ ∀ p', tree'.read p' = .ok bytes ∨ tree'.read p' = tree.read p' := by
  obtain ⟨l, hl, he⟩ := read_eq_ok_iff.mp hold
  obtain ⟨l', hl', -, rfl⟩ := write_eq_ok h
  obtain rfl : l = l' := Except.ok.inj (hl.symm.trans hl')
  refine ⟨read_eq_ok_iff.mpr ⟨l, by rw [locate_setFile he, hl], by rw [entry_setFile, if_pos rfl]⟩, ?_⟩
  intro p'
  unfold read
  rw [locate_setFile he]
  cases tree.locate p' with
  | error e => exact Or.inr rfl
  | ok k =>
    simp only [bind, Except.bind, entry_setFile]
    by_cases hk : k = l
    · left
      rw [if_pos hk]
      rfl
    · right
      rw [if_neg hk]

lemma readText_eq_ok_iff {t : Text} : tree.readText p = .ok t ↔
    ∃ bytes, tree.read p = .ok bytes ∧ Utf8.readText bytes = .ok t := by
  unfold readText
  cases tree.read p with
  | error e => simp [Except.mapError, bind, Except.bind]
  | ok bytes =>
    cases h : Utf8.readText bytes with
    | error e => simp [Except.mapError, bind, Except.bind, h]
    | ok u => simp [Except.mapError, bind, Except.bind, h]

lemma readText_of_locate {t : Text} (hl : tree.locate p = .ok l) (ht : '\r' ∉ t)
    (he : tree.files.lookup l = some (Utf8.encode t)) : tree.readText p = .ok t := by
  have hentry : tree.entry? l = some (.file (Utf8.encode t)) := by
    unfold entry?
    rw [he]
  exact readText_eq_ok_iff.mpr ⟨_, read_eq_ok_iff.mpr ⟨l, hl, hentry⟩, Utf8.readText_encode ht⟩

lemma readText_write {t u : Text} (hold : tree.readText p = .ok t) (hu : '\r' ∉ u)
    (h : tree.write p (Utf8.encode u) = .ok tree') :
    tree'.readText p = .ok u ∧
      ∀ p', tree'.readText p' = .ok u ∨ tree'.readText p' = tree.readText p' := by
  obtain ⟨old, hread, -⟩ := readText_eq_ok_iff.mp hold
  obtain ⟨hp, hothers⟩ := read_write hread h
  have hnew : ∀ {p'}, tree'.read p' = .ok (Utf8.encode u) → tree'.readText p' = .ok u := by
    intro p' hp'
    exact readText_eq_ok_iff.mpr ⟨_, hp', Utf8.readText_encode hu⟩
  refine ⟨hnew hp, ?_⟩
  intro p'
  rcases hothers p' with hp' | hp'
  · exact Or.inl (hnew hp')
  · right
    rw [readText, readText, hp']

def Grows (tree tree' : Tree) : Prop := ∀ k e, tree.entry? k = some e → tree'.entry? k = some e

lemma Grows.trans {tree'' : Tree} (h : Grows tree tree') (h' : Grows tree' tree'') : Grows tree tree'' :=
  fun k e he => h' k e (h k e he)

lemma grows_makeDirectory (h : tree.makeDirectory p = .ok tree') : Grows tree tree' := by
  unfold makeDirectory at h
  cases hl : tree.locate p with
  | error e => simp [hl, bind, Except.bind] at h
  | ok l =>
    simp only [hl, bind, Except.bind] at h
    split at h
    · cases h
    · cases h
      intro k e he
      unfold entry? at he ⊢
      cases hk : tree.files.lookup k with
      | some bytes => simpa [hk] using he
      | none =>
        simp only [hk, Option.ite_none_right_eq_some, Bool.or_eq_true, List.contains_iff_mem] at he ⊢
        exact ⟨he.1.imp_right (List.mem_append_left _), he.2⟩

lemma Grows.refl (tree : Tree) : Grows tree tree := fun _ _ he => he

lemma grows_makeUnlessThere (tree : Tree) (p : Path) : Grows tree (tree.makeUnlessThere p).1 := by
  unfold makeUnlessThere
  split
  · rename_i hmade
    exact grows_makeDirectory hmade
  · exact .refl tree

lemma grows_makeDirectoriesTo (tree : Tree) (p : Path) (bound : Nat) :
    Grows tree (tree.makeDirectoriesTo p bound).1 := by
  induction bound generalizing p with
  | zero => exact .refl tree
  | succ bound ih =>
    rw [makeDirectoriesTo]
    split
    · split
      · exact .refl tree
      · have habove := ih p.parent
        split
        · rename_i above hmade
          rw [hmade] at habove
          exact habove.trans (grows_makeUnlessThere above p)
        · rename_i above e hmade
          rwa [hmade] at habove
    · exact grows_makeUnlessThere tree p

lemma follow_of_directories (h : ∀ k, tree.entry? k = some .directory → tree'.entry? k = some .directory)
    {asked : String} {names : List String} {k : Location} (hk : tree.follow asked l names = .ok k) :
    tree'.follow asked l names = .ok k := by
  induction names generalizing l with
  | nil => exact hk
  | cons name names ih =>
    rw [follow] at hk ⊢
    split at hk
    · rename_i hup
      rw [if_pos hup]
      exact ih hk
    · rename_i hdown
      rw [if_neg hdown]
      split at hk
      · cases hk
      · rename_i hshort
        rw [if_neg hshort]
        split at hk
        · rename_i hlast
          rw [if_pos hlast]
          exact hk
        · rename_i hmore
          rw [if_neg hmore]
          split at hk
          · rename_i hdirectory
            rw [h _ hdirectory]
            exact ih hk
          · cases hk
          · cases hk

lemma locate_of_directories (h : ∀ k, tree.entry? k = some .directory → tree'.entry? k = some .directory)
    (hl : tree.locate p = .ok l) : tree'.locate p = .ok l := by
  simp only [locate] at hl ⊢
  split at hl
  · cases hl
  · rename_i hnull
    rw [if_neg hnull]
    split at hl
    · cases hl
    · rename_i hlong
      rw [if_neg hlong]
      exact follow_of_directories h hl

lemma locate_of_write (h : tree.write p' bytes = .ok tree') (hl : tree.locate p = .ok l) :
    tree'.locate p = .ok l := by
  obtain ⟨l', -, hfile, rfl⟩ := write_eq_ok h
  refine locate_of_directories (fun k hk => ?_) hl
  rw [entry_setFile, if_neg, hk]
  rintro rfl
  exact hfile hk

lemma read_of_write (h : tree.write p bytes = .ok tree') : tree'.read p = .ok bytes := by
  obtain ⟨l, hl, -, heq⟩ := write_eq_ok h
  refine read_eq_ok_iff.mpr ⟨l, locate_of_write h hl, ?_⟩
  rw [heq, entry_setFile, if_pos rfl]

lemma readText_writeReport {rs : List LintResult} {t : Text} (h : writeReport tree p' rs = .ok tree')
    (hread : tree.readText p = .ok t) (hne : tree'.locate p ≠ tree'.locate p') :
    tree'.readText p = .ok t := by
  have hgrows : Grows tree (tree.makeDirectories p'.parent).1 := grows_makeDirectoriesTo tree _ _
  unfold writeReport at h
  split at h
  · rename_i made hmade
    rw [hmade] at hgrows
    obtain ⟨l', hl', -, heq⟩ := write_eq_ok h
    obtain ⟨old, hold, htext⟩ := readText_eq_ok_iff.mp hread
    obtain ⟨l, hl, he⟩ := read_eq_ok_iff.mp hold
    have hlocated := locate_of_write h (locate_of_directories (fun k => hgrows k _) hl)
    rw [hlocated, locate_of_write h hl'] at hne
    have hentry : l ≠ l' := fun heq => hne (by rw [heq])
    refine readText_eq_ok_iff.mpr ⟨old, read_eq_ok_iff.mpr ⟨l, hlocated, ?_⟩, htext⟩
    rw [heq, entry_setFile, if_neg hentry]
    exact hgrows l _ he
  · cases h

end Tree

end ClassTidy
