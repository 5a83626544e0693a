import ClassTidy.Command.Lint
import ClassTidy.Proofs.FileText

/-! Whether a report can be written depends on the shape of the tree alone. -/

namespace ClassTidy

namespace Tree

variable {tree tree' : Tree}

structure SameShape (tree tree' : Tree) : Prop where
  kinds : ∀ k, tree.kindAt k = tree'.kindAt k
  locked : tree.locked = tree'.locked

inductive Alike : Except FileError Tree → Except FileError Tree → Prop
  | ok {tree tree' : Tree} (h : SameShape tree tree') : Alike (.ok tree) (.ok tree')
  | error (e : FileError) : Alike (.error e) (.error e)

lemma entry_addDirectory (tree : Tree) (l k : Location) :
    Tree.entry? { tree with directories := tree.directories ++ [l] } k =
      (tree.entry? k).or (if k = l then some .directory else none) := by
  unfold entry?
  cases tree.files.lookup k with
  | some bytes => rfl
  | none =>
    by_cases h : k = l
    · by_cases hk : isOutside l || tree.directories.contains l <;> simp_all
    · simp [h]

namespace SameShape

lemma addDirectory (h : SameShape tree tree') (l : Location) :
    SameShape { tree with directories := tree.directories ++ [l] }
      { tree' with directories := tree'.directories ++ [l] } := by
  refine ⟨fun k => ?_, h.locked⟩
  simp only [kindAt, entry_addDirectory]
  rcases kind_cases (h.kinds k) with ⟨he, he'⟩ | ⟨old, old', he, he'⟩ | ⟨he, he'⟩
  · rw [he, he']
  · rw [he, he']
    rfl
  · rw [he, he']

lemma makeDirectory (h : SameShape tree tree') (p : Path) :
    Alike (tree.makeDirectory p) (tree'.makeDirectory p) := by
  unfold Tree.makeDirectory
  rw [locate_congr h.kinds p]
  cases tree'.locate p with
  | error e => exact .error e
  | ok l =>
    simp only [bind, Except.bind]
    rcases kind_cases (h.kinds l) with ⟨he, he'⟩ | ⟨old, old', he, he'⟩ | ⟨he, he'⟩
    · rw [he, he']
      exact .ok (h.addDirectory l)
    · rw [he, he']
      exact .error _
    · rw [he, he']
      exact .error _

lemma isDirectory (h : SameShape tree tree') (p : Path) : tree.isDirectory p = tree'.isDirectory p := by
  unfold Tree.isDirectory
  rw [locate_congr h.kinds p]
  cases tree'.locate p with
  | error e => rfl
  | ok l =>
    simp only
    rcases kind_cases (h.kinds l) with ⟨he, he'⟩ | ⟨old, old', he, he'⟩ | ⟨he, he'⟩ <;> rw [he, he']

lemma makeUnlessThere (h : SameShape tree tree') (p : Path) :
    SameShape (tree.makeUnlessThere p).1 (tree'.makeUnlessThere p).1 ∧
      (tree.makeUnlessThere p).2 = (tree'.makeUnlessThere p).2 := by
  unfold Tree.makeUnlessThere
  rw [h.isDirectory p]
  have halike := h.makeDirectory p
  generalize tree.makeDirectory p = made, tree'.makeDirectory p = made' at halike
  cases halike with
  | ok hmade => exact ⟨hmade, rfl⟩
  | error e => exact ⟨h, rfl⟩

lemma makeDirectoriesTo (h : SameShape tree tree') (p : Path) (bound : Nat) :
    SameShape (tree.makeDirectoriesTo p bound).1 (tree'.makeDirectoriesTo p bound).1 ∧
      (tree.makeDirectoriesTo p bound).2 = (tree'.makeDirectoriesTo p bound).2 := by
  induction bound generalizing p with
  | zero => exact ⟨h, rfl⟩
  | succ bound ih =>
    have hmake := h.makeUnlessThere p
    have halike := h.makeDirectory p
    obtain ⟨habove, herror⟩ := ih p.parent
    rw [Tree.makeDirectoriesTo, Tree.makeDirectoriesTo]
    generalize tree.makeDirectory p = made, tree'.makeDirectory p = made' at halike
    cases halike with
    | ok => exact hmake
    | error e =>
      cases e with
      | notFound asked =>
        generalize tree.makeDirectoriesTo p.parent bound = above,
          tree'.makeDirectoriesTo p.parent bound = above' at habove herror
        obtain ⟨above, error⟩ := above
        obtain ⟨above', error'⟩ := above'
        obtain rfl : error = error' := herror
        simp only
        split
        · exact ⟨h, rfl⟩
        · cases error with
          | none => exact habove.makeUnlessThere p
          | some e => exact ⟨habove, rfl⟩
      | _ => exact hmake

lemma write (h : SameShape tree tree') (p : Path) (bytes : Utf8.Bytes) :
    (tree.write p bytes).isOk = (tree'.write p bytes).isOk := by
  unfold Tree.write
  rw [locate_congr h.kinds p, h.locked]
  cases tree'.locate p with
  | error e => rfl
  | ok l =>
    simp only [bind, Except.bind]
    split
    · rfl
    · rcases kind_cases (h.kinds l) with ⟨he, he'⟩ | ⟨old, old', he, he'⟩ | ⟨he, he'⟩ <;> rw [he, he'] <;> rfl

end SameShape

end Tree

lemma writeReport_isOk {tree tree' : Tree} (h : tree.SameShape tree') (p : Path) (rs : List LintResult) :
    (writeReport tree p rs).isOk = (writeReport tree' p rs).isOk := by
  obtain ⟨hmade, herror⟩ := h.makeDirectoriesTo p.parent (p.parent.names.length + 1)
  unfold writeReport Tree.makeDirectories
  generalize tree.makeDirectoriesTo p.parent _ = made, tree'.makeDirectoriesTo p.parent _ = made'
    at hmade herror
  obtain ⟨made, error⟩ := made
  obtain ⟨made', error'⟩ := made'
  obtain rfl : error = error' := herror
  cases error with
  | none => exact hmade.write p _
  | some e => rfl

lemma Command.Lint.reportTo_isOk {tree tree' : Tree} (h : tree.SameShape tree') (out : Option String)
    (rs : List LintResult) : (reportTo tree out rs).isOk = (reportTo tree' out rs).isOk := by
  cases out with
  | none => rfl
  | some p => exact writeReport_isOk h (.ofString p) rs

end ClassTidy
