import ClassTidy.Source.Locator
import Mathlib.Data.List.Basic
import Mathlib.Tactic.Lemma

/-! Patterns that take all characters up to a closing one, and the matches that follow each other. -/

namespace ClassTidy.Pattern

def takeRunner (p : Char → Bool) : Runner := fun s k => (s.take? p).bind k

section Taking

variable {p : Char → Bool} {v rest before : Text} {offset : Nat} {captures : List (Nat × Nat × Nat)}
  {k : Continuation}

lemma takeRunner_cons_pos {c : Char} (hc : p c = true) :
    takeRunner p ⟨before, c :: rest, offset, captures⟩ k =
      k ⟨c :: before, rest, offset + 1, captures⟩ := by
  simp [takeRunner, Place.take?, hc]

lemma takeRunner_neg (h : ∀ c ∈ rest.head?, p c = false) :
    takeRunner p ⟨before, rest, offset, captures⟩ k = none := by
  cases rest with
  | nil => rfl
  | cons c rest =>
    have hc : p c = false := h c rfl
    simp [takeRunner, Place.take?, hc]

lemma times_takeRunner (n : Nat) (hv : ∀ c ∈ v, p c = true) (hn : v.length = n) :
    (takeRunner p).times n ⟨before, v ++ rest, offset, captures⟩ k =
      k ⟨v.reverse ++ before, rest, offset + v.length, captures⟩ := by
  induction v generalizing n before offset with
  | nil =>
    subst hn
    rfl
  | cons c v ih =>
    subst hn
    rw [List.length_cons, Runner.times, List.cons_append, takeRunner_cons_pos (hv c List.mem_cons_self),
      ih v.length (fun d hd => hv d (List.mem_cons_of_mem c hd)) rfl]
    simp [Nat.add_assoc, Nat.add_comm 1]

lemma times_takeRunner_short (n : Nat) (hv : ∀ c ∈ v, p c = true) (hn : v.length < n)
    (hrest : ∀ c ∈ rest.head?, p c = false) :
    (takeRunner p).times n ⟨before, v ++ rest, offset, captures⟩ k = none := by
  induction v generalizing n before offset with
  | nil =>
    cases n with
    | zero => simp at hn
    | succ n => exact takeRunner_neg hrest
  | cons c v ih =>
    cases n with
    | zero => simp at hn
    | succ n =>
      rw [Runner.times, List.cons_append, takeRunner_cons_pos (hv c List.mem_cons_self)]
      exact ih n (fun d hd => hv d (List.mem_cons_of_mem c hd)) (by simpa using hn)

lemma further_takeRunner (hk : ∀ before c rest offset captures, p c = true →
      k ⟨before, c :: rest, offset, captures⟩ = none)
    (hv : ∀ c ∈ v, p c = true) (hrest : ∀ c ∈ rest.head?, p c = false) (bound : Nat)
    (hbound : v.length ≤ bound) (last : Option Nat) (hlast : last ≠ some offset) :
    (takeRunner p).further true bound none last ⟨before, v ++ rest, offset, captures⟩ k =
      k ⟨v.reverse ++ before, rest, offset + v.length, captures⟩ := by
  induction v generalizing before offset bound last with
  | nil =>
    cases bound with
    | zero => rfl
    | succ bound => simp [Runner.further, hlast, takeRunner_neg hrest]
  | cons c v ih =>
    cases bound with
    | zero => simp at hbound
    | succ bound =>
      have hc := hv c List.mem_cons_self
      have hmore : (takeRunner p).further true bound none (some offset)
          ⟨c :: before, v ++ rest, offset + 1, captures⟩ k =
            k ⟨v.reverse ++ (c :: before), rest, offset + 1 + v.length, captures⟩ :=
        ih (fun d hd => hv d (List.mem_cons_of_mem c hd)) bound (by simpa using hbound) (some offset)
          (by simp)
      simp only [Runner.further, Option.map_none, List.cons_append, reduceCtorEq, hlast, or_self,
        if_false, if_true, takeRunner_cons_pos hc, hmore, hk _ c _ _ _ hc]
      simp [Nat.add_assoc, Nat.add_comm 1]

end Taking

def Node.upTo (closing : CharClass) (least : Nat) : Node :=
  .seq (.capture 1 (.iterate (.one ⟨!closing.negated, closing.items⟩ .exact) least none .greedy))
    (.one closing .exact)

lemma contains_negated (cls : CharClass) (c : Char) :
    (⟨!cls.negated, cls.items⟩ : CharClass).contains .exact c = !cls.contains .exact c := by
  cases h : cls.negated <;> simp [CharClass.contains, h]

lemma run_upTo {closing : CharClass} {v rest : Text} (hv : ∀ c ∈ v, closing.contains .exact c = false)
    (hrest : ∀ c ∈ rest.head?, closing.contains .exact c = true) (least : Nat) (before : Text)
    (offset : Nat) (captures : List (Nat × Nat × Nat)) (k : Continuation) :
    (Node.upTo closing least).run ⟨before, v ++ rest, offset, captures⟩ k =
      if least ≤ v.length then
        takeRunner (closing.contains .exact) ⟨v.reverse ++ before, rest, offset + v.length,
          (1, offset, offset + v.length) :: captures⟩ k
      else none := by
  let p : Char → Bool := fun c => !closing.contains .exact c
  let k' : Continuation := fun s => takeRunner (closing.contains .exact)
    { s with captures := (1, offset, s.offset) :: s.captures } k
  have hrun : (Node.upTo closing least).run ⟨before, v ++ rest, offset, captures⟩ k =
      (takeRunner p).times least ⟨before, v ++ rest, offset, captures⟩ fun s =>
        (takeRunner p).further true (s.after.length + 2) none none s k' := by
    have hp : (⟨!closing.negated, closing.items⟩ : CharClass).contains .exact = p := by
      funext c
      exact contains_negated closing c
    simp only [Node.upTo, Node.run, Runner.repeated, hp]
    rfl
  have hvp : ∀ c ∈ v, p c = true := by
    intro c hc
    simp [p, hv c hc]
  have hrestp : ∀ c ∈ rest.head?, p c = false := by
    intro c hc
    simp [p, hrest c hc]
  rw [hrun]
  split
  · rename_i hleast
    -- the closing character is not one of those that are taken, so giving some back is of no use
    have hk : ∀ before c rest offset captures, p c = true →
        k' ⟨before, c :: rest, offset, captures⟩ = none := by
      intro before c rest offset captures hc
      apply takeRunner_neg
      intro d hd
      simp only [List.head?_cons, Option.mem_some_iff] at hd
      subst hd
      simpa [p] using hc
    have htake : ∀ c ∈ v.take least, p c = true := fun c hc => hvp c (List.mem_of_mem_take hc)
    have hdrop : ∀ c ∈ v.drop least, p c = true := fun c hc => hvp c (List.mem_of_mem_drop hc)
    have hsplit : v ++ rest = v.take least ++ (v.drop least ++ rest) := by
      rw [← List.append_assoc, List.take_append_drop]
    have hlen : offset + (v.take least).length + (v.drop least).length = offset + v.length := by
      rw [List.length_take, List.length_drop]
      omega
    have hrev : (v.drop least).reverse ++ ((v.take least).reverse ++ before) = v.reverse ++ before := by
      rw [← List.append_assoc, ← List.reverse_append, List.take_append_drop]
    rw [hsplit, times_takeRunner least htake (List.length_take_of_le hleast),
      further_takeRunner hk hdrop hrestp _ (by simp; omega) none (by simp), hlen, hrev]
  · rename_i hshort
    exact times_takeRunner_short least hvp (by omega) hrestp

section Following

variable {node : Node} {before after : Text} {offset : Nat}

lemma matchesFrom_skip (u : Text) :
    node.matchesFrom (u ++ after) before offset u.length =
      node.matchesFrom after (u.reverse ++ before) (offset + u.length) 0 := by
  induction u generalizing before offset with
  | nil => rfl
  | cons c u ih =>
    rw [List.cons_append, List.length_cons, Node.matchesFrom, ih]
    simp [Nat.add_assoc, Nat.add_comm 1]

lemma matchesFrom_of_none {c : Char}
    (h : node.matchAt false { before, after := c :: after, offset } = none) :
    node.matchesFrom (c :: after) before offset 0 =
      node.matchesFrom after (c :: before) (offset + 1) 0 := by
  simp [Node.matchesFrom, Node.matchesAt, h]

lemma matchesFrom_nil (h : node.matchAt false { before, after := [], offset } = none) :
    node.matchesFrom [] before offset 0 = [] := by
  simp [Node.matchesFrom, Node.matchesAt, h]

lemma matchesFrom_of_some {u : Text} {captures : List (Nat × Nat × Nat)} (hu : u ≠ [])
    (h : node.matchAt false { before, after := u ++ after, offset } =
      some ⟨offset, offset + u.length, captures⟩) :
    node.matchesFrom (u ++ after) before offset 0 = ⟨offset, offset + u.length, captures⟩ ::
      node.matchesFrom after (u.reverse ++ before) (offset + u.length) 0 := by
  obtain ⟨c, u, rfl⟩ := List.exists_cons_of_ne_nil hu
  have hskip : node.matchesFrom (u ++ after) (c :: before) (offset + 1) u.length =
      node.matchesFrom after (u.reverse ++ (c :: before)) (offset + 1 + u.length) 0 :=
    matchesFrom_skip u
  have hlen : offset + (c :: u).length = offset + 1 + u.length := by
    simp
    omega
  rw [List.cons_append] at h ⊢
  simp only [Node.matchesFrom, Node.matchesAt, h, hlen]
  rw [if_neg (by omega)]
  have htaken : offset + 1 + u.length - offset - 1 = u.length := by omega
  simp only [htaken, hskip, List.reverse_cons, List.append_assoc, List.cons_append, List.nil_append]

end Following

end ClassTidy.Pattern
