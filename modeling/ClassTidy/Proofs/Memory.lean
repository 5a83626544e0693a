import ClassTidy.Proofs.TokenOrder
import ClassTidy.Token.Memo

/-! Remembering tokens changes no answer. -/

namespace ClassTidy.Memo

structure Knows (r : Registry) (seen : List Text) (m : Memo) : Prop where
  nodup : (m.entries.map Prod.fst).Nodup
  tokens : ∀ t, t ∈ m.entries.map Prod.fst ↔ t ∈ seen
  parts : ∀ t parts, (t, parts) ∈ m.entries → parts = r.normalize t

variable {r : Registry} {seen : List Text} {m : Memo}

lemma knows_nothing (r : Registry) : Knows r [] {} := ⟨by simp, by simp, by simp⟩

lemma Knows.lookup_eq_some (h : Knows r seen m) {t : Text} {parts : NormalToken}
    (hlookup : m.entries.lookup t = some parts) : parts = r.normalize t ∧ t ∈ seen := by
  obtain ⟨front, back, hentries, -⟩ := List.lookup_eq_some_iff.mp hlookup
  have hmem : (t, parts) ∈ m.entries := by simp [hentries]
  exact ⟨h.parts t parts hmem, (h.tokens t).mp (List.mem_map_of_mem hmem)⟩

lemma Knows.normalize (h : Knows r seen m) (t : Text) :
    (m.normalize r t).1 = r.normalize t ∧ Knows r (seen ++ [t]) (m.normalize r t).2 := by
  cases hlookup : m.entries.lookup t with
  | some parts =>
    obtain ⟨hparts, hseen⟩ := h.lookup_eq_some hlookup
    have hrun : m.normalize r t = (parts, m) := by simp only [Memo.normalize, hlookup]
    rw [hrun]
    refine ⟨hparts, h.nodup, ?_, h.parts⟩
    intro u
    rw [h.tokens, List.mem_append, List.mem_singleton]
    constructor
    · exact Or.inl
    · rintro (hu | rfl)
      · exact hu
      · exact hseen
  | none =>
    have hnew : t ∉ m.entries.map Prod.fst := by
      intro hmem
      obtain ⟨⟨u, parts⟩, hp, rfl⟩ := List.mem_map.mp hmem
      simpa using List.lookup_eq_none_iff.mp hlookup _ hp
    have hrun : m.normalize r t = (r.normalize t, ⟨(t, r.normalize t) :: m.entries⟩) := by
      simp only [Memo.normalize, hlookup]
    rw [hrun]
    refine ⟨rfl, List.nodup_cons.mpr ⟨hnew, h.nodup⟩, ?_, ?_⟩
    · intro u
      rw [List.map_cons, List.mem_cons, h.tokens, List.mem_append, List.mem_singleton, or_comm]
    · intro u parts hmem
      rcases List.mem_cons.mp hmem with heq | hmem
      · cases heq
        rfl
      · exact h.parts u parts hmem

lemma compareTokens_eq (r : Registry) (m : Memo) (a b : Text) :
    m.compareTokens r a b =
      let first := m.normalize r a
      let second := first.2.normalize r b
      ((Token.Ranked.mk a first.1).compare ⟨b, second.1⟩, second.2) := rfl

lemma Knows.compareTokens (h : Knows r seen m) (a b : Text) :
    (m.compareTokens r a b).1 = r.compareTokens a b ∧
      Knows r (seen ++ [a, b]) (m.compareTokens r a b).2 := by
  obtain ⟨ha, hknows⟩ := h.normalize a
  obtain ⟨hb, hknows⟩ := hknows.normalize b
  rw [List.append_assoc] at hknows
  simp only [compareTokens_eq, ha, hb]
  exact ⟨rfl, hknows⟩

inductive Call
  | normalize (t : Text)
  | compare (a b : Text)

namespace Call

def tokens : Call → List Text
  | normalize t => [t]
  | compare a b => [a, b]

def Answer : Call → Type
  | normalize _ => NormalToken
  | compare _ _ => Ordering

def run (r : Registry) (m : Memo) : (c : Call) → c.Answer × Memo
  | normalize t => m.normalize r t
  | compare a b => m.compareTokens r a b

def answer (r : Registry) (c : Call) : c.Answer := (c.run r {}).1

end Call

lemma Knows.run (h : Knows r seen m) (c : Call) :
    (c.run r m).1 = c.answer r ∧ Knows r (seen ++ c.tokens) (c.run r m).2 := by
  cases c with
  | normalize t =>
    obtain ⟨hparts, hknows⟩ := h.normalize t
    obtain ⟨hfresh, -⟩ := (knows_nothing r).normalize t
    exact ⟨hparts.trans hfresh.symm, hknows⟩
  | compare a b =>
    obtain ⟨horder, hknows⟩ := h.compareTokens a b
    obtain ⟨hfresh, -⟩ := (knows_nothing r).compareTokens a b
    exact ⟨horder.trans hfresh.symm, hknows⟩

def runAll (r : Registry) : List Call → Memo → List ((c : Call) × c.Answer × Memo)
  | [], _ => []
  | c :: cs, m => ⟨c, c.run r m⟩ :: runAll r cs (c.run r m).2

lemma Knows.runAll (h : Knows r seen m) (calls : List Call) {i : Nat} {c : Call} (hc : calls[i]? = some c) :
    ∃ m', (Memo.runAll r calls m)[i]? = some ⟨c, c.answer r, m'⟩ ∧
      Knows r (seen ++ (calls.take (i + 1)).flatMap Call.tokens) m' := by
  -- the calls that are left meet whatever memory the ones before them have filled
  induction calls generalizing seen m i with
  | nil => simp at hc
  | cons first calls ih =>
    obtain ⟨hanswer, hknows⟩ := h.run first
    cases i with
    | zero =>
      obtain rfl : first = c := by simpa using hc
      exact ⟨(first.run r m).2, by simp [Memo.runAll, ← hanswer], by simpa using hknows⟩
    | succ i =>
      obtain ⟨m', hm', hknows'⟩ := ih hknows (by simpa using hc)
      exact ⟨m', by simpa [Memo.runAll] using hm', by simpa using hknows'⟩

/-- Something that makes calls, each chosen by the answers before it, and ends with a result. -/
inductive Caller (α : Type)
  | stop (result : α)
  | ask (c : Call) (next : c.Answer → Caller α)

namespace Caller

variable {α : Type}

def run (r : Registry) : Caller α → Memo → α × Memo
  | stop result, m => (result, m)
  | ask c next, m => (next (c.run r m).1).run r (c.run r m).2

def runAfresh (r : Registry) : Caller α → α
  | stop result => result
  | ask c next => (next (c.answer r)).runAfresh r

def calls (r : Registry) : Caller α → List Call
  | stop _ => []
  | ask c next => c :: (next (c.answer r)).calls r

end Caller

lemma Knows.runCaller {α : Type} (h : Knows r seen m) (k : Caller α) :
    (k.run r m).1 = k.runAfresh r ∧ Knows r (seen ++ (k.calls r).flatMap Call.tokens) (k.run r m).2 := by
  induction k generalizing seen m with
  | stop result => exact ⟨rfl, by simpa [Caller.calls] using! h⟩
  | ask c next ih =>
    obtain ⟨hanswer, hknows⟩ := h.run c
    simp only [Caller.run, Caller.runAfresh, Caller.calls, List.flatMap_cons, ← List.append_assoc, hanswer]
    exact ih (c.answer r) hknows

namespace Caller

variable {α β : Type}

def andThen (f : α → Caller β) : Caller α → Caller β
  | stop result => f result
  | ask c next => ask c fun answer => (next answer).andThen f

lemma runAfresh_andThen (r : Registry) (f : α → Caller β) (k : Caller α) :
    (k.andThen f).runAfresh r = (f (k.runAfresh r)).runAfresh r := by
  induction k with
  | stop result => rfl
  | ask c next ih => exact ih (c.answer r)

def insert (a : Text) : List Text → Caller (List Text)
  | [] => stop [a]
  | b :: bs => ask (.compare a b) fun (order : Ordering) =>
    if order.isLE then stop (a :: b :: bs) else (insert a bs).andThen fun rest => stop (b :: rest)

def sort : List Text → Caller (List Text)
  | [] => stop []
  | t :: ts => (sort ts).andThen (insert t)

lemma runAfresh_insert (r : Registry) (a : Text) (bs : List Text) :
    (insert a bs).runAfresh r = insertBy (fun a b => (r.compareTokens a b).isLE) a bs := by
  induction bs with
  | nil => rfl
  | cons b bs ih =>
    obtain ⟨horder, -⟩ := (knows_nothing r).compareTokens a b
    have hanswer : Call.answer r (.compare a b) = r.compareTokens a b := horder
    -- the answer is an `Ordering` only once `Answer` is unfolded, so `runAfresh` cannot be rewritten here
    have hstep : (insert a (b :: bs)).runAfresh r =
        (if (r.compareTokens a b).isLE then stop (a :: b :: bs)
          else (insert a bs).andThen fun rest => stop (b :: rest)).runAfresh r := by
      rw [← hanswer]
      rfl
    rw [hstep, insertBy]
    split
    · rfl
    · rw [runAfresh_andThen, ih]
      rfl

lemma runAfresh_sort (r : Registry) (ts : List Text) : (sort ts).runAfresh r = r.sortTokens ts := by
  have hsort : (sort ts).runAfresh r = sortBy (fun a b => (r.compareTokens a b).isLE) ts := by
    induction ts with
    | nil => rfl
    | cons t ts ih => rw [sort, runAfresh_andThen, ih, runAfresh_insert, sortBy]
  rw [hsort, sortBy_eq_insertionSort, r.sortTokens_eq_insertionSort]
  rfl

end Caller

/-- Whatever calls share a memory that starts empty, in whatever order, each of them answers as it does with
a memory of its own. After each call the memory holds the tokens of the calls so far, once each, with their
parts. So anything that works by such calls comes to the same result, as sorting does. -/
theorem memory_changes_no_answer {α : Type} (r : Registry) :
    (∀ (calls : List Call) (i : Nat) (c : Call), calls[i]? = some c →
      ∃ m, (runAll r calls {})[i]? = some ⟨c, c.answer r, m⟩ ∧
        Knows r ((calls.take (i + 1)).flatMap Call.tokens) m) ∧
    (∀ k : Caller α, (k.run r {}).1 = k.runAfresh r ∧
      Knows r ((k.calls r).flatMap Call.tokens) (k.run r {}).2) ∧
    ∀ ts, ((Caller.sort ts).run r {}).1 = r.sortTokens ts := by
  refine ⟨?_, ?_, ?_⟩
  · intro calls i c hc
    exact (knows_nothing r).runAll calls hc
  · intro k
    exact (knows_nothing r).runCaller k
  · intro ts
    rw [((knows_nothing r).runCaller (Caller.sort ts)).1, Caller.runAfresh_sort]

-- the third call meets one token that is known and one that is new
theorem memory_changes_no_answer_repeated :
    let r : Registry := []
    let plain : Text := "p-2".toList
    let variant : Text := "md:p-2".toList
    let calls : List Call := [.compare variant plain, .normalize plain, .compare plain ['!']]
    calls[2]? = some (.compare plain ['!']) ∧
      ∃ m, (runAll r calls {})[2]? = some ⟨.compare plain ['!'], Ordering.gt, m⟩ ∧ m.size = 3 ∧
        Knows r [variant, plain, plain, plain, ['!']] m := by
  intro r plain variant calls
  obtain ⟨hcalls, -⟩ := memory_changes_no_answer (α := Unit) r
  obtain ⟨m, hm, hknows⟩ := hcalls calls 2 (.compare plain ['!']) rfl
  have hanswer : Call.answer r (.compare plain ['!']) = Ordering.gt :=
    (by decide : (compareTokens r plain ['!'] {}).1 = .gt)
  have hsize : ((runAll r calls {})[2]?.map fun found => found.2.2.size) = some 3 := by decide
  rw [hanswer] at hm
  rw [hm] at hsize
  exact ⟨rfl, m, hm, Option.some.inj hsize, hknows⟩

end ClassTidy.Memo
