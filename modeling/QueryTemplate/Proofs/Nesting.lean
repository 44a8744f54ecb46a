import Mathlib
import QueryTemplate.Proofs.Spelling.Complete

/-!
How deep statements stand. Inside a body no statement that could end the body stands outside of the
blocks that are opened in it, and the branches of an if, like the parts of a where or set, close one
block more than they open, with their last statement.
-/

namespace QueryTemplate

/-- How many more blocks are open behind a statement of the kind than in front of it. -/
def StatementKind.change : StatementKind → Int
  | ifOpen | whereOpen | setOpen => 1
  | close => -1
  | literal | elseIf | otherwise => 0

theorem StatementKind.neg_one_le_change (k : StatementKind) : -1 ≤ k.change := by
  cases k <;> decide

theorem StatementKind.eq_close {k : StatementKind} (h : k.change = -1) : k = .close := by
  cases k <;> first | rfl | cases h

namespace Statement

variable {s e : Statement} {ss ts : List Statement}

/-- How many more blocks the statements open than they close. -/
def depth (ss : List Statement) : Int :=
  (ss.map fun s => s.kind.change).sum

@[simp] theorem depth_nil : depth [] = 0 :=
  rfl

@[simp] theorem depth_cons (s : Statement) (ss : List Statement) :
    depth (s :: ss) = s.kind.change + depth ss := by
  simp [depth]

@[simp] theorem depth_append (ss ts : List Statement) :
    depth (ss ++ ts) = depth ss + depth ts := by
  simp [depth]

/-- The statements close what they open and nothing else, and none that could end a body stands
outside of their blocks. -/
structure Level (ss : List Statement) : Prop where
  depth : depth ss = 0
  above : ∀ k s, ss[k]? = some s →
    0 ≤ Statement.depth (ss.take k) ∧ (Statement.depth (ss.take k) = 0 → ¬ s.kind.EndsBody)

/-- The statements close what they open and one block more, with the last of them. -/
structure Closing (ss : List Statement) : Prop where
  depth : depth ss = -1
  above : ∀ k, k < ss.length → 0 ≤ Statement.depth (ss.take k)

theorem Level.nil : Level [] := by
  constructor
  · rfl
  · intro k s hk
    simp at hk

theorem Level.append (h : Level ss) (h' : Level ts) : Level (ss ++ ts) := by
  constructor
  · rw [depth_append, h.depth, h'.depth]
    rfl
  · intro k s hk
    rw [List.getElem?_append] at hk
    split at hk
    · next inFront =>
      rw [List.take_append_of_le_length (by omega)]
      exact h.above k s hk
    · next behind =>
      rw [List.take_append, List.take_of_length_le (by omega), depth_append, h.depth, Int.zero_add]
      exact h'.above _ s hk

theorem Level.literals (literals : ∀ s ∈ ss, s.kind = .literal) : Level ss := by
  have flat : ∀ ts : List Statement, (∀ s ∈ ts, s.kind = .literal) → Statement.depth ts = 0 := by
    intro ts literals
    induction ts with
    | nil => rfl
    | cons t ts ih =>
      rw [List.forall_mem_cons] at literals
      rw [depth_cons, literals.1, ih literals.2]
      rfl
  constructor
  · exact flat ss literals
  · intro k s hk
    rw [flat _ fun t ht => literals t (List.mem_of_mem_take ht),
      literals s (List.mem_of_getElem? hk)]
    exact ⟨Int.le_refl 0, fun _ => id⟩

/-- A block is as deep in front of it as behind it, and deeper inside. -/
theorem Level.block (opens : s.kind.change = 1) (h : Closing ss) : Level (s :: ss) := by
  constructor
  · rw [depth_cons, opens, h.depth]
    rfl
  · intro k t hk
    cases k with
    | zero =>
      cases hk
      refine ⟨Int.le_refl 0, fun _ ends => ?_⟩
      cases kind : s.kind <;>
        simp [kind, StatementKind.change, StatementKind.EndsBody] at opens ends
    | succ k =>
      rw [List.getElem?_cons_succ] at hk
      have inside := h.above k (List.getElem?_eq_some_iff.1 hk).1
      rw [List.take_succ_cons, depth_cons, opens]
      exact ⟨by omega, fun level => by omega⟩

theorem Closing.close (closing : e.kind = .close) : Closing [e] := by
  constructor
  · simp [closing, StatementKind.change]
  · intro k hk
    obtain rfl : k = 0 := by simpa using hk
    exact Int.le_refl 0

theorem Closing.append (h : Level ss) (h' : Closing ts) : Closing (ss ++ ts) := by
  constructor
  · rw [depth_append, h.depth, h'.depth]
    rfl
  · intro k hk
    rw [List.length_append] at hk
    by_cases inFront : k < ss.length
    · rw [List.take_append_of_le_length (by omega)]
      exact (h.above k _ (List.getElem?_eq_getElem inFront)).1
    · rw [List.take_append, List.take_of_length_le (by omega), depth_append, h.depth, Int.zero_add]
      exact h'.above _ (by omega)

theorem Closing.branch (flat : s.kind.change = 0) (h : Closing ss) : Closing (s :: ss) := by
  constructor
  · rw [depth_cons, flat, h.depth]
    rfl
  · intro k hk
    cases k with
    | zero => exact Int.le_refl 0
    | succ k =>
      rw [List.length_cons] at hk
      have inside := h.above k (by omega)
      rw [List.take_succ_cons, depth_cons, flat]
      omega

/-- The last of the statements is the end that closes, and in front of it all blocks are closed that
are opened. -/
theorem Closing.last (h : Closing ss) :
    ∃ front e, ss = front ++ [e] ∧ e.kind = .close ∧ Statement.depth front = 0 := by
  rcases List.eq_nil_or_concat' ss with rfl | ⟨front, e, rfl⟩
  · cases h.depth
  · have total := h.depth
    have before := h.above front.length (by simp)
    have lowest := e.kind.neg_one_le_change
    rw [List.take_left' rfl] at before
    simp only [depth_append, depth_cons, depth_nil] at total
    exact ⟨front, e, rfl, StatementKind.eq_close (by omega), by omega⟩

/-! ## Positions -/

/-- The statements from one position on that are in front of another one. -/
def between (ss : List Statement) (p q : Nat) : List Statement :=
  (ss.drop p).take (q - p)

/-- The position is the first one from `p` on that stands outside of all blocks that are opened from
`p` on and whose statement has such a kind, as far as there is one. -/
structure FirstOutside (kinds : StatementKind → Prop) (ss : List Statement) (p q : Nat) :
    Prop where
  le : p ≤ q
  outside : Statement.depth (between ss p q) = 0
  earlier : ∀ m s, p ≤ m → m < q → ss[m]? = some s → Statement.depth (between ss p m) = 0 →
    ¬ kinds s.kind

theorem getElem?_add_of_drop {run left : List Statement} {p k : Nat}
    (split : ss.drop p = run ++ left) (inside : k < run.length) : ss[p + k]? = run[k]? := by
  rw [← List.getElem?_drop, split, List.getElem?_append_left inside]

theorem Level.firstOutside {bs : List Statement} (h : Level bs) {p : Nat} {left : List Statement}
    (split : ss.drop p = bs ++ left) :
    FirstOutside StatementKind.EndsBody ss p (p + bs.length) := by
  refine ⟨by omega, ?_, ?_⟩
  · rw [between, split, Nat.add_sub_cancel_left, List.take_left' rfl, h.depth]
  · intro m s start before hs level
    obtain ⟨k, rfl⟩ := Nat.exists_eq_add_of_le start
    have inside : k < bs.length := by omega
    rw [getElem?_add_of_drop split inside] at hs
    rw [between, split, Nat.add_sub_cancel_left, List.take_append_of_le_length (by omega)] at level
    exact (h.above k s hs).2 level

theorem Closing.firstOutside {as : List Statement} (h : Closing as) {p : Nat}
    {left : List Statement} (split : ss.drop p = as ++ left) :
    ∃ r e, p + as.length = r + 1 ∧ ss[r]? = some e ∧ e.kind = .close ∧
      FirstOutside (· = .close) ss p r := by
  obtain ⟨front, e, rfl, closing, level⟩ := h.last
  refine ⟨p + front.length, e, by simp [Nat.add_assoc], ?_, closing, by omega, ?_, ?_⟩
  · rw [getElem?_add_of_drop split (by simp)]
    simp
  · rw [between, split, Nat.add_sub_cancel_left, List.append_assoc, List.take_left' rfl, level]
  · intro m s start before hs level close
    obtain ⟨k, rfl⟩ := Nat.exists_eq_add_of_le start
    have inside : k + 1 < (front ++ [e]).length := by simp; omega
    rw [getElem?_add_of_drop split (by omega)] at hs
    rw [between, split, Nat.add_sub_cancel_left, List.take_append_of_le_length (by omega)] at level
    -- Behind an earlier end that closes the block more would be closed than opened.
    have after := h.above (k + 1) inside
    rw [List.take_add_one, depth_append, level, hs] at after
    simp [close, StatementKind.change] at after

end Statement

namespace Node

open Statement

mutual

theorem level_of_spelled {s : Statement} {ss : List Statement} {n : Node} (h : Spelled s ss n) :
    Level (s :: ss) := by
  match h with
  | .text first others => exact .literals (List.forall_mem_cons.2 ⟨first, others⟩)
  | .choice opening _ bodySpelled armsSpelled =>
    have arms := closing_of_spelledArms armsSpelled
    exact .block (by rw [opening]; rfl) (.append (level_of_spelledBody bodySpelled) arms)
  | @Spelled.collection _ _ k _ opening itemsSpelled =>
    refine .block ?_ (closing_of_spelledItems itemsSpelled)
    rw [opening]
    cases k <;> rfl

theorem level_of_spelledBody {bs : List Statement} {ns : List Node} (h : SpelledBody bs ns) :
    Level bs := by
  match h with
  | .nil => exact .nil
  | .cons first _ others => exact (level_of_spelled first).append (level_of_spelledBody others)

theorem closing_of_spelledArms {as : List Statement} {arms : Arms} (h : SpelledArms as arms) :
    Closing as := by
  match h with
  | .close closing => exact .close closing
  | .otherwise opening bodySpelled closing =>
    refine .branch (by rw [opening]; rfl) ?_
    exact .append (level_of_spelledBody bodySpelled) (.close closing)
  | .elseIf opening _ bodySpelled armsSpelled =>
    refine .branch (by rw [opening]; rfl) ?_
    exact .append (level_of_spelledBody bodySpelled) (closing_of_spelledArms armsSpelled)

theorem closing_of_spelledItems {is : List Statement} {ns : List Node} (h : SpelledItems is ns) :
    Closing is := by
  match h with
  | .close closing => exact .close closing
  | .cons first _ _ others =>
    exact .append (level_of_spelled first) (closing_of_spelledItems others)

end

end Node

end QueryTemplate
