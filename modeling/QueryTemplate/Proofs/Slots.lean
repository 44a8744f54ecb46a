import Mathlib.Data.List.Nodup
import QueryTemplate.Proofs.Drafting

/-!
The lists that clauses need, in the order in which the clauses are read: a block, then its parts,
then its later branches. In that order every list takes the next free number of its kind, so no two
lists have one name, and the numbers in use tell how many lists of a kind there are.
-/

namespace QueryTemplate

theorem Slot.name_injective {s t : Slot} (h : s.name = t.name) : s = t := by
  obtain ⟨b, i⟩ := s
  obtain ⟨b', j⟩ := t
  have chars := congrArg String.toList h
  cases b <;> cases b' <;>
    simp only [Slot.name, BlockKind.listName, String.toList_append, Nat.toString_eq_repr,
      Nat.toList_repr] at chars ⊢
  all_goals simp at chars
  all_goals
    have number := congrArg (Nat.ofDigitChars 10 · 0) chars
    simpa using number

namespace Clause

mutual

def slots : Clause → List Slot
  | .sql _ => []
  | .choice index _ body branches =>
    ⟨.choice, index⟩ :: (slotsList body ++ slotsBranches branches)
  | .collection kind index body => ⟨kind.block, index⟩ :: slotsList body

def slotsList : List Clause → List Slot
  | [] => []
  | c :: cs => c.slots ++ slotsList cs

def slotsBranches : List Branch → List Slot
  | [] => []
  | ⟨_, body⟩ :: branches => slotsList body ++ slotsBranches branches

end

/-- How many blocks of the kind there are among the clauses, at any depth. -/
def blockCount (cs : List Clause) (block : BlockKind) : Nat :=
  (slotsList cs).countP fun s => s.block = block

end Clause

namespace Numbers

theorem bump_self (next : Numbers) (block : BlockKind) :
    next.bump block block = next block + 1 :=
  Function.update_self ..

theorem bump_of_ne {block b : BlockKind} (h : b ≠ block) (next : Numbers) :
    next.bump block b = next b :=
  Function.update_of_ne h ..

theorem le_bump (next : Numbers) (block b : BlockKind) : next b ≤ next.bump block b := by
  by_cases same : b = block
  · subst same
    rw [bump_self]
    omega
  · exact Nat.le_of_eq (bump_of_ne same next).symm

/-- The slots take the next free numbers one after the other, and leave others free. -/
inductive Allots : Numbers → List Slot → Numbers → Prop
  | nil (next : Numbers) : Allots next [] next
  | cons {next next' : Numbers} {block : BlockKind} {slots : List Slot}
      (others : Allots (next.bump block) slots next') :
      Allots next (⟨block, next block⟩ :: slots) next'

variable {next mid next' : Numbers} {slots more : List Slot}

theorem Allots.append (first : Allots next slots mid) (second : Allots mid more next') :
    Allots next (slots ++ more) next' := by
  induction first with
  | nil => exact second
  | cons _ ih => exact .cons (ih second)

theorem Allots.eq_add_count (h : Allots next slots next') (block : BlockKind) :
    next' block = next block + slots.countP fun s => s.block = block := by
  induction h with
  | nil => rfl
  | @cons next _ b _ _ ih =>
    rw [ih]
    by_cases same : b = block
    · subst same
      rw [bump_self, List.countP_cons_of_pos (by simp)]
      omega
    · rw [bump_of_ne (Ne.symm same), List.countP_cons_of_neg (by simpa using same)]

theorem Allots.le_index (h : Allots next slots next') : ∀ s ∈ slots, next s.block ≤ s.index := by
  induction h with
  | nil => simp
  | @cons next _ block _ _ ih =>
    rw [List.forall_mem_cons]
    exact ⟨Nat.le_refl _, fun s hs => Nat.le_trans (next.le_bump block _) (ih s hs)⟩

/-- A number that is taken is not free any more. -/
theorem Allots.nodup (h : Allots next slots next') : slots.Nodup := by
  induction h with
  | nil => exact List.nodup_nil
  | @cons next _ block _ others ih =>
    refine List.nodup_cons.2 ⟨fun again => ?_, ih⟩
    have free : next.bump block block ≤ next block := others.le_index _ again
    rw [bump_self] at free
    omega

theorem Allots.nodup_names (h : Allots next slots next') : (slots.map Slot.name).Nodup :=
  h.nodup.map fun _ _ => Slot.name_injective

end Numbers

namespace Node

open Numbers

mutual

theorem allots_number (n : Node) (next : Numbers) :
    Allots next (n.number next).1.slots (n.number next).2 := by
  match n with
  | .text pieces => exact .nil next
  | .choice condition body arms =>
    have inner := allots_numberList body (next.bump .choice)
    have later := allots_numberArms arms (numberList (next.bump .choice) body).2 [condition]
    exact .cons (inner.append later)
  | .collection kind body => exact .cons (allots_numberList body (next.bump kind.block))

theorem allots_numberList (ns : List Node) (next : Numbers) :
    Allots next (Clause.slotsList (numberList next ns).1) (numberList next ns).2 := by
  match ns with
  | [] => exact .nil next
  | n :: ns => exact (allots_number n next).append (allots_numberList ns (n.number next).2)

theorem allots_numberArms (arms : Arms) (next : Numbers) (prior : List Condition) :
    Allots next (Clause.slotsBranches (numberArms next prior arms).1)
      (numberArms next prior arms).2 := by
  match arms with
  | .close => exact .nil next
  | .otherwise body => exact (allots_numberList body next).append (.nil _)
  | .elseIf condition body arms =>
    exact (allots_numberList body next).append
      (allots_numberArms arms (numberList next body).2 (prior ++ [condition]))

end

end Node

/-- The lists of a template have names of their own. -/
theorem Compiled.nodup_names {ss : List Statement} {c : Compiled}
    (h : Compiled.ofStatements ss = .ok c) :
    ((Clause.slotsList c.clauses).map Slot.name).Nodup := by
  obtain ⟨ns, -, clauses, -⟩ := Compiled.ofStatements_eq_ok h
  rw [clauses]
  exact (Node.allots_numberList ns _).nodup_names

end QueryTemplate
