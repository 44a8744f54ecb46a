import QueryTemplate.Proofs.Slots

/-!
Clauses with other numbers. The steps of renumbered clauses are the renumbered steps, and nodes
that are numbered from a later start become the clauses they were, with every number moved on by
what is in use at the start.
-/

namespace QueryTemplate

variable (f : BlockKind → Nat → Nat)

namespace Clause

mutual

def renumber : Clause → Clause
  | .sql pieces => .sql pieces
  | .choice index condition body branches =>
    .choice (f .choice index) condition (renumberList body) (renumberBranches branches)
  | .collection kind index body => .collection kind (f kind.block index) (renumberList body)

def renumberList : List Clause → List Clause
  | [] => []
  | c :: cs => c.renumber :: renumberList cs

def renumberBranches : List Branch → List Branch
  | [] => []
  | ⟨guard, body⟩ :: branches => ⟨guard, renumberList body⟩ :: renumberBranches branches

end

end Clause

def Step.renumber : Step → Step
  | separate => separate
  | declare slot => declare ⟨slot.block, f slot.block slot.index⟩
  | appendGuarded index guard payload => appendGuarded (f .choice index) guard (payload.map f)
  | append kind index payload => append kind (f kind.block index) (payload.map f)
  | accumulate payload => accumulate (payload.map f)

namespace Clause

theorem operand_renumber (c : Clause) : (c.renumber f).operand = c.operand.map f := by
  cases c <;> rw [renumber] <;> rfl

theorem operands_renumber (cs : List Clause) :
    (renumberList f cs).map operand = cs.map fun c => c.operand.map f := by
  induction cs with
  | nil => rfl
  | cons c cs ih => rw [renumberList, List.map_cons, List.map_cons, operand_renumber, ih]

mutual

theorem block_renumber (c : Clause) : (c.renumber f).block = c.block.map (Step.renumber f) := by
  match c with
  | .sql _ => rfl
  | .choice index condition body branches =>
    rw [renumber, block, block, List.map_cons, List.map_append, blockGuarded_renumber,
      blockBranches_renumber]
    rfl
  | .collection kind index body =>
    rw [renumber, block, block, List.map_cons, blockItems_renumber]
    rfl

theorem blockGuarded_renumber (index : Nat) (guard : Guard) (cs : List Clause) :
    blockGuarded (f .choice index) guard (renumberList f cs) =
      (blockGuarded index guard cs).map (Step.renumber f) := by
  match cs with
  | [] => rfl
  | c :: cs =>
    rw [renumberList, blockGuarded, blockGuarded, List.map_append, List.map_cons, block_renumber c,
      blockGuarded_renumber index guard cs, operand_renumber]
    rfl

theorem blockItems_renumber (kind : ListKind) (index : Nat) (cs : List Clause) :
    blockItems kind (f kind.block index) (renumberList f cs) =
      (blockItems kind index cs).map (Step.renumber f) := by
  match cs with
  | [] => rfl
  | c :: cs =>
    rw [renumberList, blockItems, blockItems, List.map_append, List.map_cons, block_renumber c,
      blockItems_renumber kind index cs, operand_renumber]
    rfl

theorem blockList_renumber (cs : List Clause) :
    blockList (renumberList f cs) = (blockList cs).map (Step.renumber f) := by
  match cs with
  | [] => rfl
  | c :: cs =>
    rw [renumberList, blockList, blockList, List.map_append, block_renumber c,
      blockList_renumber cs]

theorem blockBranches_renumber (index : Nat) (branches : List Branch) :
    blockBranches (f .choice index) (renumberBranches f branches) =
      (blockBranches index branches).map (Step.renumber f) := by
  match branches with
  | [] => rfl
  | ⟨guard, body⟩ :: branches =>
    rw [renumberBranches, blockBranches, blockBranches, List.map_append, List.map_cons,
      blockList_renumber body, blockBranches_renumber index branches, operands_renumber,
      Step.renumber, Payload.map, List.map_map]
    rfl

end

theorem program_renumber (cs : List Clause) :
    program (renumberList f cs) = (program cs).map (Step.renumber f) := by
  induction cs with
  | nil => rfl
  | cons c cs ih =>
    rw [renumberList, program, program, List.map_cons, List.map_append, List.map_cons,
      block_renumber, ih, operand_renumber]
    rfl

theorem program_append (cs ds : List Clause) : program (cs ++ ds) = program cs ++ program ds := by
  induction cs with
  | nil => rfl
  | cons c cs ih => simp only [List.cons_append, program, ih, List.append_assoc]

end Clause

namespace Numbers

/-- The number that comes to stand in the place of another where some numbers of each kind are
taken before all of them. -/
def shift (taken : Numbers) (block : BlockKind) (index : Nat) : Nat :=
  index + taken block

variable (taken next : Numbers)

theorem shift_bump (block : BlockKind) :
    Numbers.bump (fun b => taken.shift b (next b)) block =
      fun b => taken.shift b (next.bump block b) := by
  funext b
  by_cases same : b = block
  · subst same
    simp only [bump, shift, Function.update_self]
    omega
  · simp only [bump, Function.update_of_ne same]

end Numbers

namespace Node

mutual

/-- Every number of the clause is moved on, and so are the numbers that are free after it. -/
theorem number_shift (taken next : Numbers) (n : Node) :
    n.number (fun b => taken.shift b (next b)) =
      ((n.number next).1.renumber taken.shift, fun b => taken.shift b ((n.number next).2 b)) := by
  match n with
  | .text _ => rfl
  | .choice condition body arms =>
    simp only [number, Numbers.shift_bump, numberList_shift, numberArms_shift, Clause.renumber]
  | .collection kind body =>
    simp only [number, Numbers.shift_bump, numberList_shift, Clause.renumber]

theorem numberList_shift (taken next : Numbers) (ns : List Node) :
    numberList (fun b => taken.shift b (next b)) ns =
      (Clause.renumberList taken.shift (numberList next ns).1,
        fun b => taken.shift b ((numberList next ns).2 b)) := by
  match ns with
  | [] => rfl
  | n :: ns => simp only [numberList, number_shift, numberList_shift, Clause.renumberList]

theorem numberArms_shift (taken next : Numbers) (prior : List Condition) (arms : Arms) :
    numberArms (fun b => taken.shift b (next b)) prior arms =
      (Clause.renumberBranches taken.shift (numberArms next prior arms).1,
        fun b => taken.shift b ((numberArms next prior arms).2 b)) := by
  match arms with
  | .close => rfl
  | .otherwise body => simp only [numberArms, numberList_shift, Clause.renumberBranches]
  | .elseIf condition body arms =>
    simp only [numberArms, numberList_shift, numberArms_shift, Clause.renumberBranches]

end

theorem numberList_append (next : Numbers) (ns ms : List Node) :
    numberList next (ns ++ ms) =
      ((numberList next ns).1 ++ (numberList (numberList next ns).2 ms).1,
        (numberList (numberList next ns).2 ms).2) := by
  induction ns generalizing next with
  | nil => rfl
  | cons n ns ih => simp only [List.cons_append, numberList, ih]

end Node

end QueryTemplate
