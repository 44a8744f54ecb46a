import QueryTemplate.Guard
import QueryTemplate.Payload

/-!
Clauses: the nodes of a template with a numbered list for every block and a guard for every
branch. The lists of each kind of block are numbered from zero.
-/

namespace QueryTemplate

/-- The list that collects the parts of a block. -/
structure Slot where
  block : BlockKind
  index : Nat
  deriving DecidableEq, Repr

def Slot.name (s : Slot) : String :=
  s.block.listName s.index

mutual

inductive Clause where
  | sql (pieces : List String)
  | choice (index : Nat) (condition : Condition) (body : List Clause) (branches : List Branch)
  | collection (kind : ListKind) (index : Nat) (body : List Clause)

/-- A branch of an if after the first one. -/
structure Branch where
  guard : Guard
  body : List Clause

end

/-- What refers to a clause in an expression: its pieces, or the text of its list. -/
def Clause.operand : Clause → Operand Nat
  | sql pieces => .pieces pieces
  | choice index _ _ _ => .read .choice index
  | collection kind index _ => .read kind.block index

end QueryTemplate
