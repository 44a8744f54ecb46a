import Mathlib.Logic.Function.Basic
import QueryTemplate.Compile

/-!
Clauses and steps in two passes over finished nodes: first the nodes are numbered, which makes
clauses of them, and then the steps are read off the clauses.
-/

namespace QueryTemplate

/-- The next free number for a list of each kind. -/
abbrev Numbers := BlockKind → Nat

def Numbers.bump (next : Numbers) (block : BlockKind) : Numbers :=
  Function.update next block (next block + 1)

namespace Node

mutual

def number (next : Numbers) : Node → Clause × Numbers
  | .text pieces => (.sql pieces, next)
  | .choice condition body arms =>
    let inner := numberList (next.bump .choice) body
    let later := numberArms inner.2 [condition] arms
    (.choice (next .choice) condition inner.1 later.1, later.2)
  | .collection kind body =>
    let inner := numberList (next.bump kind.block) body
    (.collection kind (next kind.block) inner.1, inner.2)

def numberList (next : Numbers) : List Node → List Clause × Numbers
  | [] => ([], next)
  | n :: ns =>
    let first := n.number next
    let rest := numberList first.2 ns
    (first.1 :: rest.1, rest.2)

/-- The later branches of an if, of which the earlier ones have the prior conditions. -/
def numberArms (next : Numbers) (prior : List Condition) : Arms → List Branch × Numbers
  | .close => ([], next)
  | .otherwise body =>
    let inner := numberList next body
    ([⟨.otherwise prior, inner.1⟩], inner.2)
  | .elseIf condition body arms =>
    let inner := numberList next body
    let later := numberArms inner.2 (prior ++ [condition]) arms
    (⟨.elseIf prior condition, inner.1⟩ :: later.1, later.2)

end

end Node

namespace Clause

mutual

def block : Clause → List Step
  | .sql _ => []
  | .choice index condition body branches =>
    .declare ⟨.choice, index⟩ ::
      (blockGuarded index (.first condition) body ++ blockBranches index branches)
  | .collection kind index body => .declare ⟨kind.block, index⟩ :: blockItems kind index body

/-- Every clause is built, then appended under the guard. -/
def blockGuarded (index : Nat) (guard : Guard) : List Clause → List Step
  | [] => []
  | c :: cs =>
    c.block ++ .appendGuarded index guard (.one c.operand) :: blockGuarded index guard cs

/-- Every clause is built, then appended. -/
def blockItems (kind : ListKind) (index : Nat) : List Clause → List Step
  | [] => []
  | c :: cs => c.block ++ .append kind index (.one c.operand) :: blockItems kind index cs

def blockList : List Clause → List Step
  | [] => []
  | c :: cs => c.block ++ blockList cs

/-- The clauses of a branch are built one after the other, then appended at once. -/
def blockBranches (index : Nat) : List Branch → List Step
  | [] => []
  | ⟨guard, body⟩ :: branches =>
    blockList body ++
      .appendGuarded index guard (.all (body.map operand)) :: blockBranches index branches

end

def program : List Clause → List Step
  | [] => []
  | c :: cs => .separate :: (c.block ++ .accumulate (.one c.operand) :: program cs)

end Clause

/-- The clauses and steps of the nodes of a template, in two passes. -/
def Compiled.ofNodes (nodes : List Node) : Compiled :=
  let clauses := (Node.numberList (fun _ => 0) nodes).1
  ⟨clauses, Clause.program clauses⟩

end QueryTemplate
