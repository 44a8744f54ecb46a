import QueryTemplate.Node
import QueryTemplate.Step

/-!
Drafts: the clauses of a template and the code that assembles it, made in one reading of the
statements. The list of a block gets its number and is declared before the parts of the block are
read, and each part is complete before it is appended. An if appends the clauses of its first
branch one by one, and ends at its own "end"; the body of a later branch is read by another loop,
which leaves the statement behind it to the if, and is appended at once. How a step is written is
a parameter of the reading.
-/

namespace QueryTemplate

/-- How many lists of each kind are in use, and what has been written so far. -/
structure Draft (α : Type) where
  choices : Nat := 0
  wheres : Nat := 0
  sets : Nat := 0
  written : Array α := #[]

abbrev Drafting (α : Type) := StateT (Draft α) (Except Fault)

/-- An if that is being read: its clause so far, and what its next branch has to exclude. -/
structure OpenChoice where
  index : Nat
  condition : Condition
  body : List Clause := []
  branches : List Branch := []
  prior : List Condition := [condition]
  /-- The branch without a condition has been read. -/
  last : Bool := false

namespace OpenChoice

def clause (c : OpenChoice) : Clause :=
  .choice c.index c.condition c.body c.branches

def addClause (c : OpenChoice) (child : Clause) : OpenChoice :=
  { c with body := c.body ++ [child] }

def addElseIf (c : OpenChoice) (own : Condition) (body : List Clause) : OpenChoice :=
  { c with branches := c.branches ++ [⟨.elseIf c.prior own, body⟩], prior := c.prior ++ [own] }

def addOtherwise (c : OpenChoice) (body : List Clause) : OpenChoice :=
  { c with branches := c.branches ++ [⟨.otherwise c.prior, body⟩], last := true }

end OpenChoice

namespace Draft

variable {α : Type}

def fresh (block : BlockKind) : Drafting α Nat :=
  modifyGet fun d =>
    match block with
    | .choice => (d.choices, { d with choices := d.choices + 1 })
    | .whereList => (d.wheres, { d with wheres := d.wheres + 1 })
    | .setList => (d.sets, { d with sets := d.sets + 1 })

section Readers

variable (write : Step → α)

def put (s : Step) : Drafting α Unit :=
  modify fun d => { d with written := d.written.push (write s) }

mutual

def readClause (s : Statement) (rest : List Statement) : Drafting α (Taken Clause rest) :=
  match s.kind with
  | .literal =>
    let run := Node.takeText rest
    return ⟨.sql (s.content :: run.value), run.left, run.length_le⟩
  | .ifOpen => do
    s.condition.check
    let index ← fresh .choice
    put write (.declare ⟨.choice, index⟩)
    readChoice { index, condition := s.condition } rest
  | .whereOpen => readCollection .whereList rest
  | .setOpen => readCollection .setList rest
  | .elseIf | .otherwise | .close => throw (.misplaced s.text)
termination_by 3 * rest.length + 2
decreasing_by all_goals omega

/-- The rest of an if, through its "end". A clause that is no part of a later branch is one of the
first branch. -/
def readChoice (c : OpenChoice) (ss : List Statement) : Drafting α (Taken Clause ss) :=
  match ss with
  | [] => throw (.unclosed .choice)
  | s :: rest =>
    match s.kind with
    | .literal | .ifOpen | .whereOpen | .setOpen => do
      let child ← readClause s rest
      put write (.appendGuarded c.index (.first c.condition) (.one child.value.operand))
      let whole ← readChoice (c.addClause child.value) child.left
      return ⟨whole.value, whole.left,
        Nat.le_succ_of_le (Nat.le_trans whole.length_le child.length_le)⟩
    | .elseIf => do
      if c.last then throw (.afterOtherwise s.text)
      s.condition.check
      let body ← readBody rest
      put write (.appendGuarded c.index (.elseIf c.prior s.condition)
        (.all (body.value.map Clause.operand)))
      let whole ← readChoice (c.addElseIf s.condition body.value) body.left
      return ⟨whole.value, whole.left,
        Nat.le_succ_of_le (Nat.le_trans whole.length_le body.length_le)⟩
    | .otherwise => do
      if c.last then throw (.afterOtherwise s.text)
      let body ← readBody rest
      put write (.appendGuarded c.index (.otherwise c.prior)
        (.all (body.value.map Clause.operand)))
      let whole ← readChoice (c.addOtherwise body.value) body.left
      return ⟨whole.value, whole.left,
        Nat.le_succ_of_le (Nat.le_trans whole.length_le body.length_le)⟩
    | .close => return ⟨c.clause, rest, Nat.le_succ _⟩
termination_by 3 * ss.length
decreasing_by
  all_goals simp only [List.length_cons]
  · omega
  · have := child.length_le; omega
  · omega
  · have := body.length_le; omega
  · omega
  · have := body.length_le; omega

/-- The body of a later branch: every clause up to a statement that starts none. -/
def readBody (ss : List Statement) : Drafting α (Taken (List Clause) ss) :=
  match ss with
  | [] => return ⟨[], [], Nat.le_refl _⟩
  | s :: rest =>
    match s.kind with
    | .literal | .ifOpen | .whereOpen | .setOpen => do
      let child ← readClause s rest
      let more ← readBody child.left
      return ⟨child.value :: more.value, more.left,
        Nat.le_succ_of_le (Nat.le_trans more.length_le child.length_le)⟩
    | .elseIf | .otherwise | .close => return ⟨[], s :: rest, Nat.le_refl _⟩
termination_by 3 * ss.length
decreasing_by
  all_goals simp only [List.length_cons]
  · omega
  · have := child.length_le; omega

def readCollection (kind : ListKind) (ss : List Statement) : Drafting α (Taken Clause ss) := do
  let index ← fresh kind.block
  put write (.declare ⟨kind.block, index⟩)
  let items ← readItems kind index ss
  return ⟨.collection kind index items.value, items.left, items.length_le⟩
termination_by 3 * ss.length + 1
decreasing_by omega

/-- The parts of a where or set, through its "end". Only texts and ifs can be parts. -/
def readItems (kind : ListKind) (index : Nat) (ss : List Statement) :
    Drafting α (Taken (List Clause) ss) :=
  match ss with
  | [] => throw (.unclosed kind.block)
  | s :: rest =>
    match s.kind with
    | .literal | .ifOpen => do
      let child ← readClause s rest
      put write (.append kind index (.one child.value.operand))
      let more ← readItems kind index child.left
      return ⟨child.value :: more.value, more.left,
        Nat.le_succ_of_le (Nat.le_trans more.length_le child.length_le)⟩
    | .close => return ⟨[], rest, Nat.le_succ _⟩
    | .elseIf | .otherwise | .whereOpen | .setOpen => throw (.misplaced s.text)
termination_by 3 * ss.length
decreasing_by
  all_goals simp only [List.length_cons]
  · omega
  · have := child.length_le; omega

end

/-- The clauses of the top level. An "end" that closes nothing is passed over; it ends a text. -/
def readAll (ss : List Statement) : Drafting α (List Clause) :=
  match ss with
  | [] => return []
  | s :: rest =>
    if s.kind = .close then readAll rest
    else do
      put write .separate
      let clause ← readClause write s rest
      put write (.accumulate (.one clause.value.operand))
      let more ← readAll clause.left
      return clause.value :: more
termination_by ss.length
decreasing_by
  all_goals simp only [List.length_cons]
  · omega
  · have := clause.length_le; omega

/-- The clauses of a template that has any statement at all, and what is written for them. -/
def ofStatements (ss : List Statement) : Except Fault (List Clause × List α) :=
  if ss = [] then .error .emptyTemplate
  else (readAll write ss {}).map fun (clauses, d) => (clauses, d.written.toList)

end Readers

end Draft

end QueryTemplate
