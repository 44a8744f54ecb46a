import QueryTemplate.Condition

/-!
Nodes: the nested structure of a template. A text is a run of literals, an if is a first branch
and the arms that follow it, and a where or set is a list of parts. That an else is the last
branch is built into `Arms`. Nodes are read off the statements of a template.
-/

namespace QueryTemplate

mutual

inductive Node where
  /-- A run of literals. -/
  | text (pieces : List String)
  | choice (condition : Condition) (body : List Node) (arms : Arms)
  | collection (kind : ListKind) (body : List Node)

/-- The branches of an if after the first one. -/
inductive Arms where
  | close
  | otherwise (body : List Node)
  | elseIf (condition : Condition) (body : List Node) (rest : Arms)

end

/-! ## Reading

Each reader takes what it can from the front of a list of statements and says what is left: a text
ends before the first statement that is no literal, a body ends before the statement that cannot
belong to it, and a block ends after its own "end". What is left is never longer than what was
given, so reading ends on every list. Drafts are read in the same way, with the lists numbered and
the steps written on the way.
-/

/-- What a reader took off the front of a list of statements, and the statements that are left. -/
structure Taken (α : Type) (ss : List Statement) where
  value : α
  left : List Statement
  length_le : left.length ≤ ss.length

namespace Node

/-- The values of the literals in front of the first other statement. -/
def takeText : (ss : List Statement) → Taken (List String) ss
  | [] => ⟨[], [], Nat.le_refl _⟩
  | s :: rest =>
    if s.kind = .literal then
      let run := takeText rest
      ⟨s.content :: run.value, run.left, Nat.le_succ_of_le run.length_le⟩
    else ⟨[], s :: rest, Nat.le_refl _⟩

mutual

def take (s : Statement) (rest : List Statement) : Except Fault (Taken Node rest) :=
  match s.kind with
  | .literal =>
    let run := takeText rest
    .ok ⟨.text (s.content :: run.value), run.left, run.length_le⟩
  | .ifOpen => do
    s.condition.check
    let body ← takeBody rest
    let arms ← takeArms body.left
    return ⟨.choice s.condition body.value arms.value, arms.left,
      Nat.le_trans arms.length_le body.length_le⟩
  | .whereOpen => do
    let items ← takeItems .whereList rest
    return ⟨.collection .whereList items.value, items.left, items.length_le⟩
  | .setOpen => do
    let items ← takeItems .setList rest
    return ⟨.collection .setList items.value, items.left, items.length_le⟩
  | .elseIf | .otherwise | .close => .error (.misplaced s.text)
termination_by 2 * rest.length + 1
decreasing_by
  · omega
  · have := body.length_le; omega
  · omega
  · omega

/-- The body of a branch: every node up to a statement that starts none. -/
def takeBody (ss : List Statement) : Except Fault (Taken (List Node) ss) :=
  match ss with
  | [] => .ok ⟨[], [], Nat.le_refl _⟩
  | s :: rest =>
    match s.kind with
    | .literal | .ifOpen | .whereOpen | .setOpen => do
      let node ← take s rest
      let more ← takeBody node.left
      return ⟨node.value :: more.value, more.left,
        Nat.le_succ_of_le (Nat.le_trans more.length_le node.length_le)⟩
    | .elseIf | .otherwise | .close => .ok ⟨[], s :: rest, Nat.le_refl _⟩
termination_by 2 * ss.length
decreasing_by
  all_goals simp only [List.length_cons]
  · omega
  · have := node.length_le; omega

/-- The branches of an if after its first body, through its "end". -/
def takeArms (ss : List Statement) : Except Fault (Taken Arms ss) :=
  match ss with
  | [] => .error (.unclosed .choice)
  | s :: rest =>
    match s.kind with
    | .close => .ok ⟨.close, rest, Nat.le_succ _⟩
    | .elseIf => do
      s.condition.check
      let body ← takeBody rest
      let arms ← takeArms body.left
      return ⟨.elseIf s.condition body.value arms.value, arms.left,
        Nat.le_succ_of_le (Nat.le_trans arms.length_le body.length_le)⟩
    | .otherwise => do
      let body ← takeBody rest
      match h : body.left with
      | [] => .error (.unclosed .choice)
      | t :: left =>
        if t.kind = .close then
          return ⟨.otherwise body.value, left, by
            have := body.length_le
            simp only [h, List.length_cons] at this ⊢
            omega⟩
        else .error (.afterOtherwise t.text)
    | .literal | .ifOpen | .whereOpen | .setOpen => .error (.misplaced s.text)
termination_by 2 * ss.length
decreasing_by
  all_goals simp only [List.length_cons]
  · omega
  · have := body.length_le; omega
  · omega

/-- The parts of a where or set, through its "end". Only texts and ifs can be parts. -/
def takeItems (kind : ListKind) (ss : List Statement) : Except Fault (Taken (List Node) ss) :=
  match ss with
  | [] => .error (.unclosed kind.block)
  | s :: rest =>
    match s.kind with
    | .literal | .ifOpen => do
      let node ← take s rest
      let more ← takeItems kind node.left
      return ⟨node.value :: more.value, more.left,
        Nat.le_succ_of_le (Nat.le_trans more.length_le node.length_le)⟩
    | .close => .ok ⟨[], rest, Nat.le_succ _⟩
    | .elseIf | .otherwise | .whereOpen | .setOpen => .error (.misplaced s.text)
termination_by 2 * ss.length
decreasing_by
  all_goals simp only [List.length_cons]
  · omega
  · have := node.length_le; omega

end

/-- The nodes of a template. An "end" that closes nothing is passed over; it ends a text. -/
def takeAll (ss : List Statement) : Except Fault (List Node) :=
  match ss with
  | [] => .ok []
  | s :: rest =>
    if s.kind = .close then takeAll rest
    else do
      let node ← take s rest
      let more ← takeAll node.left
      return node.value :: more
termination_by ss.length
decreasing_by
  all_goals simp only [List.length_cons]
  · omega
  · have := node.length_le; omega

/-- The nodes of a template that has any statement at all. -/
def ofStatements (ss : List Statement) : Except Fault (List Node) :=
  if ss = [] then .error .emptyTemplate else takeAll ss

end Node

end QueryTemplate
