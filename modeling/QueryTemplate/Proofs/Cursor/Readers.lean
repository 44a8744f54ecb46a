import Mathlib
import QueryTemplate.Proofs.Cursor
import QueryTemplate.Proofs.Nesting

/-!
What the readers of nodes make of the moves. Each loop with the cursor has a reader of nodes, and
what this reader leaves of the statements from the cursor on is what the move about the first of
them leaves. So the readers go through the statements in the way the loops do.
-/

namespace QueryTemplate

namespace Cursor

open Node

variable {loop : Loop} {s : Statement} {ss rest : List Statement}

/-! ## The readers, one statement after the other -/

/-- What is behind the end of an if in its last branch. -/
def closeLast : List Statement → Except Fault (List Statement)
  | [] => .error (.unclosed .choice)
  | s :: rest => if s.kind = .close then .ok rest else .error (.afterOtherwise s.text)

/-- What the reader of nodes that belongs to the loop leaves of the statements. -/
def Loop.left (loop : Loop) (ss : List Statement) : Except Fault (List Statement) :=
  match loop with
  | program => (takeAll ss).map fun _ => []
  | text => .ok (takeText ss).left
  | choice last => do
    let body ← takeBody ss
    if last then closeLast body.left else (takeArms body.left).map Taken.left
  | body => (takeBody ss).map Taken.left
  | items kind => (takeItems kind ss).map Taken.left

/-- What is left of the statements when the loop is over that makes the move about the first of
them. -/
def Move.left (loop : Loop) (s : Statement) (rest : List Statement) :
    Move → Except Fault (List Statement)
  | next => loop.left rest
  | start own callee => callee.left rest >>= own.left
  | reread => Loop.text.left (s :: rest) >>= loop.left
  | leave => .ok rest
  | giveBack => .ok (s :: rest)
  | fail fault => .error fault

theorem Loop.left_nil (loop : Loop) : loop.left [] = loop.atEnd.map fun _ => [] := by
  cases loop with
  | program => rw [Loop.left, takeAll]; rfl
  | text => rfl
  | choice last =>
    rw [Loop.left, takeBody]
    cases last with
    | false =>
      show (takeArms []).map Taken.left = _
      rw [takeArms]
      rfl
    | true => rfl
  | body => rw [Loop.left, takeBody]; rfl
  | items kind => rw [Loop.left, takeItems]; rfl

theorem Move.left_checked (c : Condition) (move : Move) :
    (checked c move).left loop s rest = c.check >>= fun _ => move.left loop s rest := by
  unfold checked
  cases c.check <;> rfl

/-- A loop that starts to read a node goes on behind that node. -/
theorem Move.left_child (loop : Loop) (opens : ¬ s.kind.EndsBody) (rest : List Statement) :
    (child loop s).left loop s rest = (take s rest).map Taken.left >>= loop.left := by
  unfold child
  rw [take]
  cases kind : s.kind with
  | literal =>
    dsimp only
    rw [Move.left, Loop.left, takeText, if_pos kind]
    rfl
  | ifOpen =>
    dsimp only
    rw [left_checked, Move.left, Loop.left]
    cases s.condition.check with
    | error fault => rfl
    | ok _ =>
      dsimp only [bind, Except.bind]
      cases takeBody rest with
      | error fault => rfl
      | ok body =>
        dsimp only
        cases takeArms body.left <;> rfl
  | whereOpen =>
    dsimp only
    rw [Move.left, Loop.left]
    cases takeItems .whereList rest <;> rfl
  | setOpen =>
    dsimp only
    rw [Move.left, Loop.left]
    cases takeItems .setList rest <;> rfl
  | elseIf | otherwise | close => exact absurd (by rw [kind]; trivial) opens

/-! ### The equations of the readers -/

theorem Loop.program_cons (other : s.kind ≠ .close) (rest : List Statement) :
    program.left (s :: rest) = (take s rest).map Taken.left >>= program.left := by
  simp only [Loop.left]
  rw [takeAll, if_neg other]
  cases take s rest with
  | error fault => rfl
  | ok node =>
    show Except.map (fun _ => []) (takeAll node.left >>= _) = Except.map _ (takeAll node.left)
    cases takeAll node.left <;> rfl

theorem Loop.body_cons (opens : ¬ s.kind.EndsBody) (rest : List Statement) :
    body.left (s :: rest) = (take s rest).map Taken.left >>= body.left := by
  simp only [Loop.left]
  rw [takeBody]
  cases kind : s.kind with
  | elseIf | otherwise | close => exact absurd (by rw [kind]; trivial) opens
  | literal | ifOpen | whereOpen | setOpen =>
    cases take s rest with
    | error fault => rfl
    | ok node =>
      show Except.map Taken.left (takeBody node.left >>= _) = Except.map _ (takeBody node.left)
      cases takeBody node.left <;> rfl

theorem Loop.choice_cons (last : Bool) (opens : ¬ s.kind.EndsBody) (rest : List Statement) :
    (choice last).left (s :: rest) = (take s rest).map Taken.left >>= (choice last).left := by
  simp only [Loop.left]
  rw [takeBody]
  cases kind : s.kind with
  | elseIf | otherwise | close => exact absurd (by rw [kind]; trivial) opens
  | literal | ifOpen | whereOpen | setOpen =>
    cases take s rest with
    | error fault => rfl
    | ok node =>
      show (takeBody node.left >>= _) >>= _ = takeBody node.left >>= _
      cases takeBody node.left <;> rfl

theorem Loop.items_cons (kind : ListKind) (part : s.kind = .literal ∨ s.kind = .ifOpen)
    (rest : List Statement) :
    (items kind).left (s :: rest) = (take s rest).map Taken.left >>= (items kind).left := by
  simp only [Loop.left]
  rw [takeItems]
  rcases part with part | part
  all_goals
    rw [part]
    cases take s rest with
    | error fault => rfl
    | ok node =>
      show Except.map Taken.left (takeItems kind node.left >>= _) =
        Except.map _ (takeItems kind node.left)
      cases takeItems kind node.left <;> rfl

/-- Where no body goes on, an if is read as its branches are. -/
theorem Loop.choice_of_endsBody (last : Bool) {ss : List Statement}
    (ends : ∀ s ∈ ss.head?, s.kind.EndsBody) : (choice last).left ss =
      if last then closeLast ss else (takeArms ss).map Taken.left := by
  obtain ⟨_, empty⟩ := takeBody_of_endsBody ends
  rw [Loop.left, empty]
  rfl

/-- Behind a body an if goes on with its next branch. -/
theorem Loop.body_bind_choice (last : Bool) (rest : List Statement) :
    body.left rest >>= (choice last).left = (takeBody rest >>= fun body =>
      if last then closeLast body.left else (takeArms body.left).map Taken.left) := by
  rw [Loop.left]
  cases takes : takeBody rest with
  | error fault => rfl
  | ok body =>
    obtain ⟨-, -, -, ends⟩ := spelledBody_of_takeBody takes
    exact choice_of_endsBody last ends

theorem Loop.arms_elseIf (kind : s.kind = .elseIf) (rest : List Statement) :
    (takeArms (s :: rest)).map Taken.left =
      s.condition.check >>= fun _ => body.left rest >>= (choice false).left := by
  rw [takeArms, body_bind_choice]
  simp only [kind]
  cases s.condition.check with
  | error fault => rfl
  | ok _ =>
    cases takeBody rest with
    | error fault => rfl
    | ok body =>
      dsimp only [bind, Except.bind]
      cases takeArms body.left <;> rfl

theorem Loop.arms_otherwise (kind : s.kind = .otherwise) (rest : List Statement) :
    (takeArms (s :: rest)).map Taken.left = body.left rest >>= (choice true).left := by
  rw [takeArms, body_bind_choice]
  simp only [kind]
  cases takeBody rest with
  | error fault => rfl
  | ok body =>
    obtain ⟨value, left, len⟩ := body
    cases left with
    | nil => rfl
    | cons t left =>
      dsimp only [bind, Except.bind, closeLast]
      split <;> rfl

/-- An if deals with the statement behind its body as its branches do. -/
theorem Loop.choice_of_branch (last : Bool) (ends : s.kind.EndsBody) (rest : List Statement) :
    (choice last).left (s :: rest) = ((choice last).move s).left (choice last) s rest := by
  rw [choice_of_endsBody last (by simpa using ends)]
  unfold Loop.move
  cases kind : s.kind with
  | literal | ifOpen | whereOpen | setOpen => simp [kind, StatementKind.EndsBody] at ends
  | close =>
    cases last with
    | false =>
      rw [takeArms]
      simp only [kind]
      rfl
    | true =>
      rw [if_pos rfl, closeLast, if_pos kind]
      rfl
  | elseIf =>
    cases last with
    | false =>
      dsimp only
      rw [if_neg Bool.false_ne_true, if_neg Bool.false_ne_true, arms_elseIf kind,
        Move.left_checked]
      rfl
    | true =>
      rw [if_pos rfl, closeLast, if_neg (by simp [kind])]
      rfl
  | otherwise =>
    cases last with
    | false => exact arms_otherwise kind rest
    | true =>
      rw [if_pos rfl, closeLast, if_neg (by simp [kind])]
      rfl

/-- What a loop leaves is what its move about the first statement leaves. -/
theorem Loop.left_cons (loop : Loop) (s : Statement) (rest : List Statement) :
    loop.left (s :: rest) = (loop.move s).left loop s rest := by
  cases loop with
  | program =>
    unfold Loop.move
    cases kind : s.kind with
    | close =>
      rw [Loop.left, takeAll, if_pos kind]
      rfl
    | elseIf | otherwise =>
      rw [program_cons (by simp [kind]), take]
      simp only [kind]
      rfl
    | literal | ifOpen | whereOpen | setOpen =>
      rw [program_cons (by simp [kind]), Move.left_child _ (by simp [kind, StatementKind.EndsBody])]
  | text =>
    unfold Loop.move
    dsimp only
    rw [Loop.left, takeText]
    split <;> rfl
  | choice last =>
    by_cases ends : s.kind.EndsBody
    · exact choice_of_branch last ends rest
    · rw [choice_cons last ends, ← Move.left_child _ ends]
      unfold Loop.move
      cases kind : s.kind with
      | elseIf | otherwise | close => exact absurd (by rw [kind]; trivial) ends
      | literal | ifOpen | whereOpen | setOpen => rfl
  | body =>
    unfold Loop.move
    cases kind : s.kind with
    | elseIf | otherwise | close =>
      rw [Loop.left, takeBody]
      simp only [kind]
      rfl
    | literal | ifOpen | whereOpen | setOpen =>
      have opens : ¬ s.kind.EndsBody := by simp [kind, StatementKind.EndsBody]
      rw [body_cons opens, Move.left_child _ opens]
  | items block =>
    unfold Loop.move
    cases kind : s.kind with
    | close | elseIf | otherwise | whereOpen | setOpen =>
      rw [Loop.left, takeItems]
      simp only [kind]
      rfl
    | literal | ifOpen =>
      have opens : ¬ s.kind.EndsBody := by simp [kind, StatementKind.EndsBody]
      rw [items_cons block (by simp [kind]), Move.left_child _ opens]

end Cursor

end QueryTemplate
