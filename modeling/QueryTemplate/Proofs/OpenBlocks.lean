import QueryTemplate.Compile
import QueryTemplate.Proofs.Spelling.Sound

/-!
Reading with a stack. A machine goes through the statements of a template once, from the first to
the last, and keeps the blocks that are open, the innermost first. It refuses the statements that
the readers of nodes refuse, with the same faults, and at the end it names the innermost block that
is open. So whether statements form a template is decided by what each of them does to the blocks
that are open before it.
-/

namespace QueryTemplate

inductive OpenBlock where
  /-- An if that may have further branches. -/
  | branch
  /-- An if in its else. -/
  | lastBranch
  | items (kind : ListKind)
  deriving DecidableEq, Repr

namespace OpenBlock

def block : OpenBlock → BlockKind
  | branch | lastBranch => .choice
  | items kind => kind.block

def after (blocks : List OpenBlock) (s : Statement) : Except Fault (List OpenBlock) :=
  match s.kind, blocks with
  | .literal, _ => .ok blocks
  | .ifOpen, _ => do
    s.condition.check
    return branch :: blocks
  | .whereOpen, items _ :: _ | .setOpen, items _ :: _ => .error (.misplaced s.text)
  | .whereOpen, _ => .ok (items .whereList :: blocks)
  | .setOpen, _ => .ok (items .setList :: blocks)
  | .elseIf, branch :: _ => do
    s.condition.check
    return blocks
  | .otherwise, branch :: outer => .ok (lastBranch :: outer)
  | .elseIf, lastBranch :: _ | .otherwise, lastBranch :: _ => .error (.afterOtherwise s.text)
  | .elseIf, _ | .otherwise, _ => .error (.misplaced s.text)
  | .close, _ => .ok blocks.tail

def closed : List OpenBlock → Except Fault Unit
  | [] => .ok ()
  | b :: _ => .error (.unclosed b.block)

/-- What the machine finds about the statements inside the given blocks. -/
def verdict (blocks : List OpenBlock) (ss : List Statement) : Except Fault Unit :=
  ss.foldlM after blocks >>= closed

theorem verdict_cons (blocks : List OpenBlock) (s : Statement) (ss : List Statement) :
    verdict blocks (s :: ss) = after blocks s >>= fun inner => verdict inner ss := by
  simp only [verdict, List.foldlM_cons, bind_assoc]

theorem verdict_append (blocks : List OpenBlock) (ss ts : List Statement) :
    verdict blocks (ss ++ ts) = ss.foldlM after blocks >>= fun inner => verdict inner ts := by
  simp only [verdict, List.foldlM_append, bind_assoc]

end OpenBlock

/-! ## The readers find the same -/

namespace Node

open OpenBlock

/-- A statement that starts a node inside the blocks, or that is refused by all readers there. -/
def Starts (blocks : List OpenBlock) : StatementKind → Prop
  | .literal | .ifOpen => True
  | .whereOpen | .setOpen => ∀ kind, blocks.head? ≠ some (.items kind)
  | .elseIf | .otherwise => blocks = []
  | .close => False

theorem verdict_takeText (blocks : List OpenBlock) (ss : List Statement) :
    verdict blocks ss = verdict blocks (takeText ss).left := by
  induction ss with
  | nil => rfl
  | cons s rest ih =>
    rw [takeText]
    split
    · next literal =>
      have kept : after blocks s = .ok blocks := by simp [after, literal]
      rw [verdict_cons, kept]
      exact ih
    · rfl

theorem after_opening {blocks : List OpenBlock} {s : Statement} (kind : ListKind)
    (opening : s.kind = kind.opening) (free : ∀ k, blocks.head? ≠ some (.items k)) :
    after blocks s = .ok (.items kind :: blocks) := by
  rcases blocks with _ | ⟨_ | _ | k, outer⟩
  case cons.items => exact absurd rfl (free k)
  all_goals cases kind <;> simp [after, opening, ListKind.opening]

/-- An else has no further branches. -/
theorem after_lastBranch {s : Statement} (ends : s.kind.EndsBody) (other : s.kind ≠ .close)
    (outer : List OpenBlock) :
    after (.lastBranch :: outer) s = .error (.afterOtherwise s.text) := by
  cases kind : s.kind <;> simp [after, kind, StatementKind.EndsBody] at ends other ⊢

mutual

theorem verdict_take {blocks : List OpenBlock} {s : Statement} (starts : Starts blocks s.kind)
    (rest : List Statement) :
    verdict blocks (s :: rest) = take s rest >>= fun node => verdict blocks node.left := by
  rw [verdict_cons, take]
  cases kind : s.kind with
  | literal =>
    simp only [after, kind]
    exact verdict_takeText blocks rest
  | ifOpen =>
    simp only [after, kind, bind_assoc, pure_bind]
    refine bind_congr fun _ => ?_
    rw [verdict_takeBody (b := .branch) rfl]
    cases takes : takeBody rest with
    | error fault => rfl
    | ok body =>
      have shorter := body.length_le
      obtain ⟨-, -, -, ends⟩ := spelledBody_of_takeBody takes
      exact verdict_takeArms _ ends
  | whereOpen =>
    rw [kind] at starts
    rw [after_opening .whereList kind starts]
    simp only [bind_assoc, pure_bind]
    exact verdict_takeItems .whereList _ rest
  | setOpen =>
    rw [kind] at starts
    rw [after_opening .setList kind starts]
    simp only [bind_assoc, pure_bind]
    exact verdict_takeItems .setList _ rest
  | elseIf | otherwise =>
    rw [kind] at starts
    subst starts
    simp only [after, kind]
    rfl
  | close =>
    rw [kind] at starts
    exact starts.elim
termination_by 2 * rest.length + 1
decreasing_by all_goals omega

theorem verdict_takeBody {b : OpenBlock} (choice : b.block = .choice) (outer : List OpenBlock)
    (ss : List Statement) :
    verdict (b :: outer) ss = takeBody ss >>= fun body => verdict (b :: outer) body.left := by
  match ss with
  | [] =>
    rw [takeBody]
    rfl
  | s :: rest =>
    have starts : ¬ s.kind.EndsBody → Starts (b :: outer) s.kind := by
      cases s.kind <;> cases b <;> simp [Starts, StatementKind.EndsBody] at choice ⊢
      all_goals cases ‹ListKind› <;> simp [OpenBlock.block, ListKind.block] at choice
    rw [takeBody]
    cases kind : s.kind with
    | elseIf | otherwise | close => rfl
    | literal | ifOpen | whereOpen | setOpen =>
      rw [verdict_take (starts (by simp [kind, StatementKind.EndsBody]))]
      simp only [bind_assoc, pure_bind]
      refine bind_congr fun node => ?_
      have shorter := node.length_le
      exact verdict_takeBody choice outer node.left
termination_by 2 * ss.length
decreasing_by all_goals simp only [List.length_cons]; omega

theorem verdict_takeArms (outer : List OpenBlock) {ss : List Statement}
    (ends : ∀ s ∈ ss.head?, s.kind.EndsBody) :
    verdict (.branch :: outer) ss = takeArms ss >>= fun arms => verdict outer arms.left := by
  match ss with
  | [] =>
    rw [takeArms]
    rfl
  | s :: rest =>
    have ends := ends s rfl
    rw [verdict_cons, takeArms]
    cases kind : s.kind with
    | close =>
      simp only [after, kind]
      rfl
    | elseIf =>
      simp only [after, kind, bind_assoc, pure_bind]
      refine bind_congr fun _ => ?_
      rw [verdict_takeBody (b := .branch) rfl]
      cases takes : takeBody rest with
      | error fault => rfl
      | ok body =>
        have shorter := body.length_le
        obtain ⟨-, -, -, ends⟩ := spelledBody_of_takeBody takes
        exact verdict_takeArms _ ends
    | otherwise =>
      simp only [after, kind, bind_assoc]
      show verdict (.lastBranch :: outer) rest = _
      rw [verdict_takeBody (b := .lastBranch) rfl]
      cases takes : takeBody rest with
      | error fault => rfl
      | ok body =>
        obtain ⟨-, -, -, ends⟩ := spelledBody_of_takeBody takes
        obtain ⟨value, left, shorter⟩ := body
        cases left with
        | nil => rfl
        | cons t left =>
          have ends : t.kind.EndsBody := ends t rfl
          by_cases closing : t.kind = .close
          · simp [verdict_cons, after, closing, bind, Except.bind, pure, Except.pure]
          · simp only [verdict_cons, bind, Except.bind, if_neg closing]
            rw [after_lastBranch ends closing]
    | literal | ifOpen | whereOpen | setOpen =>
      rw [kind] at ends
      exact ends.elim
termination_by 2 * ss.length
decreasing_by all_goals simp only [List.length_cons]; omega

theorem verdict_takeItems (kind : ListKind) (outer : List OpenBlock) (ss : List Statement) :
    verdict (.items kind :: outer) ss =
      takeItems kind ss >>= fun items => verdict outer items.left := by
  match ss with
  | [] =>
    rw [takeItems]
    rfl
  | s :: rest =>
    rw [takeItems]
    cases opening : s.kind with
    | literal | ifOpen =>
      rw [verdict_take (by rw [opening]; trivial)]
      simp only [bind_assoc, pure_bind]
      refine bind_congr fun node => ?_
      have shorter := node.length_le
      exact verdict_takeItems kind outer node.left
    | close =>
      rw [verdict_cons]
      simp only [after, opening]
      rfl
    | elseIf | otherwise | whereOpen | setOpen =>
      rw [verdict_cons]
      simp only [after, opening]
      rfl
termination_by 2 * ss.length
decreasing_by all_goals simp only [List.length_cons]; omega

end

theorem verdict_takeAll (ss : List Statement) :
    verdict [] ss = takeAll ss >>= fun _ => .ok () := by
  match ss with
  | [] =>
    rw [takeAll]
    rfl
  | s :: rest =>
    rw [takeAll]
    split
    · next closing =>
      rw [verdict_cons, ← verdict_takeAll rest]
      simp only [after, closing]
      rfl
    · next other =>
      have starts : Starts [] s.kind := by cases kind : s.kind <;> simp [Starts, kind] at other ⊢
      rw [verdict_take starts]
      simp only [bind_assoc, pure_bind]
      refine bind_congr fun node => ?_
      have shorter := node.length_le
      exact verdict_takeAll node.left
termination_by ss.length
decreasing_by all_goals simp only [List.length_cons]; omega

end Node

end QueryTemplate
