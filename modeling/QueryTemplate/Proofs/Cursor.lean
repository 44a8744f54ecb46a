import Mathlib
import QueryTemplate.Proofs.Spelling

/-!
Reading with a cursor. One position in the list of statements is shared by loops that call each
other. A loop takes the statement at the cursor, which moves the cursor behind it. If the statement
belongs to another loop, the loop puts it back, for a text that it starts or for the loop that it
returns to. The cursor stays inside the list, and it is never put back in front of a statement that
one of the loops in progress has taken. When a loop goes on, it is behind the statement that it took
last. So the number of moves is bounded by the length of the list.
-/

namespace QueryTemplate

namespace Cursor

/-- The loops, each with what it knows besides the position. -/
inductive Loop where
  /-- The statements of the template. -/
  | program
  /-- A run of literals. -/
  | text
  /-- An if behind its condition. It may be in its last branch. -/
  | choice (last : Bool)
  /-- The body of a branch after the first one. -/
  | body
  | items (kind : ListKind)
  deriving DecidableEq, Repr

inductive Move where
  /-- The statement is dealt with. -/
  | next
  /-- The loop starts another one behind the statement, and goes on as given when that is over. -/
  | start (own callee : Loop)
  /-- The loop puts the statement back and starts a text with it. -/
  | reread
  /-- The loop is over behind the statement. -/
  | leave
  /-- The loop puts the statement back and is over. -/
  | giveBack
  | fail (fault : Fault)

namespace Move

/-- The move, unless the condition has a fault. -/
def checked (c : Condition) (move : Move) : Move :=
  match c.check with
  | .ok _ => move
  | .error fault => fail fault

def child (own : Loop) (s : Statement) : Move :=
  match s.kind with
  | .ifOpen => checked s.condition (start own (.choice false))
  | .whereOpen => start own (.items .whereList)
  | .setOpen => start own (.items .setList)
  | .literal | .elseIf | .otherwise | .close => reread

end Move

namespace Loop

open Move

def move (loop : Loop) (s : Statement) : Move :=
  match loop with
  | program =>
    match s.kind with
    | .close => next
    | .literal | .ifOpen | .whereOpen | .setOpen => child program s
    | .elseIf | .otherwise => fail (.misplaced s.text)
  | text => if s.kind = .literal then next else giveBack
  | choice last =>
    match s.kind with
    | .literal | .ifOpen | .whereOpen | .setOpen => child (choice last) s
    | .elseIf =>
      if last then fail (.afterOtherwise s.text) else checked s.condition (start (choice last) body)
    | .otherwise => if last then fail (.afterOtherwise s.text) else start (choice true) body
    | .close => leave
  | body =>
    match s.kind with
    | .literal | .ifOpen | .whereOpen | .setOpen => child body s
    | .elseIf | .otherwise | .close => giveBack
  | items kind =>
    match s.kind with
    | .literal | .ifOpen => child (items kind) s
    | .close => leave
    | .elseIf | .otherwise | .whereOpen | .setOpen => fail (.misplaced s.text)

/-- What the loop finds at the end of the list: it is over, or its block is not closed. -/
def atEnd : Loop → Except Fault Unit
  | program | text | body => .ok ()
  | choice _ => .error (.unclosed .choice)
  | items kind => .error (.unclosed kind.block)

end Loop

/-- A loop in progress, with the position of the statement that it took last. -/
structure Frame where
  loop : Loop
  took : Option Nat
  deriving DecidableEq, Repr

end Cursor

open Cursor

/-- The position, the statement that the innermost loop holds, and the loops in progress, the
innermost first. -/
structure Cursor where
  position : Nat
  held : Option Statement
  frames : List Frame

namespace Cursor

def enter (loop : Loop) (position : Nat) (outer : List Frame) : Cursor :=
  ⟨position, none, ⟨loop, none⟩ :: outer⟩

/-- The cursor in front of the list, with the loop over the statements of the template. -/
def start : Cursor :=
  enter .program 0 []

/-- The innermost loop moves, from the position behind the statement that it holds. -/
def make (position : Nat) (f : Frame) (outer : List Frame) : Move → Except Fault Cursor
  | .next => .ok ⟨position, none, f :: outer⟩
  | .start own callee => .ok (enter callee position (⟨own, f.took⟩ :: outer))
  | .reread => .ok (enter .text (position - 1) (f :: outer))
  | .leave => .ok ⟨position, none, outer⟩
  | .giveBack => .ok ⟨position - 1, none, outer⟩
  | .fail fault => .error fault

/-- One step: the innermost loop takes the statement at the cursor, finds the end of the list, or
moves. Nothing is left to do where no loop is in progress. -/
def step (ss : List Statement) (c : Cursor) : Option (Except Fault Cursor) :=
  match c.frames with
  | [] => none
  | f :: outer =>
    match c.held with
    | some s => some (make c.position f outer (f.loop.move s))
    | none =>
      match ss[c.position]? with
      | some s => some (.ok ⟨c.position + 1, some s, ⟨f.loop, some c.position⟩ :: outer⟩)
      | none => some (f.loop.atEnd.map fun _ => ⟨c.position, none, outer⟩)

/-- The one cursor gets to the other in the number of steps. -/
inductive Reaches (ss : List Statement) : Nat → Cursor → Cursor → Prop
  | refl (c : Cursor) : Reaches ss 0 c c
  | step {n : Nat} {c d e : Cursor} (first : c.step ss = some (.ok d)) (others : Reaches ss n d e) :
      Reaches ss (n + 1) c e

def Fails (ss : List Statement) (c : Cursor) (fault : Fault) : Prop :=
  ∃ n d, Reaches ss n c d ∧ d.step ss = some (.error fault)

variable {ss : List Statement} {c d e : Cursor} {m n : Nat}

theorem Reaches.trans (first : Reaches ss m c d) (second : Reaches ss n d e) :
    Reaches ss (m + n) c e := by
  induction first with
  | refl => rwa [Nat.zero_add]
  | step one _ ih =>
    rw [Nat.add_right_comm]
    exact .step one (ih second)

/-! ## What is known of a cursor -/

/-- How many loops at most can take the statement at the cursor, from the loop on. -/
def Loop.rank : Loop → Nat
  | program | choice _ | items _ => 2
  | body => 3
  | text => 4

/-- The one loop can start the other. A loop that gives statements back is started by one that is
nearer to taking them for good. -/
structure Loop.Starts (caller callee : Loop) : Prop where
  inner : callee ≠ .program
  rank : callee.rank = 2 ∨ caller.rank < callee.rank

def LiteralAt (ss : List Statement) (p : Nat) : Prop :=
  ∃ s, ss[p]? = some s ∧ s.kind = .literal

/-- The loops around one that takes the statement at the position have taken earlier statements.
Only a text can start with the statement that the loop around it has taken. -/
inductive Around (ss : List Statement) : Loop → Nat → List Frame → Prop
  | nil (callee : Loop) (q : Nat) : Around ss callee q []
  | cons {callee caller : Loop} {p q : Nat} {outer : List Frame} (starts : caller.Starts callee)
      (took : p < q ∨ p = q ∧ callee = .text ∧ LiteralAt ss p) (others : Around ss caller p outer) :
      Around ss callee q (⟨caller, some p⟩ :: outer)

/-- The cursor is inside the list, behind or at the statements that the loops in progress have
taken. -/
inductive Sound (ss : List Statement) : Cursor → Prop
  | finished {p : Nat} (le : p ≤ ss.length) : Sound ss ⟨p, none, []⟩
  | enters {loop : Loop} {p : Nat} {outer : List Frame} (le : p ≤ ss.length)
      (text : loop = .text → LiteralAt ss p) (around : Around ss loop p outer) :
      Sound ss (enter loop p outer)
  | goesOn {loop : Loop} {q p : Nat} {outer : List Frame} (past : q < p) (le : p ≤ ss.length)
      (around : Around ss loop q outer) : Sound ss ⟨p, none, ⟨loop, some q⟩ :: outer⟩
  | holds {loop : Loop} {s : Statement} {p : Nat} {outer : List Frame} (here : ss[p]? = some s)
      (around : Around ss loop p outer) : Sound ss ⟨p + 1, some s, ⟨loop, some p⟩ :: outer⟩

/-- The moves that a loop can make about a statement. -/
inductive Loop.Can (loop : Loop) (s : Statement) : Move → Prop
  | next : Can loop s .next
  | start {own callee : Loop} (same : own.rank = loop.rank)
      (kept : own = .program → loop = .program) (other : loop ≠ .text)
      (starts : loop.Starts callee) (inner : callee ≠ .text) : Can loop s (.start own callee)
  | reread (literal : s.kind = .literal) (starts : loop.Starts .text) : Can loop s .reread
  | leave : Can loop s .leave
  | giveBack (gives : 3 ≤ loop.rank) (stop : loop = .text → s.kind ≠ .literal) :
      Can loop s .giveBack
  | fail (fault : Fault) : Can loop s (.fail fault)

theorem Loop.can_checked {loop : Loop} {s : Statement} {move : Move} (h : loop.Can s move)
    (c : Condition) : loop.Can s (.checked c move) := by
  unfold Move.checked
  cases c.check with
  | ok => exact h
  | error fault => exact .fail fault

theorem Loop.can_child {loop : Loop} {s : Statement} (small : loop.rank < 4)
    (opens : ¬ s.kind.EndsBody) : loop.Can s (.child loop s) := by
  have other : loop ≠ .text := by
    rintro rfl
    exact absurd small (by decide)
  have node (callee : Loop) (rank : callee.rank = 2) (inner : callee ≠ .program) :
      loop.Can s (.start loop callee) := by
    refine .start rfl id other ⟨inner, .inl rank⟩ ?_
    rintro rfl
    cases rank
  unfold Move.child
  cases kind : s.kind with
  | literal => exact .reread kind ⟨by decide, .inr small⟩
  | ifOpen => exact can_checked (node _ rfl (by decide)) s.condition
  | whereOpen | setOpen => exact node _ rfl (by decide)
  | elseIf | otherwise | close => exact absurd (by rw [kind]; trivial) opens

theorem Loop.can_move (loop : Loop) (s : Statement) : loop.Can s (loop.move s) := by
  unfold Loop.move
  cases loop with
  | program =>
    cases kind : s.kind with
    | close => exact .next
    | elseIf | otherwise => exact .fail _
    | literal | ifOpen | whereOpen | setOpen =>
      exact can_child (by simp [rank]) (by simp [kind, StatementKind.EndsBody])
  | text =>
    dsimp only
    split
    · exact .next
    · next other => exact .giveBack (by decide) fun _ => other
  | choice last =>
    have branch (own : Bool) : (choice last).Can s (.start (.choice own) .body) :=
      .start rfl (by simp) (by simp) ⟨by simp, .inr (by simp [rank])⟩ (by simp)
    cases kind : s.kind with
    | close => exact .leave
    | elseIf =>
      dsimp only
      split
      · exact .fail _
      · exact can_checked (branch last) s.condition
    | otherwise =>
      dsimp only
      split
      · exact .fail _
      · exact branch true
    | literal | ifOpen | whereOpen | setOpen =>
      exact can_child (by simp [rank]) (by simp [kind, StatementKind.EndsBody])
  | body =>
    cases kind : s.kind with
    | elseIf | otherwise | close => exact .giveBack (by decide) (by simp)
    | literal | ifOpen | whereOpen | setOpen =>
      exact can_child (by simp [rank]) (by simp [kind, StatementKind.EndsBody])
  | items block =>
    cases kind : s.kind with
    | close => exact .leave
    | elseIf | otherwise | whereOpen | setOpen => exact .fail _
    | literal | ifOpen => exact can_child (by simp [rank]) (by simp [kind, StatementKind.EndsBody])

/-! ## What a step keeps -/

/-- How many loops at most can take the statement at the cursor before it is taken for good. -/
def topRank : List Frame → Nat
  | [] => 0
  | ⟨.text, none⟩ :: _ => 1
  | f :: _ => f.loop.rank

/-- The same for a statement that the loop holds. A text keeps a literal. -/
def Loop.holdRank (loop : Loop) (s : Statement) : Nat :=
  if loop = .text ∧ s.kind = .literal then 1 else loop.rank

/-- A bound on the steps that are left. -/
def potential (ss : List Statement) (c : Cursor) : Nat :=
  match c.held, c.frames with
  | some s, f :: _ => 8 * (ss.length - c.position) + 7 + 2 * f.loop.holdRank s
  | _, frames => 8 * (ss.length - c.position) + 2 * topRank frames

theorem potential_ready (ss : List Statement) (p : Nat) (frames : List Frame) :
    potential ss ⟨p, none, frames⟩ = 8 * (ss.length - p) + 2 * topRank frames :=
  rfl

theorem potential_holds (ss : List Statement) (p : Nat) (s : Statement) (loop : Loop)
    (took : Option Nat) (outer : List Frame) :
    potential ss ⟨p, some s, ⟨loop, took⟩ :: outer⟩ =
      8 * (ss.length - p) + 7 + 2 * loop.holdRank s :=
  rfl

theorem Loop.rank_le (loop : Loop) : 2 ≤ loop.rank ∧ loop.rank ≤ 4 := by
  cases loop <;> simp [rank]

theorem topRank_cons (loop : Loop) (q : Nat) (outer : List Frame) :
    topRank (⟨loop, some q⟩ :: outer) = loop.rank := by
  cases loop <;> rfl

theorem Loop.one_le_holdRank (loop : Loop) (s : Statement) : 1 ≤ loop.holdRank s := by
  unfold holdRank
  have := loop.rank_le
  split <;> omega

theorem Loop.holdRank_of_ne {loop : Loop} {s : Statement} (h : loop = .text → s.kind ≠ .literal) :
    loop.holdRank s = loop.rank := by
  rw [holdRank, if_neg fun both => h both.1 both.2]

theorem topRank_le (frames : List Frame) : topRank frames ≤ 4 := by
  rcases frames with _ | ⟨⟨loop, _ | q⟩, outer⟩
  · exact Nat.zero_le 4
  · cases loop <;> simp [topRank, Loop.rank]
  · rw [topRank_cons]
    exact loop.rank_le.2

section Around

variable {callee own : Loop} {p q : Nat} {outer : List Frame}

theorem Around.mono (h : Around ss callee q outer) (later : q < p) : Around ss callee p outer := by
  cases h with
  | nil => exact .nil callee p
  | cons starts took others =>
    refine .cons starts (.inl ?_) others
    rcases took with before | ⟨same, -⟩ <;> omega

/-- An if that gets to its last branch is started by the same loops. -/
theorem Around.of_rank (h : Around ss callee q outer) (same : own.rank = callee.rank)
    (kept : own = .program → callee = .program) (other : callee ≠ .text) :
    Around ss own q outer := by
  cases h with
  | nil => exact .nil own q
  | cons starts took others =>
    have rank : own.rank = 2 ∨ Loop.rank _ < own.rank := same ▸ starts.rank
    refine .cons ⟨fun program => starts.inner (kept program), rank⟩ (.inl ?_) others
    rcases took with before | ⟨-, text, -⟩
    · exact before
    · exact absurd text other

/-- The loop around one that is over goes on. If the statement at the position was put back, that
loop had not taken it. -/
theorem Around.sound (h : Around ss callee q outer) (le : p ≤ ss.length)
    (past : q < p ∨ q = p ∧ (callee = .text → ¬ LiteralAt ss p)) : Sound ss ⟨p, none, outer⟩ := by
  cases h with
  | nil => exact .finished le
  | @cons _ _ r _ _ starts took others =>
    refine .goesOn ?_ le others
    rcases took with before | ⟨same, text, literal⟩
    · rcases past with past | ⟨here, -⟩ <;> omega
    · rcases past with past | ⟨here, stop⟩
      · omega
      · subst same here
        exact absurd literal (stop text)

/-- A loop that gives a statement back is started by one that is nearer to taking it for good. -/
theorem Around.topRank_lt (h : Around ss callee q outer) (gives : 3 ≤ callee.rank) :
    topRank outer < callee.rank := by
  cases h with
  | nil => exact Nat.lt_of_lt_of_le (by decide) gives
  | cons starts =>
    rw [topRank_cons]
    rcases starts.rank with rank | lt
    · omega
    · exact lt

/-- At the end of the list a body, a text and the template are over, and the loop around goes on. -/
theorem Around.topRank_lt_of_atEnd {f : Frame} (h : Around ss f.loop q outer)
    (ends : f.loop.atEnd = .ok ()) (fresh : f ≠ ⟨.text, none⟩) :
    topRank outer < topRank (f :: outer) := by
  obtain ⟨loop, took⟩ := f
  cases loop with
  | program =>
    cases h with
    | nil => simp [topRank, Loop.rank]
    | cons starts => exact absurd rfl starts.inner
  | text =>
    cases took with
    | none => exact absurd rfl fresh
    | some r => exact h.topRank_lt (by simp [Loop.rank])
  | body => exact h.topRank_lt (by simp [Loop.rank])
  | choice | items => cases ends

end Around

section Steps

variable {loop : Loop} {s : Statement} {p : Nat} {f : Frame} {outer : List Frame}

/-- The statement at the cursor can be taken as often as before. -/
theorem holdRank_le_topRank (text : f = ⟨.text, none⟩ → s.kind = .literal) :
    f.loop.holdRank s ≤ topRank (f :: outer) := by
  obtain ⟨loop, _ | q⟩ := f
  · cases loop with
    | text => simp [topRank, Loop.holdRank, text]
    | program | choice | body | items => simp [topRank, Loop.holdRank]
  · have least := loop.rank_le.1
    rw [topRank_cons]
    dsimp only [Loop.holdRank]
    split <;> omega

theorem Sound.step_ready (le : p ≤ ss.length) (around : Around ss f.loop p outer)
    (text : f = ⟨.text, none⟩ → LiteralAt ss p)
    (moves : (⟨p, none, f :: outer⟩ : Cursor).step ss = some (.ok d)) :
    Sound ss d ∧ d.potential ss < potential ss ⟨p, none, f :: outer⟩ := by
  simp only [Cursor.step] at moves
  cases here : ss[p]? with
  | some s =>
    rw [here] at moves
    cases moves
    have inside : p < ss.length := (List.getElem?_eq_some_iff.1 here).1
    have literal (fresh : f = ⟨.text, none⟩) : s.kind = .literal := by
      obtain ⟨t, same, literal⟩ := text fresh
      rw [here] at same
      cases same
      exact literal
    have rank : f.loop.holdRank s ≤ topRank (f :: outer) := holdRank_le_topRank literal
    refine ⟨.holds here around, ?_⟩
    rw [potential_holds, potential_ready]
    omega
  | none =>
    rw [here] at moves
    obtain ⟨_, ends, rfl⟩ := except_map_eq_ok.1 (Option.some.inj moves)
    have stop : ¬ LiteralAt ss p := by
      rintro ⟨t, same, -⟩
      rw [here] at same
      cases same
    have fewer := around.topRank_lt_of_atEnd ends fun fresh => stop (text fresh)
    refine ⟨around.sound le (.inr ⟨rfl, fun _ => stop⟩), ?_⟩
    rw [potential_ready, potential_ready]
    omega

theorem Sound.step_holds (here : ss[p]? = some s) (around : Around ss loop p outer)
    (moves : make (p + 1) ⟨loop, some p⟩ outer (loop.move s) = .ok d) :
    Sound ss d ∧ d.potential ss < potential ss ⟨p + 1, some s, ⟨loop, some p⟩ :: outer⟩ := by
  have inside : p < ss.length := (List.getElem?_eq_some_iff.1 here).1
  have can := loop.can_move s
  have least := loop.one_le_holdRank s
  generalize loop.move s = move at can moves
  rw [potential_holds]
  cases can with
  | next =>
    cases moves
    have most := topRank_le (⟨loop, some p⟩ :: outer)
    refine ⟨.goesOn (Nat.lt_succ_self p) inside around, ?_⟩
    rw [potential_ready]
    omega
  | @start own callee same kept other starts inner =>
    cases moves
    have rank : callee.rank = 2 ∨ own.rank < callee.rank := same ▸ starts.rank
    have most := topRank_le (⟨callee, none⟩ :: ⟨own, some p⟩ :: outer)
    refine ⟨.enters inside (fun text => absurd text inner) (.cons ⟨starts.inner, rank⟩
      (.inl (Nat.lt_succ_self p)) (around.of_rank same kept other)), ?_⟩
    rw [enter, potential_ready]
    dsimp only
    omega
  | reread literal starts =>
    cases moves
    have literalAt : LiteralAt ss p := ⟨s, here, literal⟩
    have other : loop ≠ .text := by
      rintro rfl
      exact absurd starts.rank (by decide)
    have least := loop.rank_le.1
    refine ⟨.enters (Nat.le_of_lt inside) (fun _ => literalAt)
      (.cons starts (.inr ⟨rfl, rfl, literalAt⟩) around), ?_⟩
    rw [enter, potential_ready, Loop.holdRank_of_ne fun text => absurd text other]
    have once : topRank (⟨.text, none⟩ :: ⟨loop, some p⟩ :: outer) = 1 := rfl
    omega
  | leave =>
    cases moves
    have most := topRank_le outer
    refine ⟨around.sound inside (.inl (Nat.lt_succ_self p)), ?_⟩
    rw [potential_ready]
    omega
  | giveBack gives stop =>
    cases moves
    have fewer := around.topRank_lt gives
    have kept (text : loop = .text) : ¬ LiteralAt ss p := by
      rintro ⟨t, same, literal⟩
      rw [here] at same
      cases same
      exact stop text literal
    refine ⟨around.sound (Nat.le_of_lt inside) (.inr ⟨rfl, kept⟩), ?_⟩
    rw [potential_ready, Loop.holdRank_of_ne stop, Nat.add_sub_cancel]
    omega
  | fail => cases moves

end Steps

/-- A step keeps a cursor sound and uses up some of what it can do. -/
theorem Sound.step (h : Sound ss c) (moves : c.step ss = some (.ok d)) :
    Sound ss d ∧ d.potential ss < c.potential ss := by
  cases h with
  | finished => cases moves
  | enters le text around =>
    exact step_ready le around (fun fresh => text (by cases fresh; rfl)) moves
  | goesOn past le around => exact step_ready le (around.mono past) nofun moves
  | holds here around => exact step_holds here around (Option.some.inj moves)

theorem Sound.reaches (h : Sound ss c) (run : Reaches ss n c d) :
    Sound ss d ∧ n + d.potential ss ≤ c.potential ss := by
  induction run with
  | refl => exact ⟨h, by omega⟩
  | step first _ ih =>
    obtain ⟨sound, less⟩ := h.step first
    obtain ⟨last, bound⟩ := ih sound
    exact ⟨last, by omega⟩

theorem Sound.position_le (h : Sound ss c) : c.position ≤ ss.length := by
  cases h with
  | finished le => exact le
  | enters le => exact le
  | goesOn _ le => exact le
  | holds here => exact (List.getElem?_eq_some_iff.1 here).1

theorem Around.took_le {callee : Loop} {q : Nat} {outer : List Frame}
    (h : Around ss callee q outer) : ∀ f ∈ outer, ∀ p ∈ f.took, p ≤ q := by
  induction h with
  | nil => simp
  | @cons _ _ r q _ _ took _ ih =>
    have le : r ≤ q := by omega
    rw [List.forall_mem_cons]
    refine ⟨by simpa using le, fun f hf p hp => ?_⟩
    exact Nat.le_trans (ih f hf p hp) le

/-- The cursor is never in front of a statement that a loop in progress has taken. -/
theorem Sound.took_le (h : Sound ss c) : ∀ f ∈ c.frames, ∀ p ∈ f.took, p ≤ c.position := by
  cases h with
  | finished => simp
  | enters _ _ around => exact List.forall_mem_cons.2 ⟨nofun, around.took_le⟩
  | goesOn past _ around =>
    refine List.forall_mem_cons.2 ⟨by simpa using Nat.le_of_lt past, fun f hf p hp => ?_⟩
    exact Nat.le_trans (around.took_le f hf p hp) (Nat.le_of_lt past)
  | holds _ around =>
    refine List.forall_mem_cons.2 ⟨by simp, fun f hf p hp => ?_⟩
    exact Nat.le_succ_of_le (around.took_le f hf p hp)

/-- A loop that goes on is behind the statement that it took last. -/
theorem Sound.took_lt (h : Sound ss c) (ready : c.held = none) :
    ∀ f ∈ c.frames.head?, ∀ p ∈ f.took, p < c.position := by
  cases h with
  | finished => simp
  | enters => simp [enter]
  | goesOn past => simpa using past
  | holds => cases ready

/-- A text starts with a literal. -/
theorem Sound.literalAt {loop : Loop} {p : Nat} {outer : List Frame}
    (h : Sound ss (enter loop p outer)) : loop = .text → LiteralAt ss p := by
  cases h with
  | enters _ text => exact text

theorem sound_start (ss : List Statement) : Sound ss start :=
  .enters (Nat.zero_le _) nofun (.nil _ _)

end Cursor

end QueryTemplate
