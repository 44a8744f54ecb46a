import Mathlib
import QueryTemplate.Proofs.Cursor.Readers

/-!
How the loops with the cursor end. A loop that starts comes to its end after finitely many steps,
with the loops around it as they were, and it has then read what its reader of nodes takes, or it
fails as that reader does. From what the readers take it follows where the cursor is left.
-/

namespace QueryTemplate

open Statement

namespace Cursor

variable {ss : List Statement} {c d : Cursor} {n p q : Nat} {f : Frame} {outer : List Frame}

/-! ## Following the readers -/

/-- The steps from the cursor lead to the outcome: to the loops outside, in front of the statements
that are left, or to the fault. -/
def Yields (ss : List Statement) (c : Cursor) (outer : List Frame) :
    Except Fault (List Statement) → Prop
  | .ok left => ∃ n q, q ≤ ss.length ∧ ss.drop q = left ∧ Reaches ss n c ⟨q, none, outer⟩
  | .error fault => Fails ss c fault

theorem Reaches.one (moves : c.step ss = some (.ok d)) : Reaches ss 1 c d :=
  .step moves (.refl d)

theorem Yields.of_reaches {outcome : Except Fault (List Statement)} (run : Reaches ss n c d)
    (h : Yields ss d outer outcome) : Yields ss c outer outcome := by
  cases outcome with
  | ok left =>
    obtain ⟨m, q, le, split, others⟩ := h
    exact ⟨n + m, q, le, split, run.trans others⟩
  | error fault =>
    obtain ⟨m, e, others, ends⟩ := h
    exact ⟨n + m, e, run.trans others, ends⟩

/-- A loop that is over behind another one has the outcome of both. -/
theorem Yields.bind {inner : List Frame} {first : Except Fault (List Statement)}
    {second : List Statement → Except Fault (List Statement)} (h : Yields ss c inner first)
    (goesOn : ∀ n q, Reaches ss n c ⟨q, none, inner⟩ →
      Yields ss ⟨q, none, inner⟩ outer (second (ss.drop q))) :
    Yields ss c outer (first >>= second) := by
  cases first with
  | ok left =>
    obtain ⟨n, q, -, rfl, run⟩ := h
    exact .of_reaches run (goesOn n q run)
  | error fault => exact h

theorem yields_atEnd (le : p ≤ ss.length) (ends : ss[p]? = none) (f : Frame)
    (outer : List Frame) :
    Yields ss ⟨p, none, f :: outer⟩ outer (f.loop.left (ss.drop p)) := by
  have nothing : ss.drop p = [] := List.drop_of_length_le (List.getElem?_eq_none_iff.1 ends)
  have step : (⟨p, none, f :: outer⟩ : Cursor).step ss =
      some (f.loop.atEnd.map fun _ => ⟨p, none, outer⟩) := by
    simp only [Cursor.step, ends]
  rw [nothing, Loop.left_nil]
  cases outcome : f.loop.atEnd with
  | ok =>
    rw [outcome] at step
    exact ⟨1, p, le, nothing, .one step⟩
  | error fault =>
    rw [outcome] at step
    exact ⟨0, _, .refl _, step⟩

section Moves

variable {s : Statement} (reads : ∀ m r g (around : List Frame),
  Reaches ss (m + 1) c ⟨r, none, g :: around⟩ →
    Yields ss ⟨r, none, g :: around⟩ around (g.loop.left (ss.drop r)))

include reads

/-- Where a loop starts another one, both read what their readers of nodes take. -/
theorem yields_enter {own callee : Loop} {took : Option Nat}
    (starts : Reaches ss (n + 1) c (enter callee p (⟨own, took⟩ :: outer))) :
    Yields ss c outer (callee.left (ss.drop p) >>= own.left) := by
  refine .of_reaches starts (.bind (reads _ _ _ _ starts) fun m q run => ?_)
  have both := starts.trans run
  rw [Nat.add_right_comm] at both
  exact reads _ _ _ _ both

/-- A loop reads what its reader of nodes takes, if the loops that it starts do and it does when it
goes on. -/
theorem yields_taking (isAt : c = ⟨p, none, f :: outer⟩) (here : ss[p]? = some s) :
    Yields ss c outer (f.loop.left (ss.drop p)) := by
  subst isAt
  obtain ⟨inside, rfl⟩ := List.getElem?_eq_some_iff.1 here
  have split : ss.drop p = ss[p] :: ss.drop (p + 1) := List.drop_eq_getElem_cons inside
  have takes : Reaches ss 1 ⟨p, none, f :: outer⟩
      ⟨p + 1, some ss[p], ⟨f.loop, some p⟩ :: outer⟩ := by
    refine .one ?_
    simp only [Cursor.step, here]
  have makes : (⟨p + 1, some ss[p], ⟨f.loop, some p⟩ :: outer⟩ : Cursor).step ss =
      some (make (p + 1) ⟨f.loop, some p⟩ outer (f.loop.move ss[p])) := rfl
  rw [split, Loop.left_cons]
  cases move : f.loop.move ss[p] with
  | next =>
    rw [move] at makes
    have run := takes.trans (.one makes)
    exact .of_reaches run (reads _ _ _ _ run)
  | start own callee =>
    rw [move] at makes
    exact yields_enter reads (takes.trans (.one makes))
  | reread =>
    rw [move] at makes
    rw [Move.left, ← split]
    exact yields_enter reads (takes.trans (.one makes))
  | leave =>
    rw [move] at makes
    exact ⟨2, p + 1, inside, rfl, takes.trans (.one makes)⟩
  | giveBack =>
    rw [move] at makes
    exact ⟨2, p, Nat.le_of_lt inside, split, takes.trans (.one makes)⟩
  | fail fault =>
    rw [move] at makes
    exact ⟨1, _, takes, makes⟩

end Moves

/-- A loop reads what its reader of nodes takes. The induction is on what the cursor can still do:
each loop that another one starts, and the other one behind it, can do less. -/
theorem Sound.yields {k : Nat} (small : potential ss ⟨p, none, f :: outer⟩ < k)
    (sound : Sound ss ⟨p, none, f :: outer⟩) :
    Yields ss ⟨p, none, f :: outer⟩ outer (f.loop.left (ss.drop p)) := by
  induction k generalizing p f outer with
  | zero => omega
  | succ k ih =>
    cases here : ss[p]? with
    | none => exact yields_atEnd sound.position_le here f outer
    | some s =>
      refine yields_taking (fun m r g around run => ?_) rfl here
      obtain ⟨kept, less⟩ := sound.reaches run
      exact ih (by omega) kept

/-! ## Where a loop is over -/

/-- Where a loop that starts at one position is over: the template at the end of the list, a text in
front of the first statement that is no literal, an if, where or set behind the end of its own
block, and a body in front of what ends it. -/
def Loop.EndsAt (ss : List Statement) (p q : Nat) : Loop → Prop
  | program => q = ss.length
  | text =>
    p < q ∧ (∀ m s, p ≤ m → m < q → ss[m]? = some s → s.kind = .literal) ∧
      ∀ s ∈ ss[q]?, s.kind ≠ .literal
  | choice _ | items _ =>
    ∃ r e, q = r + 1 ∧ ss[r]? = some e ∧ e.kind = .close ∧ FirstOutside (· = .close) ss p r
  | body => FirstOutside StatementKind.EndsBody ss p q ∧ ∀ s ∈ ss[q]?, s.kind.EndsBody

theorem eq_add_of_drop {run : List Statement} (le : p ≤ ss.length) (le' : q ≤ ss.length)
    (split : ss.drop p = run ++ ss.drop q) : q = p + run.length := by
  have lengths := congrArg List.length split
  simp only [List.length_drop, List.length_append] at lengths
  omega

theorem Loop.endsAt_of_closing {as : List Statement} (h : Closing as) (le : p ≤ ss.length)
    (le' : q ≤ ss.length) (split : ss.drop p = as ++ ss.drop q) :
    ∃ r e, q = r + 1 ∧ ss[r]? = some e ∧ e.kind = .close ∧ FirstOutside (· = .close) ss p r := by
  obtain ⟨r, e, last, here, closing, first⟩ := h.firstOutside split
  exact ⟨r, e, (eq_add_of_drop le le' split).trans last, here, closing, first⟩

theorem Loop.endsAt_text (le : p ≤ ss.length) (le' : q ≤ ss.length) (literal : LiteralAt ss p)
    (reads : text.left (ss.drop p) = .ok (ss.drop q)) : text.EndsAt ss p q := by
  obtain ⟨run, split, literals, -, stop⟩ := Node.takeText_spelled (ss.drop p)
  rw [Loop.left] at reads
  rw [Except.ok.inj reads] at split stop
  rw [List.head?_drop] at stop
  have last := eq_add_of_drop le le' split
  have isLiteral (m : Nat) (s : Statement) (start : p ≤ m) (before : m < q)
      (hs : ss[m]? = some s) : s.kind = .literal := by
    obtain ⟨k, rfl⟩ := Nat.exists_eq_add_of_le start
    rw [getElem?_add_of_drop split (by omega)] at hs
    exact literals s (List.mem_of_getElem? hs)
  refine ⟨?_, isLiteral, stop⟩
  -- The text takes the literal that it starts with, or it would not stop in front of it.
  obtain ⟨s, hs, kind⟩ := literal
  by_contra none
  have same : q = p := by omega
  rw [same] at stop
  exact stop s hs kind

theorem closing_of_closeLast {as left : List Statement} (h : closeLast as = .ok left) :
    ∃ e, as = e :: left ∧ e.kind = .close := by
  cases as with
  | nil => cases h
  | cons e rest =>
    rw [closeLast] at h
    split at h
    · next closing =>
      cases h
      exact ⟨e, rfl, closing⟩
    · cases h

theorem Loop.closing_of_choice {last : Bool} {left as : List Statement}
    (reads : (choice last).left as = .ok left) : ∃ run, as = run ++ left ∧ Closing run := by
  obtain ⟨body, takesBody, others⟩ := except_bind_eq_ok.1 reads
  obtain ⟨bs, split, spelled, -⟩ := Node.spelledBody_of_takeBody takesBody
  have level := Node.level_of_spelledBody spelled
  cases last with
  | false =>
    obtain ⟨arms, takesArms, rfl⟩ := except_map_eq_ok.1 others
    obtain ⟨cs, splitArms, armsSpelled⟩ := Node.spelledArms_of_takeArms takesArms
    refine ⟨bs ++ cs, ?_, .append level (Node.closing_of_spelledArms armsSpelled)⟩
    rw [List.append_assoc, ← splitArms, ← split]
  | true =>
    obtain ⟨e, splitEnd, closing⟩ := closing_of_closeLast others
    refine ⟨bs ++ [e], ?_, .append level (.close closing)⟩
    rw [List.append_assoc, List.singleton_append, ← splitEnd, ← split]

theorem Loop.endsAt_of_left (loop : Loop) (le : p ≤ ss.length) (le' : q ≤ ss.length)
    (starts : loop = .text → LiteralAt ss p)
    (reads : loop.left (ss.drop p) = .ok (ss.drop q)) : loop.EndsAt ss p q := by
  cases loop with
  | program =>
    obtain ⟨_, -, nothing⟩ := except_map_eq_ok.1 reads
    have := List.drop_eq_nil_iff.1 nothing.symm
    show q = ss.length
    omega
  | text => exact endsAt_text le le' (starts rfl) reads
  | choice last =>
    obtain ⟨run, split, closing⟩ := closing_of_choice reads
    exact endsAt_of_closing closing le le' split
  | body =>
    obtain ⟨taken, takes, left⟩ := except_map_eq_ok.1 reads
    obtain ⟨bs, split, spelled, ends⟩ := Node.spelledBody_of_takeBody takes
    rw [left] at split ends
    rw [List.head?_drop] at ends
    rw [eq_add_of_drop le le' split]
    refine ⟨(Node.level_of_spelledBody spelled).firstOutside split, ?_⟩
    rwa [← eq_add_of_drop le le' split]
  | items kind =>
    obtain ⟨taken, takes, left⟩ := except_map_eq_ok.1 reads
    obtain ⟨is, split, spelled⟩ := Node.spelledItems_of_takeItems takes
    rw [left] at split
    exact endsAt_of_closing (Node.closing_of_spelledItems spelled) le le' split

/-! ## Inside of other loops -/

/-- The cursor, with more loops around those in progress. -/
def under (outer : List Frame) (c : Cursor) : Cursor :=
  { c with frames := c.frames ++ outer }

/-- A loop moves in the same way whatever loops are around it. -/
theorem step_under (outer : List Frame) (moves : c.step ss = some (.ok d)) :
    (c.under outer).step ss = some (.ok (d.under outer)) := by
  obtain ⟨p, held, frames⟩ := c
  cases frames with
  | nil => cases moves
  | cons f fs =>
    unfold Cursor.step at moves ⊢
    cases held with
    | some s =>
      dsimp only [under, List.cons_append] at moves ⊢
      cases move : f.loop.move s with
      | fail fault =>
        rw [move] at moves
        cases moves
      | next | start | reread | leave | giveBack =>
        rw [move] at moves
        cases moves
        rfl
    | none =>
      dsimp only [under, List.cons_append] at moves ⊢
      cases here : ss[p]? with
      | some s =>
        rw [here] at moves
        cases moves
        rfl
      | none =>
        rw [here] at moves
        obtain ⟨_, ends, rfl⟩ := except_map_eq_ok.1 (Option.some.inj moves)
        rw [ends]
        rfl

theorem Reaches.under (outer : List Frame) (run : Reaches ss n c d) :
    Reaches ss n (c.under outer) (d.under outer) := by
  induction run with
  | refl => exact .refl _
  | step first _ ih => exact .step (step_under outer first) ih

/-! ## Every way through the statements -/

/-- A loop that starts at the position is over where it ought to be, both by itself and inside of
the others, or it fails. It is over in front of what its reader of nodes leaves, or has the fault
of that reader. -/
def Loop.Finishes (ss : List Statement) (p : Nat) (outer : List Frame) (loop : Loop) : Prop :=
  (∃ m q, Reaches ss m (enter loop p []) ⟨q, none, []⟩ ∧
    Reaches ss m (enter loop p outer) ⟨q, none, outer⟩ ∧ q ≤ ss.length ∧ loop.EndsAt ss p q ∧
    loop.left (ss.drop p) = .ok (ss.drop q)) ∨
  ∃ fault, Fails ss (enter loop p outer) fault ∧ loop.left (ss.drop p) = .error fault

theorem Sound.finishes {loop : Loop} (sound : Sound ss (enter loop p outer)) :
    loop.Finishes ss p outer := by
  have le : p ≤ ss.length := sound.position_le
  have starts := sound.literalAt
  cases reads : loop.left (ss.drop p) with
  | ok left =>
    have alone : Sound ss (enter loop p []) := .enters le starts (.nil loop p)
    obtain ⟨m, q, le', split, run⟩ : Yields ss (enter loop p []) [] (.ok left) := by
      rw [← reads]
      exact alone.yields (Nat.lt_succ_self _)
    have leaves : loop.left (ss.drop p) = .ok (ss.drop q) := by rw [reads, split]
    have ends := loop.endsAt_of_left le le' starts leaves
    exact .inl ⟨m, q, run, run.under outer, le', ends, leaves⟩
  | error fault =>
    have fails : Yields ss (enter loop p outer) outer (.error fault) := by
      rw [← reads]
      exact sound.yields (Nat.lt_succ_self _)
    exact .inr ⟨fault, fails, reads⟩

/-- What is true of the cursor from the front of the list on. -/
structure Disciplined (ss : List Statement) : Prop where
  /-- It makes a bounded number of steps, whatever the statements are. -/
  bounded : ∀ n c, Reaches ss n start c → n ≤ 8 * ss.length + 4
  inside : ∀ n c, Reaches ss n start c → c.position ≤ ss.length
  /-- It is never in front of a statement that a loop in progress has taken. -/
  kept : ∀ n c, Reaches ss n start c → ∀ f ∈ c.frames, ∀ p ∈ f.took, p ≤ c.position
  /-- The next statement that a loop takes is behind the last one that it took. -/
  progress : ∀ n c, Reaches ss n start c → c.held = none →
    ∀ f ∈ c.frames.head?, ∀ p ∈ f.took, p < c.position
  finishes : ∀ n loop p outer, Reaches ss n start (enter loop p outer) → loop.Finishes ss p outer

theorem disciplined (ss : List Statement) : Disciplined ss := by
  have sound {n : Nat} {c : Cursor} (run : Reaches ss n start c) : Sound ss c :=
    ((sound_start ss).reaches run).1
  constructor
  · intro n c run
    obtain ⟨-, steps⟩ := (sound_start ss).reaches run
    have initial : potential ss start = 8 * ss.length + 4 := rfl
    omega
  · exact fun n c run => (sound run).position_le
  · exact fun n c run => (sound run).took_le
  · exact fun n c run => (sound run).took_lt
  · exact fun n loop p outer run => (sound run).finishes

/-- An if with an else whose body holds a where with a text, and an end that closes nothing. -/
def nestedElse : List Statement :=
  let word (k : Keyword) : Token := ⟨.keyword k, k.name, false⟩
  let text : Statement := .literal ⟨.quoted, "\"a\"", false⟩
  let close : Statement := .bare .close (word .close)
  [.guarded .ifOpen [word .ifOpen] [⟨.param .bool, "A", false⟩], text, text,
    .bare .otherwise (word .otherwise), .bare .whereOpen (word .whereOpen), text, close, text,
    close, close]

/-- The body of the else is read from the where on, up to the end of the if. -/
theorem disciplined_nestedElse :
    ∃ outer m q, Reaches nestedElse 12 start (enter .body 4 outer) ∧
      Reaches nestedElse m (enter .body 4 outer) ⟨q, none, outer⟩ ∧
      Loop.body.EndsAt nestedElse 4 q ∧ nestedElse.drop q = nestedElse.drop 8 := by
  have run : Reaches nestedElse 12 start
      (enter .body 4 [⟨.choice true, some 3⟩, ⟨.program, some 0⟩]) :=
    .step rfl <| .step rfl <| .step rfl <| .step rfl <| .step rfl <| .step rfl <| .step rfl <|
      .step rfl <| .step rfl <| .step rfl <| .step rfl <| .step rfl <| .refl _
  have reads : Loop.body.left (nestedElse.drop 4) = .ok (nestedElse.drop 8) := by cbv
  rcases (disciplined nestedElse).finishes _ _ _ _ run with
    ⟨m, q, -, finished, -, ends, leaves⟩ | ⟨fault, -, fails⟩
  · rw [reads] at leaves
    exact ⟨_, m, q, run, finished, ends, (Except.ok.inj leaves).symm⟩
  · rw [reads] at fails
    cases fails

end Cursor

end QueryTemplate
