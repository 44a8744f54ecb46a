import QueryTemplate.Proofs.Numbering
import QueryTemplate.Proofs.Spelling.Complete

/-!
Reading and writing in one go, against reading first. Each reader that drafts takes the statements
that its reader of nodes takes, with the same fault if there is one. It gives the clauses that the
nodes get when they are numbered afterwards, and what it writes on the way are the steps that are
read off these clauses. The loop of an if stands for two readers of nodes, that of its first body
and that of its later branches.
-/

namespace QueryTemplate

variable {α : Type} {write : Step → α}

/-- The draft that has the given numbers in use and the given lines behind it. -/
def Draft.at (next : Numbers) (ws : List α) : Draft α :=
  ⟨next .choice, next .whereList, next .setList, ws.toArray⟩

/-- Another value that is taken off in the same way. -/
def Taken.as {β γ : Type} {ss : List Statement} (t : Taken β ss) (value : γ) : Taken γ ss :=
  ⟨value, t.left, t.length_le⟩

namespace Drafting

variable {β γ : Type}

theorem bind_apply (x : Drafting α β) (f : β → Drafting α γ) (d : Draft α) :
    (x >>= f) d = x d >>= fun p => f p.1 p.2 :=
  rfl

theorem pure_apply (b : β) (d : Draft α) : (pure b : Drafting α β) d = .ok (b, d) :=
  rfl

theorem ok_apply (b : β) (d : Draft α) :
    (liftM (Except.ok b : Except Fault β) : Drafting α β) d = .ok (b, d) :=
  rfl

theorem pure_eq (b : β) : (pure b : Except Fault β) = .ok b :=
  rfl

theorem ok_bind (b : β) (f : β → Except Fault γ) : (Except.ok b >>= f) = f b :=
  rfl

theorem ok_map (b : β) (f : β → γ) : (Except.ok b : Except Fault β).map f = .ok (f b) :=
  rfl

theorem error_map (fault : Fault) (f : β → γ) :
    (Except.error fault : Except Fault β).map f = .error fault :=
  rfl

end Drafting

namespace OpenChoice

variable (c : OpenChoice)

theorem last_addClause (child : Clause) : (c.addClause child).last = c.last :=
  rfl

theorem last_addElseIf (own : Condition) (body : List Clause) :
    (c.addElseIf own body).last = c.last :=
  rfl

theorem last_addOtherwise (body : List Clause) : (c.addOtherwise body).last = true :=
  rfl

end OpenChoice

namespace Draft

open Drafting

theorem fresh_at (block : BlockKind) (next : Numbers) (ws : List α) :
    fresh block (.at next ws) = .ok (next block, .at (next.bump block) ws) := by
  cases block <;> rfl

theorem put_at (s : Step) (next : Numbers) (ws : List α) :
    put write s (.at next ws) = .ok ((), .at next (ws ++ [write s])) := by
  have pushed : (ws ++ [write s]).toArray = ws.toArray.push (write s) := by simp
  rw [Draft.at, Draft.at, pushed]
  rfl

end Draft

namespace Node

def takeClose : (ss : List Statement) → Except Fault (Taken Unit ss)
  | [] => .error (.unclosed .choice)
  | s :: rest =>
    if s.kind = .close then .ok ⟨(), rest, by simp⟩ else .error (.afterOtherwise s.text)

theorem takeArms_otherwise_eq {s : Statement} (other : s.kind = .otherwise)
    (rest : List Statement) : takeArms (s :: rest) = takeBody rest >>= fun body =>
      (takeClose body.left).map fun close => ⟨.otherwise body.value, close.left,
        Nat.le_succ_of_le (Nat.le_trans close.length_le body.length_le)⟩ := by
  rw [takeArms]
  simp only [other]
  cases takeBody rest with
  | error fault => rfl
  | ok body =>
    obtain ⟨value, left, len⟩ := body
    cases left with
    | nil => rfl
    | cons t left =>
      dsimp only [bind, Except.bind, takeClose]
      split <;> rfl

/-- The branches of an if behind its first body, or what is left of them behind the last one. -/
def takeLater (last : Bool) (ss : List Statement) : Except Fault (Taken Arms ss) :=
  if last then (takeClose ss).map (·.as .close) else takeArms ss

end Node

namespace Draft

open Drafting Node

/-! ## What the rest of an if makes of it -/

/-- The clause of an if with the given nodes behind what has been read of it, and the draft when it
is complete. -/
def chosen (write : Step → α) (c : OpenChoice) (next : Numbers) (ws : List α) (body : List Node)
    (arms : Arms) : Clause × Draft α :=
  let inner := numberList next body
  let later := numberArms inner.2 c.prior arms
  (.choice c.index c.condition (c.body ++ inner.1) (c.branches ++ later.1),
    .at later.2 (ws ++ (Clause.blockGuarded c.index (.first c.condition) inner.1 ++
      Clause.blockBranches c.index later.1).map write))

section Chosen

variable (c : OpenChoice) (next : Numbers) (ws : List α)

theorem chosen_cons (n : Node) (ns : List Node) (arms : Arms) :
    chosen write c next ws (n :: ns) arms =
      chosen write (c.addClause (n.number next).1) (n.number next).2
        (ws ++ (n.number next).1.block.map write ++
          [write (.appendGuarded c.index (.first c.condition) (.one (n.number next).1.operand))])
        ns arms := by
  simp only [chosen, OpenChoice.addClause, numberList, Clause.blockGuarded, List.map_append,
    List.map_cons, List.append_assoc, List.cons_append, List.nil_append]

/-- The first body in one go. -/
theorem chosen_body (ns : List Node) (arms : Arms) :
    chosen write c next ws ns arms =
      chosen write { c with body := c.body ++ (numberList next ns).1 } (numberList next ns).2
        (ws ++ (Clause.blockGuarded c.index (.first c.condition) (numberList next ns).1).map write)
        [] arms := by
  simp only [chosen, numberList, Clause.blockGuarded, List.map_append, List.append_assoc,
    List.nil_append, List.append_nil]

theorem chosen_elseIf (own : Condition) (body : List Node) (arms : Arms) :
    chosen write c next ws [] (.elseIf own body arms) =
      chosen write (c.addElseIf own (numberList next body).1) (numberList next body).2
        (ws ++ (Clause.blockList (numberList next body).1).map write ++
          [write (.appendGuarded c.index (.elseIf c.prior own)
            (.all ((numberList next body).1.map Clause.operand)))])
        [] arms := by
  simp only [chosen, OpenChoice.addElseIf, numberList, numberArms, Clause.blockGuarded,
    Clause.blockBranches, List.map_append, List.map_cons, List.append_assoc, List.cons_append,
    List.nil_append, List.append_nil]

theorem chosen_otherwise (body : List Node) :
    chosen write c next ws [] (.otherwise body) =
      chosen write (c.addOtherwise (numberList next body).1) (numberList next body).2
        (ws ++ (Clause.blockList (numberList next body).1).map write ++
          [write (.appendGuarded c.index (.otherwise c.prior)
            (.all ((numberList next body).1.map Clause.operand)))])
        [] .close := by
  simp only [chosen, OpenChoice.addOtherwise, numberList, numberArms, Clause.blockGuarded,
    Clause.blockBranches, List.map_append, List.map_cons, List.map_nil, List.append_assoc,
    List.nil_append, List.append_nil]

theorem chosen_close : chosen write c next ws [] .close = (c.clause, .at next ws) := by
  simp only [chosen, OpenChoice.clause, numberList, numberArms, Clause.blockGuarded,
    Clause.blockBranches, List.map_nil, List.append_nil]

end Chosen

/-! ## The readers -/

mutual

theorem readClause_at (s : Statement) (rest : List Statement) (next : Numbers) (ws : List α) :
    readClause write s rest (.at next ws) = (take s rest).map fun node =>
      (node.as (node.value.number next).1, .at (node.value.number next).2
        (ws ++ (node.value.number next).1.block.map write)) := by
  rw [readClause, take]
  cases kind : s.kind with
  | literal =>
    simp only [pure_apply, ok_map, number, Clause.block, List.map_nil, List.append_nil]
    rfl
  | ifOpen =>
    dsimp only
    rw [bind_apply]
    cases s.condition.check with
    | error fault => rfl
    | ok _ =>
      simp only [ok_apply, ok_bind, bind_apply, fresh_at, put_at]
      rw [readChoice_at]
      cases takeBody rest with
      | error fault => rfl
      | ok body =>
        rw [ok_bind, ok_bind, takeLater, if_neg Bool.false_ne_true]
        cases takeArms body.left with
        | error fault => rfl
        | ok arms =>
          simp only [ok_map, ok_bind, pure_eq, chosen, number, Clause.block, List.map_cons,
            List.nil_append, List.append_assoc, List.singleton_append]
          rfl
  | whereOpen | setOpen =>
    dsimp only
    rw [readCollection_at]
    generalize takeItems _ rest = items
    cases items <;> rfl
  | elseIf | otherwise | close => rfl
termination_by 3 * rest.length + 2
decreasing_by all_goals omega

/-- The loop of an if stands for two readers: up to the end of the first body for the one of bodies,
and from there on for the one of branches. -/
theorem readChoice_at (c : OpenChoice) (ss : List Statement) (next : Numbers) (ws : List α) :
    readChoice write c ss (.at next ws) = takeBody ss >>= fun body =>
      (takeLater c.last body.left).map fun later =>
        let made := chosen write c next ws body.value later.value
        (⟨made.1, later.left, Nat.le_trans later.length_le body.length_le⟩, made.2) := by
  match ss with
  | [] =>
    rw [readChoice, takeBody, ok_bind, takeLater, takeClose, takeArms, error_map, ite_self]
    rfl
  | s :: rest =>
    rw [readChoice, takeBody]
    cases kind : s.kind with
    | literal | ifOpen | whereOpen | setOpen =>
      dsimp only
      rw [bind_apply, readClause_at s rest]
      cases take s rest with
      | error fault => rfl
      | ok node =>
        simp only [ok_map, ok_bind, bind_apply, put_at, Taken.as]
        rw [readChoice_at]
        cases takeBody node.left with
        | error fault => rfl
        | ok body =>
          simp only [ok_bind, pure_eq, OpenChoice.last_addClause]
          cases takeLater c.last body.left with
          | error fault => rfl
          | ok later => simp only [ok_map, ok_bind, pure_apply, chosen_cons]
    | elseIf =>
      dsimp only
      rw [ok_bind, takeLater]
      cases last : c.last with
      | true =>
        rw [if_pos rfl, if_pos rfl, takeClose, if_neg (by simp [kind])]
        rfl
      | false =>
        rw [if_neg Bool.false_ne_true, if_neg Bool.false_ne_true, takeArms]
        simp only [kind]
        cases s.condition.check with
        | error fault => rfl
        | ok _ =>
          simp only [bind_apply, pure_apply, ok_apply, ok_bind]
          rw [readBody_at]
          cases takes : takeBody rest with
          | error fault => rfl
          | ok body =>
            obtain ⟨_, none⟩ := takeBody_left takes
            simp only [ok_map, ok_bind, put_at, Taken.as]
            rw [readChoice_at, none, ok_bind, OpenChoice.last_addElseIf, last, takeLater,
              if_neg Bool.false_ne_true]
            cases takeArms body.left with
            | error fault => rfl
            | ok arms => simp only [ok_map, ok_bind, pure_eq, chosen_elseIf]
    | otherwise =>
      dsimp only
      rw [ok_bind, takeLater]
      cases last : c.last with
      | true =>
        rw [if_pos rfl, if_pos rfl, takeClose, if_neg (by simp [kind])]
        rfl
      | false =>
        rw [if_neg Bool.false_ne_true, if_neg Bool.false_ne_true, takeArms_otherwise_eq kind]
        simp only [bind_apply, pure_apply]
        rw [readBody_at]
        cases takes : takeBody rest with
        | error fault => rfl
        | ok body =>
          obtain ⟨_, none⟩ := takeBody_left takes
          simp only [ok_map, ok_bind, put_at, Taken.as]
          rw [readChoice_at, none, ok_bind, OpenChoice.last_addOtherwise, takeLater, if_pos rfl]
          cases takeClose body.left with
          | error fault => rfl
          | ok close => simp only [ok_map, ok_bind, Taken.as, chosen_otherwise]
    | close =>
      dsimp only
      rw [ok_bind, takeLater, takeClose, if_pos kind, takeArms]
      simp only [kind, ok_map, Taken.as, ite_self, pure_apply, chosen_close]
termination_by 3 * ss.length
decreasing_by
  all_goals simp only [List.length_cons]
  all_goals first
    | omega
    | have := node.length_le; omega
    | have := body.length_le; omega

theorem readBody_at (ss : List Statement) (next : Numbers) (ws : List α) :
    readBody write ss (.at next ws) = (takeBody ss).map fun body =>
      (body.as (numberList next body.value).1, .at (numberList next body.value).2
        (ws ++ (Clause.blockList (numberList next body.value).1).map write)) := by
  match ss with
  | [] =>
    rw [readBody, takeBody, ok_map, numberList, Clause.blockList, List.map_nil, List.append_nil]
    rfl
  | s :: rest =>
    rw [readBody, takeBody]
    cases s.kind with
    | elseIf | otherwise | close =>
      dsimp only
      rw [ok_map, numberList, Clause.blockList, List.map_nil, List.append_nil]
      rfl
    | literal | ifOpen | whereOpen | setOpen =>
      dsimp only
      rw [bind_apply, readClause_at s rest]
      cases take s rest with
      | error fault => rfl
      | ok node =>
        simp only [ok_map, ok_bind, bind_apply, Taken.as]
        rw [readBody_at]
        cases takeBody node.left with
        | error fault => rfl
        | ok body =>
          simp only [ok_map, ok_bind, pure_eq, pure_apply, Taken.as, numberList, Clause.blockList,
            List.map_append, List.append_assoc]
termination_by 3 * ss.length
decreasing_by
  all_goals simp only [List.length_cons]
  all_goals first
    | omega
    | have := node.length_le; omega

theorem readCollection_at (kind : ListKind) (ss : List Statement) (next : Numbers) (ws : List α) :
    readCollection write kind ss (.at next ws) = (takeItems kind ss).map fun items =>
      let inner := numberList (next.bump kind.block) items.value
      let clause := .collection kind (next kind.block) inner.1
      (items.as clause, .at inner.2 (ws ++ clause.block.map write)) := by
  rw [readCollection]
  simp only [bind_apply, fresh_at, ok_bind, put_at]
  rw [readItems_at]
  cases takeItems kind ss with
  | error fault => rfl
  | ok items =>
    simp only [ok_map, ok_bind, pure_apply, Clause.block, List.map_cons, List.append_assoc,
      List.singleton_append]
    rfl
termination_by 3 * ss.length + 1
decreasing_by omega

theorem readItems_at (kind : ListKind) (index : Nat) (ss : List Statement) (next : Numbers)
    (ws : List α) :
    readItems write kind index ss (.at next ws) = (takeItems kind ss).map fun items =>
      (items.as (numberList next items.value).1, .at (numberList next items.value).2
        (ws ++ (Clause.blockItems kind index (numberList next items.value).1).map write)) := by
  match ss with
  | [] =>
    rw [readItems, takeItems]
    rfl
  | s :: rest =>
    rw [readItems, takeItems]
    cases s.kind with
    | close =>
      dsimp only
      rw [ok_map, numberList, Clause.blockItems, List.map_nil, List.append_nil]
      rfl
    | elseIf | otherwise | whereOpen | setOpen => rfl
    | literal | ifOpen =>
      dsimp only
      rw [bind_apply, readClause_at s rest]
      cases take s rest with
      | error fault => rfl
      | ok node =>
        simp only [ok_map, ok_bind, bind_apply, Taken.as, put_at]
        rw [readItems_at]
        cases takeItems kind node.left with
        | error fault => rfl
        | ok items =>
          simp only [ok_map, ok_bind, pure_eq, pure_apply, Taken.as, numberList,
            Clause.blockItems, List.map_append, List.map_cons, List.append_assoc,
            List.singleton_append]
termination_by 3 * ss.length
decreasing_by
  all_goals simp only [List.length_cons]
  all_goals first
    | omega
    | have := node.length_le; omega

end

theorem readAll_at (ss : List Statement) (next : Numbers) (ws : List α) :
    readAll write ss (.at next ws) = (takeAll ss).map fun ns =>
      ((numberList next ns).1, .at (numberList next ns).2
        (ws ++ (Clause.program (numberList next ns).1).map write)) := by
  match ss with
  | [] =>
    rw [readAll, takeAll, ok_map, numberList, Clause.program, List.map_nil, List.append_nil]
    rfl
  | s :: rest =>
    rw [readAll, takeAll]
    split
    · exact readAll_at rest next ws
    · simp only [bind_apply, put_at, ok_bind, readClause_at]
      cases take s rest with
      | error fault => rfl
      | ok node =>
        simp only [ok_map, ok_bind, put_at, Taken.as]
        rw [readAll_at]
        cases takeAll node.left with
        | error fault => rfl
        | ok ns =>
          simp only [ok_map, ok_bind, pure_eq, pure_apply, numberList, Clause.program,
            List.map_append, List.map_cons, List.append_assoc, List.cons_append,
            List.nil_append]
termination_by ss.length
decreasing_by
  all_goals simp only [List.length_cons]
  all_goals first
    | omega
    | have := node.length_le; omega

/-- A template is drafted as if its nodes were read first. -/
theorem ofStatements_eq (write : Step → α) (ss : List Statement) :
    ofStatements write ss = (Node.ofStatements ss).map fun ns =>
      ((Compiled.ofNodes ns).clauses, (Compiled.ofNodes ns).steps.map write) := by
  rw [ofStatements, Node.ofStatements]
  split
  · rfl
  · show (readAll write ss (.at (fun _ => 0) [])).map _ = _
    rw [readAll_at]
    cases takeAll ss <;> rfl

end Draft

namespace Compiled

theorem ofStatements_eq (ss : List Statement) :
    ofStatements ss = (Node.ofStatements ss).map ofNodes := by
  rw [ofStatements, Draft.ofStatements_eq]
  cases Node.ofStatements ss with
  | error fault => rfl
  | ok ns =>
    simp only [Drafting.ok_map, List.map_id]

theorem ofStatements_eq_ok_iff {ss : List Statement} {c : Compiled} :
    ofStatements ss = .ok c ↔ ∃ ns, Node.ofStatements ss = .ok ns ∧ ofNodes ns = c := by
  rw [ofStatements_eq, except_map_eq_ok]

theorem ofStatements_eq_ok {ss : List Statement} {c : Compiled} (h : ofStatements ss = .ok c) :
    ∃ ns, Node.ofStatements ss = .ok ns ∧
      c.clauses = (Node.numberList (fun _ => 0) ns).1 ∧ c.steps = Clause.program c.clauses := by
  obtain ⟨ns, read, rfl⟩ := ofStatements_eq_ok_iff.1 h
  exact ⟨ns, read, rfl, rfl⟩

/-- What is written while a template is drafted are its steps, in the writing at hand. -/
theorem draft_eq (write : Step → α) (ss : List Statement) :
    Draft.ofStatements write ss =
      (ofStatements ss).map fun c => (c.clauses, c.steps.map write) := by
  rw [Draft.ofStatements_eq, ofStatements_eq]
  cases Node.ofStatements ss <;> rfl

end Compiled

end QueryTemplate
