import Mathlib
import QueryTemplate.Proofs.Drafting

/-!
The lines of a template, written afterwards. The finished clauses are gone through once more, with
nothing but the target at hand: a list is declared, what is put into it is written before it is
appended, and a clause of the top level is accumulated when it is complete. Every line is spelled
out here. The lines that are written while the statements are read are these, so nothing but the
clauses and the target decides them.
-/

namespace QueryTemplate

def Target.call (target : Target) (helper name : String) : String :=
  target.helper ++ "." ++ helper ++ "(" ++ name ++ ")"

/-- The expression that refers to a clause: its pieces, or what a helper makes of its list. -/
def Clause.rendering (target : Target) : Clause → String
  | sql pieces => Text.concatenation pieces
  | choice index _ _ _ => target.call "IfClause" (BlockKind.choice.listName index)
  | collection .whereList index _ =>
    target.call "WhereClause" (BlockKind.whereList.listName index)
  | collection .setList index _ => target.call "SetClause" (BlockKind.setList.listName index)

def Branch.rendering (target : Target) (b : Branch) : String :=
  Text.concatenation (b.body.map (Clause.rendering target))

def Target.newGuardedList (target : Target) (name : String) : String :=
  name ++ " := make([]" ++ target.helper ++ ".Cond, 0, " ++ toString target.capacity ++ ")"

def Target.newList (target : Target) (name : String) : String :=
  name ++ " := make([]string, 0, " ++ toString target.capacity ++ ")"

def Target.guardedAppend (target : Target) (name guard expression : String) : String :=
  name ++ " = append(" ++ name ++ ", " ++ target.helper ++ ".Cond\x7b" ++ guard ++ ", " ++
    expression ++ "\x7d)"

namespace Clause

mutual

/-- The lines that build the list of a clause. A text has none. -/
def blockLines (target : Target) : Clause → List String
  | .sql _ => []
  | .choice index condition body branches =>
    let name := BlockKind.choice.listName index
    target.newGuardedList name ::
      (guardedLines target name condition.text body ++ branchLines target name branches)
  | .collection kind index body =>
    let name := kind.block.listName index
    target.newList name :: itemLines target name body

def guardedLines (target : Target) (name guard : String) : List Clause → List String
  | [] => []
  | c :: cs =>
    c.blockLines target ++
      target.guardedAppend name guard (c.rendering target) :: guardedLines target name guard cs

/-- What is appended to a where or set is trimmed. -/
def itemLines (target : Target) (name : String) : List Clause → List String
  | [] => []
  | c :: cs =>
    c.blockLines target ++
      (name ++ " = append(" ++ name ++ ", " ++ Text.trim (c.rendering target) ++ ")") ::
        itemLines target name cs

def listLines (target : Target) : List Clause → List String
  | [] => []
  | c :: cs => c.blockLines target ++ listLines target cs

/-- Each branch is appended once, after the lines of all its clauses. -/
def branchLines (target : Target) (name : String) : List Branch → List String
  | [] => []
  | ⟨guard, body⟩ :: branches =>
    listLines target body ++
      target.guardedAppend name guard.text (Branch.rendering target ⟨guard, body⟩) ::
        branchLines target name branches

end

def serialize (target : Target) : List Clause → List String
  | [] => []
  | c :: cs =>
    "" :: (c.blockLines target ++
      (target.accumulator ++ "+=" ++ c.rendering target) :: serialize target cs)

variable (target : Target)

theorem payloadText_operand (c : Clause) :
    Step.payloadText target (.one c.operand) = c.rendering target := by
  cases c with
  | sql pieces => rfl
  | choice index condition body branches => rfl
  | collection kind index body => cases kind <;> rfl

theorem payloadText_operands (guard : Guard) (body : List Clause) :
    Step.payloadText target (.all (body.map operand)) = Branch.rendering target ⟨guard, body⟩ := by
  have each : ∀ c ∈ body, ((c.operand.map BlockKind.listName).text target) = c.rendering target :=
    fun c _ => payloadText_operand target c
  simp only [Step.payloadText, Payload.map, Payload.text, Branch.rendering, List.map_map]
  rw [← List.map_congr_left each]
  rfl

mutual

theorem map_text_block (c : Clause) : c.block.map (Step.text target) = c.blockLines target := by
  match c with
  | .sql _ => rfl
  | .choice index condition body branches =>
    rw [block, blockLines, List.map_cons, List.map_append, map_text_guarded, map_text_branches]
    rfl
  | .collection kind index body =>
    rw [block, blockLines, List.map_cons, map_text_items]
    cases kind <;> rfl

theorem map_text_guarded (index : Nat) (guard : Guard) (cs : List Clause) :
    (blockGuarded index guard cs).map (Step.text target) =
      guardedLines target (BlockKind.choice.listName index) guard.text cs := by
  match cs with
  | [] => rfl
  | c :: cs =>
    rw [blockGuarded, guardedLines, List.map_append, List.map_cons, map_text_block c,
      map_text_guarded index guard cs, Step.text, Step.line, payloadText_operand]
    rfl

theorem map_text_items (kind : ListKind) (index : Nat) (cs : List Clause) :
    (blockItems kind index cs).map (Step.text target) =
      itemLines target (kind.block.listName index) cs := by
  match cs with
  | [] => rfl
  | c :: cs =>
    rw [blockItems, itemLines, List.map_append, List.map_cons, map_text_block c,
      map_text_items kind index cs, Step.text, Step.line, payloadText_operand]
    rfl

theorem map_text_list (cs : List Clause) :
    (blockList cs).map (Step.text target) = listLines target cs := by
  match cs with
  | [] => rfl
  | c :: cs => rw [blockList, listLines, List.map_append, map_text_block c, map_text_list cs]

theorem map_text_branches (index : Nat) (branches : List Branch) :
    (blockBranches index branches).map (Step.text target) =
      branchLines target (BlockKind.choice.listName index) branches := by
  match branches with
  | [] => rfl
  | ⟨guard, body⟩ :: branches =>
    rw [blockBranches, branchLines, List.map_append, List.map_cons, map_text_list body,
      map_text_branches index branches, Step.text, Step.line, payloadText_operands target guard]
    rfl

end

theorem map_text_program (cs : List Clause) :
    (program cs).map (Step.text target) = serialize target cs := by
  induction cs with
  | nil => rfl
  | cons c cs ih =>
    rw [program, serialize, List.map_cons, List.map_append, List.map_cons, map_text_block, ih,
      Step.text, Step.text, Step.line, Step.line, payloadText_operand]
    rfl

end Clause

namespace Compiled

/-- The lines of a compiled template are written from its clauses. -/
theorem assembly_eq_serialize {ss : List Statement} {c : Compiled} (h : ofStatements ss = .ok c)
    (target : Target) : c.assembly target = Clause.serialize target c.clauses := by
  obtain ⟨ns, -, -, steps⟩ := ofStatements_eq_ok h
  rw [assembly, steps, Clause.map_text_program]

/-- What the statements of a named template come to when the lines for a target are written while
they are read: the clauses with the lines, or the report of what is wrong. -/
def outcome (target : Target) (name template : String) (ss : List Statement) :
    Except Report (List Clause × List String) :=
  match Draft.ofStatements (Step.text target) ss with
  | .ok (clauses, lines) => .ok (clauses, lines)
  | .error fault => .error (fault.report name template)

/-- It does not matter that a template is compiled without a target and its lines are written at the
end. -/
theorem outcome_eq_assembly (target : Target) (name template : String) (ss : List Statement) :
    outcome target name template ss =
      match ofStatements ss with
      | .ok c => .ok (c.clauses, c.assembly target)
      | .error fault => .error (fault.report name template) := by
  rw [outcome, draft_eq]
  cases ofStatements ss <;> rfl

/-- Statements are rejected with one report for all targets, or they have the same clauses for all
targets, and the lines that are written on the way are for each target those that are written from
these clauses afterwards. -/
theorem outcome_eq_serialize (ss : List Statement) (name template : String) :
    (∃ report, ∀ target, outcome target name template ss = .error report) ∨
      ∃ clauses, ∀ target,
        outcome target name template ss = .ok (clauses, Clause.serialize target clauses) := by
  cases h : ofStatements ss with
  | error fault =>
    refine .inl ⟨fault.report name template, fun target => ?_⟩
    rw [outcome_eq_assembly, h]
  | ok c =>
    refine .inr ⟨c.clauses, fun target => ?_⟩
    rw [outcome_eq_assembly, h, ← assembly_eq_serialize h target]

/-- An if with an else between two texts of a where, one of them with blanks around it. -/
def blankedWhere : List Statement :=
  let word (k : Keyword) : Token := ⟨.keyword k, k.name, false⟩
  let text (content : String) : Statement := .literal ⟨.quoted, content, false⟩
  [.bare .whereOpen (word .whereOpen),
    .guarded .ifOpen [word .ifOpen] [⟨.param .bool, "A", false⟩], text "\"a\"",
    .bare .otherwise (word .otherwise), text "\"b\"", .bare .setOpen (word .setOpen),
    text "\"c\"", .bare .close (word .close), .bare .close (word .close), text " D ",
    .bare .close (word .close)]

theorem outcome_blankedWhere :
    let lines := ["",
      "whereCond0 := make([]string, 0, 8)",
      "ifCond0 := make([]h.Cond, 0, 8)",
      "ifCond0 = append(ifCond0, h.Cond\x7bA, \"a\"\x7d)",
      "setCond0 := make([]string, 0, 8)",
      "setCond0 = append(setCond0, \"c\")",
      "ifCond0 = append(ifCond0, h.Cond\x7b!(A), \"b\"+h.SetClause(setCond0)\x7d)",
      "whereCond0 = append(whereCond0, h.IfClause(ifCond0))",
      "whereCond0 = append(whereCond0, D)",
      "q+=h.WhereClause(whereCond0)"]
    ∃ clauses, outcome ⟨"h", 8, "q"⟩ "find" "" blankedWhere = .ok (clauses, lines) ∧
      Clause.serialize ⟨"h", 8, "q"⟩ clauses = lines ∧
      ∀ target, outcome target "find" "" blankedWhere =
        .ok (clauses, Clause.serialize target clauses) := by
  intro lines
  have written : (outcome ⟨"h", 8, "q"⟩ "find" "" blankedWhere).map Prod.snd = .ok lines := by cbv
  rcases outcome_eq_serialize blankedWhere "find" "" with ⟨report, rejected⟩ | ⟨clauses, accepted⟩
  · rw [rejected] at written
    cases written
  · rw [accepted] at written
    have serialized : Clause.serialize ⟨"h", 8, "q"⟩ clauses = lines := Except.ok.inj written
    exact ⟨clauses, serialized ▸ accepted ⟨"h", 8, "q"⟩, serialized, accepted⟩

end Compiled

end QueryTemplate
