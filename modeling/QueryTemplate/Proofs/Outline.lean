import Mathlib
import QueryTemplate.Proofs.Drafting

/-!
The outline of a template: the kinds of its statements in order, with the pieces of its texts and
the test of every branch. It can be read off the clauses, and off the statements by one scan that
remembers for every open if which conditions its branches had so far. Both give the same outline.
-/

namespace QueryTemplate

structure Outline.Entry where
  kind : StatementKind
  text : String := ""
  deriving DecidableEq, Repr

open Outline

/-- The text of a statement that its clause keeps as it is: that of a literal or of the condition
of an if. -/
def StatementKind.kept (kind : StatementKind) (text : String) : Option String :=
  match kind with
  | .literal | .ifOpen => some text
  | .elseIf | .otherwise | .whereOpen | .setOpen | .close => none

/-- The kind of an entry, and its text if that is the text of a statement. -/
def Outline.Entry.source (e : Entry) : StatementKind × Option String :=
  (e.kind, e.kind.kept e.text)

/-! ## The outline of clauses -/

def Guard.kind : Guard → StatementKind
  | first _ => .ifOpen
  | elseIf .. => .elseIf
  | otherwise _ => .otherwise

namespace Clause

mutual

def outline : Clause → List Entry
  | .sql pieces => pieces.map fun piece => ⟨.literal, piece⟩
  | .choice _ condition body branches =>
    ⟨.ifOpen, (Guard.first condition).text⟩ ::
      (outlineList body ++ outlineBranches branches ++ [{ kind := .close }])
  | .collection kind _ body =>
    { kind := kind.opening } :: (outlineList body ++ [{ kind := .close }])

def outlineList : List Clause → List Entry
  | [] => []
  | c :: cs => c.outline ++ outlineList cs

def outlineBranches : List Branch → List Entry
  | [] => []
  | ⟨guard, body⟩ :: branches =>
    ⟨guard.kind, guard.text⟩ :: (outlineList body ++ outlineBranches branches)

end

end Clause

/-! ## The outline of statements -/

/-- A block that is open: an if with the conditions of its branches so far, or a where or set. -/
inductive Outline.Open where
  | choice (conditions : List String)
  | collection
  deriving DecidableEq, Repr

namespace Statement

theorem condition_text (s : Statement) : s.condition.text = s.content :=
  rfl

def exclusion (conditions : List String) : String :=
  "!(" ++ " || ".intercalate conditions ++ ")"

def grouped (s : Statement) : String :=
  if s.tokens.any Token.isDisjunction then "(" ++ s.content ++ ")" else s.content

/-- The outline of statements inside the given blocks, the innermost first. An "end" outside of all
blocks has no entry. -/
def outline (around : List Open) : List Statement → List Entry
  | [] => []
  | s :: ss =>
    match s.kind, around with
    | .literal, _ => ⟨.literal, s.content⟩ :: outline around ss
    | .ifOpen, _ => ⟨.ifOpen, s.content⟩ :: outline (.choice [s.content] :: around) ss
    | .whereOpen, _ => { kind := .whereOpen } :: outline (.collection :: around) ss
    | .setOpen, _ => { kind := .setOpen } :: outline (.collection :: around) ss
    | .elseIf, .choice conditions :: outer =>
      ⟨.elseIf, exclusion conditions ++ " && " ++ s.grouped⟩ ::
        outline (.choice (conditions ++ [s.content]) :: outer) ss
    | .otherwise, .choice conditions :: outer =>
      ⟨.otherwise, exclusion conditions⟩ :: outline (.choice conditions :: outer) ss
    | .close, _ :: outer => { kind := .close } :: outline outer ss
    | .close, [] => outline [] ss
    | .elseIf, around => { kind := .elseIf } :: outline around ss
    | .otherwise, around => { kind := .otherwise } :: outline around ss

/-- The statements without every "end" that closes none of the blocks open before it. -/
def settled (depth : Nat) : List Statement → List Statement
  | [] => []
  | s :: ss =>
    match s.kind, depth with
    | .literal, _ | .elseIf, _ | .otherwise, _ => s :: settled depth ss
    | .ifOpen, _ | .whereOpen, _ | .setOpen, _ => s :: settled (depth + 1) ss
    | .close, depth + 1 => s :: settled depth ss
    | .close, 0 => settled 0 ss

def source (s : Statement) : StatementKind × Option String :=
  (s.kind, s.kind.kept s.content)

/-- The scan loses none of the settled statements, adds none and keeps them in order. -/
theorem map_source_outline (around : List Open) (ss : List Statement) :
    (outline around ss).map Entry.source = (settled around.length ss).map source := by
  induction ss generalizing around with
  | nil => rfl
  | cons s ss ih =>
    cases kind : s.kind <;>
      rcases around with _ | ⟨_ | _, outer⟩ <;>
      simp [outline, settled, kind, source, Entry.source, StatementKind.kept, ih]

end Statement

/-! ## The two outlines agree -/

namespace Node

open Statement

theorem outline_literals {run : List Statement} (literals : ∀ t ∈ run, t.kind = .literal)
    (around : List Open) (after : List Statement) :
    Statement.outline around (run ++ after) =
      (run.map Statement.content).map (fun piece => ⟨.literal, piece⟩) ++
        Statement.outline around after := by
  induction run with
  | nil => rfl
  | cons s run ih =>
    have rest := ih fun t ht => literals t (.tail s ht)
    simp only [List.cons_append, Statement.outline, literals s (.head run), rest, List.map_cons]

mutual

theorem outline_spelled {s : Statement} {ss : List Statement} {n : Node} (h : Spelled s ss n)
    (next : Numbers) (around : List Open) (after : List Statement) :
    Statement.outline around (s :: (ss ++ after)) =
      (n.number next).1.outline ++ Statement.outline around after := by
  match h with
  | .text first others =>
    simp only [Statement.outline, first, number, Clause.outline, List.map_cons, List.cons_append,
      outline_literals others]
  | @Spelled.choice _ _ _ ns _ opening _ bodySpelled armsSpelled =>
    have body := outline_spelledBody bodySpelled (next.bump .choice)
    have arms := outline_spelledArms armsSpelled (numberList (next.bump .choice) ns).2
      [s.condition] around after
    simp only [List.map_cons, List.map_nil, condition_text] at arms
    simp only [Statement.outline, opening, number, Clause.outline, List.append_assoc,
      List.cons_append, body, arms]
    rfl
  | @Spelled.collection _ _ kind _ opening itemsSpelled =>
    have items := outline_spelledItems itemsSpelled (next.bump kind.block) around after
    cases kind <;>
      simp [Statement.outline, opening, ListKind.opening, number, Clause.outline, items]

theorem outline_spelledBody {bs : List Statement} {ns : List Node} (h : SpelledBody bs ns)
    (next : Numbers) (around : List Open) (after : List Statement) :
    Statement.outline around (bs ++ after) =
      Clause.outlineList (numberList next ns).1 ++ Statement.outline around after := by
  match h with
  | .nil => rfl
  | .cons (n := n) first _ others =>
    rw [List.cons_append, List.append_assoc, outline_spelled first next,
      outline_spelledBody others (n.number next).2]
    simp only [numberList, Clause.outlineList, List.append_assoc]

/-- The enclosing if has the prior conditions behind it. -/
theorem outline_spelledArms {as : List Statement} {arms : Arms} (h : SpelledArms as arms)
    (next : Numbers) (prior : List Condition) (around : List Open) (after : List Statement) :
    Statement.outline (.choice (prior.map Condition.text) :: around) (as ++ after) =
      Clause.outlineBranches (numberArms next prior arms).1 ++
        ({ kind := .close } :: Statement.outline around after) := by
  match h with
  | .close closing =>
    simp only [List.singleton_append, Statement.outline, closing, numberArms,
      Clause.outlineBranches, List.nil_append]
  | .otherwise opening bodySpelled closing =>
    simp only [Statement.outline, opening, numberArms, Clause.outlineBranches, List.append_assoc,
      List.cons_append, outline_spelledBody bodySpelled next, List.nil_append, closing]
    rfl
  | @SpelledArms.elseIf s _ _ ns _ opening _ bodySpelled armsSpelled =>
    have body := outline_spelledBody bodySpelled next
    have arms := outline_spelledArms armsSpelled (numberList next ns).2 (prior ++ [s.condition])
      around after
    simp only [List.map_append, List.map_cons, List.map_nil, condition_text] at arms
    simp only [Statement.outline, opening, numberArms, Clause.outlineBranches, List.append_assoc,
      List.cons_append, body, arms]
    rfl

theorem outline_spelledItems {is : List Statement} {ns : List Node} (h : SpelledItems is ns)
    (next : Numbers) (around : List Open) (after : List Statement) :
    Statement.outline (.collection :: around) (is ++ after) =
      Clause.outlineList (numberList next ns).1 ++
        ({ kind := .close } :: Statement.outline around after) := by
  match h with
  | .close closing =>
    simp only [List.singleton_append, Statement.outline, closing, numberList, Clause.outlineList,
      List.nil_append]
  | .cons (n := n) first _ _ others =>
    rw [List.cons_append, List.append_assoc, outline_spelled first next,
      outline_spelledItems others (n.number next).2]
    simp only [numberList, Clause.outlineList, List.append_assoc]

end

theorem outline_spelledAll {ss : List Statement} {ns : List Node} (h : SpelledAll ss ns)
    (next : Numbers) : Statement.outline [] ss = Clause.outlineList (numberList next ns).1 := by
  induction h generalizing next with
  | nil => rfl
  | stray closing _ ih => simp only [Statement.outline, closing, ih next]
  | @cons _ _ _ n _ first _ _ ih =>
    rw [outline_spelled first next, ih (n.number next).2]
    simp only [numberList, Clause.outlineList]

end Node

/-- The clauses have the statements of the template in order, each literal and each if with its
own text, and without the ends that close nothing. The guard of every branch is made of the
conditions of its own if that stand before it, and of no other. -/
theorem Compiled.outlineList_clauses {ss : List Statement} {c : Compiled}
    (h : Compiled.ofStatements ss = .ok c) :
    (Clause.outlineList c.clauses).map Entry.source =
        (Statement.settled 0 ss).map Statement.source ∧
      Clause.outlineList c.clauses = Statement.outline [] ss := by
  obtain ⟨ns, read, clauses, -⟩ := Compiled.ofStatements_eq_ok h
  have spelled := (Node.ofStatements_eq_ok_iff.1 read).2
  have scanned : Clause.outlineList c.clauses = Statement.outline [] ss := by
    rw [clauses, Node.outline_spelledAll spelled]
  exact ⟨by rw [scanned]; exact Statement.map_source_outline [] ss, scanned⟩

/-- An if in an else, each with a later branch, and an "end" that closes nothing. -/
def nestedChoices : List Statement :=
  let flag (name : String) : Token := ⟨.param .bool, name, false⟩
  let word (k : Keyword) : Token := ⟨.keyword k, k.name, false⟩
  [.guarded .ifOpen [word .ifOpen] [flag "A"],
    .literal ⟨.quoted, "\"a\"", false⟩,
    .guarded .elseIf [word .elseIf] [flag "B", ⟨.logical, "||", false⟩, flag "C"],
    .bare .otherwise (word .otherwise),
    .guarded .ifOpen [word .ifOpen] [flag "D"],
    .guarded .elseIf [word .elseIf] [flag "E"],
    .bare .close (word .close),
    .bare .close (word .close),
    .bare .close (word .close)]

theorem outlineList_nestedChoices :
    ∃ c, Compiled.ofStatements nestedChoices = .ok c ∧
      Clause.outlineList c.clauses =
        [⟨.ifOpen, "A"⟩, ⟨.literal, "\"a\""⟩, ⟨.elseIf, "!(A) && (B || C)"⟩,
          ⟨.otherwise, "!(A || B || C)"⟩, ⟨.ifOpen, "D"⟩, ⟨.elseIf, "!(D) && E"⟩, ⟨.close, ""⟩,
          ⟨.close, ""⟩] ∧
      (Clause.outlineList c.clauses).map Entry.source =
        (Statement.settled 0 nestedChoices).map Statement.source := by
  have compiles : (Compiled.ofStatements nestedChoices).isOk = true := by cbv
  obtain ⟨c, h⟩ : ∃ c, Compiled.ofStatements nestedChoices = .ok c := by
    cases h : Compiled.ofStatements nestedChoices with
    | error fault => simp [h, Except.isOk, Except.toBool] at compiles
    | ok c => exact ⟨c, rfl⟩
  have faithful := Compiled.outlineList_clauses h
  exact ⟨c, h, faithful.2.trans (by decide), faithful.1⟩

end QueryTemplate
