import Mathlib
import QueryTemplate.Proofs.Chains
import QueryTemplate.Proofs.Declarations
import QueryTemplate.Proofs.Operators
import QueryTemplate.Proofs.Vanishing

/-!
What is appended to the lists of ifs. The first branch appends each of its clauses, and so nothing
if it has none. A later branch appends all its clauses at once, and it does so without any too: the
guard stands in the line with nothing behind it.
-/

namespace QueryTemplate

def Step.isGuarded : Step → Bool
  | appendGuarded _ _ _ => true
  | separate | declare _ | append _ _ _ | accumulate _ => false

def Payload.operands {ν : Type} : Payload ν → List (Operand ν)
  | one operand => [operand]
  | all operands => operands

namespace Clause

def ownBody : Clause → List Clause
  | .choice _ _ body _ => body
  | .sql _ | .collection .. => []

def ownBranches : Clause → List Branch
  | .choice _ _ _ branches => branches
  | .sql _ | .collection .. => []

/-- The steps that append to the list of an if: one for each clause of its first branch and one for
each later branch. -/
def ownAppends : Clause → List Step
  | .choice index condition body branches =>
    (body.map fun c => .appendGuarded index (.first condition) (.one c.operand)) ++
      branches.map fun b => .appendGuarded index b.guard (.all (b.body.map operand))
  | .sql _ | .collection .. => []

theorem perm_append_comm_middle {α : Type} (as bs cs ds : List α) :
    ((as ++ bs) ++ (cs ++ ds)).Perm ((as ++ cs) ++ (bs ++ ds)) := by
  rw [List.append_assoc, List.append_assoc]
  exact (List.perm_append_comm_assoc bs cs ds).append_left as

mutual

theorem appends_block (c : Clause) :
    (c.block.filter Step.isGuarded).Perm (c.parts.flatMap ownAppends) := by
  match c with
  | .sql _ => exact .nil
  | .choice index condition body branches =>
    have both := (appends_guarded index (.first condition) body).append
      (appends_branches index branches)
    rw [block, parts, List.filter_cons_of_neg (by simp [Step.isGuarded]), List.filter_append,
      List.flatMap_cons, List.flatMap_append]
    exact both.trans (perm_append_comm_middle ..)
  | .collection kind index body =>
    rw [block, parts, List.filter_cons_of_neg (by simp [Step.isGuarded])]
    exact appends_items kind index body

theorem appends_guarded (index : Nat) (guard : Guard) (cs : List Clause) :
    ((blockGuarded index guard cs).filter Step.isGuarded).Perm
      ((cs.map fun c => .appendGuarded index guard (.one c.operand)) ++
        (partsList cs).flatMap ownAppends) := by
  match cs with
  | [] => exact .nil
  | c :: cs =>
    have both := (appends_block c).append (appends_guarded index guard cs)
    rw [blockGuarded, partsList, List.filter_append, List.filter_cons_of_pos rfl, List.map_cons,
      List.flatMap_append]
    refine List.perm_middle.trans ?_
    exact .cons _ (both.trans (List.perm_append_comm_assoc ..))

theorem appends_items (kind : ListKind) (index : Nat) (cs : List Clause) :
    ((blockItems kind index cs).filter Step.isGuarded).Perm
      ((partsList cs).flatMap ownAppends) := by
  match cs with
  | [] => exact .nil
  | c :: cs =>
    rw [blockItems, partsList, List.filter_append,
      List.filter_cons_of_neg (by simp [Step.isGuarded]), List.flatMap_append]
    exact (appends_block c).append (appends_items kind index cs)

theorem appends_list (cs : List Clause) :
    ((blockList cs).filter Step.isGuarded).Perm ((partsList cs).flatMap ownAppends) := by
  match cs with
  | [] => exact .nil
  | c :: cs =>
    rw [blockList, partsList, List.filter_append, List.flatMap_append]
    exact (appends_block c).append (appends_list cs)

theorem appends_branches (index : Nat) (branches : List Branch) :
    ((blockBranches index branches).filter Step.isGuarded).Perm
      ((branches.map fun b => .appendGuarded index b.guard (.all (b.body.map operand))) ++
        (partsBranches branches).flatMap ownAppends) := by
  match branches with
  | [] => exact .nil
  | ⟨guard, body⟩ :: branches =>
    have both := (appends_list body).append (appends_branches index branches)
    rw [blockBranches, partsBranches, List.filter_append, List.filter_cons_of_pos rfl,
      List.map_cons, List.flatMap_append]
    refine List.perm_middle.trans ?_
    exact .cons _ (both.trans (List.perm_append_comm_assoc ..))

end

theorem appends_program (cs : List Clause) :
    ((program cs).filter Step.isGuarded).Perm ((partsList cs).flatMap ownAppends) := by
  induction cs with
  | nil => exact .nil
  | cons c cs ih =>
    rw [program, partsList, List.filter_cons_of_neg (by simp [Step.isGuarded]),
      List.filter_append, List.filter_cons_of_neg (by simp [Step.isGuarded]),
      List.flatMap_append]
    exact (appends_block c).append ih

/-! ## What clauses have of their own -/

def ownPieces : Clause → List String
  | .sql pieces => pieces
  | .choice .. | .collection .. => []

theorem collects_pieces : Collects ownPieces pieces piecesList piecesBranches where
  sql _ := rfl
  choice _ _ _ _ := rfl
  collection _ _ _ := rfl
  nil := rfl
  cons _ _ := rfl
  close := rfl
  branch _ _ _ := rfl

def ownChains : Clause → List (List Guard)
  | .choice _ condition _ branches => [.first condition :: branches.map Branch.guard]
  | .sql _ | .collection .. => []

theorem collects_chains : Collects ownChains chains chainsList chainsBranches where
  sql _ := rfl
  choice _ _ _ _ := rfl
  collection _ _ _ := rfl
  nil := rfl
  cons _ _ := rfl
  close := rfl
  branch _ _ _ := rfl

variable {index : Nat} {condition : Condition} {body : List Clause} {branches : List Branch}
  {guard : Guard} {payload : Payload Nat} {d : Clause} {cs : List Clause}

theorem mem_ownAppends_choice :
    .appendGuarded index guard payload ∈ (choice index condition body branches).ownAppends ↔
      (guard = .first condition ∧ ∃ x ∈ body, payload = .one x.operand) ∨
        ∃ b ∈ branches, guard = b.guard ∧ payload = .all (b.body.map operand) := by
  simp only [ownAppends, List.mem_append, List.mem_map, Step.appendGuarded.injEq, true_and]
  constructor
  · rintro (⟨x, hx, rfl, rfl⟩ | ⟨b, hb, rfl, rfl⟩)
    · exact .inl ⟨rfl, x, hx, rfl⟩
    · exact .inr ⟨b, hb, rfl, rfl⟩
  · rintro (⟨rfl, x, hx, rfl⟩ | ⟨b, hb, rfl, rfl⟩)
    · exact .inl ⟨x, hx, rfl, rfl⟩
    · exact .inr ⟨b, hb, rfl, rfl⟩

/-- Only an if with the number appends to the list with the number. -/
theorem exists_choice_of_mem_ownAppends (h : .appendGuarded index guard payload ∈ d.ownAppends) :
    ∃ condition body branches, d = .choice index condition body branches := by
  cases d with
  | sql => cases h
  | choice i condition body branches =>
    rw [ownAppends, List.mem_append, List.mem_map, List.mem_map] at h
    obtain ⟨_, _, same⟩ | ⟨_, _, same⟩ := h
    all_goals
      cases same
      exact ⟨condition, body, branches, rfl⟩
  | collection => cases h

theorem mem_program_iff : .appendGuarded index guard payload ∈ program cs ↔
    ∃ d ∈ partsList cs, .appendGuarded index guard payload ∈ d.ownAppends := by
  rw [← List.mem_flatMap, ← (appends_program cs).mem_iff, List.mem_filter]
  exact (and_iff_left rfl).symm

/-- Where lists are distinct, an if alone appends to its list. -/
theorem mem_program_iff_of_mem (distinct : (slotsList cs).Nodup)
    (hd : .choice index condition body branches ∈ partsList cs) :
    .appendGuarded index guard payload ∈ program cs ↔
      (guard = .first condition ∧ ∃ x ∈ body, payload = .one x.operand) ∨
        ∃ b ∈ branches, guard = b.guard ∧ payload = .all (b.body.map operand) := by
  rw [mem_program_iff, ← mem_ownAppends_choice]
  constructor
  · rintro ⟨e, he, own⟩
    obtain ⟨condition', body', branches', rfl⟩ := exists_choice_of_mem_ownAppends own
    have slot : (⟨.choice, index⟩ : Slot) ∈ [⟨.choice, index⟩] := .head _
    rwa [← eq_of_mem_ownSlots distinct he hd slot slot]
  · exact fun own => ⟨_, hd, own⟩

/-- The first branch of an if has a condition with a text, and no other branch has its guard. -/
def Guarded : Clause → Prop
  | .choice _ condition _ branches =>
    condition.text ≠ "" ∧ ∀ b ∈ branches, ∀ own, b.guard ≠ .first own
  | .sql _ | .collection .. => True

/-- What is known of the clauses of a template. -/
structure Proper (cs : List Clause) : Prop where
  distinct : (slotsList cs).Nodup
  shaped : ∀ d ∈ partsList cs, d.Shaped
  started : ∀ d ∈ partsList cs, d.Started
  guarded : ∀ d ∈ partsList cs, d.Guarded

end Clause

/-! ## Templates -/

theorem Token.join_ne_empty {t : Token} (h : t.text ≠ "") (ts : List Token) :
    join (t :: ts) ≠ "" := by
  cases ts with
  | nil => simpa [join] using h
  | cons u us => simp [join, String.intercalate_cons_cons, h]

theorem Guard.Later.ne_first {P : Condition → Prop} {prior : List Condition} {gs : List Guard}
    (h : Later P prior gs) : ∀ g ∈ gs, ∀ own, g ≠ .first own := by
  induction h with
  | nil => simp
  | otherwise => simp
  | elseIf _ _ ih => exact List.forall_mem_cons.2 ⟨nofun, ih⟩

theorem Guard.text_ne_empty {g : Guard} (other : ∀ own, g ≠ .first own) : g.text ≠ "" := by
  cases g with
  | first own => exact absurd rfl (other own)
  | elseIf => simp [text, noneOf]
  | otherwise => simp [text, noneOf]

section Template

variable {params : List Param} {template : String} {ts : List Token} {ss : List Statement}
  {c : Compiled}

/-- The condition of a statement has a text. -/
theorem Statement.condition_text_ne_empty (tokens : Token.ofText params template = .ok ts)
    (statements : ofTokens ts = .ok ss) :
    ∀ s ∈ ss, s.Announces → s.condition.text ≠ "" := by
  intro s hs announces
  obtain ⟨chained, text⟩ := chained_of_ofTokens statements s hs announces
  obtain ⟨t, more, body, -⟩ := Term.exists_cons_of_chained chained
  have ht : t ∈ s.tokens := by
    have inside : t ∈ s.condition.body := by simp [body]
    exact (List.dropWhile_sublist _).subset inside
  have starts := (Token.scanned_ofText tokens t (mem_of_ofTokens statements s hs t ht)).starts
  rw [text, body]
  apply Token.join_ne_empty
  intro none
  rw [none] at starts
  cases starts

/-- The pieces of a template start as tokens do. -/
theorem Compiled.starts_of_mem_pieces (tokens : Token.ofText params template = .ok ts)
    (statements : Statement.ofTokens ts = .ok ss) (h : ofStatements ss = .ok c) :
    ∀ p ∈ Clause.piecesList c.clauses, Text.Starts p.toList := by
  intro p hp
  rw [piecesList_clauses h] at hp
  obtain ⟨s, filtered, rfl⟩ := List.mem_map.1 hp
  obtain ⟨hs, kind⟩ := List.mem_filter.1 filtered
  rcases Statement.sorted_of_ofTokens statements s hs with ⟨t, -, rfl⟩ | ⟨other, -⟩
  · have ht := Statement.mem_of_ofTokens statements _ hs t (.head _)
    exact (Token.scanned_ofText tokens t ht).starts
  · exact absurd (of_decide_eq_true kind) other

theorem Clause.proper_of_compile (h : compile params template = .ok c) : Proper c.clauses := by
  obtain ⟨ts, ss, tokens, statements, compiled⟩ := compile_eq_ok h
  obtain ⟨ns, read, clauses, -⟩ := Compiled.ofStatements_eq_ok compiled
  have spelled := (Node.ofStatements_eq_ok_iff.1 read).2
  have shaped : ∀ d ∈ partsList c.clauses, d.Shaped := by
    rw [clauses]
    exact Node.shaped_of_spelledAll spelled _
  refine ⟨.of_map _ (Compiled.nodup_names compiled), shaped, ?_, ?_⟩
  · intro d hd
    cases d with
    | sql pieces =>
      refine ⟨shaped _ hd, fun p hp => ?_⟩
      have piece := collects_pieces.mem_of_mem_parts hd hp
      exact Compiled.starts_of_mem_pieces tokens statements compiled p piece
    | choice => trivial
    | collection => trivial
  · intro d hd
    cases d with
    | sql => trivial
    | choice =>
      have texts := Statement.condition_text_ne_empty tokens statements
      have all : Node.AllList (fun c => c.text ≠ "") ns := Node.allList_of_spelledAll spelled texts
      have chain := collects_chains.mem_of_mem_parts hd (.head _)
      rw [clauses] at chain
      obtain ⟨own, others⟩ := Node.isChain_numberList all _ _ chain
      exact ⟨own, fun b hb => others.ne_first _ (List.mem_map_of_mem hb)⟩
    | collection => trivial

end Template

/-- An if, or a branch of one, with no clauses has no appends, and what is appended stands for at
least one clause. -/
structure Compiled.OmitsEmpty (c : Compiled) : Prop where
  body : ∀ index condition body branches payload,
    .choice index condition body branches ∈ Clause.partsList c.clauses →
    .appendGuarded index (.first condition) payload ∈ c.steps → body ≠ []
  branch : ∀ index condition body branches payload,
    .choice index condition body branches ∈ Clause.partsList c.clauses →
    ∀ b ∈ branches, .appendGuarded index b.guard payload ∈ c.steps → b.body ≠ []
  payload : ∀ index guard payload, .appendGuarded index guard payload ∈ c.steps →
    ∃ cs, cs ≠ [] ∧ cs ⊆ Clause.partsList c.clauses ∧ payload.operands = cs.map Clause.operand

/-- A line that appends a guard and a payload has both. -/
def Line.IsComplete : Line → Prop
  | appendGuarded _ guard payload => guard ≠ "" ∧ payload ≠ ""
  | blank | declareGuarded _ | declareList _ | append _ _ | accumulate _ => True

namespace Clause

variable {index : Nat} {condition : Condition} {body : List Clause} {branches : List Branch}
  {cs : List Clause}

/-- The clauses of the branches of an if are clauses of the template. -/
theorem subset_partsList (hd : .choice index condition body branches ∈ partsList cs) :
    body ⊆ partsList cs ∧ ∀ b ∈ branches, b.body ⊆ partsList cs := by
  have inside {x : Clause} (hx : x ∈ (choice index condition body branches).parts) :
      x ∈ partsList cs := mem_partsList_trans hd hx
  refine ⟨fun x hx => inside ?_, fun b hb x hx => inside ?_⟩
  · have own := mem_partsList.2 ⟨x, hx, self_mem_parts x⟩
    exact .tail _ (List.mem_append_left _ own)
  · have own := mem_partsBranches.2 ⟨b, hb, mem_partsList.2 ⟨x, hx, self_mem_parts x⟩⟩
    exact .tail _ (List.mem_append_right _ own)

/-- What is appended stands for at least one clause, if no later branch is empty. -/
theorem exists_operands (some : ∀ d ∈ partsList cs, ∀ b ∈ d.ownBranches, b.body ≠ [])
    {guard : Guard} {payload : Payload Nat}
    (appended : .appendGuarded index guard payload ∈ program cs) :
    ∃ xs, xs ≠ [] ∧ xs ⊆ partsList cs ∧ payload.operands = xs.map operand := by
  obtain ⟨d, hd, own⟩ := mem_program_iff.1 appended
  obtain ⟨condition, body, branches, rfl⟩ := exists_choice_of_mem_ownAppends own
  obtain ⟨inBody, inBranches⟩ := subset_partsList hd
  rcases mem_ownAppends_choice.1 own with ⟨-, x, hx, rfl⟩ | ⟨b, hb, -, rfl⟩
  · exact ⟨[x], List.cons_ne_nil x [], by simpa using inBody hx, rfl⟩
  · exact ⟨b.body, some _ hd b hb, inBranches b hb, rfl⟩

theorem isComplete_program_iff (target : Target) :
    (∀ l ∈ (program cs).map (Step.line target), l.IsComplete) ↔
      ∀ d ∈ partsList cs, ∀ s ∈ d.ownAppends, (s.line target).IsComplete := by
  rw [List.forall_mem_map]
  constructor
  · intro complete d hd s own
    have guarded := (appends_program cs).mem_iff.2 (List.mem_flatMap.2 ⟨d, hd, own⟩)
    exact complete s (List.mem_filter.1 guarded).1
  · intro complete s hs
    cases s with
    | appendGuarded index guard payload =>
      obtain ⟨d, hd, own⟩ := mem_program_iff.1 hs
      exact complete d hd _ own
    | declare slot =>
      obtain ⟨block, index⟩ := slot
      cases block <;> trivial
    | separate | append | accumulate => trivial

namespace Proper

variable (h : Proper cs)
include h

/-- The first branch of an if is appended just if it has clauses. -/
theorem appends_first_iff (hd : .choice index condition body branches ∈ partsList cs) :
    (∃ payload, .appendGuarded index (.first condition) payload ∈ program cs) ↔ body ≠ [] := by
  constructor
  · rintro ⟨payload, appended⟩
    rw [mem_program_iff_of_mem h.distinct hd] at appended
    rcases appended with ⟨-, x, hx, -⟩ | ⟨b, hb, same, -⟩
    · exact List.ne_nil_of_mem hx
    · exact absurd same.symm ((h.guarded _ hd).2 b hb condition)
  · intro some
    obtain ⟨x, xs, rfl⟩ := List.exists_cons_of_ne_nil some
    exact ⟨.one x.operand, (mem_program_iff_of_mem h.distinct hd).2 (.inl ⟨rfl, x, .head xs, rfl⟩)⟩

/-- A later branch is appended, whether it has clauses or not. -/
theorem appends_branch (hd : .choice index condition body branches ∈ partsList cs) :
    ∀ b ∈ branches, .appendGuarded index b.guard (.all (b.body.map operand)) ∈ program cs := by
  intro b hb
  rw [mem_program_iff_of_mem h.distinct hd]
  exact .inr ⟨b, hb, rfl, rfl⟩

/-- The guards of an if have texts. A clause of its first branch has no expression just if nothing
is left of it, and a later branch has none just if it is empty or nothing is left of its clause. -/
theorem isComplete_ownAppends_iff (target : Target)
    (hd : .choice index condition body branches ∈ partsList cs) :
    (∀ s ∈ (choice index condition body branches).ownAppends, (s.line target).IsComplete) ↔
      (∀ x ∈ body, ¬ x.Vanishes) ∧ ∀ b ∈ branches, b.body ≠ [] ∧ ¬ b.Vanishes := by
  obtain ⟨inBody, inBranches⟩ := subset_partsList hd
  obtain ⟨first, later⟩ := h.guarded _ hd
  rw [ownAppends, List.forall_mem_append, List.forall_mem_map, List.forall_mem_map]
  refine and_congr (forall₂_congr fun x hx => ?_) (forall₂_congr fun b hb => ?_)
  · rw [Step.line, Line.IsComplete, payloadText_operand,
      ← rendering_eq_empty_iff target (h.started x (inBody hx))]
    exact and_iff_right first
  · have apart : Apart b.body := (h.shaped _ hd).2 b hb
    have started : ∀ x ∈ b.body, x.Started := fun x hx => h.started x (inBranches b hb hx)
    have empty := Branch.rendering_eq_empty_iff target apart started
    rw [Step.line, Line.IsComplete, payloadText_operands target b.guard]
    refine (and_iff_right (Guard.text_ne_empty (later b hb))).trans ?_
    exact (not_congr empty).trans not_or

theorem isComplete_iff (target : Target) :
    (∀ l ∈ (program cs).map (Step.line target), l.IsComplete) ↔
      ∀ d ∈ partsList cs, (∀ x ∈ d.ownBody, ¬ x.Vanishes) ∧
        ∀ b ∈ d.ownBranches, b.body ≠ [] ∧ ¬ b.Vanishes := by
  rw [isComplete_program_iff]
  refine forall₂_congr fun d hd => ?_
  cases d with
  | sql => simp [ownAppends, ownBody, ownBranches]
  | choice => exact h.isComplete_ownAppends_iff target hd
  | collection => simp [ownAppends, ownBody, ownBranches]

end Proper

end Clause

/-- The code has one append for each clause of the first branch of an if and one for each later
branch, so it has some for an empty branch just if one of the later branches is empty. The lines
that append have a guard and a payload just if no later branch is empty and no text of a branch is
one of which nothing is left. -/
theorem compile_appends {params : List Param} {template : String} {c : Compiled}
    (h : compile params template = .ok c) (target : Target) :
    (c.steps.filter Step.isGuarded).Perm
        ((Clause.partsList c.clauses).flatMap Clause.ownAppends) ∧
      (c.OmitsEmpty ↔ ∀ d ∈ Clause.partsList c.clauses, ∀ b ∈ d.ownBranches, b.body ≠ []) ∧
      ((∀ l ∈ c.lines target, l.IsComplete) ↔
        ∀ d ∈ Clause.partsList c.clauses, (∀ x ∈ d.ownBody, ¬ x.Vanishes) ∧
          ∀ b ∈ d.ownBranches, b.body ≠ [] ∧ ¬ b.Vanishes) := by
  have proper := Clause.proper_of_compile h
  obtain ⟨ts, ss, -, -, compiled⟩ := compile_eq_ok h
  obtain ⟨ns, -, -, steps⟩ := Compiled.ofStatements_eq_ok compiled
  refine ⟨?_, ⟨fun omits d hd b hb => ?_, fun some => ?_⟩, ?_⟩
  · rw [steps]
    exact Clause.appends_program c.clauses
  · cases d with
    | sql => cases hb
    | choice index condition body branches =>
      have appended := proper.appends_branch hd b hb
      rw [← steps] at appended
      exact omits.branch _ _ _ _ _ hd b hb appended
    | collection => cases hb
  · refine ⟨?_, ?_, ?_⟩
    · intro index condition body branches payload hd appended
      rw [steps] at appended
      exact (proper.appends_first_iff hd).1 ⟨payload, appended⟩
    · intro index condition body branches payload hd b hb _
      exact some _ hd b hb
    · intro index guard payload appended
      rw [steps] at appended
      exact Clause.exists_operands some appended
  · rw [Compiled.lines, steps]
    exact proper.isComplete_iff target

/-- An if whose first branch is empty, with a where in its else that has an if. -/
def emptyFirst : List Clause :=
  let opening : Token := ⟨.keyword .ifOpen, "if", false⟩
  let flag (name : String) : Token := ⟨.param .bool, name, false⟩
  let first : Condition := ⟨"A", [opening, flag "A"]⟩
  let second : Condition := ⟨"B", [⟨.keyword .elseIf, "elseif", false⟩, flag "B"]⟩
  let inner : Clause := .choice 1 ⟨"B", [opening, flag "B"]⟩ [.sql ["\"y\""]] []
  [.choice 0 first [] [⟨.elseIf [first] second, [.sql ["\"x\""]]⟩,
    ⟨.otherwise [first, second], [.collection .whereList 0 [inner]]⟩]]

theorem appends_emptyFirst :
    ∃ c, compile [⟨"A", .bool, false⟩, ⟨"B", .bool, false⟩]
        "if A elseif B \"x\" else where if B \"y\" end end end" = .ok c ∧
      c.OmitsEmpty ∧ (∀ l ∈ c.lines {}, l.IsComplete) ∧
      (c.lines {}).map (Line.text {}) = ["", "ifCond0 := make([]helper.Cond, 0, 100)",
        "ifCond0 = append(ifCond0, helper.Cond\x7b!(A) && B, \"x\"\x7d)",
        "whereCond0 := make([]string, 0, 100)", "ifCond1 := make([]helper.Cond, 0, 100)",
        "ifCond1 = append(ifCond1, helper.Cond\x7bB, \"y\"\x7d)",
        "whereCond0 = append(whereCond0, helper.IfClause(ifCond1))",
        "ifCond0 = append(ifCond0, helper.Cond\x7b!(A || B), helper.WhereClause(whereCond0)\x7d)",
        "generateSQL+=helper.IfClause(ifCond0)"] := by
  have compiles : (compile [⟨"A", .bool, false⟩, ⟨"B", .bool, false⟩]
      "if A elseif B \"x\" else where if B \"y\" end end end").map
        (fun c => (c.clauses, (c.lines {}).map (Line.text {}))) =
      .ok (emptyFirst, ["", "ifCond0 := make([]helper.Cond, 0, 100)",
        "ifCond0 = append(ifCond0, helper.Cond\x7b!(A) && B, \"x\"\x7d)",
        "whereCond0 := make([]string, 0, 100)", "ifCond1 := make([]helper.Cond, 0, 100)",
        "ifCond1 = append(ifCond1, helper.Cond\x7bB, \"y\"\x7d)",
        "whereCond0 = append(whereCond0, helper.IfClause(ifCond1))",
        "ifCond0 = append(ifCond0, helper.Cond\x7b!(A || B), helper.WhereClause(whereCond0)\x7d)",
        "generateSQL+=helper.IfClause(ifCond0)"]) := by cbv
  obtain ⟨c, h, output⟩ := except_map_eq_ok.1 compiles
  obtain ⟨clauses, lines⟩ := Prod.mk.inj output
  obtain ⟨-, omits, complete⟩ := compile_appends h {}
  rw [clauses] at omits complete
  refine ⟨c, h, omits.2 ?_, complete.2 ?_, lines⟩
  · simp [emptyFirst, Clause.partsList, Clause.partsBranches, Clause.parts, Clause.ownBranches]
  · have text (guard : Guard) : ¬ Branch.Vanishes ⟨guard, [.sql ["\"x\""]]⟩ := by
      rintro ⟨front, back, spelled, -⟩
      have pieces : ["\"x\""] = front ++ "\"+\"" :: back := by simpa using spelled
      have plus : "\"+\"" ∈ ["\"x\""] := by simp [pieces]
      simp at plus
    have list (guard : Guard) (kind : ListKind) (index : Nat) (body : List Clause) :
        ¬ Branch.Vanishes ⟨guard, [.collection kind index body]⟩ := by
      rintro ⟨front, back, spelled, -⟩
      simp at spelled
    simp [emptyFirst, Clause.partsList, Clause.partsBranches, Clause.parts, Clause.ownBranches,
      Clause.ownBody, Clause.Vanishes, text, list]

/-- An if with an else that has nothing in it. -/
def emptyElse : List Clause :=
  let first : Condition :=
    ⟨"A", [⟨.keyword .ifOpen, "if", false⟩, ⟨.param .bool, "A", false⟩]⟩
  [.choice 0 first [.sql ["\"x\""]] [⟨.otherwise [first], []⟩]]

/-- An else with nothing in it is appended with a guard and no payload. -/
theorem not_omitsEmpty_emptyElse :
    ∃ c, compile [⟨"A", .bool, false⟩] "if A \"x\" else end" = .ok c ∧ c.clauses = emptyElse ∧
      ¬ c.OmitsEmpty ∧ ¬ (∀ l ∈ c.lines {}, l.IsComplete) ∧
      (c.lines {}).map (Line.text {}) = ["", "ifCond0 := make([]helper.Cond, 0, 100)",
        "ifCond0 = append(ifCond0, helper.Cond\x7bA, \"x\"\x7d)",
        "ifCond0 = append(ifCond0, helper.Cond\x7b!(A), \x7d)",
        "generateSQL+=helper.IfClause(ifCond0)"] := by
  have compiles : (compile [⟨"A", .bool, false⟩] "if A \"x\" else end").map
      (fun c => (c.clauses, c.steps)) = .ok (emptyElse, Clause.program emptyElse) := by cbv
  obtain ⟨⟨clauses, steps⟩, h, output⟩ := except_map_eq_ok.1 compiles
  obtain ⟨rfl, rfl⟩ := Prod.mk.inj output
  refine ⟨_, h, rfl, fun omits => ?_, fun complete => ?_, by cbv⟩
  · have appended : .appendGuarded 0 (.otherwise _) (.all []) ∈ Clause.program emptyElse :=
      .tail _ (.tail _ (.tail _ (.head _)))
    exact omits.branch _ _ _ _ _ (.head _) _ (.head _) appended rfl
  · have line : Line.appendGuarded "ifCond0" "!(A)" "" ∈
        (Clause.program emptyElse).map (Step.line {}) :=
      .tail _ (.tail _ (.tail _ (.head _)))
    exact (complete _ line).2 rfl

end QueryTemplate
