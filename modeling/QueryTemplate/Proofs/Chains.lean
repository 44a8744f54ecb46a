import Mathlib
import QueryTemplate.Proofs.Announced
import QueryTemplate.Proofs.Drafting
import QueryTemplate.Proofs.Selection

/-!
The guards of the ifs of a template, at any depth. Each if has the guards of a chain, and their
conditions are those of statements.
-/

namespace QueryTemplate

namespace Clause

mutual

/-- The guards of every if of a clause, those of one if in the order of its branches. -/
def chains : Clause → List (List Guard)
  | .sql _ => []
  | .choice _ condition body branches =>
    (.first condition :: branches.map Branch.guard) :: (chainsList body ++ chainsBranches branches)
  | .collection _ _ body => chainsList body

def chainsList : List Clause → List (List Guard)
  | [] => []
  | c :: cs => c.chains ++ chainsList cs

def chainsBranches : List Branch → List (List Guard)
  | [] => []
  | ⟨_, body⟩ :: branches => chainsList body ++ chainsBranches branches

end

end Clause

namespace Node

variable {P : Condition → Prop}

mutual

theorem isChain_number {n : Node} (h : n.All P) (next : Numbers) :
    ∀ gs ∈ (n.number next).1.chains, Guard.IsChain P gs := by
  match n with
  | .text pieces => simp [number, Clause.chains]
  | .choice condition body arms =>
    obtain ⟨own, inBody, inArms⟩ := h
    have later := later_numberArms inArms (numberList (next.bump .choice) body).2 [condition]
    simp only [number, Clause.chains, List.forall_mem_cons, List.forall_mem_append]
    exact ⟨.first own later.1, isChain_numberList inBody _, later.2⟩
  | .collection kind body => exact isChain_numberList h _

theorem isChain_numberList {ns : List Node} (h : AllList P ns) (next : Numbers) :
    ∀ gs ∈ Clause.chainsList (numberList next ns).1, Guard.IsChain P gs := by
  match ns with
  | [] => simp [numberList, Clause.chainsList]
  | n :: ns =>
    simp only [numberList, Clause.chainsList, List.forall_mem_append]
    exact ⟨isChain_number h.1 _, isChain_numberList h.2 _⟩

theorem later_numberArms {arms : Arms} (h : AllArms P arms) (next : Numbers)
    (prior : List Condition) :
    Guard.Later P prior ((numberArms next prior arms).1.map Branch.guard) ∧
      ∀ gs ∈ Clause.chainsBranches (numberArms next prior arms).1, Guard.IsChain P gs := by
  match arms with
  | .close => exact ⟨.nil prior, by simp [numberArms, Clause.chainsBranches]⟩
  | .otherwise body =>
    simp only [numberArms, Clause.chainsBranches, List.append_nil]
    exact ⟨.otherwise prior, isChain_numberList h _⟩
  | .elseIf condition body arms =>
    obtain ⟨own, inBody, inArms⟩ := h
    have later := later_numberArms inArms (numberList next body).2 (prior ++ [condition])
    simp only [numberArms, Clause.chainsBranches, List.map_cons, List.forall_mem_append]
    exact ⟨.elseIf own later.1, isChain_numberList inBody _, later.2⟩

end

end Node

/-- The guards of every if select, whatever the atoms are, unless a token of its conditions has a
parenthesis in front of its quotes. Then one of its guards cannot be read. -/
theorem compile_selects_iff {params : List Param} {template : String} {c : Compiled}
    (h : compile params template = .ok c) (identifiers : ∀ p ∈ params, p.IsIdentifier)
    {gs : List Guard} (chain : gs ∈ Clause.chainsList c.clauses) (v : Atom → Bool) :
    Guard.Selects v gs ↔ ∀ g ∈ gs, ∀ own ∈ g.own, ∀ t ∈ own.tokens, t.Clear := by
  obtain ⟨ts, ss, tokens, statements, h⟩ := compile_eq_ok h
  obtain ⟨ns, read, clauses, -⟩ := Compiled.ofStatements_eq_ok h
  have formed := Token.formed_ofText identifiers tokens
  have written : ∀ s ∈ ss, s.Announces → Guard.Written s.condition := fun s hs announces =>
    ⟨Statement.chained_of_ofTokens statements s hs announces,
      fun t ht => formed t (Statement.mem_of_ofTokens statements s hs t ht)⟩
  rw [clauses] at chain
  have spelled := (Node.ofStatements_eq_ok_iff.1 read).2
  have all := Node.allList_of_spelledAll spelled written
  exact (Node.isChain_numberList all _ gs chain).selects_iff v

/-- A comparison with a parenthesis in quotes, a disjunction, and an else. -/
def quotedParenthesis : List Guard :=
  let text (kind : TokenKind) (text : String) : Token := ⟨kind, text, false⟩
  let first : Condition := ⟨"A == \")\"", [text (.keyword .ifOpen) "if", text (.param .string) "A",
    text .comparison "==", text .quoted "\")\""]⟩
  let second : Condition := ⟨"B || C", [text (.keyword .elseIf) "elseif",
    text (.param .bool) "B", text .logical "||", text (.param .bool) "C"]⟩
  [.first first, .elseIf [first] second, .otherwise [first, second]]

theorem selects_quotedParenthesis :
    ∃ c, compile [⟨"A", .string, false⟩, ⟨"B", .bool, false⟩, ⟨"C", .bool, false⟩]
        "if A == \")\" \"a\" elseif B || C \"b\" else \"c\" end" = .ok c ∧
      quotedParenthesis ∈ Clause.chainsList c.clauses ∧
      quotedParenthesis.map Guard.text =
        ["A == \")\"", "!(A == \")\") && (B || C)", "!(A == \")\" || B || C)"] ∧
      ∀ v, Guard.Selects v quotedParenthesis := by
  have compiles : (compile [⟨"A", .string, false⟩, ⟨"B", .bool, false⟩, ⟨"C", .bool, false⟩]
      "if A == \")\" \"a\" elseif B || C \"b\" else \"c\" end").map
        (fun c => Clause.chainsList c.clauses) = .ok [quotedParenthesis] := by cbv
  obtain ⟨c, h, chains⟩ := except_map_eq_ok.1 compiles
  have chain : quotedParenthesis ∈ Clause.chainsList c.clauses := by simp [chains]
  have identifiers : ∀ p ∈ [(⟨"A", .string, false⟩ : Param), ⟨"B", .bool, false⟩,
      ⟨"C", .bool, false⟩], p.IsIdentifier := by
    simp only [List.forall_mem_cons]
    exact ⟨⟨'A', [], rfl, .inl rfl, List.forall_mem_nil _⟩,
      ⟨'B', [], rfl, .inl rfl, List.forall_mem_nil _⟩,
      ⟨'C', [], rfl, .inl rfl, List.forall_mem_nil _⟩, List.forall_mem_nil _⟩
  have clear : ∀ g ∈ quotedParenthesis, ∀ own ∈ g.own, ∀ t ∈ own.tokens, t.Clear := by
    simp [quotedParenthesis, Guard.own, Token.Clear]
  exact ⟨c, h, chain, by decide, fun v => (compile_selects_iff h identifiers chain v).2 clear⟩

/-- A parenthesis that is written directly before a quoted text becomes part of the token. -/
def strayParenthesis : List Guard :=
  let text (kind : TokenKind) (text : String) : Token := ⟨kind, text, false⟩
  let first : Condition := ⟨"A == )\"x\"", [text (.keyword .ifOpen) "if",
    text (.param .string) "A", text .comparison "==", text .quoted ")\"x\""]⟩
  [.first first, .otherwise [first]]

theorem not_selects_strayParenthesis :
    (⟨"A", .string, false⟩ : Param).IsIdentifier ∧
      ∃ c, compile [⟨"A", .string, false⟩] "if A == )\"x\" \"b\" else \"c\" end" = .ok c ∧
        strayParenthesis ∈ Clause.chainsList c.clauses ∧
        strayParenthesis.map Guard.text = ["A == )\"x\"", "!(A == )\"x\")"] ∧
        ∀ v, ¬ Guard.Selects v strayParenthesis := by
  have compiles : (compile [⟨"A", .string, false⟩] "if A == )\"x\" \"b\" else \"c\" end").map
      (fun c => Clause.chainsList c.clauses) = .ok [strayParenthesis] := by cbv
  obtain ⟨c, h, chains⟩ := except_map_eq_ok.1 compiles
  refine ⟨⟨'A', [], rfl, .inl rfl, List.forall_mem_nil _⟩, c, h, by simp [chains], by decide, ?_⟩
  intro v selects
  obtain ⟨a, value⟩ := selects.readable _ (.head _)
  obtain ⟨s, text, reads⟩ := (value a).2 rfl
  have symbols : Symbol.ofText "A == )\"x\"" =
      some [.operand "A", .comparison "==", .closing, .operand "\"x\""] := by cbv
  cases symbols.symm.trans text
  exact absurd reads.count_opening (by decide)

end QueryTemplate
