import Mathlib
import QueryTemplate.Proofs.Announced
import QueryTemplate.Proofs.Grouping
import QueryTemplate.Proofs.Renumbering
import QueryTemplate.Proofs.Scanning.Append
import QueryTemplate.Proofs.Spelling.Complete

/-!
Templates with an "end" between them. All blocks of a template that compiles are closed, so the
"end" closes nothing: it only keeps the last text of the first template from going on. The second
template compiles as it does alone, but its lists are numbered after those of the first.
-/

namespace QueryTemplate

def Token.close : Token :=
  ⟨.keyword .close, "end", false⟩

theorem Token.ofText_append_close {params : List Param} {a b : String} {ts us : List Token}
    (h : ofText params a = .ok ts) (others : ofText params b = .ok us) :
    ofText params (a ++ " end " ++ b) = .ok (ts ++ close :: us) := by
  have ends : Lexeme.EndsWord (" end " ++ b).toList := by
    rw [String.toList_append]
    exact Lexeme.endsWord_blank rfl _
  have word : ofText params (" end " ++ b) = (ofText params b).map (close :: ·) :=
    ofText_keyword .close b
  rw [String.append_assoc, ofText_append h ends, word, others]
  rfl

theorem Statement.ofTokens_append_close {ts us : List Token} {ss more : List Statement}
    (h : ofTokens ts = .ok ss) (others : ofTokens us = .ok more) :
    ofTokens (ts ++ .close :: us) = .ok (ss ++ bare .close .close :: more) := by
  have detached : Detached (.close :: us) := detached_keyword rfl (by decide) us
  have lone : read .close us = .ok (bare .close .close, us) := rfl
  rw [ofTokens_append h detached, ofTokens_cons lone, others]
  rfl

namespace Node

theorem SpelledAll.append {ss more : List Statement} {ns ms : List Node} (h : SpelledAll ss ns)
    (others : SpelledAll more ms) (stop : ∀ s ∈ more.head?, s.kind ≠ .literal) :
    SpelledAll (ss ++ more) (ns ++ ms) := by
  induction h with
  | nil => exact others
  | stray closing _ ih => exact .stray closing ih
  | cons first parted _ ih =>
    rw [List.cons_append, List.append_assoc]
    exact .cons first (parted.append stop) ih

end Node

namespace Compiled

/-- The first template, then the second one with its lists numbered after those of the first. -/
def append (first second : Compiled) : Compiled :=
  let shift := Numbers.shift (Clause.blockCount first.clauses)
  ⟨first.clauses ++ Clause.renumberList shift second.clauses,
    first.steps ++ second.steps.map (Step.renumber shift)⟩

theorem ofNodes_append (ns ms : List Node) :
    ofNodes (ns ++ ms) = (ofNodes ns).append (ofNodes ms) := by
  have free : (Node.numberList (fun _ => 0) ns).2 = fun block =>
      Numbers.shift (Clause.blockCount (Node.numberList (fun _ => 0) ns).1) block 0 :=
    funext (Node.allots_numberList ns _).eq_add_count
  simp only [ofNodes, append]
  rw [Node.numberList_append, free, Node.numberList_shift _ fun _ => 0, Clause.program_append,
    Clause.program_renumber]

theorem ofStatements_append {ss more : List Statement} {first second : Compiled}
    (h : ofStatements ss = .ok first) (others : ofStatements more = .ok second) {e : Statement}
    (closing : e.kind = .close) : ofStatements (ss ++ e :: more) = .ok (first.append second) := by
  obtain ⟨ns, nodes, rfl⟩ := ofStatements_eq_ok_iff.1 h
  obtain ⟨ms, moreNodes, rfl⟩ := ofStatements_eq_ok_iff.1 others
  rw [← ofNodes_append, ofStatements_eq_ok_iff]
  refine ⟨ns ++ ms, ?_, rfl⟩
  rw [Node.ofStatements_eq_ok_iff] at nodes moreNodes ⊢
  have stop : ∀ s ∈ (e :: more).head?, s.kind ≠ .literal := by
    intro s hs
    cases hs
    simp [closing]
  exact ⟨by simp, nodes.2.append (.stray closing moreNodes.2) stop⟩

end Compiled

/-- Two templates that compile can be written one after the other with an "end" between them, and
the lines of the second only change by the numbers of their lists. -/
theorem compile_append_close {params : List Param} {a b : String} {first second : Compiled}
    (ha : compile params a = .ok first) (hb : compile params b = .ok second) :
    compile params (a ++ " end " ++ b) = .ok (first.append second) ∧
      ∀ target, (first.append second).assembly target = first.assembly target ++
        second.steps.map fun s =>
          (s.renumber (Numbers.shift (Clause.blockCount first.clauses))).text target := by
  obtain ⟨ts, ss, tokens, statements, compiled⟩ := compile_eq_ok ha
  obtain ⟨us, more, moreTokens, moreStatements, moreCompiled⟩ := compile_eq_ok hb
  constructor
  · refine except_bind_eq_ok.2 ⟨_, Token.ofText_append_close tokens moreTokens, ?_⟩
    refine except_bind_eq_ok.2 ⟨_, Statement.ofTokens_append_close statements moreStatements, ?_⟩
    exact Compiled.ofStatements_append compiled moreCompiled rfl
  · intro target
    rw [Compiled.assembly, Compiled.append, List.map_append, List.map_map]
    rfl

/-- The second template has a list of a kind that the first has one of, and one of another kind. -/
theorem compile_joined :
    ∃ first second, compile [⟨"A", .bool, false⟩] "if A \"a\" else \"b\" end \"c\"" = .ok first ∧
      compile [⟨"A", .bool, false⟩] "\"d\" where if A \"e\" end end" = .ok second ∧
      compile [⟨"A", .bool, false⟩]
        "if A \"a\" else \"b\" end \"c\" end \"d\" where if A \"e\" end end" =
        .ok (first.append second) ∧
      (first.append second).assembly {} = first.assembly {} ++
        ["", "generateSQL+=\"d\"", "", "whereCond0 := make([]string, 0, 100)",
          "ifCond1 := make([]helper.Cond, 0, 100)",
          "ifCond1 = append(ifCond1, helper.Cond\x7bA, \"e\"\x7d)",
          "whereCond0 = append(whereCond0, helper.IfClause(ifCond1))",
          "generateSQL+=helper.WhereClause(whereCond0)"] := by
  have compilesFirst : (compile [⟨"A", .bool, false⟩] "if A \"a\" else \"b\" end \"c\"").map
      (fun c => (Clause.blockCount c.clauses .choice, Clause.blockCount c.clauses .whereList)) =
      .ok (1, 0) := by cbv
  have compilesSecond : (compile [⟨"A", .bool, false⟩] "\"d\" where if A \"e\" end end").map
      Compiled.steps = .ok [.separate, .accumulate (.one (.pieces ["\"d\""])), .separate,
        .declare ⟨.whereList, 0⟩, .declare ⟨.choice, 0⟩,
        .appendGuarded 0
          (.first ⟨"A", [⟨.keyword .ifOpen, "if", false⟩, ⟨.param .bool, "A", false⟩]⟩)
          (.one (.pieces ["\"e\""])),
        .append .whereList 0 (.one (.read .choice 0)),
        .accumulate (.one (.read .whereList 0))] := by cbv
  obtain ⟨first, ha, counts⟩ := except_map_eq_ok.1 compilesFirst
  obtain ⟨choices, wheres⟩ := Prod.mk.inj counts
  obtain ⟨second, hb, steps⟩ := except_map_eq_ok.1 compilesSecond
  obtain ⟨joined, assembly⟩ := compile_append_close ha hb
  refine ⟨first, second, ha, hb, joined, ?_⟩
  rw [assembly, steps]
  simp only [List.map_cons, List.map_nil, Step.renumber, Payload.map, Operand.map, Numbers.shift,
    ListKind.block, choices, wheres]
  rfl

end QueryTemplate
