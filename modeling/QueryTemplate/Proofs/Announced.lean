import QueryTemplate.Compile
import QueryTemplate.Proofs.ConditionValue
import QueryTemplate.Proofs.Spelling

/-!
Where the conditions of nodes come from. Each is the condition of an if or elseif statement, so
what holds of the conditions of the statements holds of those of the nodes.
-/

namespace QueryTemplate

def Statement.Announces (s : Statement) : Prop :=
  s.kind = .ifOpen ∨ s.kind = .elseIf

namespace Node

variable {P : Condition → Prop}

mutual

def All (P : Condition → Prop) : Node → Prop
  | .text _ => True
  | .choice condition body arms => P condition ∧ AllList P body ∧ AllArms P arms
  | .collection _ body => AllList P body

def AllList (P : Condition → Prop) : List Node → Prop
  | [] => True
  | n :: ns => n.All P ∧ AllList P ns

def AllArms (P : Condition → Prop) : Arms → Prop
  | .close => True
  | .otherwise body => AllList P body
  | .elseIf condition body arms => P condition ∧ AllList P body ∧ AllArms P arms

end

mutual

theorem all_of_spelled {s : Statement} {ss : List Statement} {n : Node} (h : Spelled s ss n)
    (source : ∀ t ∈ s :: ss, t.Announces → P t.condition) : n.All P := by
  match h with
  | .text _ _ => trivial
  | .choice opening _ bodySpelled armsSpelled =>
    simp only [List.forall_mem_cons, List.forall_mem_append] at source
    obtain ⟨own, inBody, inArms⟩ := source
    exact ⟨own (.inl opening), allList_of_spelledBody bodySpelled inBody,
      allArms_of_spelledArms armsSpelled inArms⟩
  | .collection _ itemsSpelled =>
    rw [List.forall_mem_cons] at source
    exact allList_of_spelledItems itemsSpelled source.2

theorem allList_of_spelledBody {bs : List Statement} {ns : List Node} (h : SpelledBody bs ns)
    (source : ∀ t ∈ bs, t.Announces → P t.condition) : AllList P ns := by
  match h with
  | .nil => trivial
  | .cons first _ others =>
    rw [← List.cons_append, List.forall_mem_append] at source
    exact ⟨all_of_spelled first source.1, allList_of_spelledBody others source.2⟩

theorem allArms_of_spelledArms {as : List Statement} {arms : Arms} (h : SpelledArms as arms)
    (source : ∀ t ∈ as, t.Announces → P t.condition) : AllArms P arms := by
  match h with
  | .close _ => trivial
  | .otherwise _ bodySpelled _ =>
    simp only [List.forall_mem_cons, List.forall_mem_append] at source
    exact allList_of_spelledBody bodySpelled source.2.1
  | .elseIf opening _ bodySpelled armsSpelled =>
    simp only [List.forall_mem_cons, List.forall_mem_append] at source
    obtain ⟨own, inBody, inArms⟩ := source
    exact ⟨own (.inr opening), allList_of_spelledBody bodySpelled inBody,
      allArms_of_spelledArms armsSpelled inArms⟩

theorem allList_of_spelledItems {is : List Statement} {ns : List Node} (h : SpelledItems is ns)
    (source : ∀ t ∈ is, t.Announces → P t.condition) : AllList P ns := by
  match h with
  | .close _ => trivial
  | .cons first _ _ others =>
    rw [← List.cons_append, List.forall_mem_append] at source
    exact ⟨all_of_spelled first source.1, allList_of_spelledItems others source.2⟩

end

theorem allList_of_spelledAll {ss : List Statement} {ns : List Node} (h : SpelledAll ss ns)
    (source : ∀ t ∈ ss, t.Announces → P t.condition) : AllList P ns := by
  induction h with
  | nil => trivial
  | stray _ _ ih => exact ih fun t ht => source t (.tail _ ht)
  | cons first _ _ ih =>
    rw [← List.cons_append, List.forall_mem_append] at source
    exact ⟨all_of_spelled first source.1, ih source.2⟩

end Node

namespace Statement

/-- Every token of a statement is one of the template. -/
theorem mem_of_ofTokens {ts : List Token} {ss : List Statement} (h : ofTokens ts = .ok ss) :
    ∀ s ∈ ss, ∀ t ∈ s.tokens, t ∈ ts := by
  fun_induction ofTokens ts generalizing ss with
  | case1 =>
    cases h
    simp
  | case2 => cases h
  | case3 t rest s left found _ ih =>
    obtain ⟨more, others, rfl⟩ := except_map_eq_ok.1 h
    rw [← read_eq_ok found]
    refine List.forall_mem_cons.2 ⟨fun u hu => List.mem_append_left _ hu, ?_⟩
    intro s' hs u hu
    exact List.mem_append_right _ (ih others s' hs u hu)

end Statement

theorem compile_eq_ok {params : List Param} {template : String} {c : Compiled}
    (h : compile params template = .ok c) :
    ∃ ts ss, Token.ofText params template = .ok ts ∧ Statement.ofTokens ts = .ok ss ∧
      Compiled.ofStatements ss = .ok c := by
  obtain ⟨ts, tokens, h⟩ := except_bind_eq_ok.1 h
  obtain ⟨ss, statements, h⟩ := except_bind_eq_ok.1 h
  exact ⟨ts, ss, tokens, statements, h⟩

end QueryTemplate
