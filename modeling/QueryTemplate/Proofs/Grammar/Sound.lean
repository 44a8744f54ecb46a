import QueryTemplate.Proofs.Grammar
import QueryTemplate.Proofs.Spelling

/-!
Statements that spell nodes match the grammar, and the types fit in every condition among them.
-/

namespace QueryTemplate

namespace Grammar

/-- What the statements of a node match. A text is a run of literals. -/
def nodeForm : Node → Form
  | .text _ => .many (.kind .literal)
  | .choice .. => .rule .ifBlock
  | .collection .whereList _ => .rule .whereBlock
  | .collection .setList _ => .rule .setBlock

/-- The branches after the first one and the "end". -/
def armsForm : Form :=
  .seq (.many (.branch .elseIf)) (.seq (.optional (.branch .otherwise)) (.kind .close))

open Form

variable {n : Node} {ss : List Statement}

theorem covers_child_of_nodeForm (h : (nodeForm n).Covers ss) : (many .child).Covers ss := by
  match n with
  | .text _ => exact h.many_mono fun _ h => covers_either.2 (.inl h)
  | .choice .. => exact .many_single (.right (.left h))
  | .collection .whereList _ => exact .many_single (.right (.right (.left h)))
  | .collection .setList _ => exact .many_single (.right (.right (.right h)))

theorem covers_item_of_nodeForm (item : n.IsItem) (h : (nodeForm n).Covers ss) :
    (many .item).Covers ss := by
  match n with
  | .text _ => exact h.many_mono fun _ h => covers_either.2 (.inl h)
  | .choice .. => exact .many_single (.right h)

mutual

theorem covers_of_spelled {s : Statement} {ss : List Statement} {n : Node}
    (h : Node.Spelled s ss n) : (nodeForm n).Covers (s :: ss) := by
  match h with
  | .text first others => exact covers_many_kind (by simpa using ⟨first, others⟩)
  | .choice opening _ bodySpelled armsSpelled =>
    have body := covers_of_spelledBody bodySpelled
    have arms := covers_of_spelledArms armsSpelled
    refine covers_rule.2 (covers_kind_seq.2 ⟨s, _, rfl, opening, ?_⟩)
    exact covers_seq.2 ⟨_, _, rfl, body, arms⟩
  | @Node.Spelled.collection _ _ block _ opening itemsSpelled =>
    have items := covers_of_spelledItems itemsSpelled
    cases block with
    | whereList => exact covers_rule.2 (covers_kind_seq.2 ⟨s, _, rfl, opening, items⟩)
    | setList => exact covers_rule.2 (covers_kind_seq.2 ⟨s, _, rfl, opening, items⟩)

theorem covers_of_spelledBody {bs : List Statement} {ns : List Node}
    (h : Node.SpelledBody bs ns) : (many (.rule .child)).Covers bs := by
  match h with
  | .nil => exact .none
  | .cons (s := s) first _ others =>
    have node := covers_child_of_nodeForm (covers_of_spelled first)
    have more := covers_of_spelledBody others
    exact (node.many_mono fun _ => (covers_rule (r := .child)).2).many_append more

theorem covers_of_spelledArms {as : List Statement} {arms : Arms}
    (h : Node.SpelledArms as arms) : armsForm.Covers as := by
  match h with
  | .close closing =>
    exact covers_seq.2 ⟨[], _, rfl, .none,
      covers_seq.2 ⟨[], _, rfl, .absent, covers_kind.2 ⟨_, rfl, closing⟩⟩⟩
  | .otherwise (s := s) (e := e) opening bodySpelled closing =>
    have body := covers_of_spelledBody bodySpelled
    have last : (branch .otherwise).Covers (s :: _) :=
      covers_kind_seq.2 ⟨s, _, rfl, opening, body⟩
    exact covers_seq.2 ⟨[], _, rfl, .none,
      covers_seq.2 ⟨_, [e], by simp, .present last, covers_kind.2 ⟨e, rfl, closing⟩⟩⟩
  | .elseIf (s := s) opening _ bodySpelled armsSpelled =>
    have body := covers_of_spelledBody bodySpelled
    have first : (branch .elseIf).Covers (s :: _) :=
      covers_kind_seq.2 ⟨s, _, rfl, opening, body⟩
    obtain ⟨branches, rest, rfl, others, last⟩ := covers_seq.1 (covers_of_spelledArms armsSpelled)
    exact covers_seq.2 ⟨_, rest, by simp, first.many_single.many_append others, last⟩

theorem covers_of_spelledItems {is : List Statement} {ns : List Node}
    (h : Node.SpelledItems is ns) : (Form.seq (many .item) (kind .close)).Covers is := by
  match h with
  | .close closing => exact covers_seq.2 ⟨[], _, rfl, .none, covers_kind.2 ⟨_, rfl, closing⟩⟩
  | .cons first item _ others =>
    have node := covers_item_of_nodeForm item (covers_of_spelled first)
    obtain ⟨items, rest, rfl, more, closing⟩ := covers_seq.1 (covers_of_spelledItems others)
    exact covers_seq.2 ⟨_, rest, by simp, node.many_append more, closing⟩

end

/-! ## Conditions that pass -/

/-- Every condition that the statements announce has fitting types. -/
def Checked (ss : List Statement) : Prop :=
  ∀ s ∈ ss, s.kind = .ifOpen ∨ s.kind = .elseIf → s.condition.check = .ok ()

theorem checked_nil : Checked [] :=
  fun _ h => nomatch h

theorem checked_append {ss ts : List Statement} :
    Checked (ss ++ ts) ↔ Checked ss ∧ Checked ts :=
  List.forall_mem_append

theorem checked_cons {s : Statement} {ss : List Statement} :
    Checked (s :: ss) ↔
      (s.kind = .ifOpen ∨ s.kind = .elseIf → s.condition.check = .ok ()) ∧ Checked ss :=
  List.forall_mem_cons

theorem Checked.of_mem_flatten {parts : List (List Statement)} {part : List Statement}
    (h : Checked parts.flatten) (hp : part ∈ parts) : Checked part :=
  fun s hs => h s (List.mem_flatten.2 ⟨part, hp, hs⟩)

mutual

theorem checked_of_spelled {s : Statement} {ss : List Statement} {n : Node}
    (h : Node.Spelled s ss n) : Checked (s :: ss) := by
  match h with
  | .text first others =>
    intro t ht guarded
    rw [List.mem_cons] at ht
    have literal : t.kind = .literal := ht.elim (fun e => e ▸ first) (others t)
    simp [literal] at guarded
  | .choice _ check bodySpelled armsSpelled =>
    have body := checked_of_spelledBody bodySpelled
    have arms := checked_of_spelledArms armsSpelled
    exact checked_cons.2 ⟨fun _ => check, checked_append.2 ⟨body, arms⟩⟩
  | @Node.Spelled.collection _ _ block _ opening itemsSpelled =>
    refine checked_cons.2 ⟨fun guarded => ?_, checked_of_spelledItems itemsSpelled⟩
    cases block <;> simp [opening, ListKind.opening] at guarded

theorem checked_of_spelledBody {bs : List Statement} {ns : List Node}
    (h : Node.SpelledBody bs ns) : Checked bs := by
  match h with
  | .nil => exact checked_nil
  | .cons first _ others =>
    have node := checked_of_spelled first
    have more := checked_of_spelledBody others
    exact checked_append.2 ⟨node, more⟩

theorem checked_of_spelledArms {as : List Statement} {arms : Arms}
    (h : Node.SpelledArms as arms) : Checked as := by
  match h with
  | .close closing => exact checked_cons.2 ⟨by simp [closing], checked_nil⟩
  | .otherwise (e := e) opening bodySpelled closing =>
    have body := checked_of_spelledBody bodySpelled
    have last : Checked [e] := checked_cons.2 ⟨by simp [closing], checked_nil⟩
    exact checked_cons.2 ⟨by simp [opening], checked_append.2 ⟨body, last⟩⟩
  | .elseIf _ check bodySpelled armsSpelled =>
    have body := checked_of_spelledBody bodySpelled
    have arms := checked_of_spelledArms armsSpelled
    exact checked_cons.2 ⟨fun _ => check, checked_append.2 ⟨body, arms⟩⟩

theorem checked_of_spelledItems {is : List Statement} {ns : List Node}
    (h : Node.SpelledItems is ns) : Checked is := by
  match h with
  | .close closing => exact checked_cons.2 ⟨by simp [closing], checked_nil⟩
  | .cons first _ _ others =>
    have node := checked_of_spelled first
    have more := checked_of_spelledItems others
    exact checked_append.2 ⟨node, more⟩

end

/-! ## Templates -/

theorem covers_of_spelledAll {ss : List Statement} {ns : List Node} (h : Node.SpelledAll ss ns) :
    (rule .program).Covers ss := by
  apply covers_rule.2
  induction h with
  | nil => exact .none
  | stray closing _ ih =>
    have stray : (either (kind .close) .child).Covers [_] :=
      covers_either.2 (.inl (covers_kind.2 ⟨_, rfl, closing⟩))
    exact stray.many_single.many_append ih
  | cons first _ _ ih =>
    have node := covers_child_of_nodeForm (covers_of_spelled first)
    exact (node.many_mono fun _ h => covers_either.2 (.inr h)).many_append ih

theorem checked_of_spelledAll {ss : List Statement} {ns : List Node} (h : Node.SpelledAll ss ns) :
    Checked ss := by
  induction h with
  | nil => exact checked_nil
  | stray closing _ ih => exact checked_cons.2 ⟨fun guarded => by simp [closing] at guarded, ih⟩
  | cons first _ _ ih => exact checked_append.2 ⟨checked_of_spelled first, ih⟩

end Grammar

end QueryTemplate
