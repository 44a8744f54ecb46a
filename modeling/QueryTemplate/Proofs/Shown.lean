import Mathlib
import QueryTemplate.Json.OfCompiled
import QueryTemplate.Proofs.Outline

/-!
What is shown of a template gives its texts away. If the statements of two templates are of the
same kinds, and the clauses of the templates are shown alike, then the literals and conditions are
the same ones.
-/

namespace QueryTemplate

open Outline

/-! ## Clauses that are shown alike -/

namespace Clause

mutual

theorem outline_of_toJson (c d : Clause) (same : c.toJson = d.toJson) :
    c.outline.map Entry.text = d.outline.map Entry.text := by
  match c, d with
  | .sql ps, .sql qs =>
    obtain rfl : ps = qs := by simpa [toJson, List.map_inj_right] using same
    rfl
  | .choice _ _ cs as, .choice _ _ ds bs =>
    simp only [toJson, Json.object.injEq, List.cons.injEq, Prod.mk.injEq, Json.string.injEq,
      Json.array.injEq, true_and, and_true] at same
    obtain ⟨-, text, body, branches⟩ := same
    simp only [outline, Guard.text, List.map_cons, List.map_append, text,
      outlineList_of_listToJson cs ds body, outlineBranches_of_branchesToJson as bs branches]
  | .collection _ _ cs, .collection _ _ ds =>
    simp only [toJson, Json.object.injEq, List.cons.injEq, Prod.mk.injEq, Json.array.injEq,
      true_and, and_true] at same
    simp only [outline, List.map_cons, List.map_append, outlineList_of_listToJson cs ds same.2.2]
  -- The kinds have different numbers of fields.
  | .sql _, .choice .. | .sql _, .collection .. | .choice .., .sql _ | .choice .., .collection ..
  | .collection .., .sql _ | .collection .., .choice .. => simp [toJson] at same

theorem outlineList_of_listToJson (cs ds : List Clause) (same : listToJson cs = listToJson ds) :
    (outlineList cs).map Entry.text = (outlineList ds).map Entry.text := by
  match cs, ds with
  | [], [] => rfl
  | c :: cs, d :: ds =>
    simp only [listToJson, List.cons.injEq] at same
    rw [outlineList, outlineList, List.map_append, List.map_append, outline_of_toJson c d same.1,
      outlineList_of_listToJson cs ds same.2]
  | [], _ :: _ | _ :: _, [] => cases same

theorem outlineBranches_of_branchesToJson (as bs : List Branch)
    (same : branchesToJson as = branchesToJson bs) :
    (outlineBranches as).map Entry.text = (outlineBranches bs).map Entry.text := by
  match as, bs with
  | [], [] => rfl
  | ⟨_, cs⟩ :: as, ⟨_, ds⟩ :: bs =>
    simp only [branchesToJson, branchToJson, List.cons.injEq, Json.object.injEq, Prod.mk.injEq,
      Json.string.injEq, Json.array.injEq, true_and, and_true] at same
    obtain ⟨⟨text, body⟩, others⟩ := same
    simp only [outlineBranches, List.map_cons, List.map_append, text,
      outlineList_of_listToJson cs ds body, outlineBranches_of_branchesToJson as bs others]
  | [], _ :: _ | _ :: _, [] => cases same

end

/-! ## Later branches -/

/-- The test of an entry for an "elseif" excludes other conditions first, so it is not empty. -/
def Excludes (e : Entry) : Prop :=
  e.kind = .elseIf → e.text ≠ ""

theorem excludes_of_guard (g : Guard) : Excludes ⟨g.kind, g.text⟩ := by
  intro later
  cases g with
  | first | otherwise => cases later
  | elseIf prior own => simp [Guard.text, Guard.noneOf]

mutual

theorem excludes_outline (c : Clause) : ∀ e ∈ c.outline, Excludes e := by
  match c with
  | .sql pieces =>
    intro e he
    obtain ⟨piece, -, rfl⟩ := List.mem_map.1 he
    intro later
    cases later
  | .choice _ condition body branches =>
    rw [outline, List.forall_mem_cons, List.forall_mem_append, List.forall_mem_append]
    exact ⟨excludes_of_guard (.first condition),
      ⟨excludes_outlineList body, excludes_outlineBranches branches⟩, by simp [Excludes]⟩
  | .collection kind _ body =>
    rw [outline, List.forall_mem_cons, List.forall_mem_append]
    refine ⟨?_, excludes_outlineList body, by simp [Excludes]⟩
    cases kind <;> simp [Excludes, ListKind.opening]

theorem excludes_outlineList (cs : List Clause) : ∀ e ∈ outlineList cs, Excludes e := by
  match cs with
  | [] => simp [outlineList]
  | c :: cs =>
    rw [outlineList, List.forall_mem_append]
    exact ⟨excludes_outline c, excludes_outlineList cs⟩

theorem excludes_outlineBranches (bs : List Branch) : ∀ e ∈ outlineBranches bs, Excludes e := by
  match bs with
  | [] => simp [outlineBranches]
  | ⟨guard, body⟩ :: bs =>
    rw [outlineBranches, List.forall_mem_cons, List.forall_mem_append]
    exact ⟨excludes_of_guard guard, excludes_outlineList body, excludes_outlineBranches bs⟩

end

end Clause

/-! ## Statements -/

namespace Statement

/-- The statements have the same shape, whatever their texts are. -/
structure Shaped (s t : Statement) : Prop where
  kind : s.kind = t.kind
  disjunction : s.tokens.any Token.isDisjunction = t.tokens.any Token.isDisjunction

/-- Only a literal and a statement that announces a condition have a content. -/
def Told (s t : Statement) : Prop :=
  s.kind = .literal ∨ s.kind = .ifOpen ∨ s.kind = .elseIf → s.content = t.content

theorem content_of_grouped {s t : Statement} (shaped : s.Shaped t) (same : s.grouped = t.grouped) :
    s.content = t.content := by
  rw [grouped, grouped, shaped.disjunction] at same
  split at same
  · simpa using same
  · exact same

/-- The outline has the texts one by one, and the guard of a branch ends in its own condition. -/
theorem told_of_outline {ss tt : List Statement} (shaped : List.Forall₂ Shaped ss tt)
    (around : List Open) (excludes : ∀ e ∈ outline around ss, Clause.Excludes e)
    (same : (outline around ss).map Entry.text = (outline around tt).map Entry.text) :
    List.Forall₂ Told ss tt := by
  induction shaped generalizing around with
  | nil => exact .nil
  | @cons s t ss tt first _ ih =>
    have kind' := first.kind
    cases kind : s.kind with
    | literal =>
      rw [kind] at kind'
      simp only [outline, kind, ← kind', List.map_cons, List.cons.injEq, List.forall_mem_cons]
        at excludes same
      exact .cons (fun _ => same.1) (ih _ excludes.2 same.2)
    | ifOpen =>
      rw [kind] at kind'
      simp only [outline, kind, ← kind', List.map_cons, List.cons.injEq, List.forall_mem_cons]
        at excludes same
      obtain ⟨text, others⟩ := same
      exact .cons (fun _ => text) (ih _ excludes.2 (text ▸ others))
    | whereOpen | setOpen =>
      rw [kind] at kind'
      simp only [outline, kind, ← kind', List.map_cons, List.cons.injEq, List.forall_mem_cons]
        at excludes same
      exact .cons (by simp [Told, kind]) (ih _ excludes.2 same.2)
    | close =>
      rw [kind] at kind'
      refine .cons (by simp [Told, kind]) ?_
      cases around with
      | nil =>
        simp only [outline, kind, ← kind'] at excludes same
        exact ih [] excludes same
      | cons o outer =>
        simp only [outline, kind, ← kind', List.map_cons, List.cons.injEq, List.forall_mem_cons]
          at excludes same
        exact ih outer excludes.2 same.2
    | otherwise =>
      rw [kind] at kind'
      refine .cons (by simp [Told, kind]) ?_
      rcases around with _ | ⟨_ | _, outer⟩ <;>
        simp only [outline, kind, ← kind', List.map_cons, List.cons.injEq, List.forall_mem_cons]
          at excludes same <;>
        exact ih _ excludes.2 same.2
    | elseIf =>
      rw [kind] at kind'
      rcases around with _ | ⟨conditions | _, outer⟩
      -- Outside of all ifs the entry would be empty.
      · simp only [outline, kind, List.forall_mem_cons] at excludes
        exact absurd rfl (excludes.1 rfl)
      · simp only [outline, kind, ← kind', List.map_cons, List.cons.injEq, List.forall_mem_cons,
          String.append_right_inj] at excludes same
        obtain ⟨text, others⟩ := same
        have contents : s.content = t.content := content_of_grouped first text
        exact .cons (fun _ => contents) (ih _ excludes.2 (contents ▸ others))
      · simp only [outline, kind, List.forall_mem_cons] at excludes
        exact absurd rfl (excludes.1 rfl)

end Statement

/-- Templates whose statements have the same shapes are shown alike only if they have the same
literals and conditions. -/
theorem Compiled.told_of_listToJson {ss tt : List Statement} {c d : Compiled}
    (h : ofStatements ss = .ok c) (h' : ofStatements tt = .ok d)
    (shaped : List.Forall₂ Statement.Shaped ss tt)
    (same : Clause.listToJson c.clauses = Clause.listToJson d.clauses) :
    List.Forall₂ Statement.Told ss tt := by
  have outlines := Clause.outlineList_of_listToJson _ _ same
  have excludes := Clause.excludes_outlineList c.clauses
  obtain ⟨ns, read, clauses, -⟩ := ofStatements_eq_ok h
  obtain ⟨ms, read', clauses', -⟩ := ofStatements_eq_ok h'
  have spelled := (Node.ofStatements_eq_ok_iff.1 read).2
  have spelled' := (Node.ofStatements_eq_ok_iff.1 read').2
  rw [clauses, ← Node.outline_spelledAll spelled] at outlines excludes
  rw [clauses', ← Node.outline_spelledAll spelled'] at outlines
  exact Statement.told_of_outline shaped [] excludes outlines

end QueryTemplate
