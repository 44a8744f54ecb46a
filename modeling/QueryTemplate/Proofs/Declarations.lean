import Mathlib
import QueryTemplate.Proofs.Announced
import QueryTemplate.Proofs.Slots

/-!
The order of the declarations. Clauses are visited one before the other, a clause before the parts
of its body and these before the parts of its later branches. In that order the lists of one kind
have the numbers from zero on, and the code declares all lists in that order, each of them once.
-/

namespace QueryTemplate

/-- The line brings a new list into being. -/
def Line.isDeclaration : Line → Bool
  | declareGuarded _ | declareList _ => true
  | blank | appendGuarded _ _ _ | append _ _ | accumulate _ => false

def Slot.declaration (s : Slot) : Line :=
  match s.block with
  | .choice => .declareGuarded s.name
  | .whereList | .setList => .declareList s.name

/-! ## Numbers in order -/

namespace Numbers

variable {next next' : Numbers} {slots : List Slot}

/-- The lists of one kind have consecutive numbers. -/
theorem Allots.map_index (h : Allots next slots next') (block : BlockKind) :
    (slots.filter fun s => s.block = block).map Slot.index =
      List.range' (next block) (slots.countP fun s => s.block = block) := by
  induction h with
  | nil => rfl
  | @cons next _ b _ _ ih =>
    by_cases same : b = block
    · subst same
      rw [List.filter_cons_of_pos (by simp), List.countP_cons_of_pos (by simp), List.map_cons, ih,
        bump_self, List.range'_succ]
    · rw [List.filter_cons_of_neg (by simpa using same), ih,
        List.countP_cons_of_neg (by simpa using same), bump_of_ne (Ne.symm same)]

theorem Allots.map_name (h : Allots (fun _ => 0) slots next') (block : BlockKind) :
    (slots.filter fun s => s.block = block).map Slot.name =
      (List.range (slots.countP fun s => s.block = block)).map block.listName := by
  have named : ∀ s ∈ slots.filter fun s => s.block = block,
      s.name = block.listName s.index := by
    intro s hs
    have kind : s.block = block := by simpa using (List.mem_filter.1 hs).2
    rw [Slot.name, kind]
  rw [List.map_congr_left named, ← Function.comp_def, ← List.map_map, h.map_index block,
    List.range_eq_range']

end Numbers

/-! ## Declarations in order -/

def Compiled.lines (target : Target) (c : Compiled) : List Line :=
  c.steps.map (Step.line target)

namespace Step

def declared? : Step → Option Slot
  | declare slot => some slot
  | separate | appendGuarded _ _ _ | append _ _ _ | accumulate _ => none

theorem filter_isDeclaration (target : Target) (steps : List Step) :
    (steps.map (line target)).filter Line.isDeclaration =
      (steps.filterMap declared?).map Slot.declaration := by
  induction steps with
  | nil => rfl
  | cons s steps ih =>
    rw [List.map_cons]
    cases s with
    | declare slot =>
      obtain ⟨block, index⟩ := slot
      have declares : (declare ⟨block, index⟩).line target = Slot.declaration ⟨block, index⟩ := by
        cases block <;> rfl
      have declaration : (Slot.declaration ⟨block, index⟩).isDeclaration = true := by
        cases block <;> rfl
      rw [declares, List.filter_cons_of_pos declaration, ih]
      rfl
    | separate | appendGuarded | append | accumulate => exact ih

end Step

namespace Clause

mutual

theorem declared_block (c : Clause) : c.block.filterMap Step.declared? = c.slots := by
  match c with
  | .sql _ => rfl
  | .choice index condition body branches =>
    rw [block, slots, List.filterMap_cons, List.filterMap_append, declared_guarded,
      declared_branches]
    rfl
  | .collection kind index body =>
    rw [block, slots, List.filterMap_cons, declared_items]
    rfl

theorem declared_guarded (index : Nat) (guard : Guard) (cs : List Clause) :
    (blockGuarded index guard cs).filterMap Step.declared? = slotsList cs := by
  match cs with
  | [] => rfl
  | c :: cs =>
    rw [blockGuarded, slotsList, List.filterMap_append, List.filterMap_cons_none rfl,
      declared_block c, declared_guarded index guard cs]

theorem declared_items (kind : ListKind) (index : Nat) (cs : List Clause) :
    (blockItems kind index cs).filterMap Step.declared? = slotsList cs := by
  match cs with
  | [] => rfl
  | c :: cs =>
    rw [blockItems, slotsList, List.filterMap_append, List.filterMap_cons_none rfl,
      declared_block c, declared_items kind index cs]

theorem declared_list (cs : List Clause) :
    (blockList cs).filterMap Step.declared? = slotsList cs := by
  match cs with
  | [] => rfl
  | c :: cs => rw [blockList, slotsList, List.filterMap_append, declared_block c, declared_list cs]

theorem declared_branches (index : Nat) (branches : List Branch) :
    (blockBranches index branches).filterMap Step.declared? = slotsBranches branches := by
  match branches with
  | [] => rfl
  | ⟨guard, body⟩ :: branches =>
    rw [blockBranches, slotsBranches, List.filterMap_append, List.filterMap_cons_none rfl,
      declared_list body, declared_branches index branches]

end

theorem declared_program (cs : List Clause) :
    (program cs).filterMap Step.declared? = slotsList cs := by
  induction cs with
  | nil => rfl
  | cons c cs ih =>
    rw [program, slotsList, List.filterMap_cons_none rfl, List.filterMap_append,
      List.filterMap_cons_none rfl, declared_block, ih]

end Clause

/-- In the order of the clauses, the lists of every kind are named by the numbers from zero to the
last one, and the lines that declare a list declare all lists in that order. -/
theorem compile_declarations {params : List Param} {template : String} {c : Compiled}
    (h : compile params template = .ok c) (target : Target) :
    (∀ block, ((Clause.slotsList c.clauses).filter fun s => s.block = block).map Slot.name =
        (List.range (Clause.blockCount c.clauses block)).map block.listName) ∧
      c.assembly target = (c.lines target).map (Line.text target) ∧
      (c.lines target).filter Line.isDeclaration =
        (Clause.slotsList c.clauses).map Slot.declaration := by
  obtain ⟨ts, ss, -, -, h⟩ := compile_eq_ok h
  obtain ⟨ns, -, clauses, steps⟩ := Compiled.ofStatements_eq_ok h
  refine ⟨?_, ?_, ?_⟩
  · intro block
    rw [clauses]
    exact (Node.allots_numberList ns _).map_name block
  · rw [Compiled.assembly, Compiled.lines, List.map_map]
    rfl
  · rw [Compiled.lines, Step.filter_isDeclaration, steps, Clause.declared_program]

/-- An if with a where in its else, then a set with an if of its own. -/
theorem declarations_nestedBranches :
    ∃ c, compile [⟨"A", .bool, false⟩]
        "if A \"a\" else where if A \"b\" end end set \"c\" end end set if A \"d\" end end" =
          .ok c ∧
      ((Clause.slotsList c.clauses).filter fun s => s.block = .choice).map Slot.name =
        ["ifCond0", "ifCond1", "ifCond2"] ∧
      ((c.lines {}).filter Line.isDeclaration).map (Line.text {}) =
        ["ifCond0 := make([]helper.Cond, 0, 100)", "whereCond0 := make([]string, 0, 100)",
          "ifCond1 := make([]helper.Cond, 0, 100)", "setCond0 := make([]string, 0, 100)",
          "setCond1 := make([]string, 0, 100)", "ifCond2 := make([]helper.Cond, 0, 100)"] := by
  have compiles : (compile [⟨"A", .bool, false⟩]
      "if A \"a\" else where if A \"b\" end end set \"c\" end end set if A \"d\" end end").map
        (fun c => Clause.slotsList c.clauses) =
      .ok [⟨.choice, 0⟩, ⟨.whereList, 0⟩, ⟨.choice, 1⟩, ⟨.setList, 0⟩, ⟨.setList, 1⟩,
        ⟨.choice, 2⟩] := by cbv
  obtain ⟨c, h, slots⟩ := except_map_eq_ok.1 compiles
  obtain ⟨names, -, declarations⟩ := compile_declarations h {}
  refine ⟨c, h, ?_, ?_⟩
  · rw [names .choice, Clause.blockCount, slots]
    rfl
  · rw [declarations, slots]
    rfl

end QueryTemplate
