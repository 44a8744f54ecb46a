import Mathlib
import QueryTemplate.Proofs.Announced
import QueryTemplate.Proofs.Serialization
import QueryTemplate.Proofs.Slots

/-!
The life of a list. The lists of the generated code are values, so what is appended to a list after
a helper has read it is lost. No template has such code: every list is declared, then appended to
any number of times, then read once, and never used again. The proof follows the clauses: once a
clause has been built and referred to, all lists inside it have been read, and while its own list is
filled that one has only been appended to.
-/

namespace QueryTemplate

inductive Use where
  | declare
  | append
  /-- A helper makes query text of the list. -/
  | read
  deriving DecidableEq, Repr

namespace Use

def IsLife (us : List Use) : Prop :=
  ∃ n, us = declare :: (List.replicate n append ++ [read])

end Use

def Operand.uses (x : String) : Operand Nat → List Use
  | pieces _ => []
  | read block index => if block.listName index = x then [.read] else []

def Payload.uses (x : String) : Payload Nat → List Use
  | one operand => operand.uses x
  | all operands => operands.flatMap (Operand.uses x)

namespace Step

/-- What a step does with the list in the variable `x`. A payload is there before it is appended. -/
def uses (x : String) : Step → List Use
  | separate => []
  | declare slot => if slot.name = x then [.declare] else []
  | appendGuarded index _ payload =>
    payload.uses x ++ if BlockKind.choice.listName index = x then [.append] else []
  | append kind index payload =>
    payload.uses x ++ if kind.block.listName index = x then [.append] else []
  | accumulate payload => payload.uses x

/-- What steps do with the list in the variable `x`, in order. -/
def history (x : String) (steps : List Step) : List Use :=
  steps.flatMap (uses x)

theorem history_cons (x : String) (s : Step) (steps : List Step) :
    history x (s :: steps) = s.uses x ++ history x steps :=
  List.flatMap_cons

theorem history_append (x : String) (front back : List Step) :
    history x (front ++ back) = history x front ++ history x back :=
  List.flatMap_append

end Step

/-! ## What the uses look like -/

/-- The expression that refers to an operand: a read names the list whose text the helper makes. -/
def Operand.spelling (target : Target) : Operand Nat → String
  | pieces texts => Text.concatenation texts
  | read .choice index => target.call "IfClause" (BlockKind.choice.listName index)
  | read .whereList index => target.call "WhereClause" (BlockKind.whereList.listName index)
  | read .setList index => target.call "SetClause" (BlockKind.setList.listName index)

def Payload.spelling (target : Target) : Payload Nat → String
  | one operand => operand.spelling target
  | all operands => Text.concatenation (operands.map (Operand.spelling target))

/-- The line of a step: one that declares a list names it in front of ":=", and one that appends
names the list in front of "=" and as what is appended to. -/
def Step.spelling (target : Target) : Step → String
  | separate => ""
  | declare ⟨.choice, index⟩ => target.newGuardedList (BlockKind.choice.listName index)
  | declare ⟨.whereList, index⟩ => target.newList (BlockKind.whereList.listName index)
  | declare ⟨.setList, index⟩ => target.newList (BlockKind.setList.listName index)
  | appendGuarded index guard payload =>
    target.guardedAppend (BlockKind.choice.listName index) guard.text (payload.spelling target)
  | append kind index payload =>
    let name := kind.block.listName index
    name ++ " = append(" ++ name ++ ", " ++ Text.trim (payload.spelling target) ++ ")"
  | accumulate payload => target.accumulator ++ "+=" ++ payload.spelling target

theorem Operand.text_eq_spelling (target : Target) (o : Operand Nat) :
    (o.map BlockKind.listName).text target = o.spelling target := by
  cases o with
  | pieces texts => rfl
  | read block index => cases block <;> rfl

theorem Step.payloadText_eq_spelling (target : Target) (p : Payload Nat) :
    payloadText target p = p.spelling target := by
  cases p with
  | one operand => exact operand.text_eq_spelling target
  | all operands =>
    have each : (fun o : Operand Nat => (o.map BlockKind.listName).text target) =
        Operand.spelling target :=
      funext (Operand.text_eq_spelling target)
    rw [payloadText, Payload.map, Payload.text, List.map_map, Payload.spelling, ← each]
    rfl

theorem Step.text_eq_spelling (target : Target) (s : Step) : s.text target = s.spelling target := by
  cases s with
  | separate => rfl
  | declare slot =>
    obtain ⟨block, index⟩ := slot
    cases block <;> rfl
  | appendGuarded index guard payload | append kind index payload | accumulate payload =>
    rw [spelling, ← payloadText_eq_spelling]
    rfl

/-! ## Histories of several lists -/

section Histories

/-- The named lists have had their lives, and no other list is used. -/
structure Finishes (names : List String) (history : String → List Use) : Prop where
  life : ∀ x ∈ names, Use.IsLife (history x)
  unused : ∀ x ∉ names, history x = []

/-- The named lists have had their lives, and of other lists only that of the owner is used, which
is appended to. -/
structure Fills (owner : String) (names : List String) (history : String → List Use) : Prop where
  appends : ∃ n, history owner = List.replicate n .append
  life : ∀ x ∈ names, Use.IsLife (history x)
  unused : ∀ x ∉ names, x ≠ owner → history x = []

variable {owner : String} {names more : List String} {u v o p : String → List Use}

theorem Finishes.congr (h : Finishes names u) (same : ∀ x, v x = u x) : Finishes names v := by
  rwa [funext same]

theorem Fills.congr (h : Fills owner names u) (same : ∀ x, v x = u x) : Fills owner names v := by
  rwa [funext same]

theorem finishes_nil : Finishes [] fun _ => [] :=
  ⟨by simp, fun _ _ => rfl⟩

theorem fills_nil (owner : String) : Fills owner [] fun _ => [] :=
  ⟨⟨0, rfl⟩, by simp, fun _ _ _ => rfl⟩

/-- Lists may be built one after the other before the first of them is read. -/
theorem Finishes.interleave (h : Finishes names fun x => u x ++ o x)
    (g : Finishes more fun x => v x ++ p x) (disjoint : names.Disjoint more) :
    Finishes (names ++ more) fun x => (u x ++ v x) ++ (o x ++ p x) where
  life x hx := by
    rcases List.mem_append.1 hx with here | there
    · obtain ⟨hv, hp⟩ := List.append_eq_nil_iff.1 (g.unused x (disjoint here))
      simpa [hv, hp] using h.life x here
    · obtain ⟨hu, ho⟩ := List.append_eq_nil_iff.1 (h.unused x fun here => disjoint here there)
      simpa [hu, ho] using g.life x there
  unused x hx := by
    rw [List.mem_append, not_or] at hx
    obtain ⟨hu, ho⟩ := List.append_eq_nil_iff.1 (h.unused x hx.1)
    obtain ⟨hv, hp⟩ := List.append_eq_nil_iff.1 (g.unused x hx.2)
    simp [hu, ho, hv, hp]

theorem Finishes.append (h : Finishes names u) (g : Finishes more v)
    (disjoint : names.Disjoint more) : Finishes (names ++ more) fun x => u x ++ v x := by
  have both := Finishes.interleave (o := fun _ => []) (p := fun _ => [])
    (h.congr fun _ => List.append_nil _) (g.congr fun _ => List.append_nil _) disjoint
  exact both.congr fun _ => (List.append_nil _).symm

theorem Fills.append (h : Fills owner names u) (g : Fills owner more v)
    (disjoint : names.Disjoint more) (own : owner ∉ names ++ more) :
    Fills owner (names ++ more) fun x => u x ++ v x where
  appends := by
    obtain ⟨m, hm⟩ := h.appends
    obtain ⟨n, hn⟩ := g.appends
    exact ⟨m + n, by rw [hm, hn, List.replicate_append_replicate]⟩
  life x hx := by
    have other : x ≠ owner := fun same => own (same ▸ hx)
    rcases List.mem_append.1 hx with here | there
    · simpa [g.unused x (disjoint here) other] using h.life x here
    · simpa [h.unused x (fun here => disjoint here there) other] using g.life x there
  unused x hx other := by
    rw [List.mem_append, not_or] at hx
    rw [h.unused x hx.1 other, g.unused x hx.2 other, List.append_nil]

/-- What has been finished is appended to the list of the owner. -/
theorem Finishes.fills (h : Finishes names u) (own : owner ∉ names) :
    Fills owner names fun x => u x ++ if owner = x then [.append] else [] where
  appends := ⟨1, by simp [h.unused owner own]⟩
  life x hx := by
    have other : owner ≠ x := fun same => own (same ▸ hx)
    simpa [other] using h.life x hx
  unused x hx other := by simp [h.unused x hx, Ne.symm other]

/-- The list of the owner is declared, filled and read. -/
theorem Fills.finishes (h : Fills owner names u) :
    Finishes (owner :: names) fun x =>
      ((if owner = x then [.declare] else []) ++ u x) ++ if owner = x then [.read] else [] where
  life x hx := by
    by_cases same : owner = x
    · subst same
      obtain ⟨n, hn⟩ := h.appends
      exact ⟨n, by simp [hn]⟩
    · simpa [same] using h.life x ((List.mem_cons.1 hx).resolve_left (Ne.symm same))
  unused x hx := by
    rw [List.mem_cons, not_or] at hx
    simp [h.unused x hx.2 hx.1, Ne.symm hx.1]

end Histories

/-! ## Histories of clauses -/

namespace Clause

open Step

def names (cs : List Clause) : List String :=
  (slotsList cs).map Slot.name

theorem names_cons (c : Clause) (cs : List Clause) :
    names (c :: cs) = c.slots.map Slot.name ++ names cs :=
  List.map_append

mutual

theorem finishes_block {c : Clause} (distinct : (c.slots.map Slot.name).Nodup) :
    Finishes (c.slots.map Slot.name) fun x => history x c.block ++ c.operand.uses x := by
  match c with
  | .sql _ => exact finishes_nil
  | .choice index condition body branches =>
    rw [slots, List.map_cons, List.map_append, List.nodup_cons, List.nodup_append'] at distinct
    obtain ⟨own, inBody, inBranches, disjoint⟩ := distinct
    have fresh := not_or.1 (mt List.mem_append.2 own)
    have guarded := fills_guarded (.first condition) inBody fresh.1
    have later := fills_branches inBranches fresh.2
    have built := (guarded.append later disjoint own).finishes
    rw [slots, List.map_cons, List.map_append]
    refine built.congr fun x => ?_
    rw [block, history_cons, history_append]
    rfl
  | .collection kind index body =>
    rw [slots, List.map_cons, List.nodup_cons] at distinct
    obtain ⟨own, inBody⟩ := distinct
    have built := (fills_items kind inBody own).finishes
    rw [slots, List.map_cons]
    refine built.congr fun x => ?_
    rw [block, history_cons]
    rfl

theorem fills_guarded {index : Nat} (guard : Guard) {cs : List Clause} (distinct : (names cs).Nodup)
    (own : BlockKind.choice.listName index ∉ names cs) :
    Fills (BlockKind.choice.listName index) (names cs) fun x =>
      history x (blockGuarded index guard cs) := by
  match cs with
  | [] => exact fills_nil _
  | c :: cs =>
    rw [names_cons] at distinct own ⊢
    obtain ⟨inFirst, inOthers, disjoint⟩ := List.nodup_append'.1 distinct
    have fresh := not_or.1 (mt List.mem_append.2 own)
    have first := (finishes_block inFirst).fills fresh.1
    have others := fills_guarded guard inOthers fresh.2
    refine (first.append others disjoint own).congr fun x => ?_
    rw [blockGuarded, history_append, history_cons]
    simp only [uses, Payload.uses, List.append_assoc]

theorem fills_items (kind : ListKind) {index : Nat} {cs : List Clause} (distinct : (names cs).Nodup)
    (own : kind.block.listName index ∉ names cs) :
    Fills (kind.block.listName index) (names cs) fun x => history x (blockItems kind index cs) := by
  match cs with
  | [] => exact fills_nil _
  | c :: cs =>
    rw [names_cons] at distinct own ⊢
    obtain ⟨inFirst, inOthers, disjoint⟩ := List.nodup_append'.1 distinct
    have fresh := not_or.1 (mt List.mem_append.2 own)
    have first := (finishes_block inFirst).fills fresh.1
    have others := fills_items kind inOthers fresh.2
    refine (first.append others disjoint own).congr fun x => ?_
    rw [blockItems, history_append, history_cons]
    simp only [uses, Payload.uses, List.append_assoc]

/-- The clauses of a later branch are all built before the first of them is referred to. -/
theorem finishes_list {cs : List Clause} (distinct : (names cs).Nodup) :
    Finishes (names cs) fun x =>
      history x (blockList cs) ++ (Payload.all (cs.map operand)).uses x := by
  match cs with
  | [] => exact finishes_nil
  | c :: cs =>
    rw [names_cons] at distinct ⊢
    obtain ⟨inFirst, inOthers, disjoint⟩ := List.nodup_append'.1 distinct
    refine ((finishes_block inFirst).interleave (finishes_list inOthers) disjoint).congr fun x => ?_
    rw [blockList, history_append]
    rfl

theorem fills_branches {index : Nat} {branches : List Branch}
    (distinct : ((slotsBranches branches).map Slot.name).Nodup)
    (own : BlockKind.choice.listName index ∉ (slotsBranches branches).map Slot.name) :
    Fills (BlockKind.choice.listName index) ((slotsBranches branches).map Slot.name) fun x =>
      history x (blockBranches index branches) := by
  match branches with
  | [] => exact fills_nil _
  | ⟨guard, body⟩ :: branches =>
    rw [slotsBranches, List.map_append] at distinct own ⊢
    obtain ⟨inBody, inOthers, disjoint⟩ := List.nodup_append'.1 distinct
    have fresh := not_or.1 (mt List.mem_append.2 own)
    have first := (finishes_list inBody).fills fresh.1
    have others := fills_branches inOthers fresh.2
    refine (first.append others disjoint own).congr fun x => ?_
    rw [blockBranches, history_append, history_cons]
    simp only [uses, List.append_assoc]

end

theorem finishes_program {cs : List Clause} (distinct : (names cs).Nodup) :
    Finishes (names cs) fun x => history x (program cs) := by
  induction cs with
  | nil => exact finishes_nil
  | cons c cs ih =>
    rw [names_cons] at distinct ⊢
    obtain ⟨inFirst, inOthers, disjoint⟩ := List.nodup_append'.1 distinct
    refine ((finishes_block inFirst).append (ih inOthers) disjoint).congr fun x => ?_
    rw [program, history_cons, history_append, history_cons]
    simp only [uses, Payload.uses, List.nil_append, List.append_assoc]

end Clause

/-- The lines of a template are those of its steps, spelled out. The lists of the clauses, at any
depth, are in variables of their own, and the steps use every one of them in one way: they declare
it, append to it any number of times, read it once, and leave it alone before and after. They use
no other list. -/
theorem compile_history {params : List Param} {template : String} {c : Compiled}
    (h : compile params template = .ok c) (target : Target) :
    c.assembly target = c.steps.map (Step.spelling target) ∧
      (Clause.names c.clauses).Nodup ∧
      (∀ s ∈ Clause.slotsList c.clauses, ∃ n,
        Step.history s.name c.steps = .declare :: (List.replicate n .append ++ [.read])) ∧
      ∀ x, (∀ s ∈ Clause.slotsList c.clauses, s.name ≠ x) → Step.history x c.steps = [] := by
  obtain ⟨ts, ss, -, -, h⟩ := compile_eq_ok h
  obtain ⟨ns, -, -, steps⟩ := Compiled.ofStatements_eq_ok h
  have distinct : (Clause.names c.clauses).Nodup := Compiled.nodup_names h
  have finishes := Clause.finishes_program distinct
  rw [← steps] at finishes
  have spelled := List.map_congr_left fun s (_ : s ∈ c.steps) => s.text_eq_spelling target
  refine ⟨spelled, distinct, fun s hs => finishes.life s.name (List.mem_map_of_mem hs), ?_⟩
  intro x unnamed
  apply finishes.unused
  intro named
  obtain ⟨s, hs, name⟩ := List.mem_map.1 named
  exact unnamed s hs name

/-- The lines of a where with an if, whose else has a set between two texts. -/
def nestedSetLines : List String :=
  ["",
    "whereCond0 := make([]string, 0, 100)",
    "ifCond0 := make([]helper.Cond, 0, 100)",
    "ifCond0 = append(ifCond0, helper.Cond\x7bA, \"a\"\x7d)",
    "setCond0 := make([]string, 0, 100)",
    "setCond0 = append(setCond0, \"c\")",
    "ifCond0 = append(ifCond0, helper.Cond\x7b!(A), \"b\"+helper.SetClause(setCond0)+A\x7d)",
    "whereCond0 = append(whereCond0, helper.IfClause(ifCond0))",
    "generateSQL+=helper.WhereClause(whereCond0)"]

theorem history_nestedSet :
    ∃ c, compile [⟨"A", .bool, false⟩]
        "where if A \"a\" else \"b\" set \"c\" end A end end" = .ok c ∧
      c.assembly {} = nestedSetLines ∧
      c.steps.map (Step.spelling {}) = c.assembly {} ∧
      Clause.slotsList c.clauses = [⟨.whereList, 0⟩, ⟨.choice, 0⟩, ⟨.setList, 0⟩] ∧
      Step.history "ifCond0" c.steps = [.declare, .append, .append, .read] ∧
      (∃ n, Step.history "setCond0" c.steps =
        .declare :: (List.replicate n .append ++ [.read])) ∧
      Step.history "setCond1" c.steps = [] := by
  have compiles : (compile [⟨"A", .bool, false⟩]
      "where if A \"a\" else \"b\" set \"c\" end A end end").map
        (fun c => (c.assembly {}, Clause.slotsList c.clauses, Step.history "ifCond0" c.steps)) =
      .ok (nestedSetLines, [⟨.whereList, 0⟩, ⟨.choice, 0⟩, ⟨.setList, 0⟩],
        [.declare, .append, .append, .read]) := by cbv
  obtain ⟨c, h, values⟩ := except_map_eq_ok.1 compiles
  obtain ⟨lines, values⟩ := Prod.mk.inj values
  obtain ⟨slots, ifHistory⟩ := Prod.mk.inj values
  obtain ⟨spelled, -, lives, unused⟩ := compile_history h {}
  rw [slots] at lives unused
  have named : Slot.name ⟨.setList, 0⟩ = "setCond0" := by decide
  refine ⟨c, h, lines, spelled.symm, slots, ifHistory, ?_, unused "setCond1" (by decide)⟩
  rw [← named]
  exact lives _ (by decide)

end QueryTemplate
