import Mathlib
import QueryTemplate.Proofs.Announced
import QueryTemplate.Proofs.Machine.Leads
import QueryTemplate.Proofs.Spelling.Complete

/-!
Running the steps of a template. The structured reading of its nodes takes the first branch of an
if whose condition holds. The steps of the template run to the end and accumulate that reading,
because a list is declared under a number that is not in use yet, and what has been built is not
touched any more.
-/

namespace QueryTemplate

namespace Node

mutual

def meaning (rt : Runtime) : Node → String
  | .text pieces => String.join (pieces.map rt.piece)
  | .choice condition body arms =>
    if condition.holds rt.atom then String.join (meanings rt body) else armsMeaning rt arms
  | .collection kind body => rt.collect kind (meanings rt body)

def meanings (rt : Runtime) : List Node → List String
  | [] => []
  | n :: ns => n.meaning rt :: meanings rt ns

/-- What the later branches of an if contribute where the earlier ones do not. -/
def armsMeaning (rt : Runtime) : Arms → String
  | .close => ""
  | .otherwise body => String.join (meanings rt body)
  | .elseIf condition body arms =>
    if condition.holds rt.atom then String.join (meanings rt body) else armsMeaning rt arms

end

end Node

/-- The condition is chained, and its logical operators are the two there are. -/
def Condition.Legible (c : Condition) : Prop :=
  c.Chained ∧ ∀ t ∈ c.tokens, t.Worded

namespace Runtime

/-- What parts that are appended one by one under a guard contribute, with those that follow. -/
theorem choose_append (rt : Runtime) (b : Bool) (texts : List String)
    (more : List (Bool × String)) :
    rt.choose (texts.map (b, ·) ++ more) =
      (if b then String.join texts else "") ++
        String.join ((more.filter Prod.fst).map Prod.snd) := by
  rw [rt.choose_eq, List.filter_append, List.map_append, String.join_append, List.filter_map]
  cases b <;> simp [Function.comp_def]

end Runtime

namespace Node

open Machine

variable {rt : Runtime}

mutual

theorem run_number {n : Node} (legible : n.All Condition.Legible) {next : Numbers} {m : Machine}
    (fresh : m.Fresh next) :
    ∃ m', m.run rt (n.number next).1.block = some m' ∧ Leads none next (n.number next).2 m m' ∧
      Shows rt m' (n.number next).2 (n.number next).1.operand (n.meaning rt) := by
  match n with
  | .text pieces => exact ⟨m, rfl, .refl _ fresh, nofun, rfl⟩
  | .choice condition body arms =>
    obtain ⟨own, inBody, inArms⟩ := legible
    have value := Guard.value?_eq (g := .first condition) own.1
      (List.forall_mem_singleton.2 own.2) rt.atom
    have inUse : next .choice < next.bump .choice .choice := by simp [Numbers.bump_self]
    have fresh₁ := fresh.declare .choice (.empty .choice)
    obtain ⟨m₂, run₂, leads₂, list₂⟩ := run_guarded inBody value fresh₁ inUse (held_put_self ..)
    have priors : ∀ c ∈ [condition], c.Legible := List.forall_mem_singleton.2 own
    obtain ⟨m₃, more, run₃, leads₃, list₃, others⟩ := run_arms inArms (List.cons_ne_nil _ _) priors
      leads₂.fresh (Nat.lt_of_lt_of_le inUse (leads₂.le _)) list₂
    have inUse₃ := Nat.lt_of_lt_of_le inUse ((leads₂.trans leads₃).le .choice)
    refine ⟨m₃, ?_, Leads.of_declare (leads₂.trans leads₃), ?_⟩
    · simp only [number, Clause.block]
      rw [run, step_declare fresh, Option.bind_some, run_append, run₂]
      exact run₃
    · have chosen : meaning rt (.choice condition body arms) = rt.choose
          ((meanings rt body).map ((Guard.first condition).holds rt.atom, ·) ++ more) := by
        rw [rt.choose_append, others, meaning]
        cases holds : condition.holds rt.atom <;> simp [Guard.holds, holds]
      rw [chosen]
      exact shows_choice inUse₃ list₃
  | .collection kind body =>
    have inUse : next kind.block < next.bump kind.block kind.block := by simp [Numbers.bump_self]
    have fresh₁ := fresh.declare kind.block (.empty kind.block)
    have new : Collected.empty kind.block = .plain [] := by cases kind <;> rfl
    rw [new] at fresh₁
    obtain ⟨m₂, run₂, leads₂, list₂⟩ := run_items legible fresh₁ inUse (held_put_self ..)
    refine ⟨m₂, ?_, Leads.of_declare leads₂, ?_⟩
    · simp only [number, Clause.block]
      rw [run, step_declare fresh, Option.bind_some, new]
      exact run₂
    · exact shows_collection (Nat.lt_of_lt_of_le inUse (leads₂.le _)) list₂

/-- Every node is appended under the guard, its value with it. -/
theorem run_guarded {ns : List Node} (legible : AllList Condition.Legible ns) {index : Nat}
    {guard : Guard} {b : Bool} (value : guard.value? rt.atom = some b) {next : Numbers}
    {m : Machine} (fresh : m.Fresh next) (inUse : index < next .choice)
    {parts : List (Bool × String)} (list : m.held ⟨.choice, index⟩ = some (.guarded parts)) :
    ∃ m', m.run rt (Clause.blockGuarded index guard (numberList next ns).1) = some m' ∧
      Leads (some ⟨.choice, index⟩) next (numberList next ns).2 m m' ∧
      m'.held ⟨.choice, index⟩ = some (.guarded (parts ++ (meanings rt ns).map (b, ·))) := by
  match ns with
  | [] => exact ⟨m, rfl, .refl _ fresh, by simpa [meanings] using list⟩
  | n :: ns =>
    obtain ⟨m₁, run₁, leads₁, shows⟩ := run_number legible.1 fresh
    have kept := (leads₁.kept ⟨.choice, index⟩ inUse nofun).trans list
    have inUse₁ := Nat.lt_of_lt_of_le inUse (leads₁.le .choice)
    have leads₂ := Leads.put (s := ⟨.choice, index⟩) leads₁.fresh inUse₁
      (.guarded (parts ++ [(b, n.meaning rt)]))
    obtain ⟨m₃, run₃, leads₃, list₃⟩ := run_guarded legible.2 value leads₂.fresh inUse₁
      (held_put_self ..)
    refine ⟨m₃, ?_, ((leads₁.weaken _).trans leads₂).trans leads₃, by simpa [meanings] using list₃⟩
    simp only [numberList, Clause.blockGuarded]
    rw [run_append, run₁, Option.bind_some, run, step_appendGuarded value (payload_one shows) kept]
    exact run₃

theorem run_items {ns : List Node} (legible : AllList Condition.Legible ns) {kind : ListKind}
    {index : Nat} {next : Numbers} {m : Machine} (fresh : m.Fresh next)
    (inUse : index < next kind.block) {parts : List String}
    (list : m.held ⟨kind.block, index⟩ = some (.plain parts)) :
    ∃ m', m.run rt (Clause.blockItems kind index (numberList next ns).1) = some m' ∧
      Leads (some ⟨kind.block, index⟩) next (numberList next ns).2 m m' ∧
      m'.held ⟨kind.block, index⟩ = some (.plain (parts ++ meanings rt ns)) := by
  match ns with
  | [] => exact ⟨m, rfl, .refl _ fresh, by simpa [meanings] using list⟩
  | n :: ns =>
    obtain ⟨m₁, run₁, leads₁, shows⟩ := run_number legible.1 fresh
    have kept := (leads₁.kept ⟨kind.block, index⟩ inUse nofun).trans list
    have inUse₁ := Nat.lt_of_lt_of_le inUse (leads₁.le kind.block)
    have leads₂ := Leads.put (s := ⟨kind.block, index⟩) leads₁.fresh inUse₁
      (.plain (parts ++ [n.meaning rt]))
    obtain ⟨m₃, run₃, leads₃, list₃⟩ := run_items legible.2 leads₂.fresh inUse₁ (held_put_self ..)
    refine ⟨m₃, ?_, ((leads₁.weaken _).trans leads₂).trans leads₃, by simpa [meanings] using list₃⟩
    simp only [numberList, Clause.blockItems]
    rw [run_append, run₁, Option.bind_some, run, step_append (payload_one shows) kept]
    exact run₃

theorem run_list {ns : List Node} (legible : AllList Condition.Legible ns) {next : Numbers}
    {m : Machine} (fresh : m.Fresh next) :
    ∃ m', m.run rt (Clause.blockList (numberList next ns).1) = some m' ∧
      Leads none next (numberList next ns).2 m m' ∧
      List.Forall₂ (Shows rt m' (numberList next ns).2)
        ((numberList next ns).1.map Clause.operand) (meanings rt ns) := by
  match ns with
  | [] => exact ⟨m, rfl, .refl _ fresh, .nil⟩
  | n :: ns =>
    obtain ⟨m₁, run₁, leads₁, shows⟩ := run_number legible.1 fresh
    obtain ⟨m₂, run₂, leads₂, others⟩ := run_list legible.2 leads₁.fresh
    refine ⟨m₂, ?_, leads₁.trans leads₂, .cons (shows.leads leads₂) others⟩
    simp only [numberList, Clause.blockList]
    rw [run_append, run₁]
    exact run₂

/-- At most one of the later branches contributes, and none does if a prior condition holds. -/
theorem run_arms {arms : Arms} (legible : AllArms Condition.Legible arms) {index : Nat}
    {prior : List Condition} (nonempty : prior ≠ []) (priors : ∀ c ∈ prior, c.Legible)
    {next : Numbers} {m : Machine} (fresh : m.Fresh next) (inUse : index < next .choice)
    {parts : List (Bool × String)} (list : m.held ⟨.choice, index⟩ = some (.guarded parts)) :
    ∃ m' more, m.run rt (Clause.blockBranches index (numberArms next prior arms).1) = some m' ∧
      Leads (some ⟨.choice, index⟩) next (numberArms next prior arms).2 m m' ∧
      m'.held ⟨.choice, index⟩ = some (.guarded (parts ++ more)) ∧
      String.join ((more.filter Prod.fst).map Prod.snd) =
        if prior.any (Condition.holds rt.atom) then "" else armsMeaning rt arms := by
  match arms with
  | .close =>
    exact ⟨m, [], rfl, .refl _ fresh, by simpa using list, by simp [armsMeaning]⟩
  | .otherwise body =>
    have value := Guard.value?_eq (g := .otherwise prior) ⟨nonempty, fun c hc => (priors c hc).1⟩
      (fun c hc => (priors c hc).2) rt.atom
    obtain ⟨m₁, run₁, leads₁, shows⟩ := run_list legible fresh
    have kept := (leads₁.kept ⟨.choice, index⟩ inUse nofun).trans list
    have inUse₁ := Nat.lt_of_lt_of_le inUse (leads₁.le .choice)
    have leads₂ := Leads.put (s := ⟨.choice, index⟩) leads₁.fresh inUse₁ (.guarded (parts ++
      [((Guard.otherwise prior).holds rt.atom, String.join (meanings rt body))]))
    refine ⟨_, _, ?_, (leads₁.weaken _).trans leads₂, held_put_self .., ?_⟩
    · simp only [numberArms, Clause.blockBranches]
      rw [run_append, run₁, Option.bind_some, run,
        step_appendGuarded value (payload_all shows) kept]
      rfl
    · simp only [Guard.holds, armsMeaning]
      cases prior.any (Condition.holds rt.atom) <;> simp
  | .elseIf condition body arms =>
    obtain ⟨own, inBody, inArms⟩ := legible
    have both : ∀ c ∈ prior ++ [condition], c.Legible := by
      rw [List.forall_mem_append, List.forall_mem_singleton]
      exact ⟨priors, own⟩
    have value := Guard.value?_eq (g := .elseIf prior condition)
      ⟨nonempty, fun c hc => (priors c hc).1, own.1⟩ (fun c hc => (both c hc).2) rt.atom
    obtain ⟨m₁, run₁, leads₁, shows⟩ := run_list inBody fresh
    have kept := (leads₁.kept ⟨.choice, index⟩ inUse nofun).trans list
    have inUse₁ := Nat.lt_of_lt_of_le inUse (leads₁.le .choice)
    have leads₂ := Leads.put (s := ⟨.choice, index⟩) leads₁.fresh inUse₁ (.guarded (parts ++
      [((Guard.elseIf prior condition).holds rt.atom, String.join (meanings rt body))]))
    obtain ⟨m₃, more, run₃, leads₃, list₃, others⟩ := run_arms inArms (by simp) both leads₂.fresh
      inUse₁ (held_put_self ..)
    refine ⟨m₃, _ :: more, ?_, ((leads₁.weaken _).trans leads₂).trans leads₃,
      by simpa using list₃, ?_⟩
    · simp only [numberArms, Clause.blockBranches]
      rw [run_append, run₁, Option.bind_some, run,
        step_appendGuarded value (payload_all shows) kept]
      exact run₃
    · rw [List.any_append] at others
      simp only [armsMeaning]
      cases earlier : prior.any (Condition.holds rt.atom) <;>
        cases holds : condition.holds rt.atom <;>
        simp_all [Guard.holds]

end

/-- The steps of the top level accumulate what its nodes contribute, one after the other. -/
theorem run_program {ns : List Node} (legible : AllList Condition.Legible ns) {next : Numbers}
    {m : Machine} (fresh : m.Fresh next) :
    ∃ m', m.run rt (Clause.program (numberList next ns).1) = some m' ∧
      m'.query = m.query ++ String.join (meanings rt ns) := by
  induction ns generalizing next m with
  | nil => exact ⟨m, rfl, by simp [meanings]⟩
  | cons n ns ih =>
    obtain ⟨m₁, run₁, leads₁, shows⟩ := run_number legible.1 fresh
    have fresh₂ : Fresh { m₁ with query := m₁.query ++ n.meaning rt } (n.number next).2 :=
      leads₁.fresh
    obtain ⟨m₃, run₃, query₃⟩ := ih legible.2 fresh₂
    refine ⟨m₃, ?_, ?_⟩
    · simp only [numberList, Clause.program]
      rw [run, step, Option.bind_some, run_append, run₁, Option.bind_some, run,
        step_accumulate (payload_one shows)]
      exact run₃
    · rw [query₃, leads₁.query, meanings, String.join_cons, String.append_assoc]

end Node

/-- The lines of a template are the texts of steps that run to the end, whatever the atoms, the
pieces and the helpers for where and set are. They leave the structured reading of the template in
the query: what its nodes contribute, of which its statements are the spelling. -/
theorem compile_run {params : List Param} {template : String} {c : Compiled}
    (h : compile params template = .ok c) (target : Target) (rt : Runtime) :
    ∃ ts ss ns m, Token.ofText params template = .ok ts ∧ Statement.ofTokens ts = .ok ss ∧
      Node.SpelledAll ss ns ∧ c.assembly target = c.steps.map (Step.text target) ∧
      Machine.run rt {} c.steps = some m ∧ m.query = String.join (Node.meanings rt ns) := by
  obtain ⟨ts, ss, tokens, statements, h⟩ := compile_eq_ok h
  obtain ⟨ns, read, clauses, steps⟩ := Compiled.ofStatements_eq_ok h
  have worded := Token.worded_ofText tokens
  have spelled := (Node.ofStatements_eq_ok_iff.1 read).2
  have legible : ∀ s ∈ ss, s.Announces → s.condition.Legible := fun s hs announces =>
    ⟨Statement.chained_of_ofTokens statements s hs announces,
      fun t ht => worded t (Statement.mem_of_ofTokens statements s hs t ht)⟩
  have fresh : Machine.Fresh {} fun _ => 0 := fun _ _ => rfl
  obtain ⟨m, run, query⟩ :=
    Node.run_program (Node.allList_of_spelledAll spelled legible) fresh
  refine ⟨ts, ss, ns, m, tokens, statements, spelled, rfl, ?_, ?_⟩
  · rw [steps, clauses, run]
  · rw [query, String.empty_append]

/-- Pieces are taken as they are, the operand "B" is true and nothing else is, and the helpers for
where and set put a word in front. -/
def Runtime.sample : Runtime where
  atom a := a = .bare "B"
  piece text := text
  choose parts := String.join ((parts.filter Prod.fst).map Prod.snd)
  collect kind parts := kind.block.word ++ " " ++ String.join parts
  choose_eq _ := rfl

def nestedTemplate : String :=
  "where if A > 1 \"a\" elseif A == 2 || B if A == 3 \"b\" else \"c\" end else \"d\" end end A"

def nestedParams : List Param :=
  [⟨"A", .int, false⟩, ⟨"B", .bool, false⟩]

/-- The lines that stand for the steps of this template. -/
def nestedLines : List String :=
  ["",
    "whereCond0 := make([]string, 0, 100)",
    "ifCond0 := make([]helper.Cond, 0, 100)",
    "ifCond0 = append(ifCond0, helper.Cond\x7bA > 1, \"a\"\x7d)",
    "ifCond1 := make([]helper.Cond, 0, 100)",
    "ifCond1 = append(ifCond1, helper.Cond\x7bA == 3, \"b\"\x7d)",
    "ifCond1 = append(ifCond1, helper.Cond\x7b!(A == 3), \"c\"\x7d)",
    "ifCond0 = append(ifCond0, helper.Cond\x7b!(A > 1) && (A == 2 || B), " ++
      "helper.IfClause(ifCond1)\x7d)",
    "ifCond0 = append(ifCond0, helper.Cond\x7b!(A > 1 || A == 2 || B), \"d\"\x7d)",
    "whereCond0 = append(whereCond0, helper.IfClause(ifCond0))",
    "generateSQL+=helper.WhereClause(whereCond0)",
    "",
    "generateSQL+=A"]

theorem run_nestedTemplate :
    ∃ c m, compile nestedParams nestedTemplate = .ok c ∧ c.assembly {} = nestedLines ∧
      Machine.run .sample {} c.steps = some m ∧ m.query = "where \"c\"A" := by
  have compiles : (compile nestedParams nestedTemplate).map (fun c => c.assembly {}) =
      .ok nestedLines := by cbv
  have read : (Token.ofText nestedParams nestedTemplate >>= Statement.ofTokens >>=
      Node.ofStatements).map (Node.meanings .sample) = .ok ["where \"c\"", "A"] := by cbv
  obtain ⟨c, h, lines⟩ := except_map_eq_ok.1 compiles
  obtain ⟨ts, ss, ns, m, tokens, statements, spelled, -, run, query⟩ := compile_run h {} .sample
  rw [tokens] at read
  simp only [bind, Except.bind, statements] at read
  obtain ⟨ns', nodes, meanings⟩ := except_map_eq_ok.1 read
  have nonempty := (Node.ofStatements_eq_ok_iff.1 nodes).1
  cases nodes.symm.trans (Node.ofStatements_eq_ok_iff.2 ⟨nonempty, spelled⟩)
  exact ⟨c, m, h, lines, run, by rw [query, meanings]; decide⟩

end QueryTemplate
