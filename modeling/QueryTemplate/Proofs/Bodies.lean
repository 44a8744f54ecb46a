import Mathlib
import QueryTemplate.Proofs.Drafting

/-!
Bodies of an if. The loop of an if appends the clauses of its first body one by one and takes the
"end" behind them; the body of a later branch has a loop of its own, which appends nothing and
leaves what ends the body to the if. Still the two loops take the same statements for the same
clauses and leave the same numbers, so the same statements are a body in both places.
-/

namespace QueryTemplate

/-- The statements are one clause: the reader of clauses, on the first of them, takes all others,
and its clause is the only one of the template. -/
structure Compiled.Sole (s : Statement) (rest : List Statement) (clause : Clause) : Prop where
  whole : (Draft.readClause id s rest {}).map (fun (read, _) => read.left) = .ok []
  clauses : (Compiled.ofStatements (s :: rest)).map Compiled.clauses = .ok [clause]

/-! ## The two loops -/

namespace Draft

open Drafting Node

variable {α β : Type}

theorem exists_at (d : Draft α) : ∃ next ws, d = .at next ws := by
  obtain ⟨choices, wheres, sets, written⟩ := d
  exact ⟨Function.update (Function.update (fun _ => choices) .whereList wheres) .setList sets,
    written.toList, rfl⟩

/-- What is made of the statements, what is left of them, and the draft by then. -/
def result {ss : List Statement} (read : Except Fault (Taken β ss × Draft α)) :
    Except Fault (β × List Statement × Draft α) :=
  read.map fun (t, d) => (t.value, t.left, d)

/-- The loop of an if takes the clauses of a body as the loop of a later body does: it fails where
that one fails, and otherwise comes to where that one ends with the clauses of the body behind its
own and with the same numbers. Only what has been written by then is its own. -/
theorem readChoice_of_readBody (write : Step → α) (c : OpenChoice) (ss : List Statement)
    (d : Draft α) :
    match readBody write ss d with
    | .error fault => readChoice write c ss d = .error fault
    | .ok (body, after) => ∃ written,
      result (readChoice write c ss d) =
        result (readChoice write { c with body := c.body ++ body.value } body.left
          { after with written }) := by
  obtain ⟨next, ws, rfl⟩ := exists_at d
  rw [readBody_at, readChoice_at]
  cases takes : takeBody ss with
  | error fault => rfl
  | ok body =>
    obtain ⟨_, none⟩ := takeBody_left takes
    let inner := numberList next body.value
    let lines := (Clause.blockGuarded c.index (.first c.condition) inner.1).map write
    refine ⟨(ws ++ lines).toArray, ?_⟩
    show _ = result (readChoice write _ body.left (.at inner.2 (ws ++ lines)))
    rw [readChoice_at, none, ok_bind, ok_bind]
    cases takeLater c.last body.left with
    | error fault => rfl
    | ok later => simp only [result, ok_map, Taken.as, inner, lines, ← chosen_body]

theorem readClause_left (s : Statement) (rest : List Statement) :
    (readClause id s rest {}).map (fun (read, _) => read.left) = (take s rest).map Taken.left := by
  rw [show readClause id s rest {} = _ from readClause_at s rest (fun _ => 0) []]
  cases take s rest <;> rfl

end Draft

namespace Node

variable {s o e : Statement} {bs rest : List Statement} {n : Node}

theorem take_left_eq_nil_iff :
    (take s rest).map Taken.left = .ok [] ↔ ∃ n, Spelled s rest n := by
  constructor
  · intro h
    obtain ⟨node, takes, left⟩ := except_map_eq_ok.1 h
    obtain ⟨ss, split, spelled, -⟩ := spelled_of_take takes
    rw [left, List.append_nil] at split
    exact ⟨node.value, split ▸ spelled⟩
  · rintro ⟨n, spelled⟩
    have taken := take_of_spelled spelled [] fun _ _ h => by cases h
    rw [List.append_nil] at taken
    obtain ⟨len, takes⟩ := taken
    rw [takes]
    rfl

theorem Spelled.ofStatements (h : Spelled s rest n) : ofStatements (s :: rest) = .ok [n] := by
  have all := SpelledAll.cons h (fun _ _ h => by cases h) .nil
  rw [List.append_nil] at all
  exact ofStatements_eq_ok_iff.2 ⟨List.cons_ne_nil s rest, all⟩

theorem Spelled.of_choice {c : Condition} {body : List Node} {arms : Arms}
    (h : Spelled s rest (.choice c body arms)) :
    s.kind = .ifOpen ∧ s.condition.check = .ok () ∧ c = s.condition ∧
      ∃ bs as, rest = bs ++ as ∧ SpelledBody bs body ∧ SpelledArms as arms := by
  cases h with
  | choice opening check bodySpelled armsSpelled =>
    exact ⟨opening, check, rfl, _, _, rfl, bodySpelled, armsSpelled⟩

theorem SpelledArms.of_otherwise {arms : Arms} (other : o.kind = .otherwise)
    (h : SpelledArms (o :: rest) arms) :
    ∃ bs e body, rest = bs ++ [e] ∧ SpelledBody bs body ∧ arms = .otherwise body := by
  cases h with
  | close closing => simp [other] at closing
  | otherwise _ bodySpelled => exact ⟨_, _, _, rfl, bodySpelled, rfl⟩
  | elseIf announces => simp [other] at announces

/-- The if with these statements as its only body. -/
theorem spelled_close_iff (closing : e.kind = .close) {c : Condition} {body : List Node} :
    Spelled s (bs ++ [e]) (.choice c body .close) ↔
      s.kind = .ifOpen ∧ s.condition.check = .ok () ∧ c = s.condition ∧ SpelledBody bs body := by
  constructor
  · intro h
    obtain ⟨opening, check, condition, bs', as, split, bodySpelled, armsSpelled⟩ := h.of_choice
    cases armsSpelled with
    | close =>
      obtain ⟨rfl, -⟩ := List.append_inj' split rfl
      exact ⟨opening, check, condition, bodySpelled⟩
  · rintro ⟨opening, check, rfl, bodySpelled⟩
    exact .choice opening check bodySpelled (.close closing)

/-- The if with these statements as the body of its else, and nothing in front of the else. -/
theorem spelled_otherwise_iff (other : o.kind = .otherwise) (closing : e.kind = .close)
    {c : Condition} {arms : Arms} :
    Spelled s (o :: (bs ++ [e])) (.choice c [] arms) ↔
      s.kind = .ifOpen ∧ s.condition.check = .ok () ∧ c = s.condition ∧
        ∃ body, SpelledBody bs body ∧ arms = .otherwise body := by
  constructor
  · intro h
    obtain ⟨opening, check, condition, bs', as, split, bodySpelled, armsSpelled⟩ := h.of_choice
    cases bodySpelled
    rw [List.nil_append] at split
    rw [← split] at armsSpelled
    obtain ⟨bs', e', body, split, inner, rfl⟩ := armsSpelled.of_otherwise other
    obtain ⟨rfl, -⟩ := List.append_inj' split rfl
    exact ⟨opening, check, condition, body, inner, rfl⟩
  · rintro ⟨opening, check, rfl, body, bodySpelled, rfl⟩
    exact .choice opening check .nil (.otherwise other bodySpelled closing)

/-! ## The clauses of the bodies -/

variable {next : Numbers} {index : Nat} {c : Condition} {body : List Clause}

theorem numberList_eq_nil_iff {ns : List Node} : (numberList next ns).1 = [] ↔ ns = [] := by
  cases ns <;> simp [numberList]

theorem number_eq_choice_iff {branches : List Branch} :
    (n.number next).1 = .choice index c body branches ↔ index = next .choice ∧
      ∃ ns arms, n = .choice c ns arms ∧ (numberList (next.bump .choice) ns).1 = body ∧
        (numberArms (numberList (next.bump .choice) ns).2 [c] arms).1 = branches := by
  constructor
  · intro h
    cases n with
    | text pieces => simp [number] at h
    | choice condition ns arms =>
      obtain ⟨rfl, rfl, inBody, later⟩ := Clause.choice.inj h
      exact ⟨rfl, ns, arms, rfl, inBody, later⟩
    | collection kind ns => simp [number] at h
  · rintro ⟨rfl, ns, arms, rfl, rfl, rfl⟩
    rfl

theorem numberArms_eq_nil_iff {prior : List Condition} {arms : Arms} :
    (numberArms next prior arms).1 = [] ↔ arms = .close := by
  cases arms <;> simp [numberArms]

end Node

namespace Compiled

open Node

variable {s o e : Statement} {bs rest : List Statement}

theorem sole_iff {clause : Clause} :
    Sole s rest clause ↔ ∃ n, Spelled s rest n ∧ (n.number fun _ => 0).1 = clause := by
  have numbered {n : Node} (spelled : Spelled s rest n) :
      (ofStatements (s :: rest)).map clauses = .ok [(n.number fun _ => 0).1] := by
    rw [ofStatements_eq, spelled.ofStatements]
    rfl
  constructor
  · rintro ⟨whole, clauses⟩
    obtain ⟨n, spelled⟩ := take_left_eq_nil_iff.1 ((Draft.readClause_left s rest).symm.trans whole)
    rw [numbered spelled] at clauses
    exact ⟨n, spelled, (List.cons.inj (Except.ok.inj clauses)).1⟩
  · rintro ⟨n, spelled, rfl⟩
    have left := take_left_eq_nil_iff.2 ⟨n, spelled⟩
    exact ⟨(Draft.readClause_left s rest).trans left, numbered spelled⟩

/-- The clauses of the only body that an if has, whichever branch it is the body of. -/
def IsBody (s : Statement) (bs : List Statement) (body : List Clause) : Prop :=
  s.kind = .ifOpen ∧ s.condition.check = .ok () ∧ ∃ ns, SpelledBody bs ns ∧
    (numberList (Numbers.bump (fun _ => 0) .choice) ns).1 = body

theorem sole_first_iff (closing : e.kind = .close) {body : List Clause} :
    (∃ index condition, Sole s (bs ++ [e]) (.choice index condition body [])) ↔
      IsBody s bs body := by
  simp only [sole_iff, number_eq_choice_iff, numberArms_eq_nil_iff]
  constructor
  · rintro ⟨_, c, _, spelled, -, ns, _, rfl, clauses, rfl⟩
    obtain ⟨opening, check, -, bodySpelled⟩ := (spelled_close_iff closing).1 spelled
    exact ⟨opening, check, ns, bodySpelled, clauses⟩
  · rintro ⟨opening, check, ns, bodySpelled, clauses⟩
    have spelled := (spelled_close_iff closing).2 ⟨opening, check, rfl, bodySpelled⟩
    exact ⟨0, s.condition, _, spelled, rfl, ns, .close, rfl, clauses, rfl⟩

theorem sole_otherwise_iff (other : o.kind = .otherwise) (closing : e.kind = .close)
    {body : List Clause} :
    (∃ index condition guard,
        Sole s (o :: (bs ++ [e])) (.choice index condition [] [⟨guard, body⟩])) ↔
      IsBody s bs body := by
  simp only [sole_iff, number_eq_choice_iff, numberList_eq_nil_iff]
  constructor
  · rintro ⟨_, c, guard, _, spelled, -, _, arms, rfl, rfl, later⟩
    obtain ⟨opening, check, -, ns, bodySpelled, rfl⟩ :=
      (spelled_otherwise_iff other closing).1 spelled
    obtain ⟨-, clauses⟩ := Branch.mk.inj (List.cons.inj later).1
    exact ⟨opening, check, ns, bodySpelled, clauses⟩
  · rintro ⟨opening, check, ns, bodySpelled, rfl⟩
    have spelled := (spelled_otherwise_iff other closing).2
      ⟨opening, check, rfl, ns, bodySpelled, rfl⟩
    exact ⟨0, s.condition, .otherwise [s.condition], _, spelled, rfl, [], .otherwise ns, rfl, rfl,
      rfl⟩

/-- Statements that are the only body of an if, up to its "end", are the body of its else if they
stand behind an else instead, and the other way round. The clauses of the body are the same, with
their numbers and the guards inside them. -/
theorem sole_body_iff (other : o.kind = .otherwise) (closing : e.kind = .close)
    (body : List Clause) :
    (∃ index condition, Sole s (bs ++ [e]) (.choice index condition body [])) ↔
      ∃ index condition guard,
        Sole s (o :: (bs ++ [e])) (.choice index condition [] [⟨guard, body⟩]) :=
  (sole_first_iff closing).trans (sole_otherwise_iff other closing).symm

/-- A where between two texts, with an if that has an else. -/
def nestedBody : List Statement :=
  let word (k : Keyword) : Token := ⟨.keyword k, k.name, false⟩
  let text (content : String) : Statement := .literal ⟨.quoted, content, false⟩
  [text "\"a\"", .bare .whereOpen (word .whereOpen),
    .guarded .ifOpen [word .ifOpen] [⟨.param .bool, "B", false⟩], text "\"b\"",
    .bare .otherwise (word .otherwise), text "\"c\"", .bare .close (word .close),
    .bare .close (word .close), text "\"d\""]

/-- The lists in the body are numbered after the one of the if around it. -/
def nestedClauses : List Clause :=
  let own : Condition := ⟨"B", [⟨.keyword .ifOpen, "if", false⟩, ⟨.param .bool, "B", false⟩]⟩
  [.sql ["\"a\""],
    .collection .whereList 0
      [.choice 1 own [.sql ["\"b\""]] [⟨.otherwise [own], [.sql ["\"c\""]]⟩]],
    .sql ["\"d\""]]

theorem sole_body_nested :
    let opening : Statement :=
      .guarded .ifOpen [⟨.keyword .ifOpen, "if", false⟩] [⟨.param .bool, "A", false⟩]
    let other : Statement := .bare .otherwise ⟨.keyword .otherwise, "else", false⟩
    let last : Statement := .bare .close ⟨.keyword .close, "end", false⟩
    (∃ index condition, Sole opening (nestedBody ++ [last])
        (.choice index condition nestedClauses [])) ∧
      ∃ index condition guard, Sole opening (other :: (nestedBody ++ [last]))
        (.choice index condition [] [⟨guard, nestedClauses⟩]) := by
  intro opening other last
  have first : Sole opening (nestedBody ++ [last])
      (.choice 0 opening.condition nestedClauses []) :=
    ⟨by rw [Draft.readClause_left]; cbv, by cbv⟩
  exact ⟨⟨0, _, first⟩, (sole_body_iff rfl rfl nestedClauses).1 ⟨0, _, first⟩⟩

end Compiled

end QueryTemplate
