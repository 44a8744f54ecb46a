import QueryTemplate.Condition
import QueryTemplate.Proofs.Formula

/-!
What a condition says. Its tokens behind the keyword are atoms with logical operators between
them, and it holds if the atoms of one of its disjuncts all do. Read as an expression, it has that
value.
-/

namespace QueryTemplate

namespace Token

def isConjunction (t : Token) : Bool :=
  t.kind = .logical && !t.isDisjunction

/-- The symbol of a token that is taken as it is. -/
def symbol (t : Token) : Symbol :=
  match t.kind with
  | .comparison => .comparison t.text
  | .logical => if t.isDisjunction then .disjunction else .conjunction
  | .integer | .quoted | .boolean | .nil | .keyword _ | .param _ => .operand t.text

/-- An operand, or two of them with a comparison between them. -/
inductive Atomic : List Token → Prop
  | bare {x : Token} (operand : x.isOperand = true) : Atomic [x]
  | comparison {x o y : Token} (left : x.isOperand = true) (compares : o.kind = .comparison)
      (right : y.isOperand = true) : Atomic [x, o, y]

/-- Atoms with logical operators between them. -/
inductive Chained : List Token → Prop
  | atom {ts : List Token} (atomic : Atomic ts) : Chained ts
  | cons {ts rest : List Token} {o : Token} (atomic : Atomic ts) (logical : o.kind = .logical)
      (others : Chained rest) : Chained (ts ++ o :: rest)

def atomHolds (v : Atom → Bool) : List Token → Bool
  | [x] => v (.bare x.text)
  | [x, o, y] => v (.comparison x.text o.text y.text)
  | _ => false

def conjunctsHold (v : Atom → Bool) (ts : List Token) : Bool :=
  (ts.splitOnP isConjunction).all (atomHolds v)

def disjunctHolds (v : Atom → Bool) (ts : List Token) : Bool :=
  (ts.splitOnP isDisjunction).any (conjunctsHold v)

end Token

namespace Condition

def body (c : Condition) : List Token :=
  c.tokens.dropWhile fun t => t.keyword?.isSome

def holds (v : Atom → Bool) (c : Condition) : Bool :=
  Token.disjunctHolds v c.body

end Condition

namespace Token

variable {v : Atom → Bool} {ts rest : List Token} {o : Token} {a : Bool}

theorem kind_of_isOperand {x : Token} (operand : x.isOperand = true) : x.kind ≠ .logical := by
  intro logical
  simp [isOperand, logical] at operand

theorem Atomic.kind_ne_logical (h : Atomic ts) : ∀ t ∈ ts, t.kind ≠ .logical := by
  cases h with
  | bare operand => simpa using kind_of_isOperand operand
  | comparison left compares right =>
    simpa [compares] using ⟨kind_of_isOperand left, kind_of_isOperand right⟩

theorem Atomic.not_isDisjunction (h : Atomic ts) : ∀ t ∈ ts, t.isDisjunction = false := by
  intro t ht
  simp [isDisjunction, h.kind_ne_logical t ht]

theorem Atomic.not_isConjunction (h : Atomic ts) : ∀ t ∈ ts, t.isConjunction = false := by
  intro t ht
  simp [isConjunction, h.kind_ne_logical t ht]

theorem Atomic.ne_nil (h : Atomic ts) : ts ≠ [] := by
  cases h <;> simp

theorem Chained.ne_nil (h : Chained ts) : ts ≠ [] := by
  cases h with
  | atom atomic => exact atomic.ne_nil
  | cons => simp

theorem symbol_of_isOperand {x : Token} (operand : x.isOperand = true) :
    x.symbol = .operand x.text := by
  unfold symbol
  cases kind : x.kind <;> simp_all [isOperand]

theorem Atomic.reads (h : Atomic ts) (v : Atom → Bool) :
    Symbol.Reads v .comparison (ts.map symbol) (atomHolds v ts) := by
  cases h with
  | bare operand =>
    rw [List.map_singleton, symbol_of_isOperand operand]
    exact .ofUnary (.bare _)
  | @comparison x o y left compares right =>
    have operator : o.symbol = .comparison o.text := by rw [symbol, compares]
    rw [List.map_cons, List.map_cons, List.map_singleton, symbol_of_isOperand left, operator,
      symbol_of_isOperand right]
    exact .compare _ _ _

/-- A disjunct of the tokens holds, where the first one has another conjunct in front. -/
def holdsAfter (v : Atom → Bool) (a : Bool) (ts : List Token) : Bool :=
  match ts.splitOnP isDisjunction with
  | [] => false
  | d :: ds => a && conjunctsHold v d || ds.any (conjunctsHold v)

theorem disjunctHolds_eq_holdsAfter (v : Atom → Bool) (ts : List Token) :
    disjunctHolds v ts = holdsAfter v true ts := by
  unfold disjunctHolds holdsAfter
  cases ts.splitOnP isDisjunction <;> simp

theorem conjunctsHold_of_atomic (h : Atomic ts) : conjunctsHold v ts = atomHolds v ts := by
  rw [conjunctsHold, List.splitOnP_eq_singleton h.not_isConjunction]
  simp

theorem holdsAfter_of_atomic (h : Atomic ts) :
    holdsAfter v a ts = (a && atomHolds v ts) := by
  rw [holdsAfter, List.splitOnP_eq_singleton h.not_isDisjunction]
  simp [conjunctsHold_of_atomic h]

theorem holdsAfter_disjunction (h : Atomic ts) (disjunction : o.isDisjunction = true) :
    holdsAfter v a (ts ++ o :: rest) = (a && atomHolds v ts || disjunctHolds v rest) := by
  rw [holdsAfter, List.splitOnP_append_cons_of_forall_mem h.not_isDisjunction o disjunction]
  simp [conjunctsHold_of_atomic h, disjunctHolds]

theorem splitOnP_append {α : Type} {p : α → Bool} {xs : List α} (h : ∀ x ∈ xs, p x = false)
    (ys : List α) : (xs ++ ys).splitOnP p = (ys.splitOnP p).modifyHead (xs ++ ·) := by
  induction xs with
  | nil =>
    rw [List.nil_append]
    cases ys.splitOnP p <;> rfl
  | cons x xs ih =>
    rw [List.forall_mem_cons] at h
    rw [List.cons_append, List.splitOnP_cons_eq_if_modifyHead, ih h.2]
    simp [h.1, Function.comp_def]

theorem holdsAfter_conjunction (h : Atomic ts) (conjunction : o.isConjunction = true) :
    holdsAfter v a (ts ++ o :: rest) = holdsAfter v (a && atomHolds v ts) rest := by
  have free : ∀ t ∈ ts ++ [o], t.isDisjunction = false := by
    intro t ht
    rcases List.mem_append.1 ht with ht | ht
    · exact h.not_isDisjunction t ht
    · cases List.mem_singleton.1 ht
      exact (by simpa [isConjunction] using conjunction : _ ∧ o.isDisjunction = false).2
  obtain ⟨d, ds, split⟩ := List.exists_cons_of_ne_nil (List.splitOnP_ne_nil isDisjunction rest)
  have first : conjunctsHold v (ts ++ o :: d) = (atomHolds v ts && conjunctsHold v d) := by
    rw [conjunctsHold, List.splitOnP_append_cons_of_forall_mem h.not_isConjunction o conjunction]
    rfl
  have whole : (ts ++ o :: rest).splitOnP isDisjunction = (ts ++ o :: d) :: ds := by
    rw [List.append_cons, splitOnP_append free, split]
    simp
  rw [holdsAfter, holdsAfter, whole, split]
  simp only [first, Bool.and_assoc]

/-- Operators that are chained are read in the order of their strength: the conjunction in front
belongs to the first disjunct only. -/
theorem Chained.reads (h : Chained ts) (v : Atom → Bool) :
    Symbol.Reads v .disjunction (ts.map symbol) (disjunctHolds v ts) ∧
      ∀ s a, Symbol.Reads v .conjunction s a →
        Symbol.Reads v .disjunction (s ++ .conjunction :: ts.map symbol) (holdsAfter v a ts) := by
  induction h with
  | atom atomic =>
    rw [disjunctHolds_eq_holdsAfter, holdsAfter_of_atomic atomic, Bool.true_and]
    refine ⟨.ofConjunction (.ofComparison (atomic.reads v)), ?_⟩
    intro s a front
    rw [holdsAfter_of_atomic atomic]
    exact .ofConjunction (.and front (atomic.reads v))
  | @cons ts rest o atomic logical _ ih =>
    obtain ⟨alone, behind⟩ := ih
    have atom := atomic.reads v
    rw [disjunctHolds_eq_holdsAfter, List.map_append, List.map_cons]
    cases disjunction : o.isDisjunction with
    | true =>
      have operator : o.symbol = .disjunction := by simp [symbol, logical, disjunction]
      rw [operator, holdsAfter_disjunction atomic disjunction, Bool.true_and]
      refine ⟨.or_append (.ofConjunction (.ofComparison atom)) alone, ?_⟩
      intro s a front
      rw [holdsAfter_disjunction atomic disjunction, ← List.cons_append, ← List.append_assoc]
      exact .or_append (.ofConjunction (.and front atom)) alone
    | false =>
      have conjunction : o.isConjunction = true := by simp [isConjunction, logical, disjunction]
      have operator : o.symbol = .conjunction := by simp [symbol, logical, disjunction]
      rw [operator, holdsAfter_conjunction atomic conjunction, Bool.true_and]
      refine ⟨behind _ _ (.ofComparison atom), ?_⟩
      intro s a front
      rw [holdsAfter_conjunction atomic conjunction, ← List.cons_append, ← List.append_assoc]
      exact behind _ _ (.and front atom)

theorem holdsAfter_eq_and (free : ts.any isDisjunction = false) :
    holdsAfter v a ts = (a && disjunctHolds v ts) := by
  rw [disjunctHolds_eq_holdsAfter, holdsAfter, holdsAfter,
    List.splitOnP_eq_singleton (by simpa using free)]
  simp

theorem Chained.keyword? (h : Chained ts) : ∀ t ∈ ts, t.keyword? = none := by
  have operand {x : Token} (operand : x.isOperand = true) : x.keyword? = none := by
    unfold Token.keyword?
    cases kind : x.kind <;> simp_all [isOperand]
  have operator {x : Token} (operator : x.kind = .comparison ∨ x.kind = .logical) :
      x.keyword? = none := by
    rcases operator with kind | kind <;> simp [Token.keyword?, kind]
  have atom {ts : List Token} (atomic : Atomic ts) : ∀ t ∈ ts, t.keyword? = none := by
    cases atomic with
    | bare bare => simpa using operand bare
    | comparison left compares right =>
      simpa using ⟨operand left, operator (.inl compares), operand right⟩
  induction h with
  | atom atomic => exact atom atomic
  | cons atomic logical _ ih =>
    rw [List.forall_mem_append, List.forall_mem_cons]
    exact ⟨atom atomic, operator (.inr logical), ih⟩

end Token

/-! ## Conditions of statements -/

namespace Condition

variable {c : Condition} {v : Atom → Bool}

/-- The text of the condition is that of atoms with logical operators between them. -/
structure Chained (c : Condition) : Prop where
  chained : Token.Chained c.body
  text : c.text = Token.join c.body

theorem any_isDisjunction (c : Condition) :
    c.tokens.any Token.isDisjunction = c.body.any Token.isDisjunction := by
  unfold body
  induction c.tokens with
  | nil => rfl
  | cons t ts ih =>
    rw [List.any_cons, List.dropWhile_cons]
    split
    · next keyword =>
      have other : t.isDisjunction = false := by
        unfold Token.keyword? at keyword
        unfold Token.isDisjunction
        cases kind : t.kind <;> simp_all
      rw [other, ih, Bool.false_or]
    · rw [List.any_cons]

end Condition

namespace Statement

open Token

/-- What a condition reaches over goes on with the operand before it, or with the atom if that
operand has been compared. -/
theorem chained_of_reachAfter {compared : Bool} {ts taken left : List Token}
    (h : reachAfter compared ts = .complete taken left) :
    (compared = false → ∀ x : Token, x.isOperand = true → Chained (x :: taken)) ∧
      (compared = true → ∀ atom, Atomic atom → Chained (atom ++ taken)) := by
  have stops (compared : Bool) :
      (compared = false → ∀ x : Token, x.isOperand = true → Chained [x]) ∧
        (compared = true → ∀ atom, Atomic atom → Chained (atom ++ [])) :=
    ⟨fun _ x operand => .atom (.bare operand), fun _ atom atomic => by simpa using .atom atomic⟩
  fun_induction reachAfter compared ts generalizing taken left with
  | case1 | case5 =>
    cases h
    exact stops _
  | case2 | case4 => cases h
  | case3 compared operator goesOn operand rest isOperand ih =>
    cases reached : reachAfter (operator.kind = .comparison) rest with
    | dangling taken =>
      rw [reached] at h
      cases h
    | complete taken left =>
      rw [reached] at h
      cases h
      obtain ⟨behindBare, behindAtom⟩ := ih reached
      rcases goesOn with logical | ⟨compares, rfl⟩
      · have others : Chained (operand :: taken) := behindBare (by simp [logical]) _ isOperand
        exact ⟨fun _ x bare => .cons (.bare bare) logical others,
          fun _ atom atomic => .cons atomic logical others⟩
      · refine ⟨fun _ x bare => ?_, by simp⟩
        exact behindAtom (by simp [compares]) _ (.comparison bare compares isOperand)

theorem chained_of_readGuarded {kind : StatementKind} {opening ts left : List Token}
    {s : Statement} (h : readGuarded kind opening ts = .ok (s, left)) :
    ∃ body, Token.Chained body ∧ s = guarded kind opening body := by
  unfold readGuarded at h
  split at h
  · cases h
  · split at h
    · next operand =>
      split at h
      · next taken left reached =>
        cases h
        exact ⟨_, (chained_of_reachAfter reached).1 rfl _ operand, rfl⟩
      · cases h
    · cases h

theorem chained_guarded {kind : StatementKind} {opening body : List Token}
    (keywords : ∀ t ∈ opening, t.keyword?.isSome) (chained : Token.Chained body) :
    (guarded kind opening body).condition.Chained := by
  have behind : (guarded kind opening body).condition.body = body := by
    show (opening ++ body).dropWhile (fun t => t.keyword?.isSome) = body
    rw [List.dropWhile_append_of_pos keywords]
    cases body with
    | nil => rfl
    | cons x body => simp [chained.keyword? x (.head body)]
  exact ⟨behind.symm ▸ chained, behind.symm ▸ rfl⟩

/-- The statements that announce a condition have one. -/
theorem chained_of_read {t : Token} {rest left : List Token} {s : Statement}
    (h : read t rest = .ok (s, left)) (kind : s.kind = .ifOpen ∨ s.kind = .elseIf) :
    s.condition.Chained := by
  unfold read at h
  split at h
  · cases h
    simp [literal] at kind
  · next keyword =>
    obtain ⟨body, chained, rfl⟩ := chained_of_readGuarded h
    exact chained_guarded (by simp [keyword]) chained
  · next keyword =>
    obtain ⟨body, chained, rfl⟩ := chained_of_readGuarded h
    exact chained_guarded (by simp [keyword]) chained
  · next keyword =>
    split at h
    · split at h
      · next second =>
        obtain ⟨body, chained, rfl⟩ := chained_of_readGuarded h
        exact chained_guarded (by simp [keyword, second]) chained
      · cases h
        simp [bare] at kind
    · cases h
      simp [bare] at kind
  all_goals
    cases h
    simp [bare] at kind

theorem chained_of_ofTokens {ts : List Token} {ss : List Statement} (h : ofTokens ts = .ok ss) :
    ∀ s ∈ ss, s.kind = .ifOpen ∨ s.kind = .elseIf → s.condition.Chained := by
  fun_induction ofTokens ts generalizing ss with
  | case1 =>
    cases h
    simp
  | case2 => cases h
  | case3 t rest s left found _ ih =>
    obtain ⟨more, others, rfl⟩ := except_map_eq_ok.1 h
    exact List.forall_mem_cons.2 ⟨chained_of_read found, ih others⟩

end Statement

end QueryTemplate
