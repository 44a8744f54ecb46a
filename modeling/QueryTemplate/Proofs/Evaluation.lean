import QueryTemplate.Proofs.Formula

/-!
Evaluating a boolean expression from left to right, with a frame for every parenthesis that is
open. An expression evaluates to the value it reads as, so it reads as one value only.
-/

namespace QueryTemplate

namespace Symbol

/-- What is known inside one pair of parentheses: the value of the disjuncts that are complete,
that of the conjuncts of the last one, and how many negations stand in front of the next operand.
-/
structure Frame where
  disjuncts : Bool := false
  conjuncts : Bool := true
  negations : Nat := 0
  deriving DecidableEq, Repr

namespace Frame

def value (f : Frame) : Bool :=
  f.disjuncts || f.conjuncts

def conjoin (f : Frame) (b : Bool) : Frame :=
  ⟨f.disjuncts, f.conjuncts && (b ^^ f.negations % 2 == 1), 0⟩

theorem conjoin_not (f : Frame) (b : Bool) :
    { f with negations := f.negations + 1 }.conjoin b = f.conjoin (!b) := by
  have parity : ((f.negations + 1) % 2 == 1) = !(f.negations % 2 == 1) := by
    rcases Nat.mod_two_eq_zero_or_one f.negations with even | odd
    · simp [Nat.add_mod, even]
    · simp [Nat.add_mod, odd]
  simp only [conjoin, parity, Bool.xor_not, Bool.not_xor]

def disjoin (f : Frame) : Frame :=
  ⟨f.value, true, 0⟩

end Frame

mutual

/-- The value of the rest of an expression where an operand is expected. -/
def evaluateOperand (v : Atom → Bool) (f : Frame) (around : List Frame) :
    List Symbol → Option Bool
  | .negation :: s => evaluateOperand v { f with negations := f.negations + 1 } around s
  | .opening :: s => evaluateOperand v {} (f :: around) s
  | .operand x :: .comparison operator :: .operand y :: s =>
    if f.negations = 0 then
      evaluateOperator v (f.conjoin (v (.comparison x operator y))) around s
    else none
  | .operand x :: s => evaluateOperator v (f.conjoin (v (.bare x))) around s
  | _ => none

/-- The value of the rest of an expression behind an operand. -/
def evaluateOperator (v : Atom → Bool) (f : Frame) (around : List Frame) :
    List Symbol → Option Bool
  | [] => if around = [] then some f.value else none
  | .conjunction :: s => evaluateOperand v f around s
  | .disjunction :: s => evaluateOperand v f.disjoin around s
  | .closing :: s =>
    match around with
    | g :: around => evaluateOperator v (g.conjoin f.value) around s
    | [] => none
  | _ => none

end

def evaluate (v : Atom → Bool) (s : List Symbol) : Option Bool :=
  evaluateOperand v {} [] s

/-- How an expression of the level with the value is evaluated in front of other symbols. -/
def Evaluates (v : Atom → Bool) (s : List Symbol) (a : Bool) : Level → Prop
  | .unary => ∀ f around rest, (∀ operator, rest.head? ≠ some (.comparison operator)) →
      evaluateOperand v f around (s ++ rest) = evaluateOperator v (f.conjoin a) around rest
  | .comparison | .conjunction => ∀ f around rest, f.negations = 0 →
      (∀ operator, rest.head? ≠ some (.comparison operator)) →
      evaluateOperand v f around (s ++ rest) = evaluateOperator v (f.conjoin a) around rest
  | .disjunction => ∀ f around rest, f.negations = 0 → f.conjuncts = true →
      (∀ operator, rest.head? ≠ some (.comparison operator)) →
      ∃ g : Frame, g.negations = 0 ∧ g.value = (f.disjuncts || a) ∧
        evaluateOperand v f around (s ++ rest) = evaluateOperator v g around rest

variable {v : Atom → Bool} {l : Level} {s : List Symbol} {a b : Bool}

theorem Reads.evaluates (h : Reads v l s a) : Evaluates v s a l := by
  induction h with
  | bare x =>
    intro f around rest follows
    cases rest with
    | nil => simp [evaluateOperand]
    | cons y rest =>
      cases y with
      | comparison operator => exact absurd rfl (follows operator)
      | _ => simp [evaluateOperand]
  | not _ ih =>
    intro f around rest follows
    rw [List.cons_append, evaluateOperand, ih _ _ _ follows, Frame.conjoin_not]
  | group _ ih =>
    intro f around rest follows
    obtain ⟨g, -, value, ih⟩ := ih {} (f :: around) (.closing :: rest) rfl rfl (by simp)
    rw [List.cons_append, List.append_assoc, List.singleton_append, evaluateOperand, ih,
      evaluateOperator, value, Bool.false_or]
  | ofUnary _ ih => exact fun f around rest _ follows => ih f around rest follows
  | compare x operator y =>
    intro f around rest plain follows
    simp [evaluateOperand, plain]
  | ofComparison _ ih => exact ih
  | and _ _ left right =>
    intro f around rest plain follows
    rw [List.append_assoc, left f _ _ plain (by simp), List.cons_append, evaluateOperator,
      right _ _ _ rfl follows]
    simp [Frame.conjoin, plain, Bool.and_assoc]
  | ofConjunction _ ih =>
    intro f around rest plain fresh follows
    exact ⟨f.conjoin _, rfl, by simp [Frame.value, Frame.conjoin, plain, fresh],
      ih f around rest plain follows⟩
  | @or _ t _ b _ _ left right =>
    intro f around rest plain fresh follows
    obtain ⟨g, -, value, left⟩ := left f around (.disjunction :: (t ++ rest)) plain fresh (by simp)
    refine ⟨g.disjoin.conjoin b, rfl, ?_, ?_⟩
    · rw [← Bool.or_assoc, ← value]
      simp [Frame.value, Frame.conjoin, Frame.disjoin]
    · rw [List.append_assoc, List.cons_append, left, evaluateOperator, right _ _ _ rfl follows]

/-- An expression evaluates to what it reads as. -/
theorem Reads.evaluate_eq (h : Reads v .disjunction s a) : evaluate v s = some a := by
  obtain ⟨g, -, value, eval⟩ := h.evaluates {} [] [] rfl rfl (by simp)
  rw [List.append_nil] at eval
  rw [evaluate, eval, evaluateOperator, value]
  rfl

theorem Reads.unique (h : Reads v .disjunction s a) (h' : Reads v .disjunction s b) : a = b :=
  Option.some.inj (h.evaluate_eq.symm.trans h'.evaluate_eq)

end Symbol

end QueryTemplate
