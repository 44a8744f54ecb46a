/-!
Boolean expressions over atoms, as lists of symbols. Negations and parentheses bind first, then
comparisons, then "&&" and then "||". What is read is the value of an expression: no list of
symbols reads as true and as false.
-/

namespace QueryTemplate

/-- What an expression is made of: an operand that stands for itself, or a comparison. -/
inductive Atom where
  | bare (operand : String)
  | comparison (left operator right : String)
  deriving DecidableEq, Repr

inductive Symbol where
  | operand (text : String)
  | comparison (text : String)
  | conjunction
  | disjunction
  | negation
  | opening
  | closing
  deriving DecidableEq, Repr

namespace Symbol

inductive Level where
  | unary
  | comparison
  | conjunction
  | disjunction
  deriving DecidableEq, Repr

/-- The symbols form an expression of the level, and it has the value. -/
inductive Reads (v : Atom → Bool) : Level → List Symbol → Bool → Prop
  | bare (x : String) : Reads v .unary [.operand x] (v (.bare x))
  | not {s : List Symbol} {a : Bool} (inner : Reads v .unary s a) :
      Reads v .unary (.negation :: s) (!a)
  | group {s : List Symbol} {a : Bool} (inner : Reads v .disjunction s a) :
      Reads v .unary (.opening :: (s ++ [.closing])) a
  | ofUnary {s : List Symbol} {a : Bool} (inner : Reads v .unary s a) : Reads v .comparison s a
  | compare (x operator y : String) :
      Reads v .comparison [.operand x, .comparison operator, .operand y]
        (v (.comparison x operator y))
  | ofComparison {s : List Symbol} {a : Bool} (inner : Reads v .comparison s a) :
      Reads v .conjunction s a
  | and {s t : List Symbol} {a b : Bool} (left : Reads v .conjunction s a)
      (right : Reads v .comparison t b) : Reads v .conjunction (s ++ .conjunction :: t) (a && b)
  | ofConjunction {s : List Symbol} {a : Bool} (inner : Reads v .conjunction s a) :
      Reads v .disjunction s a
  | or {s t : List Symbol} {a b : Bool} (left : Reads v .disjunction s a)
      (right : Reads v .conjunction t b) : Reads v .disjunction (s ++ .disjunction :: t) (a || b)

variable {v : Atom → Bool} {l : Level} {s t : List Symbol} {a b : Bool}

/-- The right side of a disjunction may be one itself. -/
theorem Reads.or_append (left : Reads v .disjunction s a) (right : Reads v .disjunction t b) :
    Reads v .disjunction (s ++ .disjunction :: t) (a || b) := by
  generalize level : Level.disjunction = l at right
  induction right <;> cases level
  case ofConjunction inner _ => exact .or left inner
  case or t₁ t₂ b₁ b₂ _ right ih _ =>
    rw [← List.cons_append, ← List.append_assoc, ← Bool.or_assoc]
    exact .or (ih rfl) right

/-! ## Which symbols can stand next to each other -/

/-- It can stand where an operand is expected: at the start, and after an operator. -/
def starts : Symbol → Bool
  | operand _ | negation | opening => true
  | comparison _ | conjunction | disjunction | closing => false

/-- It can stand at the end, and in front of an operator. -/
def ends : Symbol → Bool
  | operand _ | closing => true
  | comparison _ | conjunction | disjunction | negation | opening => false

/-- Whether an operand is expected after the symbols, if each of them stands where it can. -/
def expects (before : Bool) : List Symbol → Option Bool
  | [] => some before
  | x :: s => if x.starts = before then expects (!x.ends) s else none

theorem expects_append (before : Bool) (s t : List Symbol) :
    expects before (s ++ t) = (expects before s).bind fun between => expects between t := by
  induction s generalizing before with
  | nil => rfl
  | cons x s ih =>
    simp only [List.cons_append, expects]
    split
    · exact ih _
    · rfl

theorem Reads.expects (h : Reads v l s a) : expects true s = some false := by
  induction h with
  | bare | compare => rfl
  | not _ ih => simpa [Symbol.expects, starts, ends] using ih
  | group _ ih => simp [Symbol.expects, expects_append, starts, ends, ih]
  | ofUnary _ ih | ofComparison _ ih | ofConjunction _ ih => exact ih
  | and _ _ left right | or _ _ left right =>
    simp [Symbol.expects, expects_append, starts, ends, left, right]

theorem Reads.count_opening (h : Reads v l s a) : s.count .opening = s.count .closing := by
  induction h with
  | bare | compare => rfl
  | not _ ih => simpa using ih
  | group _ ih => simp [ih]
  | ofUnary _ ih | ofComparison _ ih | ofConjunction _ ih => exact ih
  | and _ _ left right | or _ _ left right => simp [left, right]

end Symbol

end QueryTemplate
