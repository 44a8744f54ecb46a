import QueryTemplate.Statement

/-!
Conditions: what an if or elseif statement tests. A condition keeps the tokens of its statement,
the announcing keyword included, for two questions: do the types fit, and is there a disjunction
that needs parentheses beside a conjunction.
-/

namespace QueryTemplate

structure Condition where
  text : String
  tokens : List Token
  deriving DecidableEq, Repr

def Statement.condition (s : Statement) : Condition :=
  ⟨s.content, s.tokens⟩

namespace Condition

/-- Three tokens form a comparison of operands of one type. Nil has no type and is compared with
arrays only. -/
def comparable (left operator right : Token) : Bool :=
  operator.kind = .comparison &&
    if left.kind = .nil ∨ right.kind = .nil then left.isArray || right.isArray
    else left.type? = right.type?

/-- Checks the tokens after the announcing keyword. A boolean operand stands for itself. Any other
operand with two tokens after it starts a comparison. -/
def checkTokens (whole : List Token) : List Token → Except Fault Unit
  | [] => .ok ()
  | t :: rest =>
    match t.kind with
    | .keyword _ | .boolean | .logical | .param .bool => checkTokens whole rest
    | .comparison => .error (.unexpectedComparison t.text (Token.join whole))
    | .integer | .quoted | .nil | .param _ =>
      match rest with
      | operator :: right :: more =>
        if comparable t operator right then checkTokens whole more
        else .error (.mismatch (Token.join [t, operator, right]) (Token.join whole))
      | [] => .ok ()
      | [last] => checkTokens whole [last]

/-- Checks the types of a list of tokens, of which the first is the announcing keyword. -/
def checkTypes (ts : List Token) : Except Fault Unit :=
  checkTokens ts ts.tail

def check (c : Condition) : Except Fault Unit :=
  checkTypes c.tokens

/-- The text of a condition as one side of a conjunction. -/
def conjunct (c : Condition) : String :=
  if c.tokens.any Token.isDisjunction then "(" ++ c.text ++ ")" else c.text

end Condition

end QueryTemplate
