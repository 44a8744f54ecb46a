import QueryTemplate.Condition

/-!
Guards: the test that a branch of an if runs under when the branches are tested one by one. A
later branch excludes the conditions of all branches before it, so that at most one guard holds.
-/

namespace QueryTemplate

inductive Guard where
  /-- The condition of the first branch. -/
  | first (own : Condition)
  /-- None of the prior conditions, and the branch's own one. -/
  | elseIf (prior : List Condition) (own : Condition)
  /-- None of the prior conditions. -/
  | otherwise (prior : List Condition)
  deriving DecidableEq, Repr

namespace Guard

def noneOf (prior : List Condition) : String :=
  "!(" ++ " || ".intercalate (prior.map Condition.text) ++ ")"

def text : Guard → String
  | first own => own.text
  | elseIf prior own => noneOf prior ++ " && " ++ own.conjunct
  | otherwise prior => noneOf prior

end Guard

end QueryTemplate
