import QueryTemplate.Text.Blank

/-!
Lines: the statements that assemble a query at run time, as text. Names, guards and payloads go
into a line as they are. A target has the conventions of the code: where the run-time helpers live,
how much room a new list is given, and which variable the query is accumulated in.
-/

namespace QueryTemplate

structure Target where
  helper : String := "helper"
  capacity : Nat := 100
  accumulator : String := "generateSQL"
  deriving DecidableEq, Repr, Inhabited

inductive Line where
  | blank
  /-- A new list of guarded payloads. -/
  | declareGuarded (name : String)
  /-- A new list of payloads. -/
  | declareList (name : String)
  | appendGuarded (name guard payload : String)
  | append (name payload : String)
  | accumulate (payload : String)
  deriving DecidableEq, Repr

/-- The line as it is written for a target. The payload of a plain append is trimmed. -/
def Line.text (target : Target) : Line → String
  | blank => ""
  | declareGuarded name =>
    name ++ " := make([]" ++ target.helper ++ ".Cond, 0, " ++ toString target.capacity ++ ")"
  | declareList name =>
    name ++ " := make([]string, 0, " ++ toString target.capacity ++ ")"
  | appendGuarded name guard payload =>
    name ++ " = append(" ++ name ++ ", " ++ target.helper ++ ".Cond\x7b" ++ guard ++ ", " ++
      payload ++ "\x7d)"
  | append name payload => name ++ " = append(" ++ name ++ ", " ++ Text.trim payload ++ ")"
  | accumulate payload => target.accumulator ++ "+=" ++ payload

end QueryTemplate
