import QueryTemplate.Block

/-!
Why a template is rejected. A fault is a cause; `Fault.report` adds the name and the text of the
template and gives the wording, and `Report.display` lays a report out for a reader.
-/

namespace QueryTemplate

/-- The stage of reading that found the template wrong. -/
inductive FaultClass where
  | lexical
  | classification
  | syntactic
  | typing
  deriving DecidableEq, Repr

def FaultClass.heading : FaultClass → String
  | lexical => "词法错误"
  | classification => "参数错误"
  | syntactic => "语法错误"
  | typing => "类型错误"

/-- What a reader is told about a rejected template: its name, the message, and the source text
that the message is about. -/
structure Report where
  kind : FaultClass
  template : String
  message : String
  source : String
  deriving DecidableEq, Repr

/-- A heading, the name of the template, the source text unless it is empty, and the message. -/
def Report.display (r : Report) : String :=
  "sql template " ++ r.kind.heading ++ "\n  → " ++ r.template ++ "\n\n" ++
    (if r.source = "" then "" else "  | " ++ r.source ++ "\n") ++
    "  错误：" ++ r.message

/-- A cause of rejection. Texts are joined tokens. -/
inductive Fault where
  /-- The template ends inside a quoted text or after half an operator. -/
  | truncated
  /-- A word is neither reserved, nor a number, nor a parameter. -/
  | unknownParameter (word : String)
  /-- A condition is announced and none follows. -/
  | noCondition (opening : String)
  /-- An operator of a condition has no operand after it. -/
  | dangling (text : String)
  | emptyTemplate
  /-- A statement stands where it cannot. -/
  | misplaced (text : String)
  /-- A branch follows the last branch of an if. -/
  | afterOtherwise (text : String)
  | unclosed (block : BlockKind)
  /-- Three tokens that should be a comparison of like types are none. -/
  | mismatch (window whole : String)
  /-- A comparison operator stands where an operand is due. -/
  | unexpectedComparison (operator whole : String)
  deriving DecidableEq, Repr

namespace Fault

def kind : Fault → FaultClass
  | truncated => .lexical
  | unknownParameter _ => .classification
  | noCondition _ | dangling _ | emptyTemplate | misplaced _ | afterOtherwise _ | unclosed _ =>
    .syntactic
  | mismatch _ _ | unexpectedComparison _ _ => .typing

def message (template : String) : Fault → String
  | truncated => "incomplete code: " ++ template
  | unknownParameter word => "unknown parameter: " ++ word
  | noCondition text | dangling text => "syntax error: " ++ text
  | emptyTemplate => "template is empty"
  | misplaced text => "unknown clause: " ++ text
  | afterOtherwise text => "else must be the last branch: " ++ text
  | unclosed block => "incomplete SQL, " ++ block.word ++ " not end"
  | mismatch window _ => "condition type not match: " ++ window
  | unexpectedComparison operator _ => "unknown fragment: " ++ operator

/-- The text that a report of the fault quotes: the offending statement if the fault lies within
one condition, else the whole template. -/
def source (template : String) : Fault → String
  | dangling text => text
  | mismatch _ whole | unexpectedComparison _ whole => whole
  | truncated | unknownParameter _ | noCondition _ | emptyTemplate | misplaced _
  | afterOtherwise _ | unclosed _ => template

def report (name template : String) (fault : Fault) : Report :=
  ⟨fault.kind, name, fault.message template, fault.source template⟩

end Fault

theorem except_bind_eq_ok {ε α β : Type} {x : Except ε α} {f : α → Except ε β} {b : β} :
    x >>= f = .ok b ↔ ∃ a, x = .ok a ∧ f a = .ok b := by
  cases x <;> simp [bind, Except.bind]

theorem except_map_eq_ok {ε α β : Type} {x : Except ε α} {f : α → β} {b : β} :
    x.map f = .ok b ↔ ∃ a, x = .ok a ∧ f a = b := by
  cases x <;> simp [Except.map]

end QueryTemplate
