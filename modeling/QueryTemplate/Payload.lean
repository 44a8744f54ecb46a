import QueryTemplate.Line
import QueryTemplate.Node

/-!
Payloads: the expressions that are appended to a list or accumulated. An operand is a run of
pieces or the query text that a helper makes of a finished list; a payload is one operand, or the
concatenation of the operands of a branch. Operands are joined by plus signs, and two quoted texts
that come to stand next to each other become one: a quote, a plus and a quote are a seam, and seams
are dropped from the left.
-/

namespace QueryTemplate

namespace Text

/-- The characters without the seams. A quote belongs to one seam at most. -/
def dropSeams : List Char → List Char
  | '"' :: '+' :: '"' :: cs => dropSeams cs
  | c :: cs => c :: dropSeams cs
  | [] => []

def concatenation (operands : List String) : String :=
  String.ofList (dropSeams ("+".intercalate operands).toList)

end Text

/-- What an expression refers to, with names of lists taken from `ν`. -/
inductive Operand (ν : Type) where
  | pieces (texts : List String)
  /-- The query text of the list that collects the parts of a block. -/
  | read (block : BlockKind) (name : ν)
  deriving DecidableEq, Repr

inductive Payload (ν : Type) where
  | one (operand : Operand ν)
  | all (operands : List (Operand ν))
  deriving DecidableEq, Repr

namespace Operand

def map {ν μ : Type} (f : BlockKind → ν → μ) : Operand ν → Operand μ
  | pieces texts => pieces texts
  | read block name => read block (f block name)

def helperName : BlockKind → String
  | .choice => "IfClause"
  | .whereList => "WhereClause"
  | .setList => "SetClause"

def text (target : Target) : Operand String → String
  | pieces texts => Text.concatenation texts
  | read block name => target.helper ++ "." ++ helperName block ++ "(" ++ name ++ ")"

end Operand

namespace Payload

def map {ν μ : Type} (f : BlockKind → ν → μ) : Payload ν → Payload μ
  | one operand => one (operand.map f)
  | all operands => all (operands.map (·.map f))

/-- The expression. Seams between the operands of a branch are dropped as those within one are. -/
def text (target : Target) : Payload String → String
  | one operand => operand.text target
  | all operands => Text.concatenation (operands.map (·.text target))

end Payload

end QueryTemplate
