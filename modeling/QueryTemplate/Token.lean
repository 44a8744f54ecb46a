import QueryTemplate.Param

/-!
Tokens: the classified words of a template. A token keeps its text as written, so that joining the
tokens of a condition with single blanks gives the text of the condition.
-/

namespace QueryTemplate

inductive Keyword where
  /-- The word "if". -/
  | ifOpen
  /-- The word "else". -/
  | otherwise
  /-- The word "elseif". -/
  | elseIf
  /-- The word "end". -/
  | close
  /-- The word "where". -/
  | whereOpen
  /-- The word "set". -/
  | setOpen
  deriving DecidableEq, Repr

namespace Keyword

def ofName? (name : String) : Option Keyword :=
  if name = "if" then some ifOpen
  else if name = "else" then some otherwise
  else if name = "elseif" then some elseIf
  else if name = "end" then some close
  else if name = "where" then some whereOpen
  else if name = "set" then some setOpen
  else none

def name : Keyword → String
  | ifOpen => "if"
  | otherwise => "else"
  | elseIf => "elseif"
  | close => "end"
  | whereOpen => "where"
  | setOpen => "set"

end Keyword

/-- What a token is. A reference to a parameter carries the declared type. -/
inductive TokenKind where
  | integer
  | quoted
  | boolean
  | nil
  | logical
  | comparison
  | keyword (word : Keyword)
  | param (type : ParamType)
  deriving DecidableEq, Repr

structure Token where
  kind : TokenKind
  text : String
  isArray : Bool := false
  deriving DecidableEq, Repr

namespace Token

def keyword? (t : Token) : Option Keyword :=
  match t.kind with
  | .keyword word => some word
  | _ => none

/-- A literal or a parameter: what may stand on either side of a comparison. -/
def isOperand (t : Token) : Bool :=
  match t.kind with
  | .integer | .quoted | .boolean | .nil | .param _ => true
  | .logical | .comparison | .keyword _ => false

/-- The type of an operand. The literal nil has none. -/
def type? (t : Token) : Option ParamType :=
  match t.kind with
  | .integer => some .int
  | .quoted => some .string
  | .boolean => some .bool
  | .param type => some type
  | .nil | .logical | .comparison | .keyword _ => none

def isDisjunction (t : Token) : Bool :=
  t.kind = .logical && t.text = "||"

/-- The texts of the tokens with one blank between neighbours. -/
def join (ts : List Token) : String :=
  " ".intercalate (ts.map text)

end Token

end QueryTemplate
