import QueryTemplate.Fault
import QueryTemplate.Lexeme
import QueryTemplate.Token

/-!
The tokens of a template. Each lexeme is classified in turn, so the leftmost fault is reported. A
word is a number, a reserved word in any letter case, or the exact name of a parameter.
-/

namespace QueryTemplate

namespace TokenKind

/-- The meaning of a word that no parameter can take: a number, a keyword, or one of the words
true, false and nil. Only ASCII letters have a case here. -/
def ofReserved? (word : List Char) : Option TokenKind :=
  if word ≠ [] ∧ word.all Char.isDigit then some .integer
  else
    let name := String.ofList (word.map Char.toLower)
    if name = "true" ∨ name = "false" then some .boolean
    else if name = "nil" then some .nil
    else (Keyword.ofName? name).map keyword

def isComparison (operator : List Char) : Bool :=
  operator ∈ [['>'], ['<'], ['>', '='], ['<', '='], ['=', '='], ['!', '=']]

end TokenKind

namespace Token

/-- The token of a text that has to be the name of a parameter. -/
def reference (params : List Param) (text : String) : Except Fault Token :=
  match Param.find? params text with
  | some p => .ok ⟨.param p.type, text, p.isArray⟩
  | none => .error (.unknownParameter text)

/-- The tokens of one lexeme: one, or none for a stray mark. -/
def ofLexeme (params : List Param) : Lexeme → Except Fault (List Token)
  | .word cs =>
    match TokenKind.ofReserved? cs with
    | some kind => .ok [⟨kind, String.ofList cs, false⟩]
    | none => (reference params (String.ofList cs)).map ([·])
  | .quoted cs => .ok [⟨.quoted, String.ofList cs, false⟩]
  | .operator cs =>
    if TokenKind.isComparison cs then .ok [⟨.comparison, String.ofList cs, false⟩]
    else (reference params (String.ofList cs)).map ([·])
  | .logical c => .ok [⟨.logical, String.ofList [c, c], false⟩]
  | .stray _ => .ok []
  | .truncated => .error .truncated

def ofLexemes (params : List Param) : List Lexeme → Except Fault (List Token)
  | [] => .ok []
  | l :: ls => do
    let first ← ofLexeme params l
    let rest ← ofLexemes params ls
    return first ++ rest

theorem ofLexemes_cons_eq_ok {params : List Param} {l : Lexeme} {ls : List Lexeme}
    {ts : List Token} (h : ofLexemes params (l :: ls) = .ok ts) :
    ∃ front back, ofLexeme params l = .ok front ∧ ofLexemes params ls = .ok back ∧
      ts = front ++ back := by
  unfold ofLexemes at h
  obtain ⟨front, first, h⟩ := except_bind_eq_ok.1 h
  obtain ⟨back, others, h⟩ := except_bind_eq_ok.1 h
  cases h
  exact ⟨front, back, first, others, rfl⟩

def ofText (params : List Param) (template : String) : Except Fault (List Token) :=
  ofLexemes params (Lexeme.ofText template)

end Token

end QueryTemplate
