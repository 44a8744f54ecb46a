import QueryTemplate.Text.Blank

/-!
Lexemes: the pieces that a template text falls into before any word is looked up. Words end at
blanks, at operators and at the end of the text. A quoted text starts at a double quote and ends
at the next one that does not follow a backslash; what is written directly before it belongs to
it. An ampersand or a bar that is not doubled is no part of any word, and does not end one either.
-/

namespace QueryTemplate

inductive Lexeme where
  | word (text : List Char)
  /-- A text in double quotes, with the quotes. -/
  | quoted (text : List Char)
  /-- One of the marks of `Lexeme.isOperatorMark`, possibly followed by an equals sign. -/
  | operator (text : List Char)
  /-- A doubled ampersand or bar. -/
  | logical (mark : Char)
  /-- A single ampersand or bar. -/
  | stray (mark : Char)
  /-- The text ends inside a quoted text or where an operator could go on. -/
  | truncated
  deriving DecidableEq, Repr

namespace Lexeme

def isOperatorMark (c : Char) : Bool :=
  c = '>' || c = '<' || c = '=' || c = '!'

def isLogicalMark (c : Char) : Bool :=
  c = '&' || c = '|'

/-- Closes the word whose characters, last first, are pending, in front of further lexemes. -/
def endWord (pending : List Char) (rest : List Lexeme) : List Lexeme :=
  match pending with
  | [] => rest
  | _ :: _ => .word pending.reverse :: rest

mutual

/-- The lexemes of a text that continues a word. The characters of the word are pending, last
first. -/
def scan (pending : List Char) : List Char → List Lexeme
  | [] => endWord pending []
  | c :: cs =>
    if c = '"' then scanQuoted ('"' :: pending) cs
    else if isOperatorMark c then
      match cs with
      | [] => endWord pending [.truncated]
      | d :: ds =>
        if d = '=' then endWord pending (.operator [c, d] :: scan [] ds)
        else endWord pending (.operator [c] :: scan [] (d :: ds))
    else if isLogicalMark c then
      match cs with
      | [] => [.truncated]
      | d :: ds =>
        if d = c then endWord pending (.logical c :: scan [] ds)
        else .stray c :: scan pending (d :: ds)
    else if Text.isBlank c then endWord pending (scan [] cs)
    else scan (c :: pending) cs

/-- The lexemes of a text that continues a quoted text, whose characters are pending, last first.
-/
def scanQuoted (pending : List Char) : List Char → List Lexeme
  | [] => [.truncated]
  | c :: cs =>
    if c = '"' ∧ pending.head? ≠ some '\\' then .quoted ('"' :: pending).reverse :: scan [] cs
    else scanQuoted (c :: pending) cs

end

def ofText (template : String) : List Lexeme :=
  scan [] template.toList

end Lexeme

end QueryTemplate
