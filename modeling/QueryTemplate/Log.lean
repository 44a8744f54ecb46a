import QueryTemplate.Text.Unicode

/-!
Log records: a scope, a severity, a message, and named values. A record is written on one line,
unless its message has line ends of its own. Text values are quoted, with quotes, backslashes and
what would not be seen escaped, and of the message's characters those are escaped with which a
terminal could be controlled.
-/

namespace QueryTemplate.Text

/-- The code point of a character in small hexadecimal digits, in braces. -/
def codePoint (c : Char) : List Char :=
  ['\\', 'u', '\x7b'] ++ Nat.toDigits 16 c.toNat ++ ['\x7d']

def escapeQuoted (c : Char) : List Char :=
  if c = '"' then ['\\', '"']
  else if c = '\\' then ['\\', '\\']
  else if c = '\n' then ['\\', 'n']
  else if c = '\r' then ['\\', 'r']
  else if c = '\t' then ['\\', 't']
  else if c = '\x00' then ['\\', '0']
  else if isUnshown c then codePoint c
  else [c]

def quoted (s : String) : String :=
  String.ofList ('"' :: s.toList.flatMap escapeQuoted ++ ['"'])

end QueryTemplate.Text

namespace QueryTemplate.Log

inductive Severity where
  | error
  | warn
  | info
  | debug
  | trace
  deriving DecidableEq, Repr

namespace Severity

def name : Severity → String
  | error => "ERROR"
  | warn => "WARN"
  | info => "INFO"
  | debug => "DEBUG"
  | trace => "TRACE"

/-- The verbosity from which on records of the severity are logged. -/
def verbosity : Severity → Nat
  | error => 1
  | warn => 2
  | info => 3
  | debug => 4
  | trace => 5

end Severity

inductive FieldValue where
  | text (value : String)
  | count (value : Nat)
  deriving DecidableEq, Repr

def FieldValue.shown : FieldValue → String
  | text value => Text.quoted value
  | count value => toString value

structure Record where
  /-- The part of the program that the record comes from, as a path with colons in pairs. -/
  scope : String
  severity : Severity
  message : String
  fields : List (String × FieldValue) := []
  deriving DecidableEq, Repr

/-- A character of a message. Bell, backspace, form feed, escape and delete are written by their
two hexadecimal digits, and the controls from 0x80 to 0x9F by their code points. -/
def escapeControl (c : Char) : List Char :=
  let n := c.toNat
  if n ∈ [0x07, 0x08, 0x0C, 0x1B, 0x7F] then
    ['\\', 'x', Nat.digitChar (n / 16), Nat.digitChar (n % 16)]
  else if 0x80 ≤ n ∧ n ≤ 0x9F then Text.codePoint c
  else [c]

namespace Record

def messageField : String := "message"

def fieldNames (r : Record) : List String :=
  messageField :: r.fields.map (·.1)

def text (r : Record) : String :=
  r.severity.name ++ " " ++ String.ofList (r.message.toList.flatMap escapeControl) ++
    String.join (r.fields.map fun (name, value) => " " ++ name ++ "=" ++ value.shown)

end Record

end QueryTemplate.Log
