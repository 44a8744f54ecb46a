import QueryTemplate.Log.Filter
import QueryTemplate.Log.Filter.Comparison

/-!
Reading log filters: texts such as "info" or "warn,name=debug", of directives with commas in
between. A directive is a level; or it is a scope, a condition in brackets, or both, with a level
after an equals sign or without one. A filter is read strictly, or the parts that are no directives
are passed over.
-/

namespace QueryTemplate.Text

def byteCount : List Char → Nat
  | [] => 0
  | c :: cs => c.utf8Size + byteCount cs

/-- The characters that take so many bytes, and the rest, unless the cut is inside a character or
beyond the end. -/
def splitAtByte? : List Char → Nat → Option (List Char × List Char)
  | cs, 0 => some ([], cs)
  | [], _ + 1 => none
  | c :: cs, n + 1 =>
    if c.utf8Size ≤ n + 1 then
      (splitAtByte? cs (n + 1 - c.utf8Size)).map fun (front, back) => (c :: front, back)
    else none

end QueryTemplate.Text

namespace QueryTemplate.Log

def numbered? (digits : List Char) : Option Nat :=
  let digits := if digits.head? = some '+' then digits.tail else digits
  let number := Reader.ofDigits 10 digits
  if digits ≠ [] ∧ digits.all Char.isDigit ∧ number ≤ Severity.trace.verbosity then some number
  else none

def verbosity? (level : List Char) : Option Nat :=
  let name := String.ofList (level.map Char.toLower)
  ["off", "error", "warn", "info", "debug", "trace"].idxOf? name <|> numbered? level

namespace Directive

inductive Refusal where
  | malformed
  /-- A part would have to be cut in the middle of a character. -/
  | torn
  deriving DecidableEq, Repr

/-- The condition that a field sets. A value to compare the field with may stand after an equals
sign. -/
def fieldCondition (text : List Char) (inSpan : Bool) : Except Refusal Condition :=
  match text.span (· ≠ '=') with
  | ([], []) => .error .malformed
  | (name, []) => .ok { field := some (String.ofList name), inSpan }
  | (name, _ :: value) =>
    if isComparison (value.takeWhile (· ≠ '=')) then
      .ok { field := some (String.ofList name), inSpan := true }
    else .error .malformed

/-- The text of a directive. Its parts are located without the blanks at the ends, but are then cut
from the whole text, at the same distances in bytes from its start. A text with blanks in front is
therefore cut in the wrong places. -/
structure Source where
  whole : List Char
  trimmed : List Char

namespace Source

def ofText (text : String) : Source :=
  ⟨text.toList, Text.trimChars text.toList⟩

/-- What the whole text has from the place on at which the trimmed text has `rest` left. -/
def onward (s : Source) (rest : List Char) : Except Refusal (List Char) :=
  match Text.splitAtByte? s.whole (Text.byteCount s.trimmed - Text.byteCount rest) with
  | some (_, back) => .ok back
  | none => .error .torn

/-- What the whole text has from the place of `first` up to that of `rest`, which is left of it. -/
def between (s : Source) (first rest : List Char) : Except Refusal (List Char) := do
  match Text.splitAtByte? (← s.onward first) (Text.byteCount first - Text.byteCount rest) with
  | some (front, _) => .ok front
  | none => .error .torn

/-- The verbosity that the end of a directive gives: the highest one if there is no level. -/
def verbosity (s : Source) : List Char → Except Refusal Nat
  | [] => .ok Severity.trace.verbosity
  | '=' :: level => do
    match ← s.onward level with
    | [] => .ok Severity.trace.verbosity
    | level =>
      match verbosity? level with
      | some verbosity => .ok verbosity
      | none => .error .malformed
  | _ => .error .malformed

/-- Reads what follows an opening bracket: the name of a span, a field in braces, or both, and the
closing bracket. -/
def condition (s : Source) (text : List Char) : Except Refusal (Condition × List Char) :=
  let ending := text.dropWhile fun c => c ≠ ']' && c ≠ '\x7b'
  match ending with
  | ']' :: rest => do
    let _ ← s.between text ending
    return ({ inSpan := true }, rest)
  | '\x7b' :: inner => do
    let name ← s.between text ending
    let closing := inner.dropWhile (· ≠ '\x7d')
    if closing = [] then throw .malformed
    let condition ← fieldCondition (← s.between inner closing) (name ≠ [])
    match closing with
    | '\x7d' :: ']' :: rest => return (condition, rest)
    | _ => throw .malformed
  | _ => .error .malformed

end Source

def isStart (c : Char) : Bool :=
  Text.isAlphanumeric c || c = '-' || c = ':' || c = '_'

/-- Reads one directive. A word alone is a level if it can be one, and else a scope. -/
def ofText (text : String) : Except Refusal Directive :=
  let s := Source.ofText text
  let rest := s.trimmed.dropWhile fun c => c ≠ '=' && c ≠ '['
  if !s.trimmed.head?.any fun c => c = '[' || isStart c then .error .malformed
  else
    match rest with
    | [] =>
      match verbosity? s.whole with
      | some verbosity => .ok { verbosity }
      | none => .ok { scope := text, verbosity := Severity.trace.verbosity }
    | '[' :: bracketed => do
      let scope ← s.between s.trimmed rest
      let (condition, rest) ← s.condition bracketed
      return { scope := String.ofList scope, condition, verbosity := ← s.verbosity rest }
    | rest => do
      let scope ← s.between s.trimmed rest
      return { scope := String.ofList scope, verbosity := ← s.verbosity rest }

end Directive

namespace Filter

def parts (text : String) : List String :=
  (text.splitOn ",").filter (· ≠ "")

/-- The filter of a text of which every part has to be a directive. -/
def ofText (text : String) : Except Directive.Refusal Filter :=
  (parts text).mapM Directive.ofText

/-- The filter of a text of which the malformed parts are passed over. If nothing is left, errors
are logged. There is no filter if a part is torn. -/
def ofTextLossy? (text : String) : Option Filter := do
  let directives ← (parts text).filterMapM fun part =>
    match Directive.ofText part with
    | .ok directive => some (some directive)
    | .error .malformed => some none
    | .error .torn => none
  match directives with
  | [] => return [{ verbosity := Severity.error.verbosity }]
  | directives => return directives

end Filter

end QueryTemplate.Log
