import QueryTemplate.Log.Pattern.Atom

/-!
Sets of characters in brackets: members, ranges, sets of ASCII by name, and further sets, all of
which can be joined by the operators for what two sets share, for what only the first has, and for
what only one of them has.
-/

namespace QueryTemplate.Log.Pattern

/-- How deeply the parts of a pattern are nested and which of its groups have names. -/
structure Extent where
  depth : Nat := 0
  names : List (List Char) := []
  deriving DecidableEq, Repr

namespace Extent

def nest (parts : List Extent) : Extent where
  depth := parts.foldl (max · ·.depth) 0 + 1
  names := parts.flatMap (·.names)

/-- Parts side by side. One part alone is no level of its own. -/
def join : List Extent → Extent
  | [] => {}
  | [part] => part
  | parts => nest parts

end Extent

namespace CharacterSet

open Reader

def operators : List (List Char) :=
  [['&', '&'], ['-', '-'], ['~', '~']]

def operator : Reader Unit :=
  operators.firstM chars

/-- What follows the dash in front. Blanks are passed over, and so are the sign of a comment and the
blanks after it. -/
def afterDash (m : Mode) (rest : List Char) : Option Char :=
  if m.spaced then
    match rest.dropWhile Text.isBlank with
    | '#' :: rest => (rest.dropWhile Text.isBlank).head?
    | rest => rest.head?
  else rest.head?

/-- A dash, unless it is the last member or the start of an operator. -/
def startsRange (m : Mode) : List Char → Bool
  | '-' :: rest => afterDash m rest ≠ some ']' && afterDash m rest ≠ some '-'
  | _ => false

def range (m : Mode) : Reader Extent := do
  let first ← Atom.member m
  m.gap
  let last ← maybe do
    sees (startsRange m)
    char '-'
  match first, last with
  | _, none => return {}
  | .character low _, some () =>
    m.gap
    match ← Atom.member m with
    | .character high _ =>
      guard (low ≤ high)
      return {}
    | _ => failure
  | _, _ => failure

def asciiNames : List String :=
  ["alnum", "alpha", "ascii", "blank", "cntrl", "digit", "graph", "lower", "print", "punct",
    "space", "upper", "word", "xdigit"]

/-- A set of ASCII characters by name, and whether all others are meant. -/
def named : Reader Bool := do
  string "[:"
  let negated ← maybe (char '^')
  let name ← span (· ≠ ':')
  string ":]"
  guard (String.ofList name ∈ asciiNames)
  return negated.isSome

def isNamedSupported (m : Mode) (negated : Bool) : Bool :=
  if m.unicode then !m.caseless else !negated

def startsMember (rest : List Char) : Bool :=
  rest.head? ≠ some '[' && rest.head? ≠ some ']' && !operators.contains (rest.take 2)

def item (nested : Reader Extent) (m : Mode) : Reader Extent := do
  m.gap
  match ← maybe named with
  | some negated =>
    guard (isNamedSupported m negated)
    return {}
  | none =>
    nested <|> do
      sees startsMember
      range m

/-- The dashes right after the opening bracket, or else the closing bracket that stands there. They
are members. -/
def leading (m : Mode) : Reader (List Extent) := do
  let literal (c : Char) : Reader Extent := do
    char c
    m.gap
    return {}
  let dashes ← many (literal '-')
  let members ← if dashes = [] then Option.toList <$> maybe (literal ']') else pure dashes
  guard (members = [] ∨ (Atom.character '-' false).isMember m)
  return members

/-- A set in brackets, with a caret after the opening one if all other characters are meant. -/
def bracketed (nested : Reader Extent) (m : Mode) : Reader Extent := do
  char '['
  m.gap
  let negated ← maybe do
    char '^'
    m.gap
  guard (negated.isNone ∨ m.unicode)
  let first := (← leading m) ++ (← many (item nested m))
  let others ← many do
    m.gap
    operator
    many (item nested m)
  m.gap
  char ']'
  let operands := others.map Extent.join
  return .nest [operands.foldl (fun left right => .nest [left, right]) (.join first)]

def within : Nat → Mode → Reader Extent
  | 0, m => bracketed failure m
  | depth + 1, m => bracketed (within depth m) m

end CharacterSet

end QueryTemplate.Log.Pattern
