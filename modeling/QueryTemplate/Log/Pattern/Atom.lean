import QueryTemplate.Log.Pattern.Mode

/-!
Atoms: the least parts of a pattern. What a pattern can use is limited in two ways. Of the letters
beyond ASCII it is not known which are digits, blanks or parts of words, nor which differ in case
only, so nothing that depends on it is supported in Unicode mode. And a pattern takes whole
characters, so nothing is supported in the other mode that takes a byte beyond ASCII by itself.
-/

namespace QueryTemplate.Log.Pattern

open Reader

inductive Atom where
  /-- A character, which may be written by the two digits of a byte. -/
  | character (value : Char) (asByte : Bool)
  /-- Any character but a line end. -/
  | any
  /-- Digits, blanks or the characters of words, or all other characters. -/
  | kind (negated : Bool)
  /-- A place: an edge of a line or of the text, or of a word. -/
  | edge (ofWord : Bool)
  deriving DecidableEq, Repr

namespace Atom

def isAscii (c : Char) : Bool :=
  c.toNat < 0x80

def isSupported (m : Mode) : Atom → Bool
  | character c asByte => if m.unicode then !m.caseless else isAscii c || !asByte
  | any => m.unicode
  | kind negated => !m.unicode && !negated
  | edge ofWord => !(m.unicode && ofWord)

def isMember (m : Mode) : Atom → Bool
  | character c _ => if m.unicode then !m.caseless else isAscii c
  | kind negated => !m.unicode && !negated
  | any | edge _ => false

/-- The character of a code point that is written by so many hexadecimal digits. -/
def code (m : Mode) (digits : Nat) : Reader Char := do
  scalar? (ofDigits 16 (← spacedDigits digits))
where
  spacedDigits : Nat → Reader (List Char)
    | 0 => pure []
    | n + 1 => do
      m.gap
      return (← satisfy (isDigitOf 16)) :: (← spacedDigits n)

def escaped (m : Mode) : Reader Atom := do
  char '\\'
  match ← satisfy isAscii with
  | 'x' => return character (← code m 2) true
  | 'u' => return character (← code m 4) false
  | 'U' => return character (← code m 8) false
  | 'd' | 's' | 'w' => return kind false
  | 'D' | 'S' | 'W' => return kind true
  | 'A' | 'z' => return edge false
  | 'b' | 'B' | '<' | '>' => return edge true
  | 'a' => return character '\x07' false
  | 'f' => return character '\x0C' false
  | 'n' => return character '\n' false
  | 'r' => return character '\r' false
  | 't' => return character '\t' false
  | 'v' => return character '\x0B' false
  | c => do
    guard !c.isAlphanum
    return character c false

def special : List Char :=
  ['\\', '.', '^', '$', '(', ')', '[', '|', '?', '*', '+', '\x7b']

def part (m : Mode) : Reader Atom := do
  let atom ← escaped m <|> (do char '.'; return any) <|>
    (do char '^' <|> char '$'; return edge false) <|>
    (do return character (← satisfy (· ∉ special)) false)
  guard (atom.isSupported m)
  return atom

/-- An atom as a member of a set. All but the backslash stands for itself there. -/
def member (m : Mode) : Reader Atom := do
  let atom ← escaped m <|> (do return character (← satisfy (· ≠ '\\')) false)
  guard (atom.isMember m)
  return atom

end Atom

end QueryTemplate.Log.Pattern
