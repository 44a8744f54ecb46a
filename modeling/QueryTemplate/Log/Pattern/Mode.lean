import QueryTemplate.Reader
import QueryTemplate.Text.Blank

/-!
Modes of a pattern: what a directive such as "(?i-u)" turns on or off for the rest of its group.
-/

namespace QueryTemplate.Log.Pattern

open Reader

structure Mode where
  /-- Small and capital letters are not told apart. -/
  caseless : Bool := false
  /-- The pattern is about characters and not about bytes. -/
  unicode : Bool := true
  /-- Blanks and comments may stand between the parts. -/
  spaced : Bool := false
  deriving DecidableEq, Repr

namespace Mode

/-- Turns on or off what a letter stands for. What the other letters change has no bearing on the
form of a pattern. -/
def set (value : Bool) (m : Mode) (letter : Char) : Mode :=
  match letter with
  | 'i' => { m with caseless := value }
  | 'u' => { m with unicode := value }
  | 'x' => { m with spaced := value }
  | _ => m

/-- The letters in front of the dash are turned on, those after it off. -/
def change (m : Mode) (letters : List Char) : Mode :=
  let (on, off) := letters.span (· ≠ '-')
  off.foldl (set false) (on.foldl (set true) m)

/-- The letters of a change: each at most once, with at most one dash, which is not the last. -/
def letters : Reader (List Char) := do
  let letters ← span (· ∈ "imsRUux-".toList)
  guard (letters.Nodup ∧ letters.getLast? ≠ some '-')
  return letters

def gap (m : Mode) : Reader Unit := do
  if m.spaced then
    let blank : Reader Unit := do
      let _ ← satisfy Text.isBlank
    let comment : Reader Unit := do
      char '#'
      let _ ← span (· ≠ '\n')
    let _ ← many (blank <|> comment)

end Mode

end QueryTemplate.Log.Pattern
