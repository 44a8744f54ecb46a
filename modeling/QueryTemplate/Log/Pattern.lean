import QueryTemplate.Log.Pattern.CharacterSet
import QueryTemplate.Text.Unicode

/-!
Patterns: the regular expressions by which a log directive can ask for the value of a field. No
value is ever compared with one, so what is told of a text is only whether it is a pattern.
-/

namespace QueryTemplate.Log.Pattern

open Reader

def groupName : Reader (List Char) := do
  let first ← satisfy fun c => c = '_' || Text.isAlphabetic c
  let rest ← span fun c => c ∈ "_.[]".toList || Text.isAlphanumeric c
  char '>'
  return first :: rest

/-- How a group starts after its parenthesis: with a name, with a change of the mode, or without
anything. -/
def groupStart (m : Mode) : Reader (List (List Char) × Mode) :=
  (do
    string "?P<" <|> string "?<"
    return ([← groupName], m)) <|>
  (do
    char '?'
    let letters ← Mode.letters
    char ':'
    return ([], m.change letters)) <|>
  pure ([], m)

/-- A group with a body of the given kind. A change of the mode inside it ends with it. -/
def group (body : Mode → Reader (Extent × Mode)) (m : Mode) : Reader Extent := do
  char '('
  m.gap
  let (names, inner) ← groupStart m
  let (extent, last) ← body inner
  last.gap
  char ')'
  return { Extent.nest [extent] with names := names ++ extent.names }

def modeChange (m : Mode) : Reader Mode := do
  char '('
  m.gap
  char '?'
  let letters ← Mode.letters
  guard (letters ≠ [])
  char ')'
  return m.change letters

def repetition (m : Mode) : Reader Unit := do
  m.gap
  char '?' <|> char '*' <|> char '+'
  let _ ← maybe (char '?')

/-- A change of the mode, or an atom, a set or a group with any number of repetitions, each of which
is a level of its own. -/
def part (nested : Mode → Reader Extent) (m : Mode) : Reader (Extent × Mode) := do
  m.gap
  match ← maybe (modeChange m) with
  | some m => return ({}, m)
  | none =>
    let extent ← nested m <|> (do let _ ← Atom.part m; return ({} : Extent))
    let repetitions ← many (repetition m)
    return ({ extent with depth := extent.depth + repetitions.length }, m)

def sequence (nested : Mode → Reader Extent) (m : Mode) : Reader (Extent × Mode) := do
  let (parts, m) ← manyFrom (part nested) m
  return (.join parts, m)

/-- Sequences with bars in between. The mode is handed on from each to the next. -/
def choice (nested : Mode → Reader Extent) (m : Mode) : Reader (Extent × Mode) := do
  let (first, m) ← sequence nested m
  let (others, m) ← manyFrom (fun m => do m.gap; char '|'; sequence nested m) m
  return (.join (first :: others), m)

/-- A choice with groups and sets in it to at most the given depth. -/
def within : Nat → Mode → Reader (Extent × Mode)
  | 0, m => choice (fun _ => failure) m
  | depth + 1, m => choice (fun m => CharacterSet.within depth m <|> group (within depth) m) m

def nestingLimit : Nat := 250

/-- Whether a text is a pattern: it has to be read to its end, its parts must not be nested too
deeply, and no two of its groups may have the same name. -/
def isPattern (cs : List Char) : Bool :=
  match (do
    let (extent, m) ← within nestingLimit {}
    m.gap
    atEnd
    return extent : Reader Extent).run' cs with
  | some extent => extent.depth ≤ nestingLimit && extent.names.Nodup
  | none => false

end QueryTemplate.Log.Pattern
