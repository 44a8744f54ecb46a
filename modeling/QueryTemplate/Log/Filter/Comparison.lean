import QueryTemplate.Log.Pattern

/-!
Comparisons: what a directive can compare the value of a field with. It is a number or else a
pattern, and no comparison is ever made.
-/

namespace QueryTemplate.Log

open Reader

def decimal : Reader Unit := do
  let whole ← span Char.isDigit
  let fraction ← maybe do
    char '.'
    span Char.isDigit
  guard (whole ≠ [] ∨ fraction.getD [] ≠ [])
  let _ ← maybe do
    char 'e' <|> char 'E'
    let _ ← maybe (char '+' <|> char '-')
    let digits ← span Char.isDigit
    guard (digits ≠ [])

/-- A number with a plus sign in front. Other numbers are patterns as well. -/
def isPlusNumber (cs : List Char) : Bool :=
  match cs with
  | '+' :: number =>
    String.ofList (number.map Char.toLower) ∈ ["inf", "infinity", "nan"] ||
      ((do decimal; atEnd : Reader Unit) number).isSome
  | _ => false

def isComparison (cs : List Char) : Bool :=
  isPlusNumber cs || Pattern.isPattern cs

end QueryTemplate.Log
