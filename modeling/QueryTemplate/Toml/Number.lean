import QueryTemplate.Reader
import QueryTemplate.Toml.Value

/-!
Numbers. Single underscores may stand between their digits. An integer has 64 bits with a sign. A
number with a fraction or an exponent is read for its form alone, except that one which rounds up to
infinity is no number.
-/

namespace QueryTemplate.Toml

open Reader

def moreDigits (base : Nat) : Reader (List Char) :=
  many ((do char '_'; satisfy (isDigitOf base)) <|> satisfy (isDigitOf base))

/-- Digits, the first of which may be zero. -/
def digits (base : Nat) : Reader (List Char) := do
  return (← satisfy (isDigitOf base)) :: (← moreDigits base)

def wholeDigits : Reader (List Char) := do
  let first ← satisfy (isDigitOf 10)
  if first = '0' then return [first]
  return first :: (← moreDigits 10)

def sign : Reader Bool :=
  (do char '-'; return true) <|> (do char '+'; return false) <|> pure false

def inRange (n : Int) : Reader Value :=
  if Int64.minValue.toInt ≤ n ∧ n ≤ Int64.maxValue.toInt then return .integer n else failure

/-- An integer whose base is told by two characters in front. -/
def basedInteger : Reader Value :=
  (do string "0x"; inRange (ofDigits 16 (← digits 16))) <|>
    (do string "0o"; inRange (ofDigits 8 (← digits 8))) <|>
    (do string "0b"; inRange (ofDigits 2 (← digits 2)))

def decimalInteger : Reader Value := do
  let negative ← sign
  let n := ofDigits 10 (← wholeDigits)
  inRange (if negative then -(n : Int) else n)

/-- The least number that rounds up to infinity: half a unit more than the largest double. -/
def overflowBound : Nat := Nat.pow 2 1024 - Nat.pow 2 970

/-- Whether the digits, read as an integer times a power of ten, round up to infinity. The number
of digits settles all but the numbers of about three hundred digits. -/
def overflows (ds : List Char) (exponent : Int) : Bool :=
  let n := ofDigits 10 ds
  let magnitude := (ds.dropWhile (· = '0')).length + exponent
  if n = 0 ∨ magnitude ≤ 300 then false
  else if 320 ≤ magnitude then true
  else if 0 ≤ exponent then overflowBound ≤ n * Nat.pow 10 exponent.toNat
  else overflowBound * Nat.pow 10 (-exponent).toNat ≤ n

def fractionDigits : Reader (List Char) := do
  char '.'
  digits 10

def exponent : Reader Int := do
  char 'e' <|> char 'E'
  let negative ← sign
  let n := ofDigits 10 (← digits 10)
  return if negative then -(n : Int) else n

def fractional : Reader Value := do
  let negative ← sign
  let whole ← wholeDigits
  let (fraction, power) ←
    (do return (← fractionDigits, (← maybe exponent).getD 0)) <|> (do return ([], ← exponent))
  if !negative && overflows (whole ++ fraction) (power - fraction.length) then failure
  return .fraction

def namedFraction : Reader Value := do
  let _ ← sign
  string "inf" <|> string "nan"
  return .fraction

def number : Reader Value :=
  basedInteger <|> fractional <|> decimalInteger <|> namedFraction

end QueryTemplate.Toml
