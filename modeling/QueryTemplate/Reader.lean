/-!
Readers: partial functions that take a value off the front of a text. A reader that fails leaves
the text to the alternative after it.
-/

namespace QueryTemplate

abbrev Reader := StateT (List Char) Option

namespace Reader

def satisfy (p : Char → Bool) : Reader Char
  | c :: cs => if p c then some (c, cs) else none
  | [] => none

def char (c : Char) : Reader Unit
  | d :: cs => if d = c then some ((), cs) else none
  | [] => none

def chars : List Char → Reader Unit
  | [] => pure ()
  | c :: cs => do
    char c
    chars cs

def string (s : String) : Reader Unit :=
  chars s.toList

def sees (p : List Char → Bool) : Reader Unit := fun cs =>
  if p cs then some ((), cs) else none

def span (p : Char → Bool) : Reader (List Char) := fun cs =>
  some (cs.span p)

def atEnd : Reader Unit
  | [] => some ((), [])
  | _ :: _ => none

def manyUpTo {α : Type} (r : Reader α) : Nat → List Char → List α × List Char
  | 0, cs => ([], cs)
  | n + 1, cs =>
    match r cs with
    | none => ([], cs)
    | some (a, rest) =>
      let (as, left) := manyUpTo r n rest
      (a :: as, left)

/-- As many values as there are. Each of them takes at least one character, so the length of the
text bounds their number. -/
def many {α : Type} (r : Reader α) : Reader (List α) := fun cs =>
  some (manyUpTo r cs.length cs)

def manyFromUpTo {σ α : Type} (r : σ → Reader (α × σ)) :
    Nat → σ → List Char → (List α × σ) × List Char
  | 0, s, cs => (([], s), cs)
  | n + 1, s, cs =>
    match r s cs with
    | none => (([], s), cs)
    | some ((a, next), rest) =>
      let ((as, last), left) := manyFromUpTo r n next rest
      ((a :: as, last), left)

/-- As many values as there are, where each is read in the state that the one before it leaves. Each
of them takes at least one character. -/
def manyFrom {σ α : Type} (r : σ → Reader (α × σ)) (s : σ) : Reader (List α × σ) := fun cs =>
  some (manyFromUpTo r cs.length s cs)

def maybe {α : Type} (r : Reader α) : Reader (Option α) :=
  (some <$> r) <|> pure none

/-- Values with a separator between neighbours, at least one. -/
def separated {α : Type} (separator : Reader Unit) (r : Reader α) : Reader (List α) := do
  let first ← r
  let rest ← many (do separator; r)
  return first :: rest

/-! ## Digits in bases up to sixteen -/

/-- The value of a decimal digit, or of a letter that goes on counting from ten. -/
def digitValue (c : Char) : Nat :=
  if c.isDigit then c.toNat - '0'.toNat
  else c.toLower.toNat - 'a'.toNat + 10

def isDigitOf (base : Nat) (c : Char) : Bool :=
  (c.isDigit || c.isAlpha) && digitValue c < base

def ofDigits (base : Nat) (ds : List Char) : Nat :=
  ds.foldl (fun n d => base * n + digitValue d) 0

def someDigits (base : Nat) : Nat → Reader (List Char)
  | 0 => pure []
  | n + 1 => do return (← satisfy (isDigitOf base)) :: (← someDigits base n)

def fixedDigits (base n : Nat) : Reader Nat :=
  ofDigits base <$> someDigits base n

def scalar? (n : Nat) : Option Char :=
  if n.isValidChar then some (Char.ofNat n) else none

end Reader

end QueryTemplate
