import QueryTemplate.Reader
import QueryTemplate.Toml.Space

/-!
Texts in quotes. Between double quotes a backslash escapes; between single quotes nothing does.
Three quotes open a text over several lines: a line end right after them is dropped, every other
line end is a line feed, and one or two quotes may stand before the three that close it.
-/

namespace QueryTemplate.Toml

open Reader

def escaped : Reader Char := do
  char '\\'
  match ← satisfy fun _ => true with
  | 'b' => return '\x08'
  | 't' => return '\t'
  | 'n' => return '\n'
  | 'f' => return '\x0C'
  | 'r' => return '\r'
  | '"' => return '"'
  | '\\' => return '\\'
  | 'u' => do scalar? (← fixedDigits 16 4)
  | 'U' => do scalar? (← fixedDigits 16 8)
  | _ => failure

/-- A backslash at the end of a line, with all blanks and line ends after it. -/
def foldedLine : Reader Unit := do
  char '\\'
  spaces
  newline
  let _ ← many ((do let _ ← satisfy isSpace) <|> newline)

/-- A character that stands for itself between the given quotes. -/
def plainBut (excluded : List Char) : Reader Char :=
  satisfy fun c => isPlain c && !excluded.contains c

def basicText : Reader (List Char) := do
  char '"'
  let cs ← many (plainBut ['"', '\\'] <|> escaped)
  char '"'
  return cs

def literalText : Reader (List Char) := do
  char '\''
  let cs ← many (plainBut ['\''])
  char '\''
  return cs

/-- One or two quotes that no further quote follows. -/
def innerQuotes (quote : Char) : Reader (List Char) := fun cs =>
  match cs.span (· = quote) with
  | (quotes, next :: rest) =>
    if quotes.length = 1 ∨ quotes.length = 2 then some (quotes, next :: rest) else none
  | (_, []) => none

/-- Three quotes with up to two more before them. -/
def closingQuotes (quote : Char) : Reader (List Char) := fun cs =>
  let quotes := (cs.takeWhile (· = quote)).take 5
  if 3 ≤ quotes.length then some (quotes.drop 3, cs.drop quotes.length) else none

/-- A text over several lines between three quotes, made of the given contents. -/
def longText (quote : Char) (content : Reader (List Char)) : Reader (List Char) := do
  chars [quote, quote, quote]
  let _ ← maybe newline
  let parts ← many (content <|> (do newline; return ['\n']) <|> innerQuotes quote)
  let extra ← closingQuotes quote
  return parts.flatten ++ extra

def longBasicText : Reader (List Char) :=
  longText '"' ((do return [← plainBut ['"', '\\']]) <|> (do foldedLine; return []) <|>
    (do return [← escaped]))

def longLiteralText : Reader (List Char) :=
  longText '\'' (do return [← plainBut ['\'']])

def quotedText : Reader String := fun cs =>
  match cs with
  | '"' :: '"' :: '"' :: _ => (String.ofList <$> longBasicText) cs
  | '"' :: _ => (String.ofList <$> basicText) cs
  | '\'' :: '\'' :: '\'' :: _ => (String.ofList <$> longLiteralText) cs
  | '\'' :: _ => (String.ofList <$> literalText) cs
  | _ => none

/-- A part of a key: a word, or a text in single or double quotes on one line. -/
def keyPart : Reader String :=
  (String.ofList <$> basicText) <|> (String.ofList <$> literalText) <|> do
    let word ← span fun c => c.isAlphanum || c = '-' || c = '_'
    if word = [] then failure
    return String.ofList word

/-- The largest number of parts of a key, and the number of values that may nest. -/
def nestingLimit : Nat := 79

/-- The parts of a key with dots and blanks between them, the last part apart. -/
def key : Reader (List String × String) := do
  let parts ← separated (char '.') do
    spaces
    let part ← keyPart
    spaces
    return part
  match parts.reverse with
  | last :: path => if parts.length ≤ nestingLimit then return (path.reverse, last) else failure
  | [] => failure

end QueryTemplate.Toml
