import QueryTemplate.Reader

/-!
Blanks, comments and line ends in TOML.
-/

namespace QueryTemplate.Toml

def isSpace (c : Char) : Bool :=
  c = ' ' || c = '\t'

/-- A character that a text or a comment may hold: a tab, or no control character. -/
def isPlain (c : Char) : Bool :=
  c = '\t' || (0x20 ≤ c.toNat && c.toNat ≠ 0x7F)

open Reader

def spaces : Reader Unit := do
  let _ ← span isSpace

def newline : Reader Unit :=
  char '\n' <|> string "\r\n"

def comment : Reader Unit := do
  char '#'
  let _ ← span isPlain

def lineEnd : Reader Unit := do
  spaces
  let _ ← maybe comment
  newline <|> atEnd

def gaps : Reader Unit := do
  let _ ← many ((do let _ ← satisfy isSpace) <|> newline <|> (do comment; newline))

end QueryTemplate.Toml
