import QueryTemplate.Toml.Moment
import QueryTemplate.Toml.Number
import QueryTemplate.Toml.Quoted

/-!
TOML documents. A document is read into lines, each a header or a value under a key, and the lines
are entered one by one into the table that is the document.
-/

namespace QueryTemplate.Toml

open Reader

def boolean : Reader Value :=
  (do string "true"; return .boolean true) <|> (do string "false"; return .boolean false)

def scalar : Reader Value :=
  (.string <$> quotedText) <|> moment <|> number <|> boolean

/-- Values in brackets, over any number of lines. A comma may follow the last one. -/
def array (item : Reader Value) : Reader Value := do
  let spaced : Reader Value := do
    gaps
    let v ← item
    gaps
    return v
  char '['
  let items ← maybe do
    let items ← separated (char ',') spaced
    let _ ← maybe (char ',')
    return items
  gaps
  char ']'
  return .array (items.getD [])

/-- A value under a key, with the path and the last part of the key. -/
def assignment (item : Reader Value) : Reader (List String × String × Value) := do
  let (path, last) ← key
  char '='
  spaces
  return (path, last, ← item)

def inlineTable (item : Reader Value) : Reader Value := do
  char '\x7b'
  let fields ← maybe <| separated (char ',') do
    let field ← assignment item
    spaces
    return field
  spaces
  char '\x7d'
  let entries ← (fields.getD []).foldlM
    (fun entries (path, last, v) => (Entries.add path last v entries : Option Entries)) []
  return .table (Item.toFields entries)

/-- A value that holds values to at most the given depth. -/
def valueWithin : Nat → Reader Value
  | 0 => scalar
  | depth + 1 => scalar <|> array (valueWithin depth) <|> inlineTable (valueWithin depth)

def value : Reader Value :=
  valueWithin nestingLimit

inductive DocumentLine where
  | blank
  | header (path : List String) (last : String)
  | elementHeader (path : List String) (last : String)
  | field (path : List String) (last : String) (value : Value)

def documentLine : Reader DocumentLine :=
  (do
    newline
    return .blank) <|>
  (do
    comment
    newline <|> atEnd
    return .blank) <|>
  (do
    string "[["
    let (path, last) ← key
    string "]]"
    lineEnd
    return .elementHeader path last) <|>
  (do
    char '['
    let (path, last) ← key
    char ']'
    lineEnd
    return .header path last) <|>
  (do
    let (path, last, v) ← assignment value
    lineEnd
    return .field path last v)

def documentLines : Reader (List DocumentLine) := do
  let _ ← maybe (char '\uFEFF')
  spaces
  let lines ← many do
    let line ← documentLine
    spaces
    return line
  atEnd
  return lines

structure Draft where
  entries : Entries := []
  header : List String := []

def Draft.enter (d : Draft) : DocumentLine → Option Draft
  | .blank => some d
  | .header path last => do
    return ⟨← Entries.openTable path last d.entries, path ++ [last]⟩
  | .elementHeader path last => do
    return ⟨← Entries.openElement path last d.entries, path ++ [last]⟩
  | .field path last v => do
    return ⟨← Entries.addUnder d.header path last v d.entries, d.header⟩

def parse? (text : String) : Option (List (String × Value)) := do
  let (lines, _) ← documentLines text.toList
  let draft ← lines.foldlM Draft.enter {}
  return Item.toFields draft.entries

end QueryTemplate.Toml
