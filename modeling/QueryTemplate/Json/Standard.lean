import QueryTemplate.Json

/-!
The library that the program is run with. Its maps are lists of fields in the order of their keys,
and a text has two blanks in front of what is nested for each level.
-/

namespace QueryTemplate

namespace Json

/-! ## Texts -/

def hexDigit (n : Nat) : Char :=
  Nat.digitChar n

/-- A character inside a quoted text. Quotes, backslashes and control characters are escaped. -/
def escape (c : Char) : List Char :=
  if c = '"' then ['\\', '"']
  else if c = '\\' then ['\\', '\\']
  else if c = '\n' then ['\\', 'n']
  else if c = '\r' then ['\\', 'r']
  else if c = '\t' then ['\\', 't']
  else if c = '\x08' then ['\\', 'b']
  else if c = '\x0C' then ['\\', 'f']
  else if c.toNat < 0x20 then
    ['\\', 'u', '0', '0', hexDigit (c.toNat / 16), hexDigit (c.toNat % 16)]
  else [c]

def quote (s : String) : String :=
  String.ofList ('"' :: s.toList.flatMap escape ++ ['"'])

def newLine (depth : Nat) : String :=
  "\n" ++ String.ofList (List.replicate (2 * depth) ' ')

mutual

/-- Appends the text of a value that is nested to the given depth, two blanks for each level. -/
def write (depth : Nat) (out : String) : Json → String
  | string value => out ++ quote value
  | array [] => out ++ "[]"
  | array (item :: items) =>
    let first := write (depth + 1) (out ++ "[" ++ newLine (depth + 1)) item
    writeItems (depth + 1) first items ++ newLine depth ++ "]"
  | object [] => out ++ "\x7b\x7d"
  | object ((key, value) :: fields) =>
    let start := out ++ "\x7b" ++ newLine (depth + 1) ++ quote key ++ ": "
    let first := write (depth + 1) start value
    writeFields (depth + 1) first fields ++ newLine depth ++ "\x7d"

def writeItems (depth : Nat) (out : String) : List Json → String
  | [] => out
  | item :: items => writeItems depth (write depth (out ++ "," ++ newLine depth) item) items

def writeFields (depth : Nat) (out : String) : List (String × Json) → String
  | [] => out
  | (key, value) :: fields =>
    let start := out ++ "," ++ newLine depth ++ quote key ++ ": "
    writeFields depth (write depth start value) fields

end

def pretty (j : Json) : String :=
  j.write 0 ""

/-! ## Maps -/

/-- Puts a field in its place among sorted fields. A field of the same key is replaced. -/
def insertField (key : String) (value : Json) : List (String × Json) → List (String × Json)
  | [] => [(key, value)]
  | (k, v) :: fields =>
    if key < k then (key, value) :: (k, v) :: fields
    else if key = k then (key, value) :: fields
    else (k, v) :: insertField key value fields

theorem mem_keys_insertField {key k : String} {value : Json} {fields : List (String × Json)} :
    k ∈ (insertField key value fields).map Prod.fst ↔ k = key ∨ k ∈ fields.map Prod.fst := by
  induction fields with
  | nil => simp [insertField]
  | cons field fields ih =>
    rw [insertField]
    split
    · simp
    split
    · next same => simp [same]
    · rw [List.map_cons, List.mem_cons, ih, List.map_cons, List.mem_cons, or_left_comm]

def Ascends (fields : List (String × Json)) : Prop :=
  (fields.map Prod.fst).Pairwise (· < ·)

theorem Ascends.insertField {fields : List (String × Json)} (h : Ascends fields) (key : String)
    (value : Json) : Ascends (Json.insertField key value fields) := by
  induction fields with
  | nil => exact List.pairwise_singleton _ _
  | cons field fields ih =>
    obtain ⟨least, others⟩ := List.pairwise_cons.1 h
    rw [Json.insertField]
    split
    · next before =>
      refine List.pairwise_cons.2 ⟨?_, h⟩
      intro k hk
      rcases List.mem_cons.1 hk with rfl | further
      · exact before
      · exact String.lt_trans before (least k further)
    split
    · next same => exact List.pairwise_cons.2 ⟨same ▸ least, others⟩
    · next notBefore other =>
      refine List.pairwise_cons.2 ⟨?_, ih others⟩
      intro k hk
      rcases mem_keys_insertField.1 hk with rfl | further
      · rw [← String.not_le]
        exact fun below => other (String.le_antisymm below (String.not_lt.1 notBefore))
      · exact least k further

structure SortedFields where
  fields : List (String × Json)
  ascends : Ascends fields

def SortedFields.insert (m : SortedFields) (key : String) (value : Json) : SortedFields :=
  ⟨insertField key value m.fields, m.ascends.insertField key value⟩

def Library.standard : Library where
  Map := SortedFields
  empty := ⟨[], List.Pairwise.nil⟩
  insert := SortedFields.insert
  entries := SortedFields.fields
  pretty := Json.pretty

end Json

end QueryTemplate
