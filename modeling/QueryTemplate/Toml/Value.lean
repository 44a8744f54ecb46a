/-!
TOML values, and the tables that a document builds up before they become values. A table remembers
how it came about, because that decides whether later lines may still add to it.
-/

namespace QueryTemplate.Toml

/-- A value. Of fractions and moments only the presence is kept. -/
inductive Value where
  | string (text : String)
  | integer (value : Int)
  | fraction
  | boolean (value : Bool)
  | moment
  | array (items : List Value)
  | table (fields : List (String × Value))
  deriving Repr

inductive Origin where
  /-- By a header of its own, or as the whole document. -/
  | header
  /-- As a table around one that has a header. -/
  | around
  /-- By a dotted key. -/
  | dotted
  deriving DecidableEq, Repr

inductive Item where
  | value (v : Value)
  | table (origin : Origin) (entries : List (String × Item))
  /-- An array whose elements are tables with a double header. -/
  | tables (elements : List (List (String × Item)))

abbrev Entries := List (String × Item)

namespace Item

mutual

def toValue : Item → Value
  | value v => v
  | table _ entries => .table (toFields entries)
  | tables elements => .array (toTables elements)

def toFields : List (String × Item) → List (String × Value)
  | [] => []
  | (key, item) :: entries => (key, toValue item) :: toFields entries

def toTables : List (List (String × Item)) → List Value
  | [] => []
  | entries :: elements => .table (toFields entries) :: toTables elements

end

end Item

namespace Entries

def replace (key : String) (item : Item) (entries : Entries) : Entries :=
  entries.map fun (k, old) => if k = key then (k, item) else (k, old)

def changeLast (change : Entries → Option Entries) : List Entries → Option (List Entries)
  | [] => none
  | [last] => (change last).map ([·])
  | first :: second :: rest => (changeLast change (second :: rest)).map (first :: ·)

/-- Changes the table at the end of a path, which starts in a table of the given origin. Tables
that are missing on the way are added, of an array of tables the last one is entered, and a value
cannot be entered. A dotted key does not enter a table that has a header. -/
def change (dotted : Bool) (f : Origin → Entries → Option Entries) :
    List String → Origin → Entries → Option Entries
  | [], origin, entries => f origin entries
  | key :: path, _, entries =>
    match entries.lookup key with
    | none =>
      let origin := if dotted then Origin.dotted else .around
      (change dotted f path origin []).map fun inner => entries ++ [(key, .table origin inner)]
    | some (.value _) => none
    | some (.table origin inner) =>
      if dotted ∧ origin = .header then none
      else (change dotted f path origin inner).map fun inner =>
        replace key (.table origin inner) entries
    | some (.tables elements) =>
      (changeLast (change dotted f path .header) elements).map fun elements =>
        replace key (.tables elements) entries

/-- Adds a value under a dotted key, of which the last part is given apart. The tables before the
last part have to be made by dotted keys, and the last part has to be new. -/
def add (path : List String) (key : String) (v : Value) (entries : Entries) : Option Entries :=
  change true (fun origin entries =>
    if path ≠ [] ∧ origin ≠ .dotted then none
    else if (entries.lookup key).isSome then none
    else some (entries ++ [(key, .value v)])) path .header entries

/-- Opens the table of a header. A table can be opened once, also if it is there already because
it is around another one. -/
def openTable (path : List String) (key : String) (entries : Entries) : Option Entries :=
  change false (fun _ entries =>
    match entries.lookup key with
    | none => some (entries ++ [(key, .table .header [])])
    | some (.table .around inner) => some (replace key (.table .header inner) entries)
    | some _ => none) path .header entries

def openElement (path : List String) (key : String) (entries : Entries) : Option Entries :=
  change false (fun _ entries =>
    match entries.lookup key with
    | none => some (entries ++ [(key, .tables [[]])])
    | some (.tables elements) => some (replace key (.tables (elements ++ [[]])) entries)
    | some _ => none) path .header entries

def addUnder (header path : List String) (key : String) (v : Value) (entries : Entries) :
    Option Entries :=
  change false (fun _ entries => add path key v entries) header .header entries

end Entries

end QueryTemplate.Toml
