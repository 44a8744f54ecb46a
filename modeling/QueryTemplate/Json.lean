/-!
JSON values without numbers, and what is used of a library for them: the maps in which an object is
put together, and the text of a value. In which order a map keeps its entries and how a text is laid
out is up to the library.
-/

namespace QueryTemplate

inductive Json where
  | string (value : String)
  | array (items : List Json)
  | object (fields : List (String × Json))
  deriving Repr

namespace Json

structure Library where
  /-- Maps from keys to values. -/
  Map : Type
  empty : Map
  /-- The map with a value for the key, whether or not it has had one. -/
  insert : Map → String → Json → Map
  entries : Map → List (String × Json)
  /-- The text of a value over several lines. -/
  pretty : Json → String

namespace Library

variable (lib : Library)

/-- The entries of the map to which the fields are added one after the other. -/
def collect (fields : List (String × Json)) : List (String × Json) :=
  lib.entries (fields.foldl (fun m (key, value) => lib.insert m key value) lib.empty)

mutual

/-- The value with every object put together in a map. -/
def valueOf : Json → Json
  | string value => string value
  | array items => array (valuesOf items)
  | object fields => object (lib.collect (fieldsOf fields))

def valuesOf : List Json → List Json
  | [] => []
  | item :: items => valueOf item :: valuesOf items

def fieldsOf : List (String × Json) → List (String × Json)
  | [] => []
  | (key, value) :: fields => (key, valueOf value) :: fieldsOf fields

end

end Library

end Json

end QueryTemplate
