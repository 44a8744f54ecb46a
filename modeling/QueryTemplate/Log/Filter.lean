import QueryTemplate.Log

/-!
Log filters: lists of directives, each of which sets the verbosity of some of the records. The most
specific directive that applies to a record decides, and of equally specific ones the last.
-/

namespace QueryTemplate.Log

structure Condition where
  /-- A field that the records have. -/
  field : Option String := none
  /-- Only what happens inside a certain span is meant: one of a given name, or one whose fields
  have given values. No record here comes from inside a span. -/
  inSpan : Bool := false
  deriving DecidableEq, Repr

def Condition.holds (c : Condition) (r : Record) : Bool :=
  !c.inSpan && c.field.all (· ∈ r.fieldNames)

/-- The verbosity of the records whose scopes start with a text and that meet a condition. -/
structure Directive where
  scope : String := ""
  condition : Condition := {}
  verbosity : Nat
  deriving DecidableEq, Repr

namespace Directive

def applies (d : Directive) (r : Record) : Bool :=
  r.scope.startsWith d.scope && d.condition.holds r

/-- Of directives that apply to one record, the one with the longer scope is more specific, then the
one with a field, and then the one whose field comes later in the alphabet. -/
def moreSpecific (a b : Directive) : Bool :=
  if a.scope.length = b.scope.length then
    match a.condition.field, b.condition.field with
    | some x, some y => y < x
    | some _, none => true
    | none, _ => false
  else b.scope.length < a.scope.length

/-- The more specific of two directives, the second one if they are equally specific. -/
def better (a b : Directive) : Directive :=
  if a.moreSpecific b then a else b

end Directive

abbrev Filter := List Directive

namespace Filter

def verbosityOf (r : Record) (f : Filter) : Nat :=
  match f.filter (·.applies r) with
  | [] => 0
  | d :: ds => (ds.foldl Directive.better d).verbosity

def select (f : Filter) (records : List Record) : List Record :=
  records.filter fun r => r.severity.verbosity ≤ f.verbosityOf r

end Filter

end QueryTemplate.Log
