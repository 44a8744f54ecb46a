import QueryTemplate.Text.Blank

/-!
Parameters of a template: their declared types, the spec `Name:type` that declares one on a
command line, and the lookup of a name. A lookup is exact and the first declaration of a name
wins.
-/

namespace QueryTemplate

/-- The types that a condition can tell apart. -/
inductive ParamType where
  | bool
  | int
  | string
  | time
  | other
  deriving DecidableEq, Repr, Inhabited

namespace ParamType

/-- The type declared by a type name. A name that is not listed declares a type of no known kind.
-/
def ofName (name : String) : ParamType :=
  if name = "bool" then bool
  else if name = "int" then int
  else if name = "string" then string
  else if name = "time" ∨ name = "Time" then time
  else other

def name : ParamType → String
  | bool => "bool"
  | int => "int"
  | string => "string"
  | time => "time"
  | other => "other"

end ParamType

structure Param where
  name : String
  type : ParamType
  isArray : Bool := false
  deriving DecidableEq, Repr, Inhabited

inductive SpecFault where
  | noType (spec : String)
  | noName (spec : String)
  deriving DecidableEq, Repr

def SpecFault.message : SpecFault → String
  | noType spec => "参数格式应为 Name:type：" ++ spec
  | noName spec => "参数名为空：" ++ spec

namespace Param

/-- The type named after the colon of a spec; `[]` at its end declares an array. -/
def ofTypeText (name : String) (type : List Char) : Param :=
  match type.reverse with
  | ']' :: '[' :: element => ⟨name, .ofName (String.ofList element.reverse), true⟩
  | _ => ⟨name, .ofName (String.ofList type), false⟩

/-- The parameter declared by a spec `Name:type` or `Name:type[]`. The first colon ends the name,
and blanks around the name and around the type are dropped. -/
def ofSpec (spec : String) : Except SpecFault Param :=
  match spec.toList.span (· ≠ ':') with
  | (_, []) => .error (.noType spec)
  | (name, _ :: type) =>
    let name := String.ofList (Text.trimChars name)
    if name = "" then .error (.noName spec)
    else .ok (ofTypeText name (Text.trimChars type))

def find? (params : List Param) (name : String) : Option Param :=
  List.find? (fun p => decide (p.name = name)) params

theorem find?_append {ps : List Param} {name : String} {p : Param} (h : find? ps name = some p)
    (extra : List Param) : find? (ps ++ extra) name = some p := by
  simp only [find?] at h ⊢
  rw [List.find?_append, h, Option.some_or]

end Param

end QueryTemplate
