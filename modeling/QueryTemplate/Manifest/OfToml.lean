import QueryTemplate.Manifest
import QueryTemplate.Toml.Document

/-!
Reading a manifest from a TOML document. Keys that a manifest does not know are passed over.
Wherever a record is due, an array may give its fields by position, and a moment counts as a
record without any known field.
-/

namespace QueryTemplate

namespace Toml.Value

def text? : Value → Option String
  | string text => some text
  | _ => none

def boolean? : Value → Option Bool
  | boolean b => some b
  | _ => none

def natural? : Value → Option Nat
  | integer n => if 0 ≤ n then some n.toNat else none
  | _ => none

def listOf? {α : Type} (item? : Value → Option α) : Value → Option (List α)
  | array items => items.mapM item?
  | _ => none

end Toml.Value

/-- A value whose fields are looked up by name or by position. -/
inductive Record where
  | named (fields : List (String × Toml.Value))
  | positional (items : List Toml.Value)

namespace Record

def ofValue? : Toml.Value → Option Record
  | .table fields => some (named fields)
  | .array items => some (positional items)
  | .moment => some (named [])
  | _ => none

def field? (r : Record) (name : String) (position : Nat) : Option Toml.Value :=
  match r with
  | named fields => fields.lookup name
  | positional items => items[position]?

def required {α : Type} (r : Record) (name : String) (position : Nat)
    (read? : Toml.Value → Option α) : Option α := do
  read? (← r.field? name position)

/-- A field that may be absent. If it is there, it has to be of its type. -/
def withDefault {α : Type} (r : Record) (name : String) (position : Nat) (fallback : α)
    (read? : Toml.Value → Option α) : Option α :=
  match r.field? name position with
  | none => some fallback
  | some v => read? v

end Record

def Target.ofValue? (v : Toml.Value) : Option Target := do
  let r ← Record.ofValue? v
  let fallback : Target := {}
  return {
    helper := ← r.withDefault "helper" 0 fallback.helper Toml.Value.text?
    capacity := ← r.withDefault "capacity" 1 fallback.capacity Toml.Value.natural?
    accumulator := ← r.withDefault "accumulator" 2 fallback.accumulator Toml.Value.text? }

def Manifest.logLevelOfValue? (v : Toml.Value) : Option String := do
  let r ← Record.ofValue? v
  r.withDefault "level" 0 ({} : Manifest).logLevel Toml.Value.text?

def Param.ofValue? (v : Toml.Value) : Option Param := do
  let r ← Record.ofValue? v
  return {
    name := ← r.required "name" 0 Toml.Value.text?
    type := ParamType.ofName (← r.required "type" 1 Toml.Value.text?)
    isArray := ← r.withDefault "array" 2 false Toml.Value.boolean? }

def Method.ofValue? (v : Toml.Value) : Option Method := do
  let r ← Record.ofValue? v
  return {
    name := ← r.required "name" 0 Toml.Value.text?
    template := ← r.required "template" 1 Toml.Value.text?
    params := ← r.withDefault "params" 2 [] (Toml.Value.listOf? Param.ofValue?) }

def Manifest.ofToml? (text : String) : Option Manifest := do
  let r := Record.named (← Toml.parse? text)
  let fallback : Manifest := {}
  return {
    target := ← r.withDefault "target" 0 fallback.target Target.ofValue?
    logLevel := ← r.withDefault "log" 1 fallback.logLevel Manifest.logLevelOfValue?
    methods := ← r.withDefault "method" 2 [] (Toml.Value.listOf? Method.ofValue?) }

end QueryTemplate
