import QueryTemplate.Clause
import QueryTemplate.Line

/-!
Steps: the straight-line code that assembles a query. A step declares a list, appends to a list,
possibly under a guard, or adds to the accumulated query. `Step.line` writes it for a target.
-/

namespace QueryTemplate

inductive Step where
  /-- The blank line in front of a clause of the top level. -/
  | separate
  | declare (slot : Slot)
  | appendGuarded (index : Nat) (guard : Guard) (payload : Payload Nat)
  | append (kind : ListKind) (index : Nat) (payload : Payload Nat)
  | accumulate (payload : Payload Nat)
  deriving DecidableEq, Repr

namespace Step

def payloadText (target : Target) (payload : Payload Nat) : String :=
  (payload.map BlockKind.listName).text target

def line (target : Target) : Step → Line
  | separate => .blank
  | declare slot =>
    match slot.block with
    | .choice => .declareGuarded slot.name
    | .whereList | .setList => .declareList slot.name
  | appendGuarded index guard payload =>
    .appendGuarded (BlockKind.choice.listName index) guard.text (payloadText target payload)
  | append kind index payload =>
    .append (kind.block.listName index) (payloadText target payload)
  | accumulate payload => .accumulate (payloadText target payload)

def text (target : Target) (s : Step) : String :=
  (s.line target).text target

end Step

end QueryTemplate
