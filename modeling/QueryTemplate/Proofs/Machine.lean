import Mathlib.Logic.Function.Basic
import QueryTemplate.Block
import QueryTemplate.Proofs.Evaluation
import QueryTemplate.Proofs.GuardText
import QueryTemplate.Proofs.GuardWriting
import QueryTemplate.Step

/-!
What the steps do when the generated code runs. A machine has the lists that are declared, by the
names of their variables, and the query that is accumulated. A step that the generated code could
not take stops the machine: a list is declared twice, or used before it is declared or as one of
the other type, or a guard is no expression.
-/

namespace QueryTemplate

/-- What the generated code is given: the values of atoms and the texts of pieces, and the helpers,
of which one concatenates the parts whose guards are true. -/
structure Runtime where
  atom : Atom → Bool
  piece : String → String
  choose : List (Bool × String) → String
  collect : ListKind → List String → String
  choose_eq : ∀ parts, choose parts = String.join ((parts.filter Prod.fst).map Prod.snd)

inductive Collected where
  | guarded (parts : List (Bool × String))
  | plain (parts : List String)
  deriving DecidableEq, Repr

def Collected.empty : BlockKind → Collected
  | .choice => guarded []
  | .whereList | .setList => plain []

/-- The value of a guard, read off the symbols that its text is written with. -/
def Guard.value? (v : Atom → Bool) (g : Guard) : Option Bool :=
  let s := g.symbols Condition.symbols
  if Symbol.write s = g.text then Symbol.evaluate v s else none

theorem Guard.value?_eq {g : Guard} (chained : g.Chained)
    (worded : ∀ c ∈ g.conditions, ∀ t ∈ c.tokens, t.Worded) (v : Atom → Bool) :
    g.value? v = some (g.holds v) := by
  rw [value?, if_pos (chained.write_symbols worded), (chained.reads v).evaluate_eq]

/-- If no token of its conditions has a parenthesis in front of its quotes, a guard has the value
that its text is read with, and the symbols of its conditions need not be known. -/
theorem Guard.value?_eq_evaluate_ofText {g : Guard} (chained : g.Chained)
    (formed : ∀ c ∈ g.conditions, ∀ t ∈ c.tokens, t.Formed) (clear : ∀ c ∈ g.conditions, c.Clear)
    (v : Atom → Bool) : g.value? v = (Symbol.ofText g.text).bind (Symbol.evaluate v) := by
  have worded : ∀ c ∈ g.conditions, ∀ t ∈ c.tokens, t.Worded :=
    fun c hc t ht => (formed c hc t ht).worded
  have same : g.symbols Condition.spelling = g.symbols Condition.symbols :=
    symbols_congr fun c hc => Condition.spelling_of_clear (formed c hc) (clear c hc)
  rw [value?_eq chained worded, (chained.spells formed).ofText, same, Option.bind_some,
    (chained.reads v).evaluate_eq]

structure Machine where
  lists : String → Option Collected := fun _ => none
  query : String := ""

namespace Machine

def put (m : Machine) (name : String) (list : Collected) : Machine :=
  { m with lists := Function.update m.lists name (some list) }

/-- The text of an operand. A helper reads lists of its own type only. -/
def operand (rt : Runtime) (m : Machine) : Operand String → Option String
  | .pieces texts => some (String.join (texts.map rt.piece))
  | .read block name =>
    match block, m.lists name with
    | .choice, some (.guarded parts) => some (rt.choose parts)
    | .whereList, some (.plain parts) => some (rt.collect .whereList parts)
    | .setList, some (.plain parts) => some (rt.collect .setList parts)
    | _, _ => none

def operands (rt : Runtime) (m : Machine) : List (Operand String) → Option String
  | [] => some ""
  | o :: os => (m.operand rt o).bind fun text => (m.operands rt os).map (text ++ ·)

def payload (rt : Runtime) (m : Machine) : Payload String → Option String
  | .one o => m.operand rt o
  | .all os => m.operands rt os

def appendGuarded (m : Machine) (name : String) (value : Bool) (text : String) : Option Machine :=
  match m.lists name with
  | some (.guarded parts) => some (m.put name (.guarded (parts ++ [(value, text)])))
  | _ => none

def append (m : Machine) (name text : String) : Option Machine :=
  match m.lists name with
  | some (.plain parts) => some (m.put name (.plain (parts ++ [text])))
  | _ => none

/-- The machine after a step. Guards and payloads are evaluated when they are appended. -/
def step (rt : Runtime) (m : Machine) : Step → Option Machine
  | .separate => some m
  | .declare slot =>
    if m.lists slot.name = none then some (m.put slot.name (.empty slot.block)) else none
  | .appendGuarded index guard payload => do
    let value ← guard.value? rt.atom
    let text ← m.payload rt (payload.map BlockKind.listName)
    m.appendGuarded (BlockKind.choice.listName index) value text
  | .append kind index payload => do
    let text ← m.payload rt (payload.map BlockKind.listName)
    m.append (kind.block.listName index) text
  | .accumulate payload => do
    let text ← m.payload rt (payload.map BlockKind.listName)
    return { m with query := m.query ++ text }

def run (rt : Runtime) (m : Machine) : List Step → Option Machine
  | [] => some m
  | s :: steps => (m.step rt s).bind fun m' => m'.run rt steps

theorem run_append (rt : Runtime) (m : Machine) (front back : List Step) :
    m.run rt (front ++ back) = (m.run rt front).bind fun m' => m'.run rt back := by
  induction front generalizing m with
  | nil => rfl
  | cons s front ih =>
    simp only [List.cons_append, run, ih]
    cases m.step rt s <;> rfl

end Machine

end QueryTemplate
