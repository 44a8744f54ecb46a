/-!
Blocks: the parts of a template that are opened by a word and closed by "end". Every block
collects its parts in a list; an if collects them under guards, a where or set as they are.
-/

namespace QueryTemplate

inductive BlockKind where
  | choice
  | whereList
  | setList
  deriving DecidableEq, Repr

namespace BlockKind

def word : BlockKind → String
  | choice => "if"
  | whereList => "where"
  | setList => "set"

def listName (block : BlockKind) (index : Nat) : String :=
  match block with
  | choice => "ifCond" ++ toString index
  | whereList => "whereCond" ++ toString index
  | setList => "setCond" ++ toString index

end BlockKind

/-- The blocks whose parts are collected without guards. -/
inductive ListKind where
  | whereList
  | setList
  deriving DecidableEq, Repr

def ListKind.block : ListKind → BlockKind
  | whereList => .whereList
  | setList => .setList

end QueryTemplate
