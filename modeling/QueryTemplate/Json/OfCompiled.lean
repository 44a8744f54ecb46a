import QueryTemplate.Compile
import QueryTemplate.Json

/-!
The JSON form of a compiled template: its clauses as a tree, and the lines of its assembly.
-/

namespace QueryTemplate

namespace Clause

mutual

def toJson : Clause → Json
  | .sql pieces =>
    .object [("kind", .string "sql"), ("pieces", .array (pieces.map .string))]
  | .choice index condition body branches =>
    .object [("kind", .string BlockKind.choice.word),
      ("var_name", .string (BlockKind.choice.listName index)), ("cond", .string condition.text),
      ("body", .array (listToJson body)), ("else_branches", .array (branchesToJson branches))]
  | .collection kind index body =>
    .object [("kind", .string kind.block.word),
      ("var_name", .string (kind.block.listName index)), ("body", .array (listToJson body))]

def listToJson : List Clause → List Json
  | [] => []
  | clause :: clauses => toJson clause :: listToJson clauses

def branchToJson : Branch → Json
  | ⟨guard, body⟩ => .object [("cond", .string guard.text), ("body", .array (listToJson body))]

def branchesToJson : List Branch → List Json
  | [] => []
  | branch :: branches => branchToJson branch :: branchesToJson branches

end

end Clause

def Compiled.toJson (target : Target) (c : Compiled) : Json :=
  .object [("clauses", .array (Clause.listToJson c.clauses)),
    ("assembly", .array ((c.assembly target).map .string))]

end QueryTemplate
