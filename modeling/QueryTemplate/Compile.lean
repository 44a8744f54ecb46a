import QueryTemplate.Draft
import QueryTemplate.Token.OfText

/-!
Compiling a template: its tokens, their statements, and the clauses and steps that are drafted
while the statements are read. The target plays no part until the steps are written as lines.
-/

namespace QueryTemplate

structure Compiled where
  clauses : List Clause
  steps : List Step

namespace Compiled

def ofStatements (ss : List Statement) : Except Fault Compiled :=
  (Draft.ofStatements id ss).map fun (clauses, steps) => ⟨clauses, steps⟩

def assembly (target : Target) (c : Compiled) : List String :=
  c.steps.map (Step.text target)

end Compiled

def compile (params : List Param) (template : String) : Except Fault Compiled := do
  let tokens ← Token.ofText params template
  let statements ← Statement.ofTokens tokens
  Compiled.ofStatements statements

end QueryTemplate
