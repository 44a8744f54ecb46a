import QueryTemplate.Batch
import QueryTemplate.Log

/-!
Notices: what a compilation logs on the way. A mark that is dropped and an "end" that is passed
over are warnings, given as far as the template is read before a fault; every stage that is
completed reports what it counted.
-/

namespace QueryTemplate

inductive Notice where
  | strayMark (mark : Char)
  | tokens (count : Nat)
  | statements (count : Nat)
  | strayEnd
  | compiled (clauses lines : Nat)
  deriving DecidableEq, Repr

namespace Notice

def scope : Notice → String
  | strayMark _ | tokens _ => "sqlclause::clause::lexer"
  | statements _ => "sqlclause::clause::statement"
  | strayEnd => "sqlclause::clause::parser"
  | compiled _ _ => "sqlclause::clause"

def severity : Notice → Log.Severity
  | strayMark _ | strayEnd => .warn
  | tokens _ | statements _ | compiled _ _ => .debug

def message : Notice → String
  | strayMark mark => "忽略未成对的逻辑运算符 '" ++ String.singleton mark ++ "'"
  | tokens _ => "模板切分完成"
  | statements _ => "语句归并完成"
  | strayEnd => "顶层存在多余的 end，已忽略"
  | compiled _ _ => "模板编译完成"

def counts : Notice → List (String × Nat)
  | strayMark _ | strayEnd => []
  | tokens count | statements count => [("count", count)]
  | compiled clauses lines => [("clauses", clauses), ("lines", lines)]

def record (template : String) (n : Notice) : Log.Record where
  scope := n.scope
  severity := n.severity
  message := n.message
  fields := ("template", .text template) :: n.counts.map fun (name, count) => (name, .count count)

end Notice

/-- The marks that are dropped in front of the first fault. -/
def Token.strayMarks (params : List Param) : List Lexeme → List Char
  | [] => []
  | .stray mark :: rest => mark :: strayMarks params rest
  | l :: rest =>
    match ofLexeme params l with
    | .ok _ => strayMarks params rest
    | .error _ => []

/-- How often an "end" is passed over in front of the first fault. -/
def Node.strayEnds (ss : List Statement) : Nat :=
  match ss with
  | [] => 0
  | s :: rest =>
    if s.kind = .close then strayEnds rest + 1
    else
      match take s rest with
      | .ok node =>
        have := node.length_le
        strayEnds node.left
      | .error _ => 0
termination_by ss.length

def notices (params : List Param) (template : String) : List Notice :=
  let lexemes := Lexeme.ofText template
  (Token.strayMarks params lexemes).map .strayMark ++
    match Token.ofLexemes params lexemes with
    | .error _ => []
    | .ok tokens =>
      .tokens tokens.length ::
        match Statement.ofTokens tokens with
        | .error _ => []
        | .ok statements =>
          .statements statements.length ::
            (List.replicate (Node.strayEnds statements) .strayEnd ++
              match Compiled.ofStatements statements with
              | .error _ => []
              | .ok c => [.compiled c.clauses.length c.steps.length])

/-- What the compilation of a method logs. A blank template is not compiled. -/
def Method.log (m : Method) : List Log.Record :=
  if Text.isAllBlank m.template then []
  else (notices m.params m.template).map (Notice.record m.name)

def Manifest.log (m : Manifest) : List Log.Record :=
  m.methods.flatMap Method.log

end QueryTemplate
