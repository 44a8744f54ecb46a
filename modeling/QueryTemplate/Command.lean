import QueryTemplate.Log

/-!
Commands: what the command line can ask for, and what comes of it.
-/

namespace QueryTemplate

inductive Command where
  /-- Compiles one template under the parameters that the specs declare. -/
  | compile (template : String) (specs : List String) (json : Bool) (root : String)
  /-- Compiles the methods of the manifest and reports the faults. -/
  | check (root : String)
  /-- Compiles the methods of the manifest and prints them. -/
  | emit (root : String) (json : Bool)
  deriving DecidableEq, Repr

def Command.root : Command → String
  | compile _ _ _ root => root
  | check root => root
  | emit root _ => root

inductive Invocation where
  | run (command : Command)
  | version
  | help
  | misuse
  deriving DecidableEq, Repr

/-- The result of a command line: the exit status, the standard output, the records that are
logged, and the message of the error that ended it. -/
structure Outcome where
  exit : Nat := 0
  stdout : String := ""
  logs : List Log.Record := []
  error : Option String := none
  deriving DecidableEq, Repr

/-- The name under which the program is called, and the scope of its own records. -/
def Command.programName : String := "sqlclause"

def Command.programVersion : String := "0.1.0"

def Command.manifestFile : String := "sqlclause.toml"

end QueryTemplate
