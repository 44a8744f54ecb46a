import QueryTemplate.Command

/-!
Reading a command line. An option takes its value from the same argument, after an equals sign or,
in its short form, directly, or else it takes the next argument, which must not start with a dash
unless it is a single dash. All options but the one for parameters are given at most once.
-/

namespace QueryTemplate

namespace Command

inductive CommandOption where
  | template
  | param
  | json
  | root
  deriving DecidableEq, Repr

namespace CommandOption

def ofLongName? (name : String) : Option CommandOption :=
  if name = "template" then some template
  else if name = "param" then some param
  else if name = "json" then some json
  else if name = "root" then some root
  else none

def ofShortName? (name : Char) : Option CommandOption :=
  if name = 't' then some template
  else if name = 'p' then some param
  else if name = 'r' then some root
  else none

end CommandOption

structure Settings where
  template : Option String := none
  specs : List String := []
  json : Bool := false
  root : Option String := none
  deriving DecidableEq, Repr

namespace Settings

/-- Gives an option a value. A second value is refused where one is enough, and so is an empty
root. -/
def give? (s : Settings) (option : CommandOption) (value : String) : Option Settings :=
  match option with
  | .template => if s.template.isSome then none else some { s with template := some value }
  | .param => some { s with specs := s.specs ++ [value] }
  | .root => if s.root.isSome ∨ value = "" then none else some { s with root := some value }
  | .json => none

def turnOn? (s : Settings) : Option Settings :=
  if s.json then none else some { s with json := true }

end Settings

inductive Interruption where
  | help
  | misuse
  deriving DecidableEq, Repr

inductive Request where
  | help
  | setting (option : CommandOption) (value : Option String)
  | unknown
  deriving DecidableEq, Repr

/-- The request of an argument: a long name after two dashes, or a short name after one. -/
def Request.ofArg (arg : String) : Request :=
  match arg.toList with
  | '-' :: '-' :: rest =>
    let (name, value) := rest.span (· ≠ '=')
    let value := if value = [] then none else some (String.ofList (value.drop 1))
    let name := String.ofList name
    if name = "help" ∧ value = none then .help
    else
      match CommandOption.ofLongName? name with
      | some option => .setting option value
      | none => .unknown
  | '-' :: name :: rest =>
    if name = 'h' then .help
    else
      match CommandOption.ofShortName? name, rest with
      | some option, [] => .setting option none
      | some option, '=' :: value => .setting option (some (String.ofList value))
      | some option, value => .setting option (some (String.ofList value))
      | none, _ => .unknown
  | _ => .unknown

def isValue (arg : String) : Bool :=
  !arg.startsWith "-" || arg = "-"

/-- Reads the options of a command that knows the given ones. Two dashes may stand at the end. -/
def readSettings (known : List CommandOption) (s : Settings) :
    List String → Except Interruption Settings
  | [] => .ok s
  | arg :: args =>
    if arg = "--" then (if args = [] then .ok s else .error .misuse)
    else
      match Request.ofArg arg with
      | .help => .error .help
      | .unknown => .error .misuse
      | .setting option value =>
        if option ∉ known then .error .misuse
        else if option = .json then
          match value, s.turnOn? with
          | none, some s => readSettings known s args
          | _, _ => .error .misuse
        else
          match value with
          | some value =>
            match s.give? option value with
            | some s => readSettings known s args
            | none => .error .misuse
          | none =>
            match args with
            | [] => .error .misuse
            | value :: args =>
              if isValue value then
                match s.give? option value with
                | some s => readSettings known s args
                | none => .error .misuse
              else .error .misuse

def Settings.rootOrDefault (s : Settings) : String :=
  s.root.getD "."

end Command

namespace Invocation

open Command

def ofSettings (known : List CommandOption) (args : List String)
    (command? : Settings → Option Command) : Invocation :=
  match readSettings known {} args with
  | .error .help => .help
  | .error .misuse => .misuse
  | .ok s =>
    match command? s with
    | some command => .run command
    | none => .misuse

/-- What the arguments after "help" amount to. There is help on the program, on each of its
commands, and on help itself. -/
def ofTopics : List String → Invocation
  | [] => .help
  | [topic] => if topic ∈ ["compile", "check", "emit", "help"] then .help else .misuse
  | _ => .misuse

def ofArgs : List String → Invocation
  | [] => .misuse
  | arg :: args =>
    if arg = "compile" then
      ofSettings [.template, .param, .json, .root] args fun s =>
        s.template.map fun template => .compile template s.specs s.json s.rootOrDefault
    else if arg = "check" then
      ofSettings [.root] args fun s => some (.check s.rootOrDefault)
    else if arg = "emit" then
      ofSettings [.root, .json] args fun s => some (.emit s.rootOrDefault s.json)
    else if arg = "help" then ofTopics args
    else if arg = "--help" ∨ arg.startsWith "-h" then .help
    else if arg = "--version" ∨ arg.startsWith "-V" then .version
    else .misuse

end Invocation

end QueryTemplate
