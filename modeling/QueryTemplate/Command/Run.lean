import QueryTemplate.Command.OfArgs
import QueryTemplate.Compile.Notices
import QueryTemplate.Json.OfCompiled
import QueryTemplate.Json.Standard
import QueryTemplate.Log.Filter.OfText
import QueryTemplate.Manifest.OfToml

/-!
Running a command. The manifest is read first, and a manifest that cannot be read ends every
command before anything is logged. The command that compiles one template can do without a
manifest; the others cannot. Nothing is printed if any template is rejected.
-/

namespace QueryTemplate

inductive ManifestFile where
  | absent
  | unreadable
  | content (text : String)
  deriving DecidableEq, Repr

namespace Command

def manifestPath (root : String) : String :=
  if root.endsWith "/" then root ++ manifestFile else root ++ "/" ++ manifestFile

def loadManifest (root : String) : ManifestFile → Except String (Option Manifest)
  | .absent => .ok none
  | .unreadable => .error ("读取 " ++ manifestPath root ++ " 失败")
  | .content text =>
    match Manifest.ofToml? text with
    | some m => .ok (some m)
    | none => .error ("解析 " ++ manifestPath root ++ " 失败")

def linesText (lines : List String) : String :=
  String.join (lines.map (· ++ "\n"))

def jsonText (lib : Json.Library) (j : Json) : String :=
  lib.pretty j ++ "\n"

def templateName : String := "<cli>"

def runCompile (lib : Json.Library) (m : Manifest) (template : String) (specs : List String)
    (json : Bool) : Outcome :=
  match specs.mapM Param.ofSpec with
  | .error fault => { exit := 1, error := some fault.message }
  | .ok params =>
    let logs := (notices params template).map (Notice.record templateName)
    match QueryTemplate.compile params template with
    | .error fault =>
      let report := fault.report templateName template
      { exit := 1, logs, error := some report.display }
    | .ok c =>
      let stdout :=
        if json then jsonText lib (c.toJson m.target) else linesText (c.assembly m.target)
      { stdout, logs }

def record (severity : Log.Severity) (message : String) : Log.Record :=
  ⟨programName, severity, message, []⟩

/-- What a check reports: the warnings, then the faults. -/
def reportRecords (b : Batch) : List Log.Record :=
  b.warnings.map (record .warn ·.message) ++ b.faults.map (record .error ·.message)

def runCheck (m : Manifest) : Outcome :=
  let b := Batch.ofManifest m
  let logs := m.log ++ reportRecords b
  let warnings := toString b.warnings.length
  if b.faults = [] then
    let message :=
      "检查通过：" ++ toString b.compiled.length ++ " 个方法（" ++ warnings ++ " 个警告）"
    { logs := logs ++ [record .info message] }
  else
    let message :=
      "检查未通过：" ++ toString b.faults.length ++ " 个错误，" ++ warnings ++ " 个警告"
    { exit := 1, logs, error := some message }

def methodText (target : Target) (name : String) (c : Compiled) : String :=
  linesText (("// " ++ name) :: c.assembly target)

/-- The compiled methods by name, put together in a map. -/
def methodsJson (lib : Json.Library) (target : Target) (compiled : List (String × Compiled)) :
    Json :=
  lib.valueOf (.object (compiled.map fun (name, c) => (name, c.toJson target)))

def runEmit (lib : Json.Library) (m : Manifest) (json : Bool) : Outcome :=
  let b := Batch.ofManifest m
  match b.faults with
  | fault :: _ => { exit := 1, logs := m.log, error := some fault.message }
  | [] =>
    let stdout :=
      if json then jsonText lib (methodsJson lib m.target b.compiled)
      else String.join (b.compiled.map fun (name, c) => methodText m.target name c)
    { stdout, logs := m.log }

/-- The filter of the environment, if it is one, or else that of the manifest. There is none if the
one that is read is torn. -/
def logFilter? (m : Manifest) (environment : Option String) : Option Log.Filter :=
  match environment.map Log.Filter.ofText with
  | some (.ok filter) => some filter
  | some (.error .torn) => none
  | some (.error .malformed) | none => Log.Filter.ofTextLossy? m.logLevel

/-- Runs a command with every record logged. -/
def runLogged (c : Command) (lib : Json.Library) (manifest : Option Manifest) : Outcome :=
  match c, manifest with
  | .compile template specs json _, _ => runCompile lib (manifest.getD {}) template specs json
  | .check _, some m => runCheck m
  | .emit _ json, some m => runEmit lib m json
  | .check root, none | .emit root _, none =>
    { exit := 1, error := some ("缺少 " ++ manifestFile ++ " 清单文件：" ++ root) }

/-- Runs a command, given what is found under the path of the manifest and the log filter of the
environment. Without a filter the program breaks off before the command. -/
def run (c : Command) (lib : Json.Library) (file : ManifestFile) (environment : Option String) :
    Outcome :=
  match loadManifest c.root file with
  | .error message => { exit := 1, error := some message }
  | .ok manifest =>
    match logFilter? (manifest.getD {}) environment with
    | none => { exit := 101 }
    | some filter =>
      let outcome := c.runLogged lib manifest
      { outcome with logs := filter.select outcome.logs }

def usage : String :=
  linesText
    [programName ++ " compile -t TEMPLATE [-p NAME:TYPE]... [--json] [-r DIR]",
     programName ++ " check [-r DIR]",
     programName ++ " emit [-r DIR] [--json]"]

/-- Runs what a command line amounts to. The manifest is asked for by its path if it is needed. -/
def runInvocation {m : Type → Type} [Monad m] (find : String → m ManifestFile)
    (environment : Option String) : Invocation → m Outcome
  | .misuse => return { exit := 2 }
  | .help => return { stdout := usage }
  | .version => return { stdout := programName ++ " " ++ programVersion ++ "\n" }
  | .run command => return command.run .standard (← find (manifestPath command.root)) environment

end Command

end QueryTemplate
