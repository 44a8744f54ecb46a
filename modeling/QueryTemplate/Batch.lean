import QueryTemplate.Compile
import QueryTemplate.Manifest

/-!
Batches: all methods of a manifest compiled one by one. A method that fails does not keep the
others from being compiled, and a name that is declared again is compiled again and reported.
-/

namespace QueryTemplate

inductive MethodFault where
  | blank (name : String)
  | rejected (report : Report)
  deriving DecidableEq, Repr

def MethodFault.message : MethodFault → String
  | blank name => "方法 " ++ name ++ " 的模板为空"
  | rejected report => report.display

inductive ManifestWarning where
  | noMethods
  | repeated (name : String)
  deriving DecidableEq, Repr

def ManifestWarning.message : ManifestWarning → String
  | noMethods => "清单中没有任何 [[method]]"
  | repeated name => "方法 " ++ name ++ " 重复声明"

/-- Compiles the template of a method, which must not be blank. -/
def Method.compile (m : Method) : Except MethodFault Compiled :=
  if Text.isAllBlank m.template then .error (.blank m.name)
  else
    match QueryTemplate.compile m.params m.template with
    | .ok compiled => .ok compiled
    | .error fault => .error (.rejected (fault.report m.name m.template))

/-- The names that occur again after their first occurrence, once for every further occurrence.
The names that went before are given. -/
def repeatedNames (seen : List String) : List String → List String
  | [] => []
  | name :: names =>
    if name ∈ seen then name :: repeatedNames seen names
    else repeatedNames (name :: seen) names

namespace Manifest

def warnings (m : Manifest) : List ManifestWarning :=
  (if m.methods = [] then [.noMethods] else []) ++
    (repeatedNames [] (m.methods.map Method.name)).map .repeated

end Manifest

/-- The outcomes of the methods of a manifest, each list in the order of the manifest. -/
structure Batch where
  compiled : List (String × Compiled)
  faults : List MethodFault
  warnings : List ManifestWarning

namespace Batch

def successes : List (String × Except MethodFault Compiled) → List (String × Compiled) :=
  List.filterMap fun (name, outcome) =>
    match outcome with
    | .ok compiled => some (name, compiled)
    | .error _ => none

def failures : List (String × Except MethodFault Compiled) → List MethodFault :=
  List.filterMap fun (_, outcome) =>
    match outcome with
    | .ok _ => none
    | .error fault => some fault

def ofManifest (m : Manifest) : Batch :=
  let outcomes := m.methods.map fun method => (method.name, method.compile)
  ⟨successes outcomes, failures outcomes, m.warnings⟩

end Batch

end QueryTemplate
