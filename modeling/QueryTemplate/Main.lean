import QueryTemplate.Command.Run

/-!
The program: reads the manifest, runs the command, and prints what comes of it.
-/

open QueryTemplate

/-- What is found under a path. A file that cannot be opened is taken to be absent unless access
to it is denied. -/
def findManifest (path : String) : IO ManifestFile := do
  match ← (IO.FS.Handle.mk path .read).toBaseIO with
  | .error (.permissionDenied ..) => return .unreadable
  | .error _ => return .absent
  | .ok file =>
    match ← file.readToEnd.toBaseIO with
    | .ok text => return .content text
    | .error _ => return .unreadable

def main (args : List String) : IO UInt32 := do
  let environment ← IO.getEnv "RUST_LOG"
  let outcome ← Command.runInvocation findManifest environment (Invocation.ofArgs args)
  for record in outcome.logs do
    IO.eprintln record.text
  IO.print outcome.stdout
  if let some message := outcome.error then
    IO.eprintln ("Error: " ++ message)
  return outcome.exit.toUInt32
