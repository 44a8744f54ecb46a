/-!
File trees: files held in memory under paths that are relative to a working directory. Every part
of a path but the last has to name a directory, and a path that leaves the working directory leads
nowhere.
-/

namespace QueryTemplate

inductive FileTree.Entry where
  | absent
  | directory
  | file (content : String)
  deriving DecidableEq, Repr

/-- Files by path. The directories are those that the paths pass through. -/
structure FileTree where
  files : List (List String × String)

namespace FileTree

def partsOf (path : String) : List String :=
  (path.splitOn "/").filter fun part => part ≠ "" ∧ part ≠ "."

def ofFiles (files : List (String × String)) : FileTree :=
  ⟨files.map fun (path, content) => (partsOf path, content)⟩

/-- What stands at the end of a path that goes down only. -/
def entry (t : FileTree) (parts : List String) : Entry :=
  match t.files.find? (fun (file, _) => file = parts) with
  | some (_, content) => .file content
  | none =>
    if parts = [] ∨ t.files.any (fun (file, _) => parts.isPrefixOf file) then .directory
    else .absent

/-- Follows the parts of a path from a place in the tree, whose own parts are given last first. -/
def follow (t : FileTree) (place : List String) : List String → Entry
  | [] => t.entry place.reverse
  | part :: parts =>
    match t.entry place.reverse with
    | .directory =>
      if part = ".." then
        match place with
        | [] => .absent
        | _ :: above => follow t above parts
      else follow t (part :: place) parts
    | _ => .absent

def lookup (t : FileTree) (path : String) : Entry :=
  if path.startsWith "/" then .absent else t.follow [] (partsOf path)

end FileTree

end QueryTemplate
