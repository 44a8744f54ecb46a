import QueryTemplate.Line
import QueryTemplate.Param

/-!
Manifests: the named templates of a project, the target that they are compiled for, and the level
of the log.
-/

namespace QueryTemplate

structure Method where
  name : String
  template : String
  params : List Param := []
  deriving DecidableEq, Repr

structure Manifest where
  target : Target := {}
  logLevel : String := "info"
  methods : List Method := []
  deriving DecidableEq, Repr

end QueryTemplate
