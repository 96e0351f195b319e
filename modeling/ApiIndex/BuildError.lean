import ApiIndex.Config
import ApiIndex.Files.Walk

namespace ApiIndex

/-!
# What stops a build

Problems with single declarations are diagnostics and do not stop a build.  A
file that cannot be read, a walk that cannot go on, and a configuration that is
no JSON record or has a fault do.
-/

/-- What stops a build. -/
inductive BuildError where
  | io (fault : Files.Fault)
  | json
  | walk (fault : Files.WalkFault)
  | config (fault : Config.Fault)
  deriving Repr, DecidableEq

/-- The wording of what stops a build. -/
def BuildError.message : BuildError → String
  | .io fault =>
      "I/O error: " ++ fault.message
  | .json =>
      "JSON serialization/deserialization error: not a configuration record"
  | .walk fault =>
      "Directory walk error: " ++ fault.message
  | .config fault =>
      "Configuration error: " ++ fault.message

end ApiIndex
