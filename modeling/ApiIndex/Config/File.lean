import ApiIndex.BuildError
import ApiIndex.Json.Codec

namespace ApiIndex.Config

open ApiIndex.Files (FileSystem join)

/-!
# Configuration files

A configuration is read from a JSON file and validated.  A directory is
configured by the file of the fixed name in it, or by the defaults if it has no
such file.
-/

/-- The name of the configuration file of a directory. -/
def fileName : String :=
  "dotnetdomain.json"

/-- Read a configuration from its JSON text. -/
def decode?
    (text : String) :
    Option Config :=
  (Json.parse? text).bind ofJson?

/-- Read and validate the configuration file at a path. -/
def load
    (system : FileSystem)
    (path : String) :
    Except BuildError Config :=
  match system.readText path with
  | .error fault =>
      .error (.io fault)
  | .ok text =>
      match decode? text with
      | none =>
          .error .json
      | some config =>
          match config.validate with
          | .error fault =>
              .error (.config fault)
          | .ok valid =>
              .ok valid

/-- The configuration of a directory. -/
def discover
    (system : FileSystem)
    (directory : String) :
    Except BuildError Config :=
  let path := join directory fileName
  if system.isFile path then
    load system path
  else
    .ok {}

end ApiIndex.Config
