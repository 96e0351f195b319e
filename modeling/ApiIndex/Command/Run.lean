import ApiIndex.Collect
import ApiIndex.Command.Request
import ApiIndex.Command.Schema
import ApiIndex.Command.Table
import ApiIndex.Config.File

namespace ApiIndex.Command

open ApiIndex.Batch (Report)
open ApiIndex.Files (FileSystem)
open ApiIndex.Reference (Entry Target)

/-!
# Running commands

A command reads the file system and leaves an exit code and two texts.  The
diagnostics of a build go to the error text before anything that makes the
command fail.
-/

/-- What a finished command leaves. -/
structure Outcome where
  exit : Nat
  stdout : String
  stderr : String
  deriving Repr, DecidableEq

/-- Lines of output, each ended by a line feed. -/
def unlines
    (lines : List String) :
    String :=
  String.join (lines.map (· ++ "\n"))

/-- A command that has done its work. -/
def succeed
    (output warnings : List String) :
    Outcome :=
  ⟨0, unlines output, unlines warnings⟩

/-- A command that could not do its work. -/
def fail
    (output warnings : List String)
    (message : String) :
    Outcome :=
  ⟨1, unlines output, unlines (warnings ++ ["Error: " ++ message])⟩

/-- A text, or a dash in place of a missing one. -/
def orDash
    (value : Option String) :
    String :=
  value.getD "-"

/-- The parts of a signature as JSON. -/
def signatureReport
    (kind : Kind)
    (signature : Signature) :
    Json :=
  .ofFields
    [("arguments",
       .ofOption (fun arguments => .array (arguments.map .text))
         signature.arguments),
     ("full_name", .text signature.fullName),
     ("kind", kind.toJson),
     ("member", .text signature.member),
     ("prefix", .ofOption .text signature.qualifier)]

/-- The parts of a signature as labelled lines. -/
def signatureLines
    (kind : Kind)
    (signature : Signature) :
    List String :=
  ["Kind:      " ++ kind.name,
   "Prefix:    " ++ orDash signature.qualifier,
   "Member:    " ++ signature.member,
   "Arguments: " ++
     orDash (signature.arguments.map fun _ => signature.argumentText),
   "Full name: " ++ signature.fullName]

/-- Parse one declaration. -/
def runParse
    (kind : Kind)
    (raw : String)
    (json : Bool) :
    Outcome :=
  match Signature.parse raw kind with
  | .error rejection =>
      fail []
        ["WARNING: " ++ rejection.message ++
          " (" ++ rejection.reason.message ++ ")"]
        rejection.message
  | .ok signature =>
      if json then
        succeed [(signatureReport kind signature).pretty] []
      else
        succeed (signatureLines kind signature) []

/-- The configuration of a build: from the given file or from the working
directory, with the nesting rule of the command line above it. -/
def configure
    (system : FileSystem)
    (selection : Selection) :
    Except BuildError Config :=
  let configured :=
    match selection.config with
    | some path =>
        Config.load system path
    | none =>
        Config.discover system "."
  match configured with
  | .error error =>
      .error error
  | .ok config =>
      .ok { config with
        nesting := selection.nesting.getD config.nesting }

/-- Configure, collect and build the selected documents. -/
def buildSelection
    (system : FileSystem)
    (selection : Selection) :
    Except BuildError (Config × Report) :=
  match configure system selection with
  | .error error =>
      .error error
  | .ok config =>
      match Collect.collect system config.sourceSuffix selection.paths with
      | .error error =>
          .error error
      | .ok sources =>
          .ok (config, Batch.run config sources)

/-- The row of a registry entry in the table of targets. -/
def entryRow
    (entry : Entry) :
    List String :=
  [entry.key.kind.name, entry.key.name,
   entry.target.document ++ ":" ++ entry.target.line.repr]

/-- The listing of registry entries. -/
def listing
    (json : Bool)
    (entries : List Entry) :
    List String :=
  if json then
    [(Json.array (entries.map (·.toJson))).pretty]
  else if entries.isEmpty then
    ["No reference targets found."]
  else
    tableLines ["Kind", "Name", "Location"] (entries.map entryRow)

/-- Build documents and list the targets. -/
def runBuild
    (system : FileSystem)
    (selection : Selection)
    (json failOnWarning : Bool) :
    Outcome :=
  match buildSelection system selection with
  | .error error =>
      fail [] [] error.message
  | .ok (config, report) =>
      let output := listing json report.registry.entries
      let warnings := report.diagnostics.map (·.display)
      if (failOnWarning || config.failOnWarning) && report.hasWarnings then
        fail output warnings
          ("build produced " ++ report.diagnostics.length.repr ++
            " warning(s)")
      else
        succeed output warnings

/-- Build documents and resolve one name.  Without kinds, any kind will do. -/
def runFind
    (system : FileSystem)
    (selection : Selection)
    (name : String)
    (kinds : List Kind) :
    Outcome :=
  match buildSelection system selection with
  | .error error =>
      fail [] [] error.message
  | .ok (_, report) =>
      let accepted := if kinds.isEmpty then Kind.all else kinds
      let warnings := report.diagnostics.map (·.display)
      match report.registry.resolve? name accepted with
      | some (kind, target) =>
          succeed
            [kind.name ++ " " ++ name ++ " -> " ++ target.display]
            warnings
      | none =>
          fail [] warnings
            ("No reference target named \"" ++ name ++ "\"")

/-- The name and version of the program. -/
def versionLine : String :=
  "dotnetdomain 0.1.0"

/-- How the program is used. -/
def helpLines : List String :=
  ["Parse .NET API declarations and resolve documentation cross-references",
   "",
   "Usage: dotnetdomain <COMMAND>",
   "",
   "Commands:",
   "  parse   Parse a single declaration",
   "  build   Build documents and list the registered reference targets",
   "  find    Build documents and resolve one cross-reference",
   "  schema  Print JSON Schemas for the configuration file and registry entries"]

/-- Carry out a request. -/
def Request.run
    (system : FileSystem) :
    Request →
      Outcome
  | .parse kind signature json =>
      runParse kind signature json
  | .build selection json failOnWarning =>
      runBuild system selection json failOnWarning
  | .find selection name kinds =>
      runFind system selection name kinds
  | .schema =>
      succeed schemaLines []

/-- Carry out a command line.  A command line that is no request exits with
two. -/
def run
    (system : FileSystem)
    (arguments : List String) :
    Outcome :=
  match readRequest arguments with
  | .ok request =>
      request.run system
  | .error .version =>
      succeed [versionLine] []
  | .error .help =>
      succeed helpLines []
  | .error .usage =>
      ⟨2, "", unlines helpLines⟩

end ApiIndex.Command
