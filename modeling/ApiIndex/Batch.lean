import ApiIndex.Document.Builder

namespace ApiIndex.Batch

open ApiIndex.Document (Outcome)
open ApiIndex.Reference (Collision Registry)

/-!
# Building many documents

Every document is built by itself.  The registries are then merged in the order
of the documents, so a key belongs to the first document that has it, and each
entry that loses its key is reported behind the document's own diagnostics.
-/

/-- A document as it is given to a build. -/
structure Source where
  name : String
  text : String
  deriving Repr, DecidableEq

/-- The result of a build. -/
structure Report where
  registry : Registry := {}
  diagnostics : List Diagnostic := []
  /-- The declarations of each document, under the document's name. -/
  forests : List (String × Forest) := []
  deriving Repr, DecidableEq

namespace Report

/-- Whether anything was reported. -/
def hasWarnings
    (report : Report) :
    Bool :=
  !report.diagnostics.isEmpty

/-- The warning for an entry that lost its key in a merge. -/
def collisionDiagnostic
    (collision : Collision) :
    Diagnostic :=
  Diagnostic.ofProblem collision.rejected.document collision.rejected.line
    (.duplicate collision.duplicate)

/-- Add the outcome of one more document. -/
def add
    (report : Report)
    (outcome : Outcome) :
    Report :=
  let (registry, collisions) := report.registry.merge outcome.registry
  { registry := registry
    diagnostics :=
      report.diagnostics ++ outcome.diagnostics ++
        collisions.map collisionDiagnostic
    forests := report.forests ++ [(outcome.name, outcome.forest)] }

end Report

/-- Build documents in order. -/
def run
    (config : Config)
    (sources : List Source) :
    Report :=
  (sources.map fun source =>
    Document.build config source.name source.text).foldl Report.add {}

end ApiIndex.Batch
