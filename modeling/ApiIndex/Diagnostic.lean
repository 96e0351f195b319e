import ApiIndex.Reference.Registry
import ApiIndex.Signature.Failure

namespace ApiIndex

open ApiIndex.Reference (Duplicate)
open ApiIndex.Signature (Rejection)

/-!
# Diagnostics

A problem with one declaration does not stop a build.  It is reported with the
document and the line of the declaration: an unknown kind as an error, a
rejected signature or a duplicate as a warning.
-/

/-- How grave a diagnostic is. -/
inductive Severity where
  | warning
  | error
  deriving Repr, DecidableEq

namespace Severity

/-- The written name of a severity. -/
def name : Severity → String
  | .warning => "warning"
  | .error => "error"

/-- The severity with exactly the given name. -/
def ofName?
    (name : String) :
    Option Severity :=
  [Severity.warning, .error].find? fun severity => severity.name == name

/-- A severity as diagnostics show it. -/
def display : Severity → String
  | .warning => "WARNING"
  | .error => "ERROR"

end Severity

/-- What is wrong with one declaration. -/
inductive Problem where
  | unknownKind (name : String)
  | rejected (rejection : Rejection)
  | duplicate (repeated : Duplicate)
  deriving Repr, DecidableEq

namespace Problem

/-- Only an unknown kind is an error. -/
def severity : Problem → Severity
  | .unknownKind _ => .error
  | .rejected _ => .warning
  | .duplicate _ => .warning

/-- The wording of a problem. -/
def message : Problem → String
  | .unknownKind name =>
      "Unknown directive kind \"" ++ name ++ "\""
  | .rejected rejection =>
      rejection.message
  | .duplicate repeated =>
      repeated.message

end Problem

/-- A problem reported at a line of a document. -/
structure Diagnostic where
  document : String
  line : Nat
  severity : Severity
  message : String
  deriving Repr, DecidableEq

namespace Diagnostic

/-- Report a problem at a line of a document. -/
def ofProblem
    (document : String)
    (line : Nat)
    (problem : Problem) :
    Diagnostic :=
  ⟨document, line, problem.severity, problem.message⟩

/-- A diagnostic on one line. -/
def display
    (diagnostic : Diagnostic) :
    String :=
  diagnostic.document ++ ":" ++ diagnostic.line.repr ++ ": " ++
    diagnostic.severity.display ++ ": " ++ diagnostic.message

end Diagnostic

end ApiIndex
