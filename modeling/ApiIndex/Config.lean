import ApiIndex.Naming
import ApiIndex.Text.Quoted

namespace ApiIndex

/-!
# Configuration

Four settings steer a build.  A configuration is valid when its domain is a
non-empty ASCII alphanumeric name and its suffix is not empty.
-/

/-- The settings of a build. -/
structure Config where
  /-- Which ancestors contribute to qualified names. -/
  nesting : NestingRule := .legacy
  /-- The suffix of documents picked up from directories. -/
  sourceSuffix : String := ".rst"
  /-- Whether any diagnostic makes a build fail. -/
  failOnWarning : Bool := false
  /-- The domain of the directives that are read. -/
  domain : String := "dn"
  deriving Repr, DecidableEq

namespace Config

/-- What is wrong with a setting. -/
inductive Fault where
  | domain (name : String)
  | emptySuffix
  | unknownNesting (name : String)
  deriving Repr, DecidableEq

/-- The wording of a fault. -/
def Fault.message : Fault → String
  | .domain name =>
      "domain must be a non-empty alphanumeric name, got " ++
        Text.quotedText name
  | .emptySuffix =>
      "source_suffix must not be empty"
  | .unknownNesting name =>
      "unknown nesting rule: " ++ name

/-- Whether a text is a name that a domain may have. -/
def isDomainName
    (name : String) :
    Bool :=
  !name.isEmpty && name.toList.all Char.isAlphanum

/-- The first fault of a configuration: the domain is looked at before the
suffix. -/
def fault?
    (config : Config) :
    Option Fault :=
  if !isDomainName config.domain then
    some (.domain config.domain)
  else if config.sourceSuffix.isEmpty then
    some .emptySuffix
  else
    none

/-- The configuration itself, if it is valid. -/
def validate
    (config : Config) :
    Except Fault Config :=
  match config.fault? with
  | some fault =>
      .error fault
  | none =>
      .ok config

end Config

end ApiIndex
