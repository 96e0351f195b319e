import ApiIndex.Config
import ApiIndex.Diagnostic
import ApiIndex.Json.Parser
import ApiIndex.Json.Printer
import ApiIndex.Json.Record
import ApiIndex.Signature.Basic

namespace ApiIndex

open ApiIndex.Json (name? nullable record? required withDefault)

/-!
# JSON forms

The JSON form of the public types, as it is written and as it is read.  Kinds,
bracket families, severities and nesting rules are written by name; the others
are records.  Only a configuration has defaults for the fields that are left
out.
-/

namespace Kind

/-- A kind by its name. -/
def toJson
    (kind : Kind) :
    Json :=
  .text kind.name

/-- Read a kind. -/
def ofJson?
    (value : Json) :
    Option Kind :=
  (name? value).bind ofName?

end Kind

namespace Bracket.Family

/-- A bracket family by its name. -/
def toJson
    (family : Family) :
    Json :=
  .text family.name

/-- Read a bracket family. -/
def ofJson?
    (value : Json) :
    Option Family :=
  (name? value).bind ofName?

end Bracket.Family

namespace Severity

/-- A severity by its name. -/
def toJson
    (severity : Severity) :
    Json :=
  .text severity.name

/-- Read a severity. -/
def ofJson?
    (value : Json) :
    Option Severity :=
  (name? value).bind ofName?

end Severity

namespace NestingRule

/-- A nesting rule by its name. -/
def toJson
    (rule : NestingRule) :
    Json :=
  .text rule.name

/-- Read a nesting rule. -/
def ofJson?
    (value : Json) :
    Option NestingRule :=
  (name? value).bind ofName?

end NestingRule

namespace Signature

/-- The fields of a signature. -/
def fields : List String :=
  ["raw", "prefix", "member", "arguments"]

/-- A signature as a record. -/
def toJson
    (signature : Signature) :
    Json :=
  .ofFields
    [("raw", .text signature.raw),
     ("prefix", .ofOption .text signature.qualifier),
     ("member", .text signature.member),
     ("arguments",
       .ofOption (fun arguments => .array (arguments.map .text))
         signature.arguments)]

/-- Read a signature. -/
def ofJson?
    (value : Json) :
    Option Signature :=
  match record? fields value with
  | some ⟨keyed, [raw, qualifier, member, arguments]⟩ => do
      let raw ← required Json.text? raw
      let qualifier ← nullable keyed Json.text? qualifier
      let member ← required Json.text? member
      let arguments ← nullable keyed Json.texts? arguments
      return ⟨raw, qualifier, member, arguments⟩
  | _ =>
      none

end Signature

namespace Reference.Target

/-- The fields of a target. -/
def fields : List String :=
  ["document", "line", "anchor"]

/-- A target as a record. -/
def toJson
    (target : Target) :
    Json :=
  .ofFields
    [("document", .text target.document),
     ("line", .natural target.line),
     ("anchor", .text target.anchor)]

/-- Read a target. -/
def ofJson?
    (value : Json) :
    Option Target :=
  match record? fields value with
  | some ⟨_, [document, line, anchor]⟩ => do
      let document ← required Json.text? document
      let line ← required Json.word? line
      let anchor ← required Json.text? anchor
      return ⟨document, line, anchor⟩
  | _ =>
      none

end Reference.Target

namespace Reference.Key

/-- The fields of a key. -/
def fields : List String :=
  ["kind", "name"]

/-- A key as a record. -/
def toJson
    (key : Key) :
    Json :=
  .ofFields [("kind", key.kind.toJson), ("name", .text key.name)]

/-- Read a key. -/
def ofJson?
    (value : Json) :
    Option Key :=
  match record? fields value with
  | some ⟨_, [kind, name]⟩ => do
      let kind ← required Kind.ofJson? kind
      let name ← required Json.text? name
      return ⟨kind, name⟩
  | _ =>
      none

end Reference.Key

namespace Reference.Entry

/-- A registry entry as a record. -/
def toJson
    (entry : Entry) :
    Json :=
  .ofFields
    [("kind", entry.key.kind.toJson),
     ("name", .text entry.key.name),
     ("target", entry.target.toJson)]

end Reference.Entry

namespace Diagnostic

/-- The fields of a diagnostic. -/
def fields : List String :=
  ["document", "line", "severity", "message"]

/-- A diagnostic as a record. -/
def toJson
    (diagnostic : Diagnostic) :
    Json :=
  .ofFields
    [("document", .text diagnostic.document),
     ("line", .natural diagnostic.line),
     ("severity", diagnostic.severity.toJson),
     ("message", .text diagnostic.message)]

/-- Read a diagnostic. -/
def ofJson?
    (value : Json) :
    Option Diagnostic :=
  match record? fields value with
  | some ⟨_, [document, line, severity, message]⟩ => do
      let document ← required Json.text? document
      let line ← required Json.word? line
      let severity ← required Severity.ofJson? severity
      let message ← required Json.text? message
      return ⟨document, line, severity, message⟩
  | _ =>
      none

end Diagnostic

namespace Config

/-- The fields of a configuration. -/
def fields : List String :=
  ["nesting", "source_suffix", "fail_on_warning", "domain"]

/-- A configuration as a record. -/
def toJson
    (config : Config) :
    Json :=
  .ofFields
    [("nesting", config.nesting.toJson),
     ("source_suffix", .text config.sourceSuffix),
     ("fail_on_warning", .bool config.failOnWarning),
     ("domain", .text config.domain)]

/-- Read a configuration.  A field that is left out has its default. -/
def ofJson?
    (value : Json) :
    Option Config :=
  let fallback : Config := {}
  match record? fields value with
  | some ⟨_, [nesting, sourceSuffix, failOnWarning, domain]⟩ => do
      let nesting ←
        withDefault fallback.nesting NestingRule.ofJson? nesting
      let sourceSuffix ←
        withDefault fallback.sourceSuffix Json.text? sourceSuffix
      let failOnWarning ←
        withDefault fallback.failOnWarning Json.bool? failOnWarning
      let domain ← withDefault fallback.domain Json.text? domain
      return ⟨nesting, sourceSuffix, failOnWarning, domain⟩
  | _ =>
      none

end Config

end ApiIndex
