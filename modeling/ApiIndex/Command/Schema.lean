import ApiIndex.Config.File

namespace ApiIndex.Command

/-!
# Schemas

The JSON schemas of the configuration file and of a listed registry entry.
-/

/-- The dialect in which both schemas are written. -/
def schemaDialect : String × Json :=
  ("$schema", .text "https://json-schema.org/draft/2020-12/schema")

/-- A reference to a definition of the same schema. -/
def definitionReference
    (name : String) :
    String × Json :=
  ("$ref", .text ("#/$defs/" ++ name))

/-- One alternative of a choice of names. -/
def nameChoice
    (description name : String) :
    Json :=
  .ofFields
    [("description", .text description),
     ("type", .text "string"),
     ("const", .text name)]

/-- The schema of nesting rules. -/
def nestingSchema : Json :=
  .ofFields
    [("description", .text
       "Which ancestors contribute to a nested declaration's qualified name."),
     ("oneOf", .array
       [nameChoice "Namespaces and classes only." NestingRule.legacy.name,
        nameChoice "Every container kind." NestingRule.symmetric.name])]

/-- The schema of the configuration file. -/
def configSchema : Json :=
  let fallback : Config := {}
  .ofFields
    [schemaDialect,
     ("title", .text "BuildConfig"),
     ("type", .text "object"),
     ("properties", .ofFields
       [("domain", .ofFields
          [("description", .text "Directive domain, as in `.. dn:class::`."),
           ("type", .text "string"),
           ("default", .text fallback.domain)]),
        ("fail_on_warning", .ofFields
          [("type", .text "boolean"),
           ("default", .bool fallback.failOnWarning)]),
        ("nesting", .ofFields
          [definitionReference "NestingRule",
           ("default", fallback.nesting.toJson)]),
        ("source_suffix", .ofFields
          [("description", .text
             "Suffix of documents picked up from directories."),
           ("type", .text "string"),
           ("default", .text fallback.sourceSuffix)])]),
     ("$defs", .ofFields [("NestingRule", nestingSchema)])]

/-- The schema of kinds. -/
def kindSchema : Json :=
  .ofFields
    [("description", .text "Declared category of a documented .NET symbol."),
     ("type", .text "string"),
     ("enum", .array (Kind.all.map Kind.toJson))]

/-- The schema of targets. -/
def targetSchema : Json :=
  .ofFields
    [("description", .text "Where a registered declaration is documented."),
     ("type", .text "object"),
     ("properties", .ofFields
       [("anchor", .ofFields
          [("description", .text "Anchor id used when rendering a link."),
           ("type", .text "string")]),
        ("document", .ofFields
          [("description", .text "Document name as given to the build."),
           ("type", .text "string")]),
        ("line", .ofFields
          [("description", .text
             "1-based line of the declaring directive."),
           ("type", .text "integer"),
           ("format", .text "uint"),
           ("minimum", .natural 0)])]),
     ("required", .array (Reference.Target.fields.map Json.text))]

/-- The schema of a listed registry entry. -/
def entrySchema : Json :=
  .ofFields
    [schemaDialect,
     ("title", .text "RegistryEntry"),
     ("description", .text "One listed registry row."),
     ("type", .text "object"),
     ("properties", .ofFields
       [("kind", .ofFields [definitionReference "ConstructKind"]),
        ("name", .ofFields [("type", .text "string")]),
        ("target", .ofFields [definitionReference "TargetLocation"])]),
     ("required", .array (["kind", "name", "target"].map Json.text)),
     ("$defs", .ofFields
       [("ConstructKind", kindSchema),
        ("TargetLocation", targetSchema)])]

/-- Both schemas with their headings. -/
def schemaLines : List String :=
  ["Configuration file (" ++ Config.fileName ++ "):",
   configSchema.pretty,
   "",
   "Registry entry (build --json):",
   entrySchema.pretty]

end ApiIndex.Command
