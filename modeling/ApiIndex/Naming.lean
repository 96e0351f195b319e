import ApiIndex.Kind

namespace ApiIndex

/-!
# Naming nested declarations

The qualified name of a nested declaration starts with the names of some of the
declarations around it.  A nesting rule decides which kinds contribute: the
legacy rule takes namespaces and classes only, the symmetric rule takes every
container.
-/

/-- Which ancestors contribute to the qualified name of a declaration. -/
inductive NestingRule where
  | legacy
  | symmetric
  deriving Repr, DecidableEq

namespace NestingRule

/-- The written name of a rule. -/
def name : NestingRule → String
  | .legacy => "legacy"
  | .symmetric => "symmetric"

/-- The rule with exactly the given name. -/
def ofName?
    (name : String) :
    Option NestingRule :=
  [NestingRule.legacy, .symmetric].find? fun rule => rule.name == name

/-- The rule that a text names in any mixture of upper and lower case.  The
failure carries the text in lower case, in which it was compared. -/
def parse
    (text : String) :
    Except String NestingRule :=
  match ofName? (Text.lowercase text) with
  | some rule =>
      .ok rule
  | none =>
      .error (Text.lowercase text)

/-- Whether an ancestor of the given kind contributes its name. -/
def contributes : NestingRule → Kind → Bool
  | .legacy, .namespaceScope => true
  | .legacy, .classType => true
  | .legacy, _ => false
  | .symmetric, kind => kind.isContainer

/-- The text between two segments of a qualified name. -/
def separator : String :=
  "."

/-- Join segments, outermost first, into one qualified name. -/
def render
    (segments : List String) :
    String :=
  separator.intercalate segments

/-- The kinds that contribute under a rule, in the order of `Kind.all`. -/
def contributors
    (rule : NestingRule) :
    List Kind :=
  Kind.all.filter rule.contributes

/-- Whatever contributes under the legacy rule contributes under both. -/
theorem contributes_symmetric_of_legacy
    {kind : Kind}
    (contributed : NestingRule.legacy.contributes kind = true) :
    NestingRule.symmetric.contributes kind = true := by
  cases kind <;> simp_all [contributes, Kind.isContainer]

end NestingRule

end ApiIndex
