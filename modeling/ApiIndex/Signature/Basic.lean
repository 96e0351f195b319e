namespace ApiIndex

/-!
# Signatures

A signature is the text of a declaration divided into its parts.  The member
keeps its arity, generic and indexer suffixes as they were written.  No
argument list and an empty argument list are different signatures.
-/

/-- The parts of a declaration. -/
structure Signature where
  /-- The text as it was given. -/
  raw : String
  /-- The dotted name before the member. -/
  qualifier : Option String
  /-- The last segment of the name with its suffixes. -/
  member : String
  /-- The trimmed entries of the argument list. -/
  arguments : Option (List String)
  deriving Repr, DecidableEq

namespace Signature

/-- The qualifier and the member, without arguments. -/
def fullName
    (signature : Signature) :
    String :=
  match signature.qualifier with
  | some qualifier =>
      qualifier ++ "." ++ signature.member
  | none =>
      signature.member

/-- The arguments between parentheses, or nothing without an argument list. -/
def argumentText
    (signature : Signature) :
    String :=
  match signature.arguments with
  | some arguments =>
      "(" ++ ", ".intercalate arguments ++ ")"
  | none =>
      ""

/-- The full name followed by the argument list. -/
def display
    (signature : Signature) :
    String :=
  signature.fullName ++ signature.argumentText

end Signature

end ApiIndex
