import ApiIndex.Bracket.Scan
import ApiIndex.Text.Quoted

namespace ApiIndex.Signature

open ApiIndex.Text
open ApiIndex.Bracket (Family)

/-!
# Why a signature is rejected

Each failure names its cause and, where there is one, the byte offset in the
trimmed text at which it was found.
-/

/-- The cause of a rejection. -/
inductive Failure where
  | empty
  | brackets (error : Bracket.Error)
  | disallowedCharacter (character : Char) (offset : Nat)
  | emptySegment (offset : Nat)
  | argumentsNotAllowed
  | trailingText (offset : Nat)
  | malformedArity (offset : Nat)
  | repeatedArity (offset : Nat)
  | arityOrder (offset : Nat)
  | methodArityNotAllowed (offset : Nat)
  | repeatedGroup (family : Family) (offset : Nat)
  | indexerNotAllowed (offset : Nat)
  | afterIndexer (offset : Nat)
  | invalidConstructor
  | invalidOperator (name : String)
  | emptyArgument (position : Nat)
  deriving Repr, DecidableEq

/-- The wording of a cause. -/
def Failure.message : Failure → String
  | .empty =>
      "empty signature"
  | .brackets error =>
      error.message
  | .disallowedCharacter character offset =>
      "disallowed character " ++ quotedChar character ++
        " at offset " ++ offset.repr
  | .emptySegment offset =>
      "empty name segment at offset " ++ offset.repr
  | .argumentsNotAllowed =>
      "argument list is not allowed for this kind"
  | .trailingText offset =>
      "unexpected text after the argument list at offset " ++ offset.repr
  | .malformedArity offset =>
      "malformed arity group at offset " ++ offset.repr
  | .repeatedArity offset =>
      "repeated arity group at offset " ++ offset.repr
  | .arityOrder offset =>
      "type arity must precede method arity (offset " ++ offset.repr ++ ")"
  | .methodArityNotAllowed offset =>
      "method arity is not allowed here (offset " ++ offset.repr ++ ")"
  | .repeatedGroup family offset =>
      "repeated " ++ family.quoted ++ " group at offset " ++ offset.repr
  | .indexerNotAllowed offset =>
      "indexer is only allowed on the member (offset " ++ offset.repr ++ ")"
  | .afterIndexer offset =>
      "nothing may follow an indexer (offset " ++ offset.repr ++ ")"
  | .invalidConstructor =>
      "constructor must be declared as a qualified #ctor"
  | .invalidOperator name =>
      "unrecognized operator name " ++ quotedText name
  | .emptyArgument position =>
      "empty argument at position " ++ position.repr

/-- A rejected text, exactly as it was given, with the cause. -/
structure Rejection where
  raw : String
  reason : Failure
  deriving Repr, DecidableEq

/-- The wording of a rejection, which quotes the text and not the cause. -/
def Rejection.message
    (rejection : Rejection) :
    String :=
  "Parsing signature failed: \"" ++ rejection.raw ++ "\""

end ApiIndex.Signature
