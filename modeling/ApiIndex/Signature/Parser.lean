import ApiIndex.Kind
import ApiIndex.Signature.Arguments
import ApiIndex.Signature.Basic
import ApiIndex.Signature.Operator
import ApiIndex.Signature.Segment

namespace ApiIndex.Signature

open ApiIndex.Text
open ApiIndex.Bracket (Scan scan)

/-!
# Reading signatures

A declaration is `[qualifier.]member[(arguments)]`.  The argument list starts at
the first parenthesis at top level and ends the text; the member starts behind
the last dot at top level before it.  The argument list is read first, then the
segments of the qualifier from left to right, then the member.
-/

/-- The member name of every constructor. -/
def constructorName : String :=
  "#ctor"

/-- Where the name of a declaration ends, and its arguments. -/
structure NameEnd where
  stop : Nat
  arguments : Option (List String)
  deriving Repr, DecidableEq

/-- Read the argument list, if there is one. -/
def readArguments
    (scanned : Scan)
    (grammar : Grammar) :
    Except Failure NameEnd :=
  match scanned.findTop? '(' scanned.whole with
  | none =>
      .ok ⟨byteSize scanned.text, none⟩
  | some opening =>
      if grammar = .plain then
        .error .argumentsNotAllowed
      else
        match scanned.closerOf? opening with
        | none =>
            .error (.brackets (.unclosed .paren 1))
        | some closing =>
            if closing + 1 ≠ byteSize scanned.text then
              .error (.trailingText (closing + 1))
            else
              match splitArguments
                  (slice scanned.text ⟨opening + 1, closing⟩) with
              | .error error =>
                  .error (.brackets error)
              | .ok arguments =>
                  match arguments.findIdx? (·.isEmpty) with
                  | some position =>
                      .error (.emptyArgument position)
                  | none =>
                      .ok ⟨opening, some arguments⟩

/-- The spans of the qualifier and of the member in a name that ends at
`stop`. -/
def divideName
    (scanned : Scan)
    (stop : Nat) :
    Option Span × Span :=
  match scanned.findLastTop? '.' ⟨0, stop⟩ with
  | some dot =>
      (some ⟨0, dot⟩, ⟨dot + 1, stop⟩)
  | none =>
      (none, ⟨0, stop⟩)

/-- Check segments from left to right. -/
def checkSegments
    (scanned : Scan)
    (position : Position) :
    List Span →
      Except Failure Unit
  | [] =>
      .ok ()
  | span :: rest =>
      match checkSegment scanned position span with
      | .error failure =>
          .error failure
      | .ok () =>
          checkSegments scanned position rest

/-- Check the segments of the qualifier. -/
def checkQualifier
    (scanned : Scan) :
    Option Span →
      Except Failure Unit
  | none =>
      .ok ()
  | some span =>
      checkSegments scanned .qualifier (scanned.splitTop '.' span)

/-- Check the member by the grammar of the declaration. -/
def checkMember
    (scanned : Scan)
    (grammar : Grammar)
    (qualifier : Option Span)
    (member : Span) :
    Except Failure Unit :=
  match grammar with
  | .plain =>
      checkSegment scanned .member member
  | .callable .any =>
      checkSegment scanned .callableMember member
  | .callable .constructor =>
      if slice scanned.text member = constructorName.toList ∧
          qualifier ≠ none then
        .ok ()
      else
        .error .invalidConstructor
  | .callable .operator =>
      let name := String.ofList (slice scanned.text member)
      if isOperatorName name then
        .ok ()
      else
        .error (.invalidOperator name)

/-- Read a text whose brackets have been scanned. -/
def readScanned
    (raw : String)
    (grammar : Grammar)
    (scanned : Scan) :
    Except Failure Signature :=
  match readArguments scanned grammar with
  | .error failure =>
      .error failure
  | .ok nameEnd =>
      let (qualifier, member) := divideName scanned nameEnd.stop
      match checkQualifier scanned qualifier with
      | .error failure =>
          .error failure
      | .ok () =>
          match checkMember scanned grammar qualifier member with
          | .error failure =>
              .error failure
          | .ok () =>
              .ok {
                raw := raw
                qualifier := qualifier.map fun span =>
                  String.ofList (slice scanned.text span)
                member := String.ofList (slice scanned.text member)
                arguments := nameEnd.arguments
              }

/-- Read a declaration by a grammar, after trimming it. -/
def readText
    (raw : String)
    (grammar : Grammar) :
    Except Failure Signature :=
  let text := trim raw.toList
  if text = [] then
    .error .empty
  else
    match scan text with
    | .error error =>
        .error (.brackets error)
    | .ok scanned =>
        readScanned raw grammar scanned

/-- Read the declaration of a kind. -/
def parse
    (raw : String)
    (kind : Kind) :
    Except Rejection Signature :=
  match readText raw kind.grammar with
  | .error reason =>
      .error ⟨raw, reason⟩
  | .ok signature =>
      .ok signature

end ApiIndex.Signature
