import ApiIndex.Text.Blank
import ApiIndex.Text.Lines
import ApiIndex.Text.Word

namespace ApiIndex.Document

open ApiIndex.Text

/-!
# Outlines

The outline of a document is the list of its directives.  A directive is a line
that starts, after an indent of spaces and tabs, with two dots, a gap, the
domain, a colon, the kind and two colons.  Behind the colons the line ends, or a
gap separates them from the signature.  Every other line is body text.
-/

/-- One directive of a document. -/
structure Directive where
  /-- The line of the directive, counted from one. -/
  line : Nat
  /-- The number of spaces and tabs before the directive. -/
  indent : Nat
  /-- The kind as it was written. -/
  kind : String
  /-- The signature without blanks at its end. -/
  signature : String
  deriving Repr, DecidableEq

/-- Whether a character indents a line or separates its parts. -/
def isGap
    (character : Char) :
    Bool :=
  character == ' ' || character == '\t'

/-- The signature behind the two colons of a directive. -/
def readSignature? :
    List Char →
      Option String
  | [] =>
      some ""
  | character :: rest =>
      if isGap character then
        some (String.ofList (trimEnd (rest.dropWhile isGap)))
      else
        none

/-- The kind and the signature behind the domain of a directive. -/
def readKind? :
    List Char →
      Option (String × String)
  | ':' :: text =>
      let kind := text.takeWhile isWord
      match kind, text.dropWhile isWord with
      | _ :: _, ':' :: ':' :: rest =>
          (readSignature? rest).map fun signature =>
            (String.ofList kind, signature)
      | _, _ =>
          none
  | _ =>
      none

/-- The kind and the signature of a line behind its indent. -/
def readBody?
    (domain : String) :
    List Char →
      Option (String × String)
  | '.' :: '.' :: character :: text =>
      if isGap character then
        let named := text.dropWhile isGap
        let name := named.takeWhile isWord
        if name ≠ [] ∧ name = domain.toList then
          readKind? (named.dropWhile isWord)
        else
          none
      else
        none
  | _ =>
      none

/-- The directive on a line, if there is one for the domain. -/
def readLine?
    (domain : String)
    (number : Nat)
    (line : List Char) :
    Option Directive :=
  (readBody? domain (line.dropWhile isGap)).map fun (kind, signature) =>
    ⟨number, (line.takeWhile isGap).length, kind, signature⟩

/-- The directives on lines that are numbered from `number` on. -/
def readLines
    (domain : String) :
    Nat →
      List (List Char) →
      List Directive
  | _, [] =>
      []
  | number, line :: rest =>
      match readLine? domain number line with
      | some directive =>
          directive :: readLines domain (number + 1) rest
      | none =>
          readLines domain (number + 1) rest

/-- The directives of a text for a domain, in line order. -/
def outline
    (domain : String)
    (text : String) :
    List Directive :=
  readLines domain 1 (lines text.toList)

end ApiIndex.Document
