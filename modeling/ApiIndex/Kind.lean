import ApiIndex.Text.Lowercase

namespace ApiIndex

/-!
# Kinds of declarations

Every documented symbol is declared with one of twelve kinds.  The kind decides
which grammar reads the signature and whether nested declarations may follow.
-/

/-- The declared category of a documented symbol.  Each is written as the plain
lower-case word that `Kind.name` gives. -/
inductive Kind where
  | namespaceScope
  | classType
  | structureType
  | interface
  | delegate
  | enumeration
  | method
  | constructor
  | property
  | field
  | event
  | operator
  deriving Repr, DecidableEq

/-- What a callable grammar asks of the member name. -/
inductive CallableRule where
  | any
  | constructor
  | operator
  deriving Repr, DecidableEq

/-- The grammar that reads a signature.  A plain signature has neither an
argument list nor a method arity; a callable one may have both. -/
inductive Grammar where
  | plain
  | callable (rule : CallableRule)
  deriving Repr, DecidableEq

namespace Kind

/-- All kinds, in the order in which they are listed. -/
def all : List Kind :=
  [.namespaceScope, .classType, .structureType, .interface, .delegate, .enumeration,
   .method, .constructor, .property, .field, .event, .operator]

/-- The written name of a kind. -/
def name : Kind → String
  | .namespaceScope => "namespace"
  | .classType => "class"
  | .structureType => "structure"
  | .interface => "interface"
  | .delegate => "delegate"
  | .enumeration => "enumeration"
  | .method => "method"
  | .constructor => "constructor"
  | .property => "property"
  | .field => "field"
  | .event => "event"
  | .operator => "operator"

/-- The grammar of a kind's signatures. -/
def grammar : Kind → Grammar
  | .method => .callable .any
  | .constructor => .callable .constructor
  | .operator => .callable .operator
  | _ => .plain

/-- Whether signatures of a kind may have an argument list. -/
def isCallable
    (kind : Kind) :
    Bool :=
  kind.grammar != .plain

/-- Whether declarations of a kind hold nested declarations of their own. -/
def isContainer : Kind → Bool
  | .namespaceScope | .classType | .structureType | .interface | .delegate | .enumeration =>
      true
  | _ =>
      false

/-- The kind with exactly the given name. -/
def ofName?
    (name : String) :
    Option Kind :=
  all.find? fun kind => kind.name == name

/-- The kind that a text names in any mixture of upper and lower case. -/
def parse?
    (text : String) :
    Option Kind :=
  ofName? (Text.lowercase text)

/-- Every kind is listed. -/
theorem mem_all
    (kind : Kind) :
    kind ∈ all := by
  cases kind <;> decide

/-- Every kind is found by its name. -/
theorem ofName?_name
    (kind : Kind) :
    ofName? kind.name = some kind := by
  cases kind <;> decide

end Kind

end ApiIndex
