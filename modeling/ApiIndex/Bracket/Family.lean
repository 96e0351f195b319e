namespace ApiIndex.Bracket

/-!
# Bracket families

Four pairs of brackets, counted independently of each other, and the three
separators that matter outside of brackets.
-/

/-- One pair of brackets. -/
inductive Family where
  | angle
  | brace
  | square
  | paren
  deriving Repr, DecidableEq

namespace Family

/-- All families, in the order in which unclosed brackets are reported. -/
def all : List Family :=
  [.angle, .brace, .square, .paren]

/-- The written name of a family. -/
def name : Family → String
  | .angle => "angle"
  | .brace => "brace"
  | .square => "square"
  | .paren => "paren"

/-- The family with exactly the given name. -/
def ofName?
    (name : String) :
    Option Family :=
  all.find? fun family => family.name == name

/-- The opening bracket. -/
def opener : Family → Char
  | .angle => '<'
  | .brace => '\x7b'
  | .square => '['
  | .paren => '('

/-- The closing bracket. -/
def closer : Family → Char
  | .angle => '>'
  | .brace => '\x7d'
  | .square => ']'
  | .paren => ')'

/-- The family that a character opens. -/
def ofOpener? : Char → Option Family
  | '<' => some .angle
  | '\x7b' => some .brace
  | '[' => some .square
  | '(' => some .paren
  | _ => none

/-- The family that a character closes. -/
def ofCloser? : Char → Option Family
  | '>' => some .angle
  | '\x7d' => some .brace
  | ']' => some .square
  | ')' => some .paren
  | _ => none

/-- Both brackets between single quotes, as messages show a family. -/
def quoted
    (family : Family) :
    String :=
  String.ofList ['\'', family.opener, family.closer, '\'']

@[simp] theorem ofOpener?_opener
    (family : Family) :
    ofOpener? family.opener = some family := by
  cases family <;> rfl

@[simp] theorem ofCloser?_closer
    (family : Family) :
    ofCloser? family.closer = some family := by
  cases family <;> rfl

/-- A character opens a family only if it is that family's opener. -/
theorem eq_opener_of_ofOpener?
    {character : Char}
    {family : Family}
    (opens : ofOpener? character = some family) :
    character = family.opener := by
  unfold ofOpener? at opens
  split at opens <;> simp_all <;> subst opens <;> rfl

/-- A character closes a family only if it is that family's closer. -/
theorem eq_closer_of_ofCloser?
    {character : Char}
    {family : Family}
    (closes : ofCloser? character = some family) :
    character = family.closer := by
  unfold ofCloser? at closes
  split at closes <;> simp_all <;> subst closes <;> rfl

end Family

/-- Whether a character is a dot, a comma or a backtick. -/
def isSeparator
    (character : Char) :
    Bool :=
  character == '.' || character == ',' || character == '\x60'

end ApiIndex.Bracket
