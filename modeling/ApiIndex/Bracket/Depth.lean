import ApiIndex.Bracket.Family

namespace ApiIndex.Bracket

/-!
# Bracket depths

How many brackets of each family are open at a point of a text.  A text stands
at top level where no family is open.
-/

/-- The number of open brackets of each family.  No more brackets are open than a
text has bytes, so these counts agree with counts of 32 bits on texts of fewer
than 2^32 bytes, the domain of the results about brackets. -/
structure Depth where
  angle : Nat := 0
  brace : Nat := 0
  square : Nat := 0
  paren : Nat := 0
  deriving Repr, DecidableEq

namespace Depth

/-- The number of open brackets of one family. -/
def get
    (depth : Depth) :
    Family → Nat
  | .angle => depth.angle
  | .brace => depth.brace
  | .square => depth.square
  | .paren => depth.paren

/-- Replace the count of one family. -/
def set
    (depth : Depth)
    (family : Family)
    (count : Nat) :
    Depth :=
  match family with
  | .angle => { depth with angle := count }
  | .brace => { depth with brace := count }
  | .square => { depth with square := count }
  | .paren => { depth with paren := count }

/-- One more bracket of a family is open. -/
def enter
    (depth : Depth)
    (family : Family) :
    Depth :=
  depth.set family (depth.get family + 1)

/-- One bracket of a family has been closed. -/
def leave
    (depth : Depth)
    (family : Family) :
    Depth :=
  depth.set family (depth.get family - 1)

/-- Whether no bracket of any family is open. -/
def isTop
    (depth : Depth) :
    Bool :=
  Family.all.all fun family => depth.get family == 0

@[simp] theorem get_set
    (depth : Depth)
    (family other : Family)
    (count : Nat) :
    (depth.set family count).get other =
      if other = family then count else depth.get other := by
  cases family <;> cases other <;> rfl

/-- Entering a family counts one more of that family only. -/
theorem get_enter
    (depth : Depth)
    (family other : Family) :
    (depth.enter family).get other =
      if other = family then depth.get family + 1 else depth.get other := by
  simp [enter]

/-- Leaving a family counts one fewer of that family only. -/
theorem get_leave
    (depth : Depth)
    (family other : Family) :
    (depth.leave family).get other =
      if other = family then depth.get family - 1 else depth.get other := by
  simp [leave]

/-- Top level means that the count of every family is zero. -/
theorem isTop_iff
    (depth : Depth) :
    depth.isTop = true ↔ ∀ family, depth.get family = 0 := by
  constructor
  · intro top family
    simp only [isTop, List.all_eq_true, beq_iff_eq] at top
    exact top family (by cases family <;> simp [Family.all])
  · intro zero
    simp [isTop, zero]

end Depth

end ApiIndex.Bracket
