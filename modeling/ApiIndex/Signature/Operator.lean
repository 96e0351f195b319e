namespace ApiIndex.Signature

/-!
# Operator names

An operator is declared by the special name under which its overload is
compiled: `op_` followed by one of the words below.  The two conversions are
also known in lower case.
-/

/-- The words that name an operator after `op_`. -/
def operatorWords : List String :=
  ["implicit", "explicit",
   "Implicit", "Explicit",
   "Decrement", "Increment", "CheckedDecrement", "CheckedIncrement",
   "UnaryNegation", "CheckedUnaryNegation", "UnaryPlus", "LogicalNot",
   "OnesComplement", "True", "False", "AddressOf", "PointerDereference",
   "Addition", "CheckedAddition", "Subtraction", "CheckedSubtraction",
   "Multiply", "CheckedMultiply", "Division", "CheckedDivision", "Modulus",
   "Exponent",
   "BitwiseAnd", "BitwiseOr", "ExclusiveOr", "LogicalAnd", "LogicalOr",
   "LeftShift", "RightShift", "SignedRightShift", "UnsignedRightShift",
   "Equality", "Inequality", "LessThan", "GreaterThan", "LessThanOrEqual",
   "GreaterThanOrEqual",
   "Assign", "AdditionAssignment", "SubtractionAssignment",
   "MultiplicationAssignment", "DivisionAssignment", "ModulusAssignment",
   "BitwiseAndAssignment", "BitwiseOrAssignment", "ExclusiveOrAssignment",
   "LeftShiftAssignment", "RightShiftAssignment",
   "UnsignedRightShiftAssignment", "MemberSelection",
   "PointerToMemberSelection", "Comma"]

/-- Whether a member is the special name of an operator. -/
def isOperatorName
    (member : String) :
    Bool :=
  operatorWords.any fun word => "op_" ++ word == member

end ApiIndex.Signature
