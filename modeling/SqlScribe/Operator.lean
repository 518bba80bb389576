/-!
# Operators of expressions

The operators that every dialect knows, and the tokens of those that stand between two operands.
-/

namespace SqlScribe

/-- Operators on one operand; `convert` changes the type of its operand. -/
inductive UnaryOp where
  | not
  | negate
  | convert
  | isNull
  | isNotNull
deriving DecidableEq

/-- Operators between two operands. -/
inductive BinaryOp where
  | add
  | subtract
  | multiply
  | divide
  | modulo
  | equal
  | notEqual
  | less
  | lessOrEqual
  | greater
  | greaterOrEqual
  | and
  | or
  | bitAnd
  | bitOr
deriving DecidableEq

namespace BinaryOp

/-- The token between the operands. -/
def token : BinaryOp → String
  | add => "+"
  | subtract => "-"
  | multiply => "*"
  | divide => "/"
  | modulo => "%"
  | equal => "="
  | notEqual => "<>"
  | less => "<"
  | lessOrEqual => "<="
  | greater => ">"
  | greaterOrEqual => ">="
  | and => "AND"
  | or => "OR"
  | bitAnd => "&"
  | bitOr => "|"

end BinaryOp

end SqlScribe
