/-!
# Types of values

A `SqlType` is what the tree knows about the type of a value: the name of the type in the store,
such as `varchar(50)`, and the kind of scalar that it holds.
-/

namespace SqlScribe

/-- The kinds of scalars. -/
inductive ScalarKind where
  | string
  | integer
  | decimal
  | double
  | float
  | boolean
  | dateTime
  | date
  | time
  | binary
  | other
deriving DecidableEq

namespace ScalarKind

/-- Every kind, in the order of declaration. -/
def all : List ScalarKind :=
  [string, integer, decimal, double, float, boolean, dateTime, date, time, binary, other]

/-- The name of a kind in settings. -/
def name : ScalarKind → String
  | string => "String"
  | integer => "Integer"
  | decimal => "Decimal"
  | double => "Double"
  | float => "Float"
  | boolean => "Boolean"
  | dateTime => "DateTime"
  | date => "Date"
  | time => "Time"
  | binary => "Binary"
  | other => "Other"

/-- The kind with a name, which is spelled exactly. -/
def ofName? (name : String) : Option ScalarKind :=
  all.find? (·.name == name)

/-- A kind is read back from its name. -/
theorem ofName?_name (kind : ScalarKind) : ofName? kind.name = some kind := by
  cases kind <;> decide

end ScalarKind

/-- A type of the store, by its name there and the kind of its values. -/
structure SqlType where
  name : String
  kind : ScalarKind
deriving DecidableEq

namespace SqlType

/-- The values of the type are strings. -/
def isString (type : SqlType) : Bool :=
  type.kind = .string

end SqlType

end SqlScribe
