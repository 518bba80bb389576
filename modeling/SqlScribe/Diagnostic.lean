import SqlScribe.Text.Basic

/-!
# Errors and log events

Why a tree has no text in a dialect, or a text names no server; and what writing a query reports
besides its text: the workarounds that stand in for a request that a server cannot meet as it is,
and each query that is complete.
-/

namespace SqlScribe

/-! ## Errors -/

/-- The causes of failure. -/
inductive Error where
  /-- No rule says how to cast to the type. -/
  | unsupportedCast (typeName : String)
  /-- The dialect has no text for the operator. -/
  | unsupportedOperator (name : String)
  /-- A node lacks a part that its text needs. -/
  | missingPart (node part : String)
  /-- The text is no server version. -/
  | invalidVersion (text : String)
  /-- A value could not be formatted. -/
  | formatting
deriving DecidableEq

namespace Error

/-- The wording of an error. -/
def message : Error → String
  | unsupportedCast typeName => "Cannot cast from type '" ++ typeName ++ "'"
  | unsupportedOperator name => "Unsupported operator: " ++ name
  | missingPart node part => node ++ " expression is missing its " ++ part
  | invalidVersion text => "Invalid server version: '" ++ text ++ "'"
  | formatting => "Formatting error: an error occurred when formatting an argument"

end Error

/-! ## Workarounds -/

namespace Workaround

/-- The widest decimal type; a floating point cast that the server refuses goes through it. -/
def widestDecimal : String := "decimal(65,30)"

/-- The limit of a query that skips rows but has no limit of its own. -/
def largestLimit : Nat := 18446744073709551610

/-- The decimal text of `largestLimit`. -/
def largestLimitText : String :=
  String.ofList (Text.decimalText largestLimit)

end Workaround

/-! ## Events -/

/-- How much a reader of the log should care. -/
inductive Event.Level where
  | debug
  | trace
deriving DecidableEq

/-- The events of the log. -/
inductive Event where
  /-- The server cannot cast to the type with the keyword `requested`, so the value goes through
  the widest decimal type. -/
  | castThroughDecimal (typeName requested : String)
  /-- A query skips rows without a limit, so it gets the largest one. -/
  | limitSupplied
  /-- A query is complete. -/
  | queryWritten (sql : String)
deriving DecidableEq

namespace Event

/-- Workarounds are for debugging; complete queries are traced. -/
def level : Event → Level
  | castThroughDecimal .. => .debug
  | limitSupplied => .debug
  | queryWritten _ => .trace

/-- The wording of an event. -/
def message : Event → String
  | castThroughDecimal .. =>
    "server cannot CAST to floating point, casting through " ++ Workaround.widestDecimal
  | limitSupplied => "offset without limit, emitting LIMIT " ++ Workaround.largestLimitText
  | queryWritten _ => "generated query"

/-- What an event carries besides its wording, by name. -/
def fields : Event → List (String × String)
  | castThroughDecimal typeName requested =>
    [("store_type", typeName), ("requested", requested)]
  | limitSupplied => []
  | queryWritten sql => [("sql", sql)]

end Event

end SqlScribe
