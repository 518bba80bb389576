import SqlScribe.Calendar.Time

/-!
# Literals

The constants of a query and their text. A number is kept as its text; the other literals are
values, and only the contents of a string depend on the dialect.
-/

namespace SqlScribe

/-- A constant. -/
inductive Literal where
  | null
  | bool (value : Bool)
  | number (text : String)
  | string (contents : String)
  | date (value : Calendar.Date)
  | timestamp (value : Calendar.Timestamp)
  | time (value : Calendar.Time)
  | bytes (value : List UInt8)
deriving DecidableEq

namespace Literal

/-- The decimal text of an integer. -/
def integerText (n : Int) : List Char :=
  if n < 0 then '-' :: Text.decimalText n.natAbs else Text.decimalText n.toNat

/-- An integer, as the number that its decimal text spells. -/
def integer (n : Int) : Literal :=
  .number (String.ofList (integerText n))

/-- The hexadecimal digit of a number below 16, in upper case. -/
def hexDigit (n : Nat) : Char :=
  (Nat.digitChar n).toUpper

/-- A byte as two hexadecimal digits. -/
def hexByte (byte : UInt8) : List Char :=
  [hexDigit (byte.toNat / 16), hexDigit (byte.toNat % 16)]

/-- The text between two single quotes, behind a word that says how to read it. -/
def tagged (word : String) (body : List Char) : String :=
  word ++ "'" ++ String.ofList body ++ "'"

/-- The text of a literal, where `escape` makes the contents of a string safe between quotes. -/
def text (escape : String → String) : Literal → String
  | null => "NULL"
  | bool true => "TRUE"
  | bool false => "FALSE"
  | number text => text
  | string contents => "'" ++ escape contents ++ "'"
  | date value => tagged "DATE " value.text
  | timestamp value => tagged "TIMESTAMP " value.text
  | time value => tagged "TIME " value.text
  | bytes value => tagged "X" (value.flatMap hexByte)

end Literal

end SqlScribe
