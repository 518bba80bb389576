import SqlScribe.MySql.Server
import SqlScribe.Text.LowerCase

/-!
# Cast targets

The type names that a cast accepts are fewer than the type names of the store. A list of cast rules
says which keyword stands for a type: the first rule with a beginning of the type's name decides.
The rules of `CastRules.mySql` are ordered so that a longer beginning comes before a shorter one
that it extends.

Names are compared in lower case. The unsigned integer types have a keyword of their own, and a
floating point type that the server cannot cast to is reached through the widest decimal type.
-/

namespace SqlScribe.MySql

/-- The keyword of a cast for all types whose name starts in one of some ways. -/
structure CastRule where
  keyword : String
  /-- The beginnings of the type names, in lower case. -/
  starts : List String
deriving DecidableEq

namespace CastRule

/-- The rule covers a type name, which is in lower case. -/
def covers (rule : CastRule) (name : String) : Bool :=
  rule.starts.any fun start => Text.startsWith name start

end CastRule

/-- How to cast to a type. -/
inductive CastPlan where
  /-- By its keyword. -/
  | direct (keyword : String)
  /-- Through the widest decimal type, as the server refuses the requested keyword. -/
  | throughDecimal (requested : String)
deriving DecidableEq

namespace CastPlan

/-- The keyword that the cast is written with. -/
def keyword : CastPlan → String
  | direct keyword => keyword
  | throughDecimal _ => Workaround.widestDecimal

/-- The cast goes through the widest decimal type. -/
def isThroughDecimal : CastPlan → Bool
  | direct _ => false
  | throughDecimal _ => true

/-- What the log says about a cast to the named type. -/
def events (typeName : String) : CastPlan → List Event
  | direct _ => []
  | throughDecimal requested => [.castThroughDecimal typeName requested]

end CastPlan

/-- Cast rules, of which the first that covers a type decides. -/
abbrev CastRules := List CastRule

namespace CastRules

/-- The keyword of the integer types. -/
def signed : String := "signed"

/-- The keyword of the unsigned integer types. -/
def unsigned : String := "unsigned"

/-- The rules for the types of MySQL. -/
def mySql : CastRules :=
  [⟨signed, ["tinyint", "smallint", "mediumint", "int", "bigint", "bit"]⟩,
   ⟨Workaround.widestDecimal, ["decimal"]⟩,
   ⟨"double", ["double"]⟩,
   ⟨"float", ["float"]⟩,
   ⟨"binary", ["binary", "varbinary", "tinyblob", "blob", "mediumblob", "longblob"]⟩,
   ⟨"datetime(6)", ["datetime(6)"]⟩,
   ⟨"datetime", ["datetime"]⟩,
   ⟨"date", ["date"]⟩,
   ⟨"timestamp(6)", ["timestamp(6)"]⟩,
   ⟨"timestamp", ["timestamp"]⟩,
   ⟨"time(6)", ["time(6)"]⟩,
   ⟨"time", ["time"]⟩,
   ⟨"json", ["json"]⟩,
   ⟨"char", ["char", "varchar", "text", "tinytext", "mediumtext", "longtext"]⟩,
   ⟨"nchar", ["nchar", "nvarchar"]⟩]

/-- The rules with another one, which covers only types that no earlier rule covers. -/
def append (rules : CastRules) (rule : CastRule) : CastRules :=
  rules ++ [rule]

/-- The keyword for a type name in lower case. -/
def keyword? (rules : CastRules) (name : String) : Option String :=
  (rules.find? (·.covers name)).map (·.keyword)

/-- The keyword `signed` for the name of an unsigned type becomes `unsigned`. -/
def signedness (keyword name : String) : String :=
  if keyword = signed ∧ Text.occursIn unsigned.toList name.toList then unsigned else keyword

/-- The server refuses casts to the keyword. -/
def refuses (support : CastSupport) (keyword : String) : Bool :=
  Text.startsWith keyword "double" && !support.double ||
    Text.startsWith keyword "float" && !support.float

/-- How to cast to a keyword on a server. -/
def plan (support : CastSupport) (keyword : String) : CastPlan :=
  if refuses support keyword then .throughDecimal keyword else .direct keyword

/-- How to cast to a type, by its name in the store. -/
def planFor (rules : CastRules) (support : CastSupport) (typeName : String) :
    Except Error CastPlan :=
  let name := String.ofList (Text.toLower typeName.toList)
  match rules.keyword? name with
  | none => .error (.unsupportedCast typeName)
  | some keyword => .ok (plan support (signedness keyword name))

end CastRules

end SqlScribe.MySql
