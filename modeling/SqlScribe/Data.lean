import SqlScribe.MySql.Server
import SqlScribe.SqlType

/-!
# Settings as data

Cast support, servers, products, scalar kinds and types can be kept in a settings file. `Data` is
what such a file holds. A record may also be given as the list of its fields in order, and a name
from a fixed choice as a record with that name as its only field, set to nothing.
-/

namespace SqlScribe

/-- Values of a settings file. -/
inductive Data where
  | null
  | bool (value : Bool)
  | integer (value : Int)
  /-- A number that is not written as an integer. -/
  | fraction
  | text (value : String)
  | list (items : List Data)
  | record (fields : List (String × Data))
deriving Inhabited

namespace Data

/-- A truth value. -/
def bool? : Data → Option Bool
  | bool value => some value
  | _ => none

/-- A text. -/
def text? : Data → Option String
  | text value => some value
  | _ => none

/-- An integer that fits the type of version numbers. -/
def word? : Data → Option UInt32
  | integer value =>
    if 0 ≤ value ∧ value.toNat < UInt32.size then some (UInt32.ofNat value.toNat) else none
  | _ => none

/-- A word is read back from its number. -/
theorem word?_integer_toNat (word : UInt32) : word? (.integer word.toNat) = some word := by
  simp [word?, word.toNat_lt_size]

/-- A name from a choice. -/
def name? : Data → Option String
  | text name => some name
  | record [(name, null)] => some name
  | _ => none

/-- The values of the fields with the given names: all have to be there, and others are ignored.
A list stands for its items under these names, if there are as many. -/
def fields? (names : List String) : Data → Option (List Data)
  | record fields => names.mapM fun name => fields.lookup name
  | list items => if items.length = names.length then some items else none
  | _ => none

end Data

/-- Types that a settings file can hold. -/
class Setting (α : Type) where
  /-- The value that the data describes. -/
  ofData? : Data → Option α
  /-- The data that describes a value. -/
  toData : α → Data
  /-- A value is described by its own data. -/
  ofData?_toData : ∀ value, ofData? (toData value) = some value

instance : Setting ScalarKind where
  ofData? data := data.name?.bind ScalarKind.ofName?
  toData kind := .text kind.name
  ofData?_toData := ScalarKind.ofName?_name

instance : Setting SqlType where
  ofData? data := do
    match ← data.fields? ["store_type", "value_kind"] with
    | [name, kind] => return ⟨← name.text?, ← Setting.ofData? kind⟩
    | _ => none
  toData type := .record [("store_type", .text type.name), ("value_kind", Setting.toData type.kind)]
  ofData?_toData type := by
    simp [Data.fields?, Data.text?, List.lookup_cons, Setting.ofData?_toData]

instance : Setting MySql.CastSupport where
  ofData? data := do
    match ← data.fields? ["supports_double_cast", "supports_float_cast"] with
    | [double, float] => return ⟨← double.bool?, ← float.bool?⟩
    | _ => none
  toData support :=
    .record [("supports_double_cast", .bool support.double),
      ("supports_float_cast", .bool support.float)]
  ofData?_toData support := by
    simp [Data.fields?, Data.bool?, List.lookup_cons]

instance : Setting MySql.Product where
  ofData? data := data.name?.bind MySql.Product.ofName?
  toData product := .text product.name
  ofData?_toData := MySql.Product.ofName?_name

instance : Setting MySql.Server where
  ofData? data := do
    match ← data.fields? ["flavor", "major", "minor", "patch"] with
    | [product, major, minor, patch] =>
      return ⟨← Setting.ofData? product, ← major.word?, ← minor.word?, ← patch.word?⟩
    | _ => none
  toData server :=
    .record [("flavor", Setting.toData server.product), ("major", .integer server.major.toNat),
      ("minor", .integer server.minor.toNat), ("patch", .integer server.patch.toNat)]
  ofData?_toData server := by
    simp [Data.fields?, List.lookup_cons, Setting.ofData?_toData, Data.word?_integer_toNat]

end SqlScribe
