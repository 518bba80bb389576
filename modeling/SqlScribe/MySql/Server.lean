import SqlScribe.Diagnostic

/-!
# Servers

A server is known by its product and its version, which it reports as a text such as
`8.0.17-log`. `Server.read` reads such a text and `Server.text` writes one; the product and the
version decide which floating point types the server can cast to.

The products number their versions alike: two runs of digits with a point between them, a third run
behind another point if there is one, and any decoration on the same line. Old MariaDB servers put
`5.5.5-` in front, for the sake of clients that would refuse their version.
-/

namespace SqlScribe.MySql

/-- The floating point types that a server can cast to. -/
structure CastSupport where
  double : Bool
  float : Bool
deriving DecidableEq

namespace CastSupport

/-- A server that can cast to every floating point type. -/
def all : CastSupport := ⟨true, true⟩

/-- A server that can cast to no floating point type. -/
def none : CastSupport := ⟨false, false⟩

end CastSupport

/-- The server products. -/
inductive Product where
  | mySql
  | mariaDb
deriving DecidableEq

namespace Product

/-- The products, in the order of declaration. -/
def all : List Product := [mySql, mariaDb]

/-- The name of a product. -/
def name : Product → String
  | mySql => "mysql"
  | mariaDb => "mariadb"

/-- The product with a name, which is spelled exactly. -/
def ofName? (name : String) : Option Product :=
  all.find? (·.name == name)

/-- A product is read back from its name. -/
theorem ofName?_name (product : Product) : ofName? product.name = some product := by
  cases product <;> decide

end Product

/-- A server by its product and version. -/
structure Server where
  product : Product
  major : UInt32
  minor : UInt32
  patch : UInt32
deriving DecidableEq

namespace Server

/-- The version is `major.minor.patch` or a later one. -/
def atLeast (server : Server) (major minor patch : UInt32) : Bool :=
  server.major > major || server.major = major &&
    (server.minor > minor || server.minor = minor && server.patch ≥ patch)

/-- MySQL casts to both types from 8.0.17 on; MariaDB casts to doubles from 10.4.0 on and never to
floats. -/
def castSupport (server : Server) : CastSupport :=
  match server.product with
  | .mySql => ⟨server.atLeast 8 0 17, server.atLeast 8 0 17⟩
  | .mariaDb => ⟨server.atLeast 10 4 0, false⟩

/-! ## Writing a version -/

/-- The three numbers with points between them, a hyphen and the product. -/
def text (server : Server) : String :=
  String.ofList (Text.decimalText server.major.toNat ++ '.' ::
    Text.decimalText server.minor.toNat ++ '.' :: Text.decimalText server.patch.toNat) ++
    "-" ++ server.product.name

/-! ## Reading a version -/

/-- A version text, taken apart: the runs of digits, and the decoration behind them. -/
structure VersionText where
  major : List Char
  minor : List Char
  patch : Option (List Char)
  decoration : List Char
deriving DecidableEq

/-- The third run of digits and the decoration, from what stands behind the second run. A point
without digits behind it belongs to the decoration. -/
def splitPatch (text : List Char) : Option (List Char) × List Char :=
  match text with
  | '.' :: rest =>
    if (rest.takeWhile Text.isDecimalDigit).isEmpty then
      (none, text)
    else
      (some (rest.takeWhile Text.isDecimalDigit), rest.dropWhile Text.isDecimalDigit)
  | _ => (none, text)

/-- Takes a version text apart. It has at least two runs of digits, which may be of any script. -/
def split? (text : List Char) : Option VersionText :=
  let major := text.takeWhile Text.isDecimalDigit
  match text.dropWhile Text.isDecimalDigit with
  | '.' :: rest =>
    let minor := rest.takeWhile Text.isDecimalDigit
    let (patch, decoration) := splitPatch (rest.dropWhile Text.isDecimalDigit)
    if major.isEmpty || minor.isEmpty then none else some ⟨major, minor, patch, decoration⟩
  | _ => none

/-- What old MariaDB servers put in front of their version. -/
def disguise : List Char := "5.5.5-".toList

/-- Takes a version text apart behind the disguise, or as it is where no version stands behind
one. -/
def splitDisguised? (text : List Char) : Option VersionText :=
  if disguise.isPrefixOf text then
    (split? (text.drop disguise.length)).or (split? text)
  else
    split? text

/-- The number that a run of digits spells, if it fits the type of version numbers. -/
def number? (digits : List Char) : Option UInt32 :=
  (Text.decimalValue? digits).bind fun n =>
    if n < UInt32.size then some (UInt32.ofNat n) else none

/-- The decoration of a MariaDB version names the product, in letters of either case. -/
def productOf (decoration : List Char) : Product :=
  if Text.occursIn "mariadb".toList (decoration.map Char.toLower) then .mariaDb else .mySql

/-- The server that a version text taken apart describes. Its decoration is on one line, and its
numbers are spelled in ASCII; a missing third number is zero. -/
def ofVersionText? (version : VersionText) : Option Server :=
  if version.decoration.contains '\n' then
    none
  else do
    let major ← number? version.major
    let minor ← number? version.minor
    let patch ← match version.patch with
      | none => some 0
      | some digits => number? digits
    return ⟨productOf version.decoration, major, minor, patch⟩

/-- The server that a text describes, white space around it aside. -/
def read? (text : String) : Option Server :=
  (splitDisguised? (Text.trim text.toList)).bind ofVersionText?

/-- The server that a text describes. -/
def read (text : String) : Except Error Server :=
  match read? text with
  | some server => .ok server
  | none => .error (.invalidVersion text)

end Server

end SqlScribe.MySql
