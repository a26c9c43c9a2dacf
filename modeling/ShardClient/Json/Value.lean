/-
JSON values and their compact form.

A value keeps its numerals and its strings as they are spelt: a numeral as its characters, a
string as the bytes between its quotes, escapes included.  So every text that is JSON has a
value, also one whose numerals fit no type or whose strings spell no text, and it is left to
the reader of a field to refuse them.

Values that this library writes itself are made by `ofNat` and `ofText`, which spell each
number and each text in one way.
-/
import ShardClient.Codec.Hex
import ShardClient.Codec.Utf8

namespace ShardClient

/-- A JSON value, as spelt. -/
inductive Json where
  | null
  | bool (b : Bool)
  | number (numeral : Bytes)
  | string (spelling : Bytes)
  | array (items : List Json)
  | object (members : List (Bytes × Json))
  deriving Inhabited

namespace Json

/-- The spelling of a byte inside a string.  Only the quote, the backslash and controls are
escaped; controls without a letter of their own by number. -/
def escape (b : UInt8) : Bytes :=
  if b = 0x22 then [0x5c, 0x22]
  else if b = 0x5c then [0x5c, 0x5c]
  else if b = 0x08 then [0x5c, 0x62]
  else if b = 0x09 then [0x5c, 0x74]
  else if b = 0x0a then [0x5c, 0x6e]
  else if b = 0x0c then [0x5c, 0x66]
  else if b = 0x0d then [0x5c, 0x72]
  else if b < 0x20 then [0x5c, 0x75, 0x30, 0x30] ++ Utf8.encode (Hex.encode [b])
  else [b]

/-- The spelling of a text. -/
def spell (s : String) : Bytes := (Utf8.encode s).flatMap escape

/-- A text as a value. -/
def ofText (s : String) : Json := .string (spell s)

/-- A number as a value. -/
def ofNat (n : Nat) : Json := .number (Utf8.encode (Decimal.text n))

/-- An object with the given members, in order. -/
def ofMembers (members : List (String × Json)) : Json :=
  .object (members.map fun m => (spell m.1, m.2))

/-- A spelling between quotes. -/
def quote (spelling : Bytes) : Bytes := [0x22] ++ spelling ++ [0x22]

mutual

/-- The compact form of a value. -/
def print : Json → Bytes
  | .null => [0x6e, 0x75, 0x6c, 0x6c]
  | .bool true => [0x74, 0x72, 0x75, 0x65]
  | .bool false => [0x66, 0x61, 0x6c, 0x73, 0x65]
  | .number numeral => numeral
  | .string spelling => quote spelling
  | .array items => [0x5b] ++ printItems items ++ [0x5d]
  | .object members => [0x7b] ++ printMembers members ++ [0x7d]

/-- The items of an array, separated by commas. -/
def printItems : List Json → Bytes
  | [] => []
  | item :: items => print item ++ printMoreItems items

/-- Further items, each behind a comma. -/
def printMoreItems : List Json → Bytes
  | [] => []
  | item :: items => [0x2c] ++ print item ++ printMoreItems items

/-- The members of an object, separated by commas. -/
def printMembers : List (Bytes × Json) → Bytes
  | [] => []
  | (key, value) :: members => quote key ++ [0x3a] ++ print value ++ printMoreMembers members

/-- Further members, each behind a comma. -/
def printMoreMembers : List (Bytes × Json) → Bytes
  | [] => []
  | (key, value) :: members =>
    [0x2c] ++ quote key ++ [0x3a] ++ print value ++ printMoreMembers members

end

end Json

end ShardClient
