/-
Reading values of known types out of JSON.

Texts have to spell one: escapes must not leave half a surrogate pair, and the bytes must be
UTF-8.  Numbers are spelt with digits alone.  A record is given as an object, whose unknown
members are skipped, or as an array of its fields in order.  In an object a field must not
come twice; in an array fields are missing only at the end, and only those that have a
default.  A map keeps the last value of each key.
-/
import ShardClient.Json.Parser

namespace ShardClient

namespace Json

/-- The value of a hexadecimal digit, zero for any other byte. -/
def hexValue (b : UInt8) : Nat := (Hex.digitValue? b).getD 0

/-- The number of an escape with four digits. -/
def escapeNumber (a b c d : UInt8) : Nat :=
  ((hexValue a * 16 + hexValue b) * 16 + hexValue c) * 16 + hexValue d

/-- The byte that an escape letter stands for. -/
def escapedByte (letter : UInt8) : UInt8 :=
  if letter = 0x62 then 0x08
  else if letter = 0x66 then 0x0c
  else if letter = 0x6e then 0x0a
  else if letter = 0x72 then 0x0d
  else if letter = 0x74 then 0x09
  else letter

/-- The bytes that a spelling stands for.  `lead` is the first half of a surrogate pair that has
just been read, and has to be completed at once. -/
def unescapeFrom (lead : Option Nat) : Bytes → Option Bytes
  | 0x5c :: 0x75 :: a :: b :: c :: d :: rest =>
    let n := escapeNumber a b c d
    match lead with
    | some high =>
      if 0xdc00 ≤ n ∧ n ≤ 0xdfff then do
        let code := 0x10000 + (high - 0xd800) * 0x400 + (n - 0xdc00)
        let bytes ← unescapeFrom none rest
        some (String.utf8EncodeChar (Char.ofNat code) ++ bytes)
      else none
    | none =>
      if 0xd800 ≤ n ∧ n ≤ 0xdbff then unescapeFrom (some n) rest
      else if 0xdc00 ≤ n ∧ n ≤ 0xdfff then none
      else do
        let bytes ← unescapeFrom none rest
        some (String.utf8EncodeChar (Char.ofNat n) ++ bytes)
  | 0x5c :: letter :: rest =>
    if lead.isSome then none
    else do
      let bytes ← unescapeFrom none rest
      some (escapedByte letter :: bytes)
  | b :: rest =>
    if lead.isSome then none
    else do
      let bytes ← unescapeFrom none rest
      some (b :: bytes)
  | [] => if lead.isSome then none else some []

/-- The text that a spelling stands for. -/
def unspell? (spelling : Bytes) : Option String :=
  (unescapeFrom none spelling).bind Utf8.decode?

/-- A text. -/
def text? : Json → Option String
  | .string spelling => unspell? spelling
  | _ => none

/-- A truth value. -/
def bool? : Json → Option Bool
  | .bool b => some b
  | _ => none

/-- A natural number below `limit`, spelt with digits alone. -/
def nat? (limit : Nat) : Json → Option Nat
  | .number numeral =>
    if numeral.all isDigit then
      let n := numeral.foldl (fun n b => n * 10 + (b.toNat - 0x30)) 0
      if n < limit then some n else none
    else none
  | _ => none

/-- An array of values. -/
def list? {α : Type} (read : Json → Option α) : Json → Option (List α)
  | .array items => items.mapM read
  | _ => none

/-- A value or null. -/
def nullable? {α : Type} (read : Json → Option α) : Json → Option (Option α)
  | .null => some none
  | v => (read v).map some

/-- The members of an object with readable keys, in order. -/
def members? : Json → Option (List (String × Json))
  | .object members => members.mapM fun m => (unspell? m.1).map fun key => (key, m.2)
  | _ => none

/-- A map in the order of its keys.  The last value of a key counts. -/
def map? {α : Type} (read : Json → Option α) (v : Json) : Option (List (String × α)) := do
  let members ← v.members?
  let pairs ← members.mapM fun m => (read m.2).map fun value => (m.1, value)
  some (pairs.foldl (fun map p => insert map p.1 p.2) [])
where
  /-- Puts a value under a key, in front of the first greater key. -/
  insert (map : List (String × α)) (key : String) (value : α) : List (String × α) :=
    match map with
    | [] => [(key, value)]
    | (k, v) :: rest =>
      if k = key then (key, value) :: rest
      else if key < k then (key, value) :: (k, v) :: rest
      else (k, v) :: insert rest key value

/-- The fields of a record that are given, and whether they are given by position. -/
structure Fields where
  given : List (String × Json)
  byPosition : Bool

/-- Collects the known members of an object; none may come twice. -/
def collect? (names : List String) : List (String × Json) → Option (List (String × Json))
  | [] => some []
  | (name, v) :: rest => do
    let given ← collect? names rest
    if names.contains name then
      if (given.lookup name).isSome then none else some ((name, v) :: given)
    else some given

/-- The fields of a record with the given names. -/
def fields? (names : List String) : Json → Option Fields
  | .array items =>
    if items.length ≤ names.length then some ⟨names.zip items, true⟩ else none
  | v => do
    let members ← v.members?
    let given ← collect? names members
    some ⟨given, false⟩

namespace Fields

/-- A field that has to be given. -/
def required? {α : Type} (f : Fields) (name : String) (read : Json → Option α) : Option α :=
  (f.given.lookup name).bind read

/-- A field that has a default. -/
def defaulted? {α : Type} (f : Fields) (name : String) (default : α) (read : Json → Option α) :
    Option α :=
  match f.given.lookup name with
  | none => some default
  | some v => read v

/-- A field that may be null, and that a record given by name may leave out. -/
def optional? {α : Type} (f : Fields) (name : String) (read : Json → Option α) :
    Option (Option α) :=
  match f.given.lookup name with
  | none => if f.byPosition then none else some none
  | some v => nullable? read v

end Fields

end Json

end ShardClient
