/-
The tokens of a JSON text.

The scanner is a machine that reads one byte at a time.  Between tokens it skips white space;
inside a word, a numeral or a string it collects bytes.  A word or a numeral ends at the first
byte that cannot go on with it, and is judged then: the words are `null`, `true` and `false`,
and a numeral has to follow the grammar.  Inside a string controls are refused, a backslash
has to begin an escape, and everything else is taken as it is.
-/
import ShardClient.Bytes

namespace ShardClient

namespace Json

/-- A token. -/
inductive Token where
  | beginArray
  | endArray
  | beginObject
  | endObject
  | comma
  | colon
  | null
  | bool (b : Bool)
  | number (numeral : Bytes)
  | string (spelling : Bytes)
  deriving DecidableEq, Repr

/-- What the scanner is reading.  Collected bytes stand last first. -/
inductive Scan where
  | between
  | word (letters : Bytes)
  | numeral (chars : Bytes)
  | string (spelling : Bytes)
  /-- Behind a backslash in a string. -/
  | escape (spelling : Bytes)
  /-- Inside the hexadecimal digits of an escape, of which `left + 1` are to come. -/
  | escapeDigits (spelling : Bytes) (left : Nat)
  deriving DecidableEq, Repr

def isSpace (b : UInt8) : Bool := b == 0x20 || b == 0x09 || b == 0x0a || b == 0x0d
def isDigit (b : UInt8) : Bool := 0x30 ≤ b && b ≤ 0x39
def isHexDigit (b : UInt8) : Bool := isDigit b || (0x41 ≤ b && b ≤ 0x46) || (0x61 ≤ b && b ≤ 0x66)
def isLetter (b : UInt8) : Bool := 0x61 ≤ b && b ≤ 0x7a

/-- Bytes that can go on with a numeral: digits, signs, the point and the mark of an exponent. -/
def isNumeralByte (b : UInt8) : Bool :=
  isDigit b || b == 0x2b || b == 0x2d || b == 0x2e || b == 0x65 || b == 0x45

/-- Letters that can stand behind a backslash, the one for a number aside. -/
def isEscapeLetter (b : UInt8) : Bool :=
  [0x22, 0x5c, 0x2f, 0x62, 0x66, 0x6e, 0x72, 0x74].contains b

/-- Whether a text is one or more digits. -/
def areDigits (bs : Bytes) : Bool := !bs.isEmpty && bs.all isDigit

/-- The exponent of a numeral, if any. -/
def isExponent : Bytes → Bool
  | [] => true
  | mark :: rest =>
    (mark == 0x65 || mark == 0x45) &&
      match rest with
      | sign :: digits => if sign == 0x2b || sign == 0x2d then areDigits digits else areDigits rest
      | [] => false

/-- The fraction of a numeral, if any, and what follows it. -/
def isFraction : Bytes → Bool
  | 0x2e :: rest => !(rest.takeWhile isDigit).isEmpty && isExponent (rest.dropWhile isDigit)
  | rest => isExponent rest

/-- A numeral without its sign: no zero stands in front of another digit. -/
def isUnsigned (bs : Bytes) : Bool :=
  let whole := bs.takeWhile isDigit
  !whole.isEmpty && (whole.length == 1 || whole.head? != some 0x30) &&
    isFraction (bs.dropWhile isDigit)

/-- Whether a text is a numeral. -/
def isNumeral : Bytes → Bool
  | 0x2d :: rest => isUnsigned rest
  | bs => isUnsigned bs

/-- The token that a word stands for. -/
def ofWord? (letters : Bytes) : Option Token :=
  if letters = [0x6e, 0x75, 0x6c, 0x6c] then some .null
  else if letters = [0x74, 0x72, 0x75, 0x65] then some (.bool true)
  else if letters = [0x66, 0x61, 0x6c, 0x73, 0x65] then some (.bool false)
  else none

/-- The token that a numeral stands for. -/
def ofNumeral? (chars : Bytes) : Option Token :=
  if isNumeral chars then some (.number chars) else none

/-- The tokens that are one byte long. -/
def ofByte? (b : UInt8) : Option Token :=
  if b = 0x5b then some .beginArray
  else if b = 0x5d then some .endArray
  else if b = 0x7b then some .beginObject
  else if b = 0x7d then some .endObject
  else if b = 0x2c then some .comma
  else if b = 0x3a then some .colon
  else none

/-- Reads a byte between tokens: the token that it is, if it is one, and what is read next. -/
def Scan.start? (b : UInt8) : Option (List Token × Scan) :=
  if isSpace b then some ([], .between)
  else if b = 0x22 then some ([], .string [])
  else if isDigit b || b == 0x2d then some ([], .numeral [b])
  else if isLetter b then some ([], .word [b])
  else (ofByte? b).map fun t => ([t], .between)

/-- Behind a token that has just ended, reads a byte. -/
def Scan.startBehind? (token? : Option Token) (b : UInt8) : Option (List Token × Scan) := do
  let token ← token?
  let (more, next) ← start? b
  some (token :: more, next)

/-- Reads one byte: the tokens that are complete with it, and what is read next. -/
def Scan.step? (s : Scan) (b : UInt8) : Option (List Token × Scan) :=
  match s with
  | .between => start? b
  | .word letters =>
    if isLetter b then some ([], .word (b :: letters))
    else startBehind? (ofWord? letters.reverse) b
  | .numeral chars =>
    if isNumeralByte b then some ([], .numeral (b :: chars))
    else startBehind? (ofNumeral? chars.reverse) b
  | .string spelling =>
    if b = 0x22 then some ([.string spelling.reverse], .between)
    else if b = 0x5c then some ([], .escape (b :: spelling))
    else if b < 0x20 then none
    else some ([], .string (b :: spelling))
  | .escape spelling =>
    if isEscapeLetter b then some ([], .string (b :: spelling))
    else if b = 0x75 then some ([], .escapeDigits (b :: spelling) 3)
    else none
  | .escapeDigits spelling left =>
    if isHexDigit b then
      match left with
      | 0 => some ([], .string (b :: spelling))
      | left + 1 => some ([], .escapeDigits (b :: spelling) left)
    else none

/-- The tokens that are complete at the end of the text. -/
def Scan.finish? : Scan → Option (List Token)
  | .between => some []
  | .word letters => (ofWord? letters.reverse).map ([·])
  | .numeral chars => (ofNumeral? chars.reverse).map ([·])
  | _ => none

/-- Scans a text.  `done` holds the tokens found so far, last first. -/
def scanFrom (done : List Token) (s : Scan) : Bytes → Option (List Token)
  | [] => s.finish?.map fun last => done.reverse ++ last
  | b :: rest =>
    match s.step? b with
    | none => none
    | some (tokens, next) => scanFrom (tokens.reverse ++ done) next rest

/-- The tokens of a text, `none` if it is not made of tokens. -/
def tokens? (text : Bytes) : Option (List Token) := scanFrom [] .between text

end Json

end ShardClient
