/-
Reading JSON.

The parser is a machine over tokens with a stack of unfinished arrays and objects.  It knows
what may come next, and each token moves it one step, so texts of any depth are read in one
pass.  A text is JSON if the machine ends behind one value with an empty stack.
-/
import ShardClient.Json.Token
import ShardClient.Json.Value

namespace ShardClient

namespace Json

/-- An unfinished array or object around the value being read.  Finished parts stand last
first. -/
inductive Frame where
  | items (done : List Json)
  | member (done : List (Bytes × Json)) (key : Bytes)

/-- What the parser expects. -/
inductive Mode where
  /-- A value. -/
  | value
  /-- The first item of an array, or its end. -/
  | itemOrEnd
  /-- The first key of an object, or its end. -/
  | keyOrEnd
  /-- The next key of an object. -/
  | key (done : List (Bytes × Json))
  /-- The colon behind a key. -/
  | colon (done : List (Bytes × Json)) (key : Bytes)
  /-- Whatever follows the value that has just been read. -/
  | behind (value : Json)

/-- The parser: its stack and what it expects. -/
structure Parser where
  stack : List Frame
  mode : Mode

namespace Parser

/-- Reads the first token of a value. -/
def value? (stack : List Frame) : Token → Option Parser
  | .null => some ⟨stack, .behind .null⟩
  | .bool b => some ⟨stack, .behind (.bool b)⟩
  | .number numeral => some ⟨stack, .behind (.number numeral)⟩
  | .string spelling => some ⟨stack, .behind (.string spelling)⟩
  | .beginArray => some ⟨stack, .itemOrEnd⟩
  | .beginObject => some ⟨stack, .keyOrEnd⟩
  | _ => none

/-- Reads the token behind a value. -/
def behind? (stack : List Frame) (v : Json) (token : Token) : Option Parser :=
  match stack, token with
  | .items done :: stack, .comma => some ⟨.items (v :: done) :: stack, .value⟩
  | .items done :: stack, .endArray => some ⟨stack, .behind (.array (v :: done).reverse)⟩
  | .member done key :: stack, .comma => some ⟨stack, .key ((key, v) :: done)⟩
  | .member done key :: stack, .endObject =>
    some ⟨stack, .behind (.object ((key, v) :: done).reverse)⟩
  | _, _ => none

/-- Reads one token. -/
def step? (p : Parser) (token : Token) : Option Parser :=
  match p.mode, token with
  | .value, token => value? p.stack token
  | .itemOrEnd, .endArray => some ⟨p.stack, .behind (.array [])⟩
  | .itemOrEnd, token => value? (.items [] :: p.stack) token
  | .keyOrEnd, .endObject => some ⟨p.stack, .behind (.object [])⟩
  | .keyOrEnd, .string key => some ⟨p.stack, .colon [] key⟩
  | .key done, .string key => some ⟨p.stack, .colon done key⟩
  | .colon done key, .colon => some ⟨.member done key :: p.stack, .value⟩
  | .behind v, token => behind? p.stack v token
  | _, _ => none

/-- Reads all tokens. -/
def run? (p : Parser) : List Token → Option Json
  | [] =>
    match p.stack, p.mode with
    | [], .behind v => some v
    | _, _ => none
  | token :: tokens =>
    match p.step? token with
    | none => none
    | some p => run? p tokens

end Parser

/-- The value that a text spells, `none` if it is not JSON. -/
def parse? (text : Bytes) : Option Json :=
  match tokens? text with
  | none => none
  | some tokens => Parser.run? ⟨[], .value⟩ tokens

end Json

end ShardClient
