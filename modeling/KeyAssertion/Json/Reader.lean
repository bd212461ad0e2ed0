import KeyAssertion.Json.Token

/-
  This file defines the reader of JSON texts: a machine that
  takes in one token after another and keeps the arrays and
  objects that are open on a stack.

  Key definitions include:
    * `Json.Frame`
    * `Json.Phase`
    * `Json.Machine.step`
    * `Json.read`
-/

namespace KeyAssertion

namespace Json

/-
  An open array or object with what it holds so far, in
  reverse.  A `member` waits for the value of a name.
-/
inductive Frame
  | array (done : List Json)
  | object (done : List (JsonString × Json))
  | member (done : List (JsonString × Json)) (name : JsonString)

/- What may come next. -/
inductive Phase
  | value
  | itemOrEnd
  | nameOrEnd
  | name
  | colon
  | after (v : Json)

/- The open frames, innermost first, and what may come next. -/
structure Machine where
  stack : List Frame
  phase : Phase

/- The most arrays and objects that may be open at once. -/
def maxDepth : Nat := 990

/- The members of an object, a later value replacing an earlier. -/
def closeObject (done : List (JsonString × Json)) : Json :=
  .object (done.foldr
    (fun m members => JsonObject.set members m.1 m.2) [])

namespace Machine

/- The machine before the first token. -/
def start : Machine :=
  ⟨[], .value⟩

/- Refuse a token. -/
def refuse (f : Fault) : Except ReadError Machine :=
  .error (.malformed f)

/- Open an array or object. -/
def openFrame
    (stack : List Frame)
    (frame : Frame)
    (phase : Phase) : Except ReadError Machine :=
  if maxDepth ≤ stack.length then
    .error .tooDeep
  else
    .ok ⟨frame :: stack, phase⟩

/- Take in the token that begins a value. -/
def stepValue
    (stack : List Frame) :
    Token → Except ReadError Machine
  | .openBrace => openFrame stack (.object []) .nameOrEnd
  | .openBracket => openFrame stack (.array []) .itemOrEnd
  | .scalar v => .ok ⟨stack, .after v⟩
  | .string s => .ok ⟨stack, .after (.string s)⟩
  | .faultyString f => refuse f
  | .faultyNumber n => .error (.longInteger n)
  | _ => refuse .expectedValue

/- Take in the token that is the name of a member. -/
def stepName
    (stack : List Frame) :
    Token → Except ReadError Machine
  | .string s =>
      match stack with
      | .object done :: outer => .ok ⟨.member done s :: outer, .colon⟩
      | _ => refuse .expectedName
  | .faultyString f => refuse f
  | _ => refuse .expectedName

/- Take in the token after a value. -/
def stepAfter
    (stack : List Frame)
    (v : Json)
    (token : Token) : Except ReadError Machine :=
  match stack with
  | .array done :: outer =>
      match token with
      | .comma => .ok ⟨.array (v :: done) :: outer, .value⟩
      | .closeBracket => .ok ⟨outer, .after (.array (v :: done).reverse)⟩
      | _ => refuse .expectedComma
  | .member done name :: outer =>
      match token with
      | .comma => .ok ⟨.object ((name, v) :: done) :: outer, .name⟩
      | .closeBrace => .ok ⟨outer, .after (closeObject ((name, v) :: done))⟩
      | _ => refuse .expectedComma
  | _ => refuse .extraData

/- Take in one token. -/
def step
    (m : Machine)
    (token : Token) : Except ReadError Machine :=
  match m.phase with
  | .value => stepValue m.stack token
  | .itemOrEnd =>
      match token, m.stack with
      | .closeBracket, .array _ :: outer => .ok ⟨outer, .after (.array [])⟩
      | _, _ => stepValue m.stack token
  | .nameOrEnd =>
      match token, m.stack with
      | .closeBrace, .object _ :: outer => .ok ⟨outer, .after (.object [])⟩
      | _, _ => stepName m.stack token
  | .name => stepName m.stack token
  | .colon =>
      match token with
      | .colon => .ok ⟨m.stack, .value⟩
      | _ => refuse .expectedColon
  | .after v => stepAfter m.stack v token

/- What the machine has read when the text ends. -/
def finish (m : Machine) : Except ReadError Json :=
  match m.phase with
  | .value => .error (.malformed .expectedValue)
  | .itemOrEnd => .error (.malformed .expectedValue)
  | .nameOrEnd => .error (.malformed .expectedName)
  | .name => .error (.malformed .expectedName)
  | .colon => .error (.malformed .expectedColon)
  | .after v =>
      if m.stack.isEmpty then
        .ok v
      else
        .error (.malformed .expectedComma)

/- Take in a whole text, with fuel for its tokens. -/
def run
    (fuel : Nat)
    (m : Machine)
    (cs : List Char) : Except ReadError Json :=
  match fuel with
  | 0 => m.finish
  | fuel + 1 =>
      match nextToken cs with
      | none => m.finish
      | some (token, rest) =>
          match m.step token with
          | .ok m => run fuel m rest
          | .error e => .error e

end Machine

/- Read a JSON text; each token has at least one character. -/
def readList (cs : List Char) : Except ReadError Json :=
  match cs with
  | c :: _ =>
      if c.toNat = 0xfeff then
        .error (.malformed .byteOrderMark)
      else
        Machine.run cs.length .start cs
  | [] => Machine.start.finish

/- Read a JSON text. -/
def read (s : String) : Except ReadError Json :=
  readList s.toList

end Json

end KeyAssertion
