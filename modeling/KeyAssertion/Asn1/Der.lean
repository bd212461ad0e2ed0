import KeyAssertion.Encoding.Bytes

/-
  This file defines the reading of DER, the encoding in which
  every value has one form: lengths and whole numbers are as
  short as they can be and nothing follows the last element.

  Key definitions include:
    * `Der.Element`
    * `Der.read?`
    * `Der.single?`
    * `Der.elements?`
    * `Der.natural?`
    * `Der.objectId?`
-/

namespace KeyAssertion

namespace Der

------------------------------------------------------------
-- Elements
------------------------------------------------------------

/- An element: its tag octet, its content, and the whole encoding. -/
structure Element where
  tag : UInt8
  content : Bytes
  encoding : Bytes
deriving DecidableEq, Repr

/- The tag octets that are used by name. -/
def boolean : UInt8 := 0x01
def integer : UInt8 := 0x02
def bitString : UInt8 := 0x03
def octetString : UInt8 := 0x04
def null : UInt8 := 0x05
def objectId : UInt8 := 0x06
def utcTime : UInt8 := 0x17
def generalizedTime : UInt8 := 0x18
def sequence : UInt8 := 0x30
def set : UInt8 := 0x31

/- The tag octet of a constructed element with a context tag. -/
def context (n : UInt8) : UInt8 :=
  0xa0 + n

/- The tag octet of a primitive element with a context tag. -/
def contextPrimitive (n : UInt8) : UInt8 :=
  0x80 + n

/- Read a length: below 128 in one octet, else in as few as will do. -/
def readLength? : Bytes → Option (Nat × Bytes)
  | [] => none
  | b :: rest =>
      if b < 0x80 then
        some (b.toNat, rest)
      else
        let count := (b &&& 0x7f).toNat
        let octets := rest.take count
        let n := Bytes.toNat octets
        if count = 0 ∨ 4 < count ∨ octets.length < count then
          none
        else if n < 0x80 ∨ octets.head? = some 0 then
          none
        else
          some (n, rest.drop count)

/- Read one element; tags are in one octet. -/
def read? (bytes : Bytes) : Option (Element × Bytes) :=
  match bytes with
  | [] => none
  | tag :: rest =>
      if tag &&& 0x1f = 0x1f then
        none
      else
        match readLength? rest with
        | none => none
        | some (n, more) =>
            let content := more.take n
            if content.length < n then
              none
            else
              let after := more.drop n
              let encoding := bytes.take (bytes.length - after.length)
              some (⟨tag, content, encoding⟩, after)

/- Read the one element that the bytes are. -/
def single? (bytes : Bytes) : Option Element :=
  match read? bytes with
  | some (e, []) => some e
  | _ => none

/- Read elements to the end, with fuel for their count. -/
def elementsFrom?
    (fuel : Nat)
    (bytes : Bytes)
    (done : List Element) : Option (List Element) :=
  match fuel with
  | 0 => if bytes.isEmpty then some done.reverse else none
  | fuel + 1 =>
      if bytes.isEmpty then
        some done.reverse
      else
        match read? bytes with
        | none => none
        | some (e, rest) => elementsFrom? fuel rest (e :: done)

/- Read the elements that the bytes are. -/
def elements? (bytes : Bytes) : Option (List Element) :=
  elementsFrom? bytes.length bytes []

/- The content of an element with a given tag. -/
def Element.contentIf?
    (e : Element)
    (tag : UInt8) : Option Bytes :=
  if e.tag = tag then some e.content else none

/- The elements inside an element with a given tag. -/
def Element.inner?
    (e : Element)
    (tag : UInt8) : Option (List Element) := do
  elements? (← e.contentIf? tag)

/- The elements of the sequence that the bytes are. -/
def sequence? (bytes : Bytes) : Option (List Element) := do
  (← single? bytes).inner? sequence

------------------------------------------------------------
-- Values
------------------------------------------------------------

/- Whether the content of a whole number has no octet to spare. -/
def isMinimalInteger : Bytes → Bool
  | [] => false
  | [_] => true
  | a :: b :: _ =>
      !(a == 0 && b < 0x80) && !(a == 0xff && 0x80 ≤ b)

/- A whole number that is not negative. -/
def natural? (e : Element) : Option Nat := do
  let content ← e.contentIf? integer
  if isMinimalInteger content && content.headD 0 < 0x80 then
    some (Bytes.toNat content)
  else
    none

/- Whether an element is a whole number of any sign. -/
def isInteger (e : Element) : Bool :=
  e.tag == integer && isMinimalInteger e.content

/- Whether an element is a string of bits; spare bits are zero. -/
def isBitString (e : Element) : Bool :=
  e.tag == bitString &&
    match e.content with
    | [] => false
    | spare :: bits =>
        let last := bits.getLastD 0
        decide (spare ≤ 7) && !(bits.isEmpty && spare != 0)
          && last &&& ((1 <<< spare) - 1) == 0

/- Whether an element is the null value. -/
def isNull (e : Element) : Bool :=
  e.tag == null && e.content.isEmpty

------------------------------------------------------------
-- Object Identifiers
------------------------------------------------------------

/-
  The numbers of an identifier's octets: seven bits an octet,
  the high bit set on all but the last of a number, and no
  number beginning with zero bits only.
-/
def arcs? (started : Bool) (value : Nat) : Bytes → Option (List Nat)
  | [] => if started then none else some []
  | b :: rest =>
      if !started && b == 0x80 then
        none
      else
        let value := value * 128 + (b &&& 0x7f).toNat
        if b &&& 0x80 = 0 then do
          let more ← arcs? false 0 rest
          some (value :: more)
        else
          arcs? true value rest

/- The arcs of an object identifier; the first two share a number. -/
def objectId? (e : Element) : Option (List Nat) := do
  let content ← e.contentIf? objectId
  if content.isEmpty || 63 < content.length then
    none
  else
    match ← arcs? false 0 content with
    | [] => none
    | first :: rest =>
        let top := min (first / 40) 2
        some (top :: (first - 40 * top) :: rest)

/- An identifier with points between its arcs. -/
def dotted (oid : List Nat) : String :=
  String.intercalate "." (oid.map Text.decimal)

end Der

end KeyAssertion
