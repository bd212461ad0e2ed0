import KeyAssertion.Encoding.Base64
import KeyAssertion.Pem.Search
import KeyAssertion.Text.Blank

/-
  This file defines the strict reading of PEM: every block of
  a text is read, what stands outside of them is ignored, and
  one faulty block makes the whole text faulty.

  Key definitions include:
    * `Pem.Armor`
    * `Pem.readArmor?`
-/

namespace KeyAssertion

namespace Pem

/- A block: its label, its header lines and its decoded data. -/
structure Armor where
  label : String
  headers : List (String × String)
  contents : Bytes
deriving DecidableEq, Repr

/- The last header of a name. -/
def Armor.header?
    (a : Armor)
    (name : String) : Option String :=
  (a.headers.reverse.find? fun h => h.1 == name).map (·.2)

/- A block as it stands in the text. -/
structure RawArmor where
  label : Bytes
  body : Bytes
  endLabel : Bytes
deriving DecidableEq, Repr

/- Whether a byte separates the parts of a block. -/
def isSeparator (b : UInt8) : Bool :=
  b == 32 || b == 9 || b == 10 || b == 13

/- Whether a byte is ignored inside the data. -/
def isIgnored (b : UInt8) : Bool :=
  isSeparator b || b == 12

/- The first block, complete or not there, and what follows it. -/
def nextRaw? (bytes : Bytes) : Option (RawArmor × Bytes) := do
  let (_, rest) ← splitAt? opening bytes
  let (label, rest) ← splitAt? dashes rest
  let (body, rest) ← splitAt? closing (rest.dropWhile isSeparator)
  let (endLabel, rest) ← splitAt? dashes rest
  return (⟨label, body, endLabel⟩, rest.dropWhile isSeparator)

/- The blocks in order, with fuel for their count. -/
def rawFrom
    (fuel : Nat)
    (bytes : Bytes)
    (done : List RawArmor) : List RawArmor :=
  match fuel with
  | 0 => done.reverse
  | fuel + 1 =>
      match nextRaw? bytes with
      | none => done.reverse
      | some (raw, rest) => rawFrom fuel rest (raw :: done)

/-
  The header lines and the data of a body: a blank line, if
  there is one, ends the headers.
-/
def splitHeaders (body : Bytes) : Bytes × Bytes :=
  match splitAt? [10, 10] body with
  | some (headers, data) => (headers, data)
  | none =>
      match splitAt? [13, 10, 13, 10] body with
      | some (headers, data) => (headers, data)
      | none => ([], body)

/- The lines of a text. -/
def lines (s : String) : List (List Char) :=
  let chunks := s.toList.splitBy fun a _ => a != '\n'
  chunks.map fun l =>
    let l := if l.getLast? = some '\n' then l.dropLast else l
    if l.getLast? = some '\r' then l.dropLast else l

/- A header line: a name, a colon and a value. -/
def headerLine? (line : List Char) : Option (String × String) :=
  if line.contains ':' then
    let name := line.takeWhile (· != ':')
    let value := line.drop (name.length + 1)
    some (String.ofList (Text.trimList Text.isBlank name),
      String.ofList (Text.trimList Text.isBlank value))
  else
    none

/- The characters of data without what is ignored. -/
def dataCharacters (data : Bytes) : List Char :=
  (data.filter fun b => !isIgnored b).map fun b => Char.ofNat b.toNat

/- The block of a raw block, none when it is faulty. -/
def RawArmor.toArmor? (r : RawArmor) : Option Armor := do
  let label ← Bytes.toText? r.label
  if label = "" ∨ r.endLabel ≠ r.label then
    none
  let (headers, data) := splitHeaders r.body
  let contents ←
    Base64.decode Base64.standard true (dataCharacters data)
  let headers ← Bytes.toText? headers
  let headers ← (lines headers).mapM headerLine?
  return ⟨label, headers, contents⟩

/- The blocks of a text, none when one is faulty or none is there. -/
def readArmor? (bytes : Bytes) : Option (List Armor) := do
  let blocks ← (rawFrom bytes.length bytes []).mapM RawArmor.toArmor?
  if blocks.isEmpty then none else some blocks

end Pem

end KeyAssertion
