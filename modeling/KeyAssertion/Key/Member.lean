import KeyAssertion.Encoding.Base64
import KeyAssertion.Encoding.Bytes
import KeyAssertion.Json.Value

/-
  This file defines whole numbers as members of a JWK: the
  big-endian bytes of the number in unpadded base64url.  The
  reader is lenient about padding and foreign characters.

  Key definitions include:
    * `Key.MemberFault`
    * `Key.writeMember`
    * `Key.readMember`
-/

namespace KeyAssertion

namespace Key

/- Why a member is no number. -/
inductive MemberFault
  | notText
  | notAscii (first last : Nat) (point : Nat)
  | encoding (fault : Base64.Lenient.Fault)
deriving DecidableEq, Repr

/- The wording of a fault. -/
def MemberFault.message : MemberFault → String
  | .notText => "JWK members must be non-empty base64url strings"
  | .notAscii first last point =>
      let place :=
        if first = last then
          " character '" ++ String.ofList (Text.escapePoint point)
            ++ "' in position " ++ toString first
        else
          " characters in position " ++ toString first ++ "-"
            ++ toString last
      "'ascii' codec can't encode" ++ place
        ++ ": ordinal not in range(128)"
  | .encoding fault => fault.message

/- The member of a number. -/
def writeMember (n : Nat) : String :=
  Base64.encodeUrl (Bytes.ofNat n)

/- The first run of code points outside ASCII. -/
def foreignRun? (points : List Nat) : Option MemberFault :=
  let before := points.takeWhile (· < 128)
  match points.drop before.length with
  | [] => none
  | point :: rest =>
      let more := rest.takeWhile (128 ≤ ·)
      some (.notAscii before.length (before.length + more.length) point)

/- The padding that fills a text up to groups of four. -/
def padding (length : Nat) : List Char :=
  List.replicate ((4 - length % 4) % 4) '='

/- The number of a member with the given code points. -/
def readPoints (points : List Nat) : Except MemberFault Nat :=
  match foreignRun? points with
  | some fault => .error fault
  | none =>
      let cs := points.map Char.ofNat ++ padding points.length
      match Base64.Lenient.decode cs with
      | .ok bytes => .ok (Bytes.toNat bytes)
      | .error fault => .error (.encoding fault)

/- The number of a member. -/
def readMember (s : JsonString) : Except MemberFault Nat :=
  if s.isEmpty then
    .error .notText
  else
    readPoints s.points

/- The number of a member that may be any value. -/
def readValue : Json → Except MemberFault Nat
  | .string s => readMember s
  | _ => .error .notText

end Key

end KeyAssertion
