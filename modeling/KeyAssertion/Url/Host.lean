import KeyAssertion.Domain.Name
import KeyAssertion.Text.Lowercase
import KeyAssertion.Url.Percent

/-
  This file defines the hosts of URLs: addresses of the two
  kinds, names in ASCII and names in other scripts.

  Key definitions include:
    * `Host.isIpv4`
    * `Host.isIpv6`
    * `Host.Fault`
    * `Host.encode`
    * `Host.check`
-/

namespace KeyAssertion

namespace Host

------------------------------------------------------------
-- Addresses of Four Numbers
------------------------------------------------------------

/- The parts of a host between its dots. -/
def dotted (cs : List Char) : List (List Char) :=
  Text.pieces (fun c => c == '.') cs

/- Whether a host is four numbers of any size with dots between them. -/
def looksLikeIpv4 (cs : List Char) : Bool :=
  (dotted cs).length == 4
    && (dotted cs).all fun part =>
      !part.isEmpty && part.all Text.isDigit

/- Whether characters are a number up to 255 without needless zeros. -/
def isOctet (cs : List Char) : Bool :=
  !cs.isEmpty && cs.length ≤ 3 && cs.all Text.isDigit
    && (cs == ['0'] || cs.head? != some '0')
    && Text.digitsValue cs ≤ 255

/- Whether characters are an address of four numbers. -/
def isIpv4 (cs : List Char) : Bool :=
  (dotted cs).length == 4 && (dotted cs).all isOctet

------------------------------------------------------------
-- Addresses of Eight Groups
------------------------------------------------------------

/- Whether a host stands in square brackets. -/
def looksLikeIpv6 (cs : List Char) : Bool :=
  cs.head? == some '[' && cs.getLast? == some ']'

/- Whether characters are one to four digits of base sixteen. -/
def isGroup (cs : List Char) : Bool :=
  !cs.isEmpty && cs.length ≤ 4 && cs.all Percent.isHexDigit

/- Groups next to the gap, where an empty end counts as none. -/
def beside (groups : List (List Char)) : List (List Char) :=
  if groups = [[]] then [] else groups

/-
  Whether groups make an address: eight of them, or at most
  seven around one gap.
-/
def areGroups : List (List Char) → Bool
  | first :: rest =>
      let isFull (g : List Char) : Bool := !g.isEmpty
      let inner := rest.dropLast
      match inner.dropWhile isFull with
      | [] =>
          (first :: rest).length == 8 && (first :: rest).all isGroup
      | _ :: behind =>
          let front := beside (first :: inner.takeWhile isFull)
          let back := beside (behind ++ rest.getLast?.toList)
          (front ++ back).length ≤ 7 && (front ++ back).all isGroup
  | [] => false

/-
  The groups of an address; four numbers at the end stand for
  two groups.
-/
def groups? (cs : List Char) : Option (List (List Char)) :=
  let parts := Text.pieces (fun c => c == ':') cs
  let last := parts.getLastD []
  if parts.length < 3 then
    none
  else if last.contains '.' then
    if isIpv4 last then some (parts.dropLast ++ [['0'], ['0']]) else none
  else
    some parts

/- Whether a zone may follow an address. -/
def isZone (cs : List Char) : Bool :=
  match cs with
  | [] => true
  | _ :: zone => !zone.isEmpty && !zone.contains '%'

/- Whether characters are an address of eight groups, perhaps with a zone. -/
def isIpv6 (cs : List Char) : Bool :=
  let isInside (c : Char) : Bool := c != '%'
  isZone (cs.dropWhile isInside)
    && match groups? (cs.takeWhile isInside) with
       | some groups => areGroups groups
       | none => false

------------------------------------------------------------
-- Hosts
------------------------------------------------------------

/- Why a host is refused; the host as it was written. -/
inductive Fault
  | ipv4 (host : String)
  | ipv6 (host : String)
  | domain (host : String)
deriving DecidableEq, Repr

/- The characters that are not encoded in a name. -/
def isSafe (c : Char) : Bool :=
  ('a' ≤ c && c ≤ 'z') || ('A' ≤ c && c ≤ 'Z') || Text.isDigit c
    || "-._~!$&'()*+,;=\"`\x7b\x7d%|\\".toList.contains c

/- The host of a URL, without brackets, all in ASCII. -/
def encode (host : String) : Except Fault String :=
  let cs := host.toList
  if looksLikeIpv4 cs then
    if isIpv4 cs then .ok host else .error (.ipv4 host)
  else if looksLikeIpv6 cs then
    let inside := (cs.drop 1).dropLast
    if isIpv6 inside then
      .ok (String.ofList inside)
    else
      .error (.ipv6 host)
  else if cs.all fun c => c.toNat < 128 then
    .ok (Percent.encode isSafe (Text.lower host))
  else
    match Domain.encode (Text.lower host) with
    | .ok name => .ok name
    | .error _ => .error (.domain host)

/- Check that a name spelled in ASCII stands for a domain name. -/
def check (host : String) : Except Domain.Fault Unit := do
  if Domain.spellingOpening.isPrefixOf host.toList then
    let _ ← Domain.decode host

end Host

end KeyAssertion
