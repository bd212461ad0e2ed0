import KeyAssertion.Pem.Search

/-
  This file defines the blocks of a text in which other things
  may stand between them.  A block is an opening line, a label
  of capitals, digits and spaces, a body, and the closing line
  with the same label.  Blocks do not overlap.

  Key definitions include:
    * `Pem.blockAt?`
    * `Pem.allBlocks`
    * `Pem.firstBlocks`
-/

namespace KeyAssertion

namespace Pem

/- A block with its label. -/
structure Block where
  label : Bytes
  text : Bytes
deriving DecidableEq, Repr

/- Whether a byte may stand in a label. -/
def isLabelByte (b : UInt8) : Bool :=
  (65 ≤ b && b ≤ 90) || (48 ≤ b && b ≤ 57) || b == 32

/- The line that closes a block. -/
def closingLine (label : Bytes) : Bytes :=
  closing ++ label ++ dashes

/-
  The block that begins where the bytes do.  Its body has at
  least one byte and ends at the first closing line.
-/
def blockAt? (bytes : Bytes) : Option Block :=
  if opening.isPrefixOf bytes then
    let rest := bytes.drop opening.length
    let label := rest.takeWhile isLabelByte
    let rest := rest.drop label.length
    if label.isEmpty || !dashes.isPrefixOf rest then
      none
    else
      let body := rest.drop dashes.length
      match offset? (closingLine label) (body.drop 1) with
      | none => none
      | some n =>
          let length := opening.length + label.length + dashes.length
            + (n + 1) + (closingLine label).length
          some ⟨label, bytes.take length⟩
  else
    none

/-
  The blocks from here on, in order.  `skip` bytes still belong
  to a block already taken; `done` holds the blocks so far in
  reverse.
-/
def blocksFrom
    (skip : Nat)
    (done : List Block) : Bytes → List Block
  | [] => done.reverse
  | b :: rest =>
      match skip with
      | skip + 1 => blocksFrom skip done rest
      | 0 =>
          match blockAt? (b :: rest) with
          | some block =>
              blocksFrom (block.text.length - 1) (block :: done) rest
          | none => blocksFrom 0 done rest

/- The blocks of a text, in order. -/
def allBlocks (bytes : Bytes) : List Block :=
  blocksFrom 0 [] bytes

/- The blocks whose label occurs for the first time. -/
def firstOfLabel (seen : List Bytes) : List Block → List Block
  | [] => []
  | b :: rest =>
      if seen.contains b.label then
        firstOfLabel seen rest
      else
        b :: firstOfLabel (b.label :: seen) rest

/- The first block of each label, in order. -/
def firstBlocks (bytes : Bytes) : List Block :=
  firstOfLabel [] (allBlocks bytes)

/- The label of a certificate. -/
def certificateLabel : Bytes :=
  Bytes.ofLatin "CERTIFICATE"

/- How the label of a private key ends. -/
def keyLabelEnding : Bytes :=
  Bytes.ofLatin "PRIVATE KEY"

/- The certificate among first blocks. -/
def certificateBlock? (blocks : List Block) : Option Bytes :=
  (blocks.find? fun b => b.label == certificateLabel).map (·.text)

/- The private key among first blocks. -/
def keyBlock? (blocks : List Block) : Option Bytes :=
  (blocks.find? fun b => keyLabelEnding.isSuffixOf b.label).map (·.text)

end Pem

end KeyAssertion
