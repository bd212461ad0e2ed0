import Mathlib.Data.List.Infix
import Mathlib.Tactic.IntervalCases
import KeyAssertion.Proofs.Pem.Blocks

/-
  Texts that are laid out as blocks with anything between them
  that has no opening line in it.  Such a text holds these
  blocks and no others, and of each label the first one is
  taken.

  Key definitions include:
    * `Pem.Piece`
    * `Pem.IsGap`
    * `Pem.IsLaid`
    * `Pem.IsFirstOfEach`

  Key theorems include:
    * `Pem.Piece.IsPlain.isWritten`
    * `Pem.Holds.of_isGap`
    * `Pem.IsLaid.holds`
    * `Pem.isFirstOfEach_firstOfLabel`
-/

namespace KeyAssertion

namespace Pem

------------------------------------------------------------
-- Layouts
------------------------------------------------------------

/- How every opening line begins. -/
def openingMark : Bytes :=
  Bytes.ofLatin "-----BEGIN"

/- Whether no opening line begins within bytes. -/
def IsGap (gap : Bytes) : Prop :=
  ¬ openingMark <:+: gap

instance (gap : Bytes) : Decidable (IsGap gap) := by
  unfold IsGap
  infer_instance

/- The label and the body of a block, and what stands before it. -/
structure Piece where
  gap : Bytes
  label : Bytes
  body : Bytes
deriving DecidableEq, Repr

namespace Piece

/- The block of a piece, between its two lines. -/
def block (p : Piece) : Block :=
  ⟨p.label,
    opening ++ (p.label ++ (dashes ++ (p.body ++ closingLine p.label)))⟩

/-
  Whether a piece has a label, a body without a line of its own,
  and nothing before them that might be a block.
-/
structure IsPlain (p : Piece) : Prop where
  gap : IsGap p.gap
  named : p.label ≠ []
  label : ∀ x ∈ p.label, isLabelByte x = true
  filled : p.body ≠ []
  body : ¬ dashes <:+: p.body

instance (p : Piece) : Decidable p.IsPlain :=
  decidable_of_iff
    (IsGap p.gap ∧ p.label ≠ [] ∧ p.label.all isLabelByte = true ∧
      p.body ≠ [] ∧ ¬ dashes <:+: p.body)
    ⟨fun h =>
        ⟨h.1, h.2.1, List.all_eq_true.mp h.2.2.1, h.2.2.2.1, h.2.2.2.2⟩,
      fun h =>
        ⟨h.gap, h.named, List.all_eq_true.mpr h.label, h.filled, h.body⟩⟩

end Piece

/- The pieces one after the other, and what stands after them. -/
def layOut
    (pieces : List Piece)
    (tail : Bytes) : Bytes :=
  pieces.flatMap (fun p => p.gap ++ p.block.text) ++ tail

/- Whether a text is laid out as blocks, in their order. -/
def IsLaid
    (bytes : Bytes)
    (blocks : List Block) : Prop :=
  ∃ pieces tail,
    (∀ p ∈ pieces, p.IsPlain) ∧ IsGap tail ∧
      layOut pieces tail = bytes ∧ pieces.map Piece.block = blocks

------------------------------------------------------------
-- Bodies
------------------------------------------------------------

/- The line that closes a block has a letter after its dashes. -/
theorem closingLine_eq (label : Bytes) :
    closingLine label =
      dashes ++ (69 :: (78 :: 68 :: 32 :: (label ++ dashes))) :=
  rfl

/-
  Bytes after which a closing line begins that is the one at
  their beginning, too, are none or have dashes in them: a line
  that began less than five bytes earlier would have its letter
  among the dashes of the other.
-/
theorem eq_nil_of_shifted
    {label between back : Bytes}
    (hDashes : ¬ dashes <+: between)
    (hShift : closingLine label ++ back = between ++ closingLine label) :
    between = [] := by
  by_contra hSome
  have hPositive := List.length_pos_iff.mpr hSome
  have hShort : between.length < 5 := by
    by_contra hLong
    apply hDashes
    have hStart : dashes <+: between ++ closingLine label := by
      rw [← hShift, closingLine_eq, List.append_assoc]
      exact List.prefix_append _ _
    apply List.prefix_of_prefix_length_le hStart
      (List.prefix_append between _)
    exact Nat.le_of_not_lt hLong
  -- At place five the line is at its letter, but after `between` it is
  -- still at one of its five dashes.
  have hLetter : (closingLine label ++ back)[5]? = some 69 := rfl
  have hDash : (between ++ closingLine label)[5]? = some 45 := by
    rw [List.getElem?_append_right (by omega), closingLine_eq]
    generalize between.length = k at hPositive hShort
    interval_cases k
    · rfl
    · rfl
    · rfl
    · rfl
  rw [hShift, hDash] at hLetter
  exact absurd hLetter (by decide)

/- A closing line after a body without dashes is at the end. -/
theorem closes_at_end
    {label body front back : Bytes}
    (hBody : ¬ dashes <:+: body)
    (hSplit :
      body ++ closingLine label = front ++ (closingLine label ++ back)) :
    back = [] := by
  rcases List.append_eq_append_iff.mp hSplit with
    ⟨between, -, hLine⟩ | ⟨between, hFront, hLine⟩
  · have hLength := congrArg List.length hLine
    simp only [List.length_append] at hLength
    exact List.eq_nil_of_length_eq_zero (by omega)
  · have hNone : between = [] := by
      apply eq_nil_of_shifted _ hLine
      intro hDashes
      apply hBody
      rw [hFront]
      exact hDashes.isInfix.trans (List.suffix_append _ _).isInfix
    rw [hNone, List.nil_append] at hLine
    exact List.append_right_eq_self.mp hLine

/- The block of a plain piece is written as blocks are. -/
theorem Piece.IsPlain.isWritten
    {p : Piece}
    (h : p.IsPlain) :
    p.block.IsWritten p.body := by
  refine ⟨rfl, h.named, h.label, h.filled, ?_⟩
  intro front back hSplit _
  exact closes_at_end h.body hSplit

------------------------------------------------------------
-- Gaps
------------------------------------------------------------

/- No end of an opening is the beginning of one, but the whole. -/
theorem not_border
    {front rest : Bytes}
    (hSplit : front ++ rest = opening)
    (hFront : front ≠ [])
    (hRest : rest ≠ []) :
    ¬ rest <+: opening := by
  have hAll :
      ∀ k < 11, k ≠ 0 → ¬ opening.drop k <+: opening := by
    decide
  have hLength := congrArg List.length hSplit
  have hEleven : opening.length = 11 := rfl
  have hFrontLength := List.length_pos_iff.mpr hFront
  have hRestLength := List.length_pos_iff.mpr hRest
  rw [List.length_append] at hLength
  have hDrop : opening.drop front.length = rest := by
    rw [← hSplit, List.drop_left]
  rw [← hDrop]
  exact hAll front.length (by omega) (by omega)

/- So none begins in a gap that is followed by an opening or nothing. -/
theorem IsGap.not_opening
    {gap rest : Bytes}
    (hGap : IsGap gap)
    (hSome : gap ≠ [])
    (hRest : rest = [] ∨ opening <+: rest) :
    ¬ opening <+: gap ++ rest := by
  have hMark : openingMark <+: opening := ⟨[32], rfl⟩
  intro hOpening
  -- An opening in the gap has its mark there.  One that goes beyond it
  -- ends with a beginning of the next opening.
  rcases List.prefix_or_prefix_of_prefix hOpening
      (List.prefix_append gap rest) with hInside | ⟨after, hAfter⟩
  · exact hGap (hMark.trans hInside).isInfix
  have hLater : after ≠ [] := by
    rintro rfl
    rw [List.append_nil] at hAfter
    apply hGap
    rw [hAfter]
    exact hMark.isInfix
  have hStart : after <+: rest := by
    rw [← hAfter] at hOpening
    exact (List.prefix_append_right_inj gap).mp hOpening
  rcases hRest with rfl | hRest
  · exact hLater (List.prefix_nil.mp hStart)
  · apply not_border hAfter hSome hLater
    apply List.prefix_of_prefix_length_le hStart hRest
    rw [← hAfter, List.length_append]
    omega

/- Where there is no opening, no block begins. -/
theorem blockAt?_eq_none
    {bytes : Bytes}
    (h : ¬ opening <+: bytes) :
    blockAt? bytes = none := by
  rw [blockAt?, if_neg]
  rwa [List.isPrefixOf_iff_prefix]

/- A gap before an opening or at the end is passed over. -/
theorem Holds.of_isGap
    {gap rest : Bytes}
    {blocks : List Block}
    (hGap : IsGap gap)
    (hRest : rest = [] ∨ opening <+: rest)
    (h : Holds rest blocks) :
    Holds (gap ++ rest) blocks := by
  induction gap with
  | nil => exact h
  | cons x gap ih =>
      have hLater : IsGap gap :=
        fun hInfix => hGap (hInfix.trans (List.suffix_cons x gap).isInfix)
      have hNone : blockAt? (x :: (gap ++ rest)) = none :=
        blockAt?_eq_none (hGap.not_opening (List.cons_ne_nil _ _) hRest)
      exact .skip x (gap ++ rest) blocks hNone (ih hLater)

/- A text that is laid out holds its blocks. -/
theorem IsLaid.holds
    {bytes : Bytes}
    {blocks : List Block}
    (h : IsLaid bytes blocks) :
    Holds bytes blocks := by
  rcases h with ⟨pieces, tail, hPieces, hTail, rfl, rfl⟩
  induction pieces with
  | nil =>
      have hEnd := Holds.nil.of_isGap hTail (Or.inl rfl)
      rwa [List.append_nil] at hEnd
  | cons p rest ih =>
      rcases List.forall_mem_cons.mp hPieces with ⟨hPlain, hLater⟩
      have hSplit :
          layOut (p :: rest) tail =
            p.gap ++ (p.block.text ++ layOut rest tail) := by
        simp [layOut]
      have hOpening : opening <+: p.block.text ++ layOut rest tail := by
        rw [Piece.block, List.append_assoc]
        exact List.prefix_append _ _
      rw [hSplit, List.map_cons]
      apply Holds.of_isGap hPlain.gap (Or.inr hOpening)
      exact .take p.block p.body _ _ hPlain.isWritten (ih hLater)

------------------------------------------------------------
-- First Blocks
------------------------------------------------------------

/-
  Whether blocks are the first ones of each label among others:
  each is the first one with its label, every label has one,
  and they are in the order in which their labels first occur.
-/
structure IsFirstOfEach (blocks firsts : List Block) : Prop where
  first : ∀ b ∈ firsts,
    (blocks.find? fun c => c.label == b.label) = some b
  each : ∀ b ∈ blocks, ∃ c ∈ firsts, c.label = b.label
  ordered : firsts.Pairwise fun b c =>
    (blocks.map Block.label).idxOf b.label <
      (blocks.map Block.label).idxOf c.label

/- No label is taken that was seen before. -/
theorem not_mem_of_mem_firstOfLabel
    {seen : List Bytes}
    {blocks : List Block}
    {b : Block}
    (hMem : b ∈ firstOfLabel seen blocks) :
    b.label ∉ seen := by
  fun_induction firstOfLabel seen blocks with
  | case1 => cases hMem
  | case2 seen c rest hSeen ih => exact ih hMem
  | case3 seen c rest hNew ih =>
      rcases List.mem_cons.mp hMem with rfl | hLater
      · exact fun hSeen => hNew (List.contains_iff_mem.mpr hSeen)
      · exact fun hSeen => ih hLater (List.mem_cons_of_mem _ hSeen)

/- So a label that was seen is another one. -/
theorem ne_label_of_mem_firstOfLabel
    {seen : List Bytes}
    {blocks : List Block}
    {label : Bytes}
    {b : Block}
    (hSeen : label ∈ seen)
    (hMem : b ∈ firstOfLabel seen blocks) :
    label ≠ b.label := by
  rintro rfl
  exact not_mem_of_mem_firstOfLabel hMem hSeen

/- What is taken is the first block with its label. -/
theorem find?_of_mem_firstOfLabel
    {seen : List Bytes}
    {blocks : List Block}
    {b : Block}
    (hMem : b ∈ firstOfLabel seen blocks) :
    (blocks.find? fun c => c.label == b.label) = some b := by
  fun_induction firstOfLabel seen blocks with
  | case1 => cases hMem
  | case2 seen c rest hSeen ih =>
      have hOther :=
        ne_label_of_mem_firstOfLabel (List.contains_iff_mem.mp hSeen) hMem
      rw [List.find?_cons_of_neg (by simp [hOther]), ih hMem]
  | case3 seen c rest hNew ih =>
      rcases List.mem_cons.mp hMem with rfl | hLater
      · rw [List.find?_cons_of_pos (by simp)]
      · have hOther := ne_label_of_mem_firstOfLabel List.mem_cons_self hLater
        rw [List.find?_cons_of_neg (by simp [hOther]), ih hLater]

/- Every label that was not seen before is taken. -/
theorem exists_mem_firstOfLabel
    {seen : List Bytes}
    {blocks : List Block}
    {b : Block}
    (hMem : b ∈ blocks)
    (hNew : b.label ∉ seen) :
    ∃ c ∈ firstOfLabel seen blocks, c.label = b.label := by
  fun_induction firstOfLabel seen blocks with
  | case1 => cases hMem
  | case2 seen c rest hSeen ih =>
      rcases List.mem_cons.mp hMem with rfl | hLater
      · exact absurd (List.contains_iff_mem.mp hSeen) hNew
      · exact ih hLater hNew
  | case3 seen c rest _ ih =>
      by_cases hSame : c.label = b.label
      · exact ⟨c, List.mem_cons_self, hSame⟩
      · rcases List.mem_cons.mp hMem with rfl | hLater
        · exact absurd rfl hSame
        have hUnseen : b.label ∉ c.label :: seen := by
          simp [hNew, Ne.symm hSame]
        rcases ih hLater hUnseen with ⟨c', hTaken, hLabel⟩
        exact ⟨c', List.mem_cons_of_mem _ hTaken, hLabel⟩

/- A block with another label before them moves the others by one. -/
theorem idxOf_label_cons
    {b c : Block}
    (hOther : c.label ≠ b.label)
    (rest : List Block) :
    ((c :: rest).map Block.label).idxOf b.label =
      (rest.map Block.label).idxOf b.label + 1 := by
  rw [List.map_cons, List.idxOf_cons_ne _ hOther]

/- So it leaves the order of blocks with other labels as it is. -/
theorem pairwise_idxOf_cons
    {c : Block}
    {rest firsts : List Block}
    (hOther : ∀ b ∈ firsts, c.label ≠ b.label)
    (h : firsts.Pairwise fun b b' =>
      (rest.map Block.label).idxOf b.label <
        (rest.map Block.label).idxOf b'.label) :
    firsts.Pairwise fun b b' =>
      ((c :: rest).map Block.label).idxOf b.label <
        ((c :: rest).map Block.label).idxOf b'.label := by
  apply h.imp_of_mem
  intro b b' hMem hMem' hOrder
  rw [idxOf_label_cons (hOther b hMem), idxOf_label_cons (hOther b' hMem')]
  omega

/- Labels are taken in the order in which they first occur. -/
theorem pairwise_firstOfLabel
    (seen : List Bytes)
    (blocks : List Block) :
    (firstOfLabel seen blocks).Pairwise fun b c =>
      (blocks.map Block.label).idxOf b.label <
        (blocks.map Block.label).idxOf c.label := by
  fun_induction firstOfLabel seen blocks with
  | case1 => exact .nil
  | case2 seen c rest hSeen ih =>
      apply pairwise_idxOf_cons _ ih
      intro b hMem
      exact ne_label_of_mem_firstOfLabel
        (List.contains_iff_mem.mp hSeen) hMem
  | case3 seen c rest hNew ih =>
      have hOther : ∀ b ∈ firstOfLabel (c.label :: seen) rest,
          c.label ≠ b.label :=
        fun b hMem => ne_label_of_mem_firstOfLabel List.mem_cons_self hMem
      apply List.Pairwise.cons _ (pairwise_idxOf_cons hOther ih)
      intro b hMem
      rw [idxOf_label_cons (hOther b hMem), List.map_cons,
        List.idxOf_cons_self]
      omega

/- The first blocks of labels are those. -/
theorem isFirstOfEach_firstOfLabel (blocks : List Block) :
    IsFirstOfEach blocks (firstOfLabel [] blocks) := by
  constructor
  · intro b hMem
    exact find?_of_mem_firstOfLabel hMem
  · intro b hMem
    exact exists_mem_firstOfLabel hMem (by simp)
  · exact pairwise_firstOfLabel [] blocks

end Pem

end KeyAssertion
