import Mathlib.Tactic.SplitIfs
import KeyAssertion.Pem.Blocks

/-
  How a block of PEM is written and which blocks a text holds:
  those that come one after the other, with anything between
  them in which no block begins.  Among the first blocks of
  each label the search by label finds what it finds among all
  of them.

  Key definitions include:
    * `Pem.IsFirst`
    * `Pem.Block.IsWritten`
    * `Pem.Holds`

  Key theorems include:
    * `Pem.offset?_eq_some_iff`
    * `Pem.blockAt?_eq_some_iff`
    * `Pem.allBlocks_eq_iff`
    * `Pem.Holds.find?_firstBlocks`
-/

namespace KeyAssertion

namespace Pem

------------------------------------------------------------
-- Markers
------------------------------------------------------------

/- Whether a marker stands between two parts and nowhere before. -/
structure IsFirst (marker bytes front back : Bytes) : Prop where
  split : bytes = front ++ (marker ++ back)
  first : ∀ front' back', bytes = front' ++ (marker ++ back') →
    front.length ≤ front'.length

/- A marker at the beginning is the first one. -/
theorem isFirst_nil_iff
    (marker bytes back : Bytes) :
    IsFirst marker bytes [] back ↔ bytes = marker ++ back := by
  constructor
  · intro h
    exact h.split
  · intro hSplit
    exact ⟨hSplit, fun _ _ _ => Nat.zero_le _⟩

/- A marker that is not at the beginning is looked for after a byte. -/
theorem isFirst_cons_iff
    {marker : Bytes}
    {b : UInt8}
    {rest : Bytes}
    (hPrefix : ¬ marker <+: b :: rest)
    (front back : Bytes) :
    IsFirst marker (b :: rest) front back ↔
      ∃ front', front = b :: front' ∧ IsFirst marker rest front' back := by
  -- Where the marker stands in `b :: rest`, it stands after `b`.
  have hCons : ∀ f a, b :: rest = f ++ (marker ++ a) →
      ∃ f', f = b :: f' ∧ rest = f' ++ (marker ++ a) := by
    intro f a hSplit
    cases f with
    | nil => exact absurd ⟨a, hSplit.symm⟩ hPrefix
    | cons x f' =>
        cases hSplit
        exact ⟨f', rfl, rfl⟩
  constructor
  · intro h
    rcases hCons front back h.split with ⟨front', rfl, hRest⟩
    refine ⟨front', rfl, hRest, ?_⟩
    intro f a hOther
    have hLength := h.first (b :: f) a (by rw [hOther, List.cons_append])
    exact Nat.le_of_succ_le_succ hLength
  · rintro ⟨front', rfl, h⟩
    refine ⟨by rw [h.split, List.cons_append], ?_⟩
    intro f a hOther
    rcases hCons f a hOther with ⟨f', rfl, hRest⟩
    exact Nat.succ_le_succ (h.first f' a hRest)

/- The count starts from the bytes that were passed. -/
theorem offsetFrom?_eq_some_iff
    (marker : Bytes)
    (passed : Nat)
    (bytes : Bytes)
    (n : Nat) :
    offsetFrom? marker passed bytes = some n ↔
      ∃ front back, IsFirst marker bytes front back ∧
        n = passed + front.length := by
  induction bytes generalizing passed with
  | nil =>
      constructor
      · intro h
        unfold offsetFrom? at h
        split_ifs at h with hEmpty
        rw [List.isEmpty_iff.mp hEmpty]
        cases h
        exact ⟨[], [], (isFirst_nil_iff _ _ _).mpr rfl, rfl⟩
      · rintro ⟨front, back, hFirst, rfl⟩
        have hNil := hFirst.split
        simp only [List.nil_eq, List.append_eq_nil_iff] at hNil
        rw [hNil.1, hNil.2.1]
        rfl
  | cons b rest ih =>
      unfold offsetFrom?
      split_ifs with hStart
      · rcases List.isPrefixOf_iff_prefix.mp hStart with ⟨after, hAfter⟩
        constructor
        · intro h
          cases h
          exact ⟨[], after, (isFirst_nil_iff _ _ _).mpr hAfter.symm, rfl⟩
        · rintro ⟨front, back, hFirst, rfl⟩
          have hLength := hFirst.first [] after hAfter.symm
          rw [List.eq_nil_of_length_eq_zero (Nat.le_zero.mp hLength)]
          rfl
      · rw [List.isPrefixOf_iff_prefix] at hStart
        rw [ih]
        constructor
        · rintro ⟨front, back, hFirst, rfl⟩
          refine ⟨b :: front, back, ?_, ?_⟩
          · exact (isFirst_cons_iff hStart _ _).mpr ⟨front, rfl, hFirst⟩
          · rw [List.length_cons]
            omega
        · rintro ⟨front, back, hFirst, rfl⟩
          rcases (isFirst_cons_iff hStart _ _).mp hFirst with
            ⟨front', rfl, hRest⟩
          refine ⟨front', back, hRest, ?_⟩
          rw [List.length_cons]
          omega

/- The place of a marker is that of the first one. -/
theorem offset?_eq_some_iff
    (marker bytes : Bytes)
    (n : Nat) :
    offset? marker bytes = some n ↔
      ∃ front back, IsFirst marker bytes front back ∧
        n = front.length := by
  unfold offset?
  simp only [offsetFrom?_eq_some_iff, Nat.zero_add]

------------------------------------------------------------
-- Blocks
------------------------------------------------------------

/- The line that closes a block has bytes. -/
theorem closingLine_ne_nil (label : Bytes) :
    closingLine label ≠ [] := by
  unfold closingLine
  exact List.append_ne_nil_of_right_ne_nil _ (by decide)

/-
  How a block is written around its body: after the first byte
  of the body the line that closes the block comes only at the
  end.
-/
structure Block.IsWritten (b : Block) (body : Bytes) : Prop where
  text : b.text =
    opening ++ (b.label ++ (dashes ++ (body ++ closingLine b.label)))
  named : b.label ≠ []
  label : ∀ x ∈ b.label, isLabelByte x = true
  filled : body ≠ []
  closed : ∀ front back,
    body ++ closingLine b.label =
        front ++ (closingLine b.label ++ back) →
      front ≠ [] → back = []

/- What is written begins with the opening of a block. -/
theorem Block.IsWritten.text_ne_nil
    {b : Block}
    {body : Bytes}
    (h : b.IsWritten body) :
    b.text ≠ [] := by
  rw [h.text]
  exact List.append_ne_nil_of_left_ne_nil (by decide) _

/- A label ends where the dashes begin. -/
theorem takeWhile_label
    {label : Bytes}
    (hLabel : ∀ x ∈ label, isLabelByte x = true)
    (rest : Bytes) :
    (label ++ (dashes ++ rest)).takeWhile isLabelByte = label := by
  have hDashes : (dashes ++ rest).takeWhile isLabelByte = [] := rfl
  rw [List.takeWhile_append_of_pos hLabel, hDashes, List.append_nil]

/-
  A body that is closed at its end is followed by the first
  closing line after its first byte, whatever comes after it.
-/
theorem Block.IsWritten.isFirst
    {b : Block}
    {x : UInt8}
    {body : Bytes}
    (h : b.IsWritten (x :: body))
    (rest : Bytes) :
    IsFirst (closingLine b.label)
      (body ++ (closingLine b.label ++ rest)) body rest := by
  refine ⟨rfl, ?_⟩
  intro front back hSplit
  apply Nat.le_of_not_lt
  intro hShort
  -- A closing line before the end of the body lies in it and its own
  -- closing line, so that the bytes after it are none.
  have hInside :
      front ++ (closingLine b.label ++ back) =
        body ++ closingLine b.label ++ rest := by
    rw [List.append_assoc]
    exact hSplit.symm
  rcases List.append_eq_append_iff.mp
      ((List.append_assoc _ _ _).trans hInside) with
    ⟨between, hBody, _⟩ | ⟨between, hFront, _⟩
  · have hEnd := h.closed (x :: front) between
      (by simp only [List.cons_append, hBody, List.append_assoc])
      (List.cons_ne_nil _ _)
    rw [hEnd, List.append_nil] at hBody
    have hLength := congrArg List.length hBody
    simp only [List.length_append] at hLength
    omega
  · have hLength := congrArg List.length hFront
    simp only [List.length_append] at hLength
    omega

/- A block that begins with bytes has its opening line there. -/
theorem opening_of_blockAt?
    {bytes : Bytes}
    {b : Block}
    (h : blockAt? bytes = some b) :
    ∃ label after, bytes = opening ++ (label ++ (dashes ++ after)) ∧
      label ≠ [] ∧ ∀ x ∈ label, isLabelByte x = true := by
  simp only [blockAt?] at h
  split_ifs at h with hOpening hLabel
  rcases List.isPrefixOf_iff_prefix.mp hOpening with ⟨rest, rfl⟩
  rw [List.drop_left] at hLabel
  simp only [Bool.or_eq_true, not_or, Bool.not_eq_true,
    Bool.not_eq_false', List.isEmpty_eq_false_iff] at hLabel
  rcases hLabel with ⟨hNamed, hDashes⟩
  rcases List.isPrefixOf_iff_prefix.mp hDashes with ⟨after, hAfter⟩
  refine ⟨rest.takeWhile isLabelByte, after, ?_, hNamed, ?_⟩
  · rw [hAfter, List.prefix_iff_eq_append.mp (List.takeWhile_prefix _)]
  · intro x hx
    exact List.all_eq_true.mp List.all_takeWhile x hx

/- After an opening line the body is taken up to the first closing line. -/
theorem blockAt?_opening
    {label : Bytes}
    (hNamed : label ≠ [])
    (hLabel : ∀ x ∈ label, isLabelByte x = true)
    (after : Bytes) :
    blockAt? (opening ++ (label ++ (dashes ++ after))) =
      (offset? (closingLine label) (after.drop 1)).map fun n =>
        ⟨label, (opening ++ (label ++ (dashes ++ after))).take
          (opening.length + label.length + dashes.length + (n + 1)
            + (closingLine label).length)⟩ := by
  have hPrefix (marker rest : Bytes) :
      marker.isPrefixOf (marker ++ rest) = true :=
    List.isPrefixOf_iff_prefix.mpr (List.prefix_append _ _)
  simp only [blockAt?, hPrefix, if_true, List.drop_left,
    takeWhile_label hLabel, List.isEmpty_eq_false_iff.mpr hNamed,
    Bool.false_or, Bool.not_true, Bool.false_eq_true, if_false]
  cases offset? (closingLine label) (after.drop 1) with
  | none => rfl
  | some n => rfl

/- The bytes of a block are as many as its parts have. -/
theorem take_opening
    (label body closed rest : Bytes)
    (x : UInt8) :
    (opening ++ (label ++ (dashes ++ (x :: (body ++ (closed ++ rest)))))).take
        (opening.length + label.length + dashes.length + (body.length + 1)
          + closed.length) =
      opening ++ (label ++ (dashes ++ (x :: body ++ closed))) := by
  have hSplit :
      opening ++ (label ++ (dashes ++ (x :: (body ++ (closed ++ rest))))) =
        opening ++ (label ++ (dashes ++ (x :: body ++ closed))) ++ rest := by
    simp
  rw [hSplit]
  apply List.take_left'
  simp only [List.length_append, List.length_cons]
  omega

/- The text up to the first closing line after a byte is a block. -/
theorem isWritten_of_isFirst
    {label body back : Bytes}
    (hNamed : label ≠ [])
    (hLabel : ∀ x ∈ label, isLabelByte x = true)
    (hFirst : IsFirst (closingLine label)
      (body ++ (closingLine label ++ back)) body back)
    (x : UInt8) :
    Block.IsWritten
      ⟨label, opening ++ (label ++ (dashes ++ (x :: body
        ++ closingLine label)))⟩
      (x :: body) := by
  refine ⟨rfl, hNamed, hLabel, List.cons_ne_nil _ _, ?_⟩
  intro front after hSplit hSome
  cases front with
  | nil => exact absurd rfl hSome
  | cons y front =>
      have hRest :
          body ++ closingLine label =
            front ++ (closingLine label ++ after) :=
        (List.cons.inj hSplit).2
      have hLess := hFirst.first front (after ++ back) (by
        rw [← List.append_assoc, hRest]
        simp only [List.append_assoc])
      have hLength := congrArg List.length hRest
      simp only [List.length_append] at hLength
      exact List.eq_nil_of_length_eq_zero (by omega)

/-
  The block at the beginning of bytes is one that is written
  there, whatever comes after it.
-/
theorem blockAt?_eq_some_iff
    (bytes : Bytes)
    (b : Block) :
    blockAt? bytes = some b ↔
      ∃ body rest, b.IsWritten body ∧ bytes = b.text ++ rest := by
  constructor
  · intro h
    rcases opening_of_blockAt? h with ⟨label, after, rfl, hNamed, hLabel⟩
    rw [blockAt?_opening hNamed hLabel] at h
    rcases Option.map_eq_some_iff.mp h with ⟨n, hOffset, rfl⟩
    rcases (offset?_eq_some_iff _ _ _).mp hOffset with
      ⟨front, back, hFirst, rfl⟩
    cases after with
    | nil =>
        have hSplit := hFirst.split
        simp [closingLine_ne_nil] at hSplit
    | cons x after =>
        rw [List.drop_one, List.tail_cons] at hFirst
        cases hFirst.split
        rw [take_opening]
        exact ⟨x :: front, back,
          isWritten_of_isFirst hNamed hLabel hFirst x, by simp⟩
  · rintro ⟨body, rest, hWritten, rfl⟩
    cases body with
    | nil => exact absurd rfl hWritten.filled
    | cons x body =>
        have hOffset :
            offset? (closingLine b.label)
                (body ++ (closingLine b.label ++ rest)) =
              some body.length :=
          (offset?_eq_some_iff _ _ _).mpr
            ⟨body, rest, hWritten.isFirst rest, rfl⟩
        have hText :
            b.text ++ rest =
              opening ++ (b.label ++ (dashes ++
                (x :: (body ++ (closingLine b.label ++ rest))))) := by
          rw [hWritten.text]
          simp
        rw [hText, blockAt?_opening hWritten.named hWritten.label,
          List.drop_one, List.tail_cons, hOffset, Option.map_some,
          take_opening, ← hWritten.text]

------------------------------------------------------------
-- Texts
------------------------------------------------------------

/-
  Which blocks a text holds.  It is read from its beginning: a
  byte at which no block begins is skipped, a block is taken.
-/
inductive Holds : Bytes → List Block → Prop
  | nil : Holds [] []
  | skip
      (x : UInt8)
      (rest : Bytes)
      (blocks : List Block)
      (hNone : blockAt? (x :: rest) = none)
      (hRest : Holds rest blocks) :
      Holds (x :: rest) blocks
  | take
      (b : Block)
      (body rest : Bytes)
      (blocks : List Block)
      (hWritten : b.IsWritten body)
      (hRest : Holds rest blocks) :
      Holds (b.text ++ rest) (b :: blocks)

/- The rest of a block that was taken is skipped. -/
theorem blocksFrom_append
    (done : List Block)
    (front rest : Bytes) :
    blocksFrom front.length done (front ++ rest) =
      blocksFrom 0 done rest := by
  induction front with
  | nil => rfl
  | cons x front ih =>
      rw [List.cons_append, List.length_cons, blocksFrom]
      exact ih

/- A block at the beginning is taken. -/
theorem blocksFrom_text
    {b : Block}
    {body : Bytes}
    (hWritten : b.IsWritten body)
    (done : List Block)
    (rest : Bytes) :
    blocksFrom 0 done (b.text ++ rest) =
      blocksFrom 0 (b :: done) rest := by
  have hBlock := (blockAt?_eq_some_iff _ _).mpr
    ⟨body, rest, hWritten, rfl⟩
  cases hText : b.text with
  | nil => exact absurd hText hWritten.text_ne_nil
  | cons x text =>
      rw [hText] at hBlock
      rw [List.cons_append] at hBlock ⊢
      simp only [blocksFrom, hBlock, hText, List.length_cons,
        Nat.add_sub_cancel]
      exact blocksFrom_append _ _ _

/- The blocks that a text holds are found in their order. -/
theorem Holds.blocksFrom_eq
    {bytes : Bytes}
    {blocks : List Block}
    (h : Holds bytes blocks)
    (done : List Block) :
    blocksFrom 0 done bytes = done.reverse ++ blocks := by
  induction h generalizing done with
  | nil => simp [blocksFrom]
  | skip x rest blocks hNone _ ih =>
      simp only [blocksFrom, hNone]
      exact ih done
  | take b body rest blocks hWritten _ ih =>
      rw [blocksFrom_text hWritten, ih, List.reverse_cons,
        List.append_assoc, List.singleton_append]

/- Every text holds some blocks. -/
theorem exists_holds (bytes : Bytes) :
    ∃ blocks, Holds bytes blocks := by
  -- By induction over the length: a block takes at least one byte.
  induction hLength : bytes.length using Nat.strongRecOn
    generalizing bytes with
  | ind length ih =>
      cases bytes with
      | nil => exact ⟨[], .nil⟩
      | cons x rest =>
          cases hBlock : blockAt? (x :: rest) with
          | none =>
              rcases ih rest.length (by rw [← hLength]; simp) rest rfl with
                ⟨blocks, hRest⟩
              exact ⟨blocks, .skip x rest blocks hBlock hRest⟩
          | some b =>
              rcases (blockAt?_eq_some_iff _ _).mp hBlock with
                ⟨body, after, hWritten, hText⟩
              have hSome := List.length_pos_iff.mpr hWritten.text_ne_nil
              have hShorter : after.length < length := by
                rw [← hLength, hText, List.length_append]
                omega
              rcases ih after.length hShorter after rfl with
                ⟨blocks, hRest⟩
              rw [hText]
              exact ⟨b :: blocks, .take b body after blocks hWritten hRest⟩

/- The blocks of a text are those it holds. -/
theorem allBlocks_eq_iff
    (bytes : Bytes)
    (blocks : List Block) :
    allBlocks bytes = blocks ↔ Holds bytes blocks := by
  have hFound {blocks : List Block} (h : Holds bytes blocks) :
      allBlocks bytes = blocks := by
    rw [allBlocks, h.blocksFrom_eq, List.reverse_nil, List.nil_append]
  constructor
  · rintro rfl
    rcases exists_holds bytes with ⟨blocks, h⟩
    rw [hFound h]
    exact h
  · exact hFound

/- Each block that a text holds is written in one way. -/
theorem Holds.isWritten
    {bytes : Bytes}
    {blocks : List Block}
    {b : Block}
    (h : Holds bytes blocks)
    (hMem : b ∈ blocks) :
    ∃ body, b.IsWritten body := by
  induction h with
  | nil => cases hMem
  | skip _ _ _ _ _ ih => exact ih hMem
  | take b' body _ _ hWritten _ ih =>
      rcases List.mem_cons.mp hMem with rfl | hLater
      · exact ⟨body, hWritten⟩
      · exact ih hLater

/- Where no hyphen is, no block begins. -/
theorem Holds.gap
    {gap rest : Bytes}
    {blocks : List Block}
    (hGap : ∀ x ∈ gap, x ≠ 45)
    (h : Holds rest blocks) :
    Holds (gap ++ rest) blocks := by
  induction gap with
  | nil => exact h
  | cons x gap ih =>
      rcases List.forall_mem_cons.mp hGap with ⟨hFirst, hLater⟩
      apply Holds.skip x (gap ++ rest) blocks _ (ih hLater)
      cases hBlock : blockAt? (x :: (gap ++ rest)) with
      | none => rfl
      | some b =>
          rcases opening_of_blockAt? hBlock with ⟨label, after, hSplit, -⟩
          exact absurd (List.cons.inj hSplit).1 hFirst

/- Whatever is a block by itself is one in a text. -/
theorem Holds.take_of_blockAt?
    {b : Block}
    {rest : Bytes}
    {blocks : List Block}
    (hBlock : blockAt? b.text = some b)
    (h : Holds rest blocks) :
    Holds (b.text ++ rest) (b :: blocks) := by
  rcases (blockAt?_eq_some_iff _ _).mp hBlock with ⟨body, _, hWritten, _⟩
  exact .take b body rest blocks hWritten h

------------------------------------------------------------
-- Labels
------------------------------------------------------------

/-
  What only asks for the label finds among the first blocks of
  each label what it finds among all.
-/
theorem find?_firstOfLabel
    (p : Bytes → Bool)
    {seen : List Bytes}
    (hSeen : ∀ label ∈ seen, p label = false)
    (blocks : List Block) :
    (firstOfLabel seen blocks).find? (fun b => p b.label) =
      blocks.find? fun b => p b.label := by
  induction blocks generalizing seen with
  | nil => rfl
  | cons b rest ih =>
      unfold firstOfLabel
      split_ifs with hKnown
      · have hOther := hSeen b.label (List.contains_iff_mem.mp hKnown)
        simp only [ih hSeen, List.find?_cons, hOther]
      · cases hLabel : p b.label with
        | true => simp only [List.find?_cons, hLabel]
        | false =>
            have hLater : ∀ label ∈ b.label :: seen, p label = false :=
              List.forall_mem_cons.mpr ⟨hLabel, hSeen⟩
            simp only [List.find?_cons, hLabel, ih hLater]

/- The first block with a label is the first one of all. -/
theorem Holds.find?_firstBlocks
    {bytes : Bytes}
    {blocks : List Block}
    (h : Holds bytes blocks)
    (p : Bytes → Bool) :
    (firstBlocks bytes).find? (fun b => p b.label) =
      blocks.find? fun b => p b.label := by
  rw [firstBlocks, (allBlocks_eq_iff _ _).mpr h]
  exact find?_firstOfLabel p (fun _ hNone => absurd hNone (by simp)) blocks

/- The first blocks of labels have the certificate of all blocks. -/
theorem Holds.certificateBlock?_eq
    {bytes : Bytes}
    {blocks : List Block}
    (h : Holds bytes blocks) :
    certificateBlock? (firstBlocks bytes) = certificateBlock? blocks := by
  unfold certificateBlock?
  rw [h.find?_firstBlocks (· == certificateLabel)]

/- They have their private key. -/
theorem Holds.keyBlock?_eq
    {bytes : Bytes}
    {blocks : List Block}
    (h : Holds bytes blocks) :
    keyBlock? (firstBlocks bytes) = keyBlock? blocks := by
  unfold keyBlock?
  rw [h.find?_firstBlocks keyLabelEnding.isSuffixOf]

end Pem

end KeyAssertion
