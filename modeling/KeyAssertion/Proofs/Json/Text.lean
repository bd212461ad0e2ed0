import Mathlib.Data.List.TakeDrop
import Mathlib.Tactic.SplitIfs
import KeyAssertion.Json.Token
import KeyAssertion.Json.Writer

/-
  Strings and whole numbers as JSON texts have them: what was
  written is the next token that is read.

  Key theorems include:
    * `JsonString.ofPoints_points`
    * `JsonString.points_ofPoints`
    * `Json.hexFour?_hexDigits`
    * `Json.scanString_writePoint`
    * `Json.scanString_points`
    * `Json.nextToken_writeString`
    * `Json.nextToken_signedDecimal`
-/

namespace KeyAssertion

------------------------------------------------------------
-- Code Points
------------------------------------------------------------

namespace JsonString

/- The code point of a character is no surrogate. -/
theorem isScalar_toNat (x : Char) :
    isScalar x.toNat = true := by
  have hValid : x.toNat < 0xd800 ∨ 0xdfff < x.toNat ∧ x.toNat < 0x110000 :=
    x.valid
  simpa [isScalar] using hValid

/- A code point that is no surrogate is the first of no pair. -/
theorem isHighSurrogate_of_isScalar
    {p : Nat}
    (h : isScalar p = true) :
    isHighSurrogate p = false := by
  simp only [isScalar, Bool.or_eq_true, Bool.and_eq_true,
    decide_eq_true_eq] at h
  simp only [isHighSurrogate, Bool.and_eq_false_iff,
    decide_eq_false_iff_not]
  omega

/- One above the surrogates is none of a pair. -/
theorem not_surrogate_of_le
    {p : Nat}
    (h : 0x10000 ≤ p) :
    isHighSurrogate p = false ∧ isLowSurrogate p = false := by
  simp only [isHighSurrogate, isLowSurrogate, Bool.and_eq_false_iff,
    decide_eq_false_iff_not]
  omega

/- A pair is joined to a code point above the surrogates. -/
theorem le_joinSurrogates (high low : Nat) :
    0x10000 ≤ joinSurrogates high low :=
  Nat.le_trans (Nat.le_add_right _ _) (Nat.le_add_right _ _)

/- No pair begins at the first of joined code points. -/
theorem isJoined_cons_iff (p : Nat) (ps : List Nat) :
    isJoined (p :: ps) = true ↔
      (∀ q, ps.head? = some q → isHighSurrogate p = true →
        isLowSurrogate q = false) ∧
        isJoined ps = true := by
  cases ps with
  | nil => simp [isJoined]
  | cons q rest =>
      cases hHigh : isHighSurrogate p <;> simp [isJoined, hHigh]

/- Without surrogates there are no pairs. -/
theorem isJoined_of_scalars
    {ps : List Nat}
    (h : ∀ p ∈ ps, isScalar p = true) :
    isJoined ps = true := by
  induction ps with
  | nil => rfl
  | cons p rest ih =>
      rw [isJoined_cons_iff]
      refine ⟨?_, ih fun q hMem => h q (List.mem_cons_of_mem p hMem)⟩
      intro q _ hHigh
      rw [isHighSurrogate_of_isScalar (h p List.mem_cons_self)] at hHigh
      cases hHigh

/- The first of a pair is one unit and not the second of another. -/
theorem of_isHighSurrogate
    {u : Nat}
    (h : isHighSurrogate u = true) :
    u < 0x10000 ∧ isLowSurrogate u = false := by
  simp only [isHighSurrogate, Bool.and_eq_true, decide_eq_true_eq] at h
  simp only [isLowSurrogate, Bool.and_eq_false_iff,
    decide_eq_false_iff_not]
  omega

/- Code points without pairs are left as they are. -/
theorem joinPairs_of_isJoined
    {ps : List Nat}
    (h : isJoined ps = true) :
    joinPairs ps = ps := by
  fun_induction joinPairs ps with
  | case1 high low rest hPair ih =>
      rw [isJoined, hPair] at h
      cases h
  | case2 high low rest hPair ih =>
      rw [ih ((isJoined_cons_iff _ _).mp h).2]
  | case3 points hShort => rfl

/- What pairs are joined to begins like before or above them. -/
theorem head?_joinPairs_cons
    {p q : Nat}
    {ps : List Nat}
    (h : (joinPairs (p :: ps)).head? = some q) :
    q = p ∨ 0x10000 ≤ q := by
  cases ps with
  | nil =>
      left
      simpa [joinPairs] using h.symm
  | cons r rest =>
      rw [joinPairs] at h
      split at h
      · right
        rw [← Option.some.inj h]
        exact le_joinSurrogates p r
      · left
        exact (Option.some.inj h).symm

/- No pairs are left. -/
theorem isJoined_joinPairs (ps : List Nat) :
    isJoined (joinPairs ps) = true := by
  fun_induction joinPairs ps with
  | case1 high low rest hPair ih =>
      rw [isJoined_cons_iff]
      refine ⟨?_, ih⟩
      intro q _ hHigh
      rw [(not_surrogate_of_le (le_joinSurrogates high low)).1] at hHigh
      cases hHigh
  | case2 high low rest hPair ih =>
      rw [isJoined_cons_iff]
      refine ⟨?_, ih⟩
      intro q hHead hHigh
      rcases head?_joinPairs_cons hHead with rfl | hAbove
      · simpa [hHigh] using hPair
      · exact (not_surrogate_of_le hAbove).2
  | case3 points hShort =>
      cases points with
      | nil => rfl
      | cons p rest =>
          cases rest with
          | nil => rfl
          | cons q rest => exact absurd rfl (hShort p q rest)

/- The code points stay those of Unicode. -/
theorem lt_of_mem_joinPairs
    {ps : List Nat}
    (h : ∀ p ∈ ps, p < 0x110000) :
    ∀ p ∈ joinPairs ps, p < 0x110000 := by
  fun_induction joinPairs ps with
  | case1 high low rest hPair ih =>
      have hRest : ∀ p ∈ rest, p < 0x110000 :=
        fun p hMem => h p (by simp [hMem])
      simp only [isHighSurrogate, isLowSurrogate, Bool.and_eq_true,
        decide_eq_true_eq] at hPair
      have hJoin : joinSurrogates high low < 0x110000 := by
        unfold joinSurrogates
        omega
      simpa [hJoin] using ih hRest
  | case2 high low rest hPair ih =>
      have hHigh : high < 0x110000 := h high (by simp)
      have hRest : ∀ p ∈ low :: rest, p < 0x110000 :=
        fun p hMem => h p (List.mem_cons_of_mem high hMem)
      simpa [hHigh] using ih hRest
  | case3 points hShort => exact h

/- Characters have the code points that they were made of. -/
theorem toNat_ofNat_of_isScalar
    {p : Nat}
    (h : isScalar p = true) :
    (Char.ofNat p).toNat = p := by
  have hValid : p.isValidChar := by
    simpa [isScalar] using h
  rw [Char.ofNat, dif_pos hValid]
  rfl

/- The code points of a string are those of Unicode, without pairs. -/
theorem isJoined_points (s : JsonString) :
    (∀ p ∈ s.points, p < 0x110000) ∧ isJoined s.points = true := by
  cases s with
  | text t =>
      have hScalars : ∀ p ∈ (text t).points, isScalar p = true := by
        intro p hMem
        rcases List.mem_map.mp hMem with ⟨x, -, rfl⟩
        exact isScalar_toNat x
      refine ⟨?_, isJoined_of_scalars hScalars⟩
      intro p hMem
      have hScalar := hScalars p hMem
      simp only [isScalar, Bool.or_eq_true, Bool.and_eq_true,
        decide_eq_true_eq] at hScalar
      omega
  | broken ps hBroken =>
      simp only [isBroken, Bool.and_eq_true, List.all_eq_true,
        decide_eq_true_eq] at hBroken
      exact ⟨hBroken.1.1, hBroken.2⟩

/- A string of code points without surrogates is well-formed. -/
theorem ofPoints_of_not_isBroken
    {ps : List Nat}
    (h : ¬ isBroken (joinPairs ps) = true) :
    ofPoints ps = .text (String.ofList ((joinPairs ps).map Char.ofNat)) :=
  dif_neg h

/- A string with surrogates that stand alone is not. -/
theorem ofPoints_of_isBroken
    {ps : List Nat}
    (h : isBroken (joinPairs ps) = true) :
    ofPoints ps = .broken (joinPairs ps) h :=
  dif_pos h

/- The code points of a string are those of no other. -/
theorem ofPoints_points (s : JsonString) :
    ofPoints s.points = s := by
  have hSame := joinPairs_of_isJoined s.isJoined_points.2
  cases s with
  | text t =>
      have hScalars : (text t).points.all isScalar = true := by
        simp [points, isScalar_toNat]
      have hWhole : ¬ isBroken (joinPairs (text t).points) = true := by
        simp [hSame, isBroken, hScalars]
      rw [ofPoints_of_not_isBroken hWhole, hSame]
      simp [points, Function.comp_def, Char.ofNat_toNat]
  | broken ps hBroken =>
      have hOwn : joinPairs ps = ps := hSame
      have hAlone : isBroken (joinPairs ps) = true := by
        rw [hOwn, hBroken]
      simp only [points, ofPoints_of_isBroken hAlone, hOwn]

/- A string has the code points that it was made of, pairs joined. -/
theorem points_ofPoints
    {ps : List Nat}
    (h : ∀ p ∈ ps, p < 0x110000) :
    (ofPoints ps).points = joinPairs ps := by
  by_cases hBroken : isBroken (joinPairs ps) = true
  · rw [ofPoints_of_isBroken hBroken, points]
  · have hBound : (joinPairs ps).all (· < 0x110000) = true := by
      simpa using lt_of_mem_joinPairs h
    have hScalars : ∀ p ∈ joinPairs ps, isScalar p = true := by
      rw [isBroken, hBound, isJoined_joinPairs] at hBroken
      simpa using hBroken
    rw [ofPoints_of_not_isBroken hBroken, points, String.toList_ofList,
      List.map_map]
    calc (joinPairs ps).map (Char.toNat ∘ Char.ofNat)
        = (joinPairs ps).map id :=
          List.map_congr_left fun p hMem =>
            toNat_ofNat_of_isScalar (hScalars p hMem)
      _ = joinPairs ps := List.map_id _

end JsonString

------------------------------------------------------------
-- Escapes
------------------------------------------------------------

/- A hexadecimal digit has the value that was written. -/
theorem Text.hexValue?_lowerHexDigit
    {n : Nat}
    (h : n < 16) :
    hexValue? (lowerHexDigit n) = some n := by
  have hAll : ∀ n : Fin 16, hexValue? (lowerHexDigit n) = some n.val := by
    decide
  exact hAll ⟨n, h⟩

namespace Json

open JsonString (isHighSurrogate isLowSurrogate joinSurrogates isJoined)

/- The four digits of a code unit. -/
theorem hexDigits_four (u : Nat) :
    Text.hexDigits 4 u =
      [Text.lowerHexDigit (u / 4096 % 16), Text.lowerHexDigit (u / 256 % 16),
        Text.lowerHexDigit (u / 16 % 16), Text.lowerHexDigit (u % 16)] := by
  have hOne : u / Nat.pow 16 0 % 16 = u % 16 := by
    simp
  unfold Text.hexDigits Text.hexDigits Text.hexDigits Text.hexDigits
  rw [hOne]
  rfl

/- Four digits have the value of the code unit that was written. -/
theorem hexFour?_hexDigits
    {u : Nat}
    (h : u < 65536) :
    hexFour? (Text.lowerHexDigit (u / 4096 % 16))
        (Text.lowerHexDigit (u / 256 % 16))
        (Text.lowerHexDigit (u / 16 % 16))
        (Text.lowerHexDigit (u % 16)) = some u := by
  have hMod (n : Nat) : n % 16 < 16 :=
    Nat.mod_lt n (by decide)
  have hValue :
      ((u / 4096 % 16 * 16 + u / 256 % 16) * 16 + u / 16 % 16) * 16 +
        u % 16 = u := by
    omega
  simp only [hexFour?, Text.hexValue?_lowerHexDigit (hMod _),
    Option.bind_eq_bind, Option.bind_some, hValue]
  rfl

/-
  The escape of a code unit that begins no surrogate pair is
  read, if a character follows.
-/
theorem unicodeEscape_unit
    {u : Nat}
    (h : u < 0x10000)
    (hHigh : isHighSurrogate u = false)
    (c : Char)
    (rest : List Char) :
    unicodeEscape (Text.hexDigits 4 u ++ c :: rest) = .point u 4 := by
  rw [hexDigits_four]
  simp only [List.cons_append, List.nil_append, unicodeEscape,
    hexFour?_hexDigits h, hHigh, Bool.false_eq_true, if_false]

/- The escapes of a surrogate pair are read as one code point. -/
theorem unicodeEscape_pair
    {high low : Nat}
    (hHigh : isHighSurrogate high = true)
    (hLow : isLowSurrogate low = true)
    (c : Char)
    (rest : List Char) :
    unicodeEscape
        (Text.hexDigits 4 high ++
          '\\' :: 'u' :: (Text.hexDigits 4 low ++ c :: rest)) =
      .point (joinSurrogates high low) 10 := by
  have hFirst := (JsonString.of_isHighSurrogate hHigh).1
  have hSecond : low < 65536 := by
    simp only [isLowSurrogate, Bool.and_eq_true, decide_eq_true_eq] at hLow
    omega
  rw [hexDigits_four, hexDigits_four]
  simp only [List.cons_append, List.nil_append, unicodeEscape,
    hexFour?_hexDigits hFirst, hexFour?_hexDigits hSecond, hHigh, hLow,
    if_true]

------------------------------------------------------------
-- Strings
------------------------------------------------------------

/- Characters that belong to an escape are passed over. -/
theorem scanString_skip
    (escape rest : List Char)
    (done : List Nat) :
    scanString escape.length done (escape ++ rest) =
      scanString 0 done rest := by
  induction escape with
  | nil => rfl
  | cons c escape ih => exact ih

/- A simple escape is read as what it stands for. -/
theorem scanString_simple
    {x : Char}
    {p : Nat}
    (h : simpleEscape? x = some p)
    (done : List Nat)
    (rest : List Char) :
    scanString 0 done ('\\' :: x :: rest) =
      scanString 0 (p :: done) rest := by
  have hUnicode : x ≠ 'u' := by
    rintro rfl
    simp [simpleEscape?] at h
  rw [scanString]
  · simp only [h, if_neg (show '\\' ≠ '"' by decide), if_true]
    exact scanString_skip [x] rest (p :: done)
  · exact hUnicode

/- The escape of a code point is read as the code point. -/
theorem scanString_unicode
    {escape rest : List Char}
    {p : Nat}
    (h : unicodeEscape (escape ++ rest) = .point p escape.length)
    (done : List Nat) :
    scanString 0 done ('\\' :: 'u' :: (escape ++ rest)) =
      scanString 0 (p :: done) rest := by
  rw [scanString, if_neg (by decide), if_pos rfl]
  simp only [h]
  exact scanString_skip ('u' :: escape) rest (p :: done)

/- A character that is no quote, backslash or control is itself. -/
theorem scanString_plain
    {c : Char}
    (hQuote : c ≠ '"')
    (hEscape : c ≠ '\\')
    (hControl : ¬ c.toNat ≤ 0x1f)
    (done : List Nat)
    (rest : List Char) :
    scanString 0 done (c :: rest) =
      scanString 0 (c.toNat :: done) rest := by
  rw [scanString.eq_def]
  simp only [if_neg hQuote, if_neg hEscape, if_neg hControl]

/-
  A code point is written as a simple escape, as itself, or as
  one or two code units.
-/
theorem writePoint_cases (p : Nat) :
    (∃ e, simpleEscape? e = some p ∧ writePoint p = ['\\', e]) ∨
      ((0x20 ≤ p ∧ p ≤ 0x7e) ∧ p ≠ 0x22 ∧ p ≠ 0x5c ∧
        writePoint p = [Char.ofNat p]) ∨
      (p < 0x10000 ∧ writePoint p = unitEscape p) ∨
      (0x10000 ≤ p ∧
        writePoint p =
          unitEscape (0xd800 + (p - 0x10000) / 0x400) ++
            unitEscape (0xdc00 + (p - 0x10000) % 0x400)) := by
  unfold writePoint
  split_ifs with hQuote hBackslash h₁ h₂ h₃ h₄ h₅ hPlain hUnit
  · exact .inl ⟨'"', hQuote ▸ rfl, rfl⟩
  · exact .inl ⟨'\\', hBackslash ▸ rfl, rfl⟩
  · exact .inl ⟨'n', h₁ ▸ rfl, rfl⟩
  · exact .inl ⟨'r', h₂ ▸ rfl, rfl⟩
  · exact .inl ⟨'t', h₃ ▸ rfl, rfl⟩
  · exact .inl ⟨'f', h₄ ▸ rfl, rfl⟩
  · exact .inl ⟨'b', h₅ ▸ rfl, rfl⟩
  · exact .inr (.inl ⟨hPlain, hQuote, hBackslash, rfl⟩)
  · exact .inr (.inr (.inl ⟨hUnit, rfl⟩))
  · exact .inr (.inr (.inr ⟨by omega, rfl⟩))

/- The two units of a code point above the others are a pair. -/
theorem surrogates_join
    {p : Nat}
    (hLow : 0x10000 ≤ p)
    (hHigh : p < 0x110000) :
    isHighSurrogate (0xd800 + (p - 0x10000) / 0x400) = true ∧
      isLowSurrogate (0xdc00 + (p - 0x10000) % 0x400) = true ∧
      joinSurrogates (0xd800 + (p - 0x10000) / 0x400)
        (0xdc00 + (p - 0x10000) % 0x400) = p := by
  -- The distance is named, since it must never be computed.
  generalize hPlane : p - 0x10000 = w
  have hAbove : p = 0x10000 + w := by
    omega
  have hBound : w < 0x100000 := by
    omega
  refine ⟨?_, ?_, ?_⟩
  · simp only [isHighSurrogate, Bool.and_eq_true, decide_eq_true_eq]
    omega
  · simp only [isLowSurrogate, Bool.and_eq_true, decide_eq_true_eq]
    omega
  · unfold joinSurrogates
    omega

/- The escape of a high surrogate before one of no low is that alone. -/
theorem unicodeEscape_unit_unit
    {u v : Nat}
    (hHigh : isHighSurrogate u = true)
    (h : v < 0x10000)
    (hLow : isLowSurrogate v = false)
    (c : Char)
    (rest : List Char) :
    unicodeEscape (Text.hexDigits 4 u ++ (unitEscape v ++ c :: rest)) =
      .point u 4 := by
  have hFirst := (JsonString.of_isHighSurrogate hHigh).1
  rw [unitEscape, hexDigits_four, hexDigits_four]
  simp only [List.cons_append, List.nil_append, unicodeEscape,
    hexFour?_hexDigits hFirst, hexFour?_hexDigits h, hHigh, hLow,
    if_true, Bool.false_eq_true, if_false]

/- So is one before anything that is no escape of its kind. -/
theorem unicodeEscape_unit_other
    {u : Nat}
    {c : Char}
    {rest : List Char}
    (hHigh : isHighSurrogate u = true)
    (hOther : ∀ more, c :: rest ≠ '\\' :: 'u' :: more) :
    unicodeEscape (Text.hexDigits 4 u ++ c :: rest) = .point u 4 := by
  have hFirst := (JsonString.of_isHighSurrogate hHigh).1
  rw [hexDigits_four]
  simp only [List.cons_append, List.nil_append, unicodeEscape,
    hexFour?_hexDigits hFirst, hHigh, if_true]
  split
  · case _ hEscape => exact absurd hEscape (hOther _)
  · rfl

/- A printable character in ASCII has the code point it is made of. -/
theorem toNat_ofNat_of_plain
    {p : Nat}
    (h : 0x20 ≤ p ∧ p ≤ 0x7e) :
    (Char.ofNat p).toNat = p := by
  apply JsonString.toNat_ofNat_of_isScalar
  simp only [JsonString.isScalar, Bool.or_eq_true, decide_eq_true_eq]
  omega

/- What is written up to the quote has a first character. -/
theorem exists_cons_written
    (ps : List Nat)
    (rest : List Char) :
    ∃ c more, ps.flatMap writePoint ++ '"' :: rest = c :: more := by
  cases ps.flatMap writePoint with
  | nil => exact ⟨_, _, rfl⟩
  | cons c more => exact ⟨c, more ++ '"' :: rest, rfl⟩

/-
  The escape of a high surrogate is read as that alone, if
  what follows is written for code points that begin with no
  low one.
-/
theorem unicodeEscape_alone
    {u : Nat}
    {ps : List Nat}
    (hHigh : isHighSurrogate u = true)
    (hPoints : ∀ p ∈ ps, p < 0x110000)
    (hNext : ∀ p, ps.head? = some p → isLowSurrogate p = false)
    (rest : List Char) :
    unicodeEscape
        (Text.hexDigits 4 u ++ (ps.flatMap writePoint ++ '"' :: rest)) =
      .point u 4 := by
  cases ps with
  | nil => exact unicodeEscape_unit_other hHigh (by simp)
  | cons p ps =>
      rcases exists_cons_written ps rest with ⟨c, more, hMore⟩
      rw [List.flatMap_cons, List.append_assoc, hMore]
      rcases writePoint_cases p with
        ⟨e, hSimple, hWritten⟩ | ⟨hPlain, _, hBackslash, hWritten⟩ |
          ⟨hUnit, hWritten⟩ | ⟨hPair, hWritten⟩
      · rw [hWritten]
        apply unicodeEscape_unit_other hHigh
        rintro tail hTail
        cases hTail
        cases hSimple
      · rw [hWritten]
        apply unicodeEscape_unit_other hHigh
        rintro tail hTail
        have hCode := toNat_ofNat_of_plain hPlain
        rw [(List.cons.inj hTail).1] at hCode
        exact hBackslash hCode.symm
      · rw [hWritten]
        exact unicodeEscape_unit_unit hHigh hUnit (hNext p rfl) c more
      · rcases surrogates_join hPair (hPoints p List.mem_cons_self) with
          ⟨hFirst, -, -⟩
        rcases JsonString.of_isHighSurrogate hFirst with ⟨hUnit, hLow⟩
        rw [hWritten, List.append_assoc]
        exact unicodeEscape_unit_unit hHigh hUnit hLow _ _

/-
  A code point that was written is read, if what follows is
  written for others and no surrogate pair begins with it.
-/
theorem scanString_writePoint
    {p : Nat}
    {ps : List Nat}
    (hPoints : ∀ q ∈ p :: ps, q < 0x110000)
    (hJoined : isJoined (p :: ps) = true)
    (done : List Nat)
    (rest : List Char) :
    scanString 0 done
        (writePoint p ++ (ps.flatMap writePoint ++ '"' :: rest)) =
      scanString 0 (p :: done) (ps.flatMap writePoint ++ '"' :: rest) := by
  have hOthers : ∀ q ∈ ps, q < 0x110000 :=
    fun q hMem => hPoints q (List.mem_cons_of_mem p hMem)
  have hNext := ((JsonString.isJoined_cons_iff _ _).mp hJoined).1
  rcases exists_cons_written ps rest with ⟨c, more, hMore⟩
  rcases writePoint_cases p with
    ⟨e, hSimple, hWritten⟩ | ⟨hPlain, hQuote, hBackslash, hWritten⟩ |
      ⟨hUnit, hWritten⟩ | ⟨hPair, hWritten⟩
  · rw [hWritten]
    exact scanString_simple hSimple done _
  · have hCode := toNat_ofNat_of_plain hPlain
    rw [hWritten]
    have hRead := scanString_plain (c := Char.ofNat p) ?_ ?_ ?_ done
      (ps.flatMap writePoint ++ '"' :: rest)
    · rw [hCode] at hRead
      exact hRead
    · intro hChar
      rw [hChar] at hCode
      exact hQuote hCode.symm
    · intro hChar
      rw [hChar] at hCode
      exact hBackslash hCode.symm
    · omega
  · have hEscape :
        unicodeEscape
            (Text.hexDigits 4 p ++ (ps.flatMap writePoint ++ '"' :: rest)) =
          .point p 4 := by
      cases hHigh : isHighSurrogate p with
      | true =>
          exact unicodeEscape_alone hHigh hOthers
            (fun q hHead => hNext q hHead hHigh) rest
      | false =>
          rw [hMore]
          exact unicodeEscape_unit hUnit hHigh c more
    rw [hWritten]
    exact scanString_unicode hEscape done
  · rcases surrogates_join hPair (hPoints p List.mem_cons_self) with
      ⟨hHigh, hLow, hJoin⟩
    have hEscape := unicodeEscape_pair hHigh hLow c more
    rw [hJoin] at hEscape
    generalize 0xd800 + (p - 0x10000) / 0x400 = high at hWritten hEscape
    generalize 0xdc00 + (p - 0x10000) % 0x400 = low at hWritten hEscape
    rw [hWritten, hMore]
    have hTaken :
        unicodeEscape
            ((Text.hexDigits 4 high ++
              '\\' :: 'u' :: Text.hexDigits 4 low) ++ c :: more) =
          .point p
            (Text.hexDigits 4 high ++
              '\\' :: 'u' :: Text.hexDigits 4 low).length := by
      simpa [hexDigits_four] using hEscape
    simpa [unitEscape] using scanString_unicode hTaken done

/- The code points that were written are read to the quote. -/
theorem scanString_points
    {ps : List Nat}
    (hPoints : ∀ p ∈ ps, p < 0x110000)
    (hJoined : isJoined ps = true)
    (done : List Nat)
    (rest : List Char) :
    scanString 0 done (ps.flatMap writePoint ++ '"' :: rest) =
      .ok (JsonString.ofPoints (done.reverse ++ ps), rest) := by
  induction ps generalizing done with
  | nil => simp [scanString]
  | cons p ps ih =>
      have hOthers : ∀ q ∈ ps, q < 0x110000 :=
        fun q hMem => hPoints q (List.mem_cons_of_mem p hMem)
      have hRest := ((JsonString.isJoined_cons_iff _ _).mp hJoined).2
      rw [List.flatMap_cons, List.append_assoc,
        scanString_writePoint hPoints hJoined, ih hOthers hRest]
      simp

/- A string that was written is the next token. -/
theorem nextToken_writeString
    (s : JsonString)
    (rest : List Char) :
    nextToken (writeString s ++ rest) = some (.string s, rest) := by
  have hScan :=
    scanString_points s.isJoined_points.1 s.isJoined_points.2 [] rest
  rw [List.reverse_nil, List.nil_append, s.ofPoints_points] at hScan
  simp [nextToken, writeString, isSpace, tokenAt, hScan]

------------------------------------------------------------
-- Whole Numbers
------------------------------------------------------------

/- Whether what follows a value is its end or the end of the text. -/
def Ends (rest : List Char) : Prop :=
  ∀ c, rest.head? = some c → c = ',' ∨ c = ']' ∨ c = '}'

/- The digits of a number are decimal digits. -/
theorem isDigit_of_mem_toDigits
    {n : Nat}
    {c : Char}
    (h : c ∈ Nat.toDigits 10 n) :
    Text.isDigit c = true := by
  have hDigit := Nat.isDigit_of_mem_toDigits (by decide) (by decide) h
  simp only [Char.isDigit, Bool.and_eq_true, decide_eq_true_eq,
    UInt32.le_iff_toNat_le] at hDigit
  simpa [Text.isDigit] using hDigit

/- The value of the digits is the number. -/
theorem digitsValue_toDigits (n : Nat) :
    Text.digitsValue (Nat.toDigits 10 n) = n := by
  have hValue (cs : List Char) (acc : Nat) :
      cs.foldl (fun acc c => acc * 10 + (c.toNat - 48)) acc =
        Nat.ofDigitChars 10 cs acc := by
    induction cs generalizing acc with
    | nil => simp
    | cons c cs ih =>
        rw [List.foldl_cons, ih, Nat.ofDigitChars_cons, Nat.mul_comm]
        rfl
  unfold Text.digitsValue
  rw [hValue, Nat.ofDigitChars_ten_toDigits]

/- The first digit is the first character of what begins with them. -/
theorem head?_toDigits_append
    (n : Nat)
    (rest : List Char) :
    (Nat.toDigits 10 n ++ rest).head? = (Nat.toDigits 10 n).head? := by
  cases hDigits : Nat.toDigits 10 n with
  | nil => exact absurd hDigits Nat.toDigits_ne_nil
  | cons c cs => rfl

/- No number but zero begins with a zero. -/
theorem head?_toDigits_ne_zero
    {n : Nat}
    (h : 0 < n) :
    (Nat.toDigits 10 n).head? ≠ some '0' := by
  induction n using Nat.strongRecOn with
  | ind n ih =>
      by_cases hSmall : n < 10
      · rw [Nat.toDigits_of_lt_base hSmall]
        simp
        omega
      · have hRest := ih (n / 10) (by omega) (by omega)
        rw [Nat.toDigits_of_base_le (by decide) (by omega),
          head?_toDigits_append]
        exact hRest

/- The digits of a number end where the text after it begins. -/
theorem span_toDigits
    (n : Nat)
    {rest : List Char}
    (hEnds : Ends rest) :
    (Nat.toDigits 10 n ++ rest).span Text.isDigit =
      (Nat.toDigits 10 n, rest) := by
  have hRest :
      rest.takeWhile Text.isDigit = [] ∧
        rest.dropWhile Text.isDigit = rest := by
    cases rest with
    | nil => exact ⟨rfl, rfl⟩
    | cons c rest =>
        have hNone : Text.isDigit c = false := by
          rcases hEnds c rfl with rfl | rfl | rfl
          · rfl
          · rfl
          · rfl
        simp [hNone]
  rw [List.span_eq_takeWhile_dropWhile,
    List.takeWhile_append_of_pos fun c => isDigit_of_mem_toDigits,
    List.dropWhile_append_of_pos fun c => isDigit_of_mem_toDigits,
    hRest.1, hRest.2, List.append_nil]

/- The digits before the point are all the digits. -/
theorem scanWhole_toDigits
    (n : Nat)
    {rest : List Char}
    (hEnds : Ends rest) :
    scanWhole (Nat.toDigits 10 n ++ rest) =
      some (Nat.toDigits 10 n, rest) := by
  by_cases hZero : n = 0
  · subst hZero
    rfl
  · unfold scanWhole
    split
    · case _ more hHead =>
        have hFirst := head?_toDigits_ne_zero (Nat.pos_of_ne_zero hZero)
        rw [← head?_toDigits_append n rest, hHead] at hFirst
        exact absurd rfl hFirst
    · rw [span_toDigits n hEnds]
      split
      · case _ hNil => exact absurd (congrArg Prod.fst hNil) Nat.toDigits_ne_nil
      · case _ hSpan =>
          cases hSpan
          rfl

/- The token of a whole number, which may have too many digits. -/
def integerToken (n : Int) : Token :=
  if maxIntegerDigits < (Nat.toDigits 10 n.natAbs).length then
    .faultyNumber (Nat.toDigits 10 n.natAbs).length
  else
    .scalar (.integer n)

/- A whole number that was written is scanned again. -/
theorem scanNumber_toDigits
    (negative : Bool)
    (n : Nat)
    {rest : List Char}
    (hEnds : Ends rest) :
    scanNumber negative (Nat.toDigits 10 n ++ rest) =
      some (integerToken (if negative then -(n : Int) else n), rest) := by
  have hFraction : scanFraction rest = ([], rest) := by
    unfold scanFraction
    split
    · rcases hEnds '.' rfl with h | h | h
      · cases h
      · cases h
      · cases h
    · rfl
  have hExponent : scanExponent rest = none := by
    unfold scanExponent
    split
    · case _ e more =>
        rcases hEnds e rfl with rfl | rfl | rfl
        · rfl
        · rfl
        · rfl
    · rfl
  have hAbs : (if negative then -(n : Int) else n).natAbs = n := by
    cases negative with
    | false => rfl
    | true => simp
  simp only [scanNumber, scanWhole_toDigits n hEnds, hFraction, hExponent,
    digitsValue_toDigits, integerToken, hAbs, List.isEmpty_nil,
    Bool.not_true, Bool.false_eq_true, if_false]
  split_ifs <;> rfl

/- A whole number begins with a character in ASCII. -/
theorem signedDecimal_eq_cons (n : Int) :
    ∃ c cs, (Text.signedDecimal n).toList = c :: cs ∧ c.toNat < 128 := by
  have hDigits (k : Nat) :
      ∃ c cs, Nat.toDigits 10 k = c :: cs ∧ c.toNat < 128 := by
    cases hCons : Nat.toDigits 10 k with
    | nil => exact absurd hCons Nat.toDigits_ne_nil
    | cons c cs =>
        have hMem : c ∈ Nat.toDigits 10 k := by
          rw [hCons]
          exact List.mem_cons_self
        have hDigit := isDigit_of_mem_toDigits hMem
        simp only [Text.isDigit, Bool.and_eq_true, decide_eq_true_eq]
          at hDigit
        exact ⟨c, cs, rfl, by omega⟩
  unfold Text.signedDecimal
  by_cases hNegative : n < 0
  · rw [if_pos hNegative, String.toList_append]
    exact ⟨'-', _, rfl, by decide⟩
  · rw [if_neg hNegative, Text.decimal, String.toList_ofList]
    exact hDigits n.toNat

/- A digit is none of the other characters. -/
theorem ne_of_isDigit
    {c x : Char}
    (h : Text.isDigit c = true)
    (hOther : Text.isDigit x = false) :
    c ≠ x := by
  rintro rfl
  rw [h] at hOther
  cases hOther

/- The characters that separate tokens, are one, or open a string. -/
def marks : List Char :=
  [' ', '\t', '\n', '\r', '{', '}', '[', ']', ':', ',', '"']

/- A text that begins with another character begins with a scalar. -/
theorem nextToken_scalar
    {c : Char}
    (h : c ∉ marks)
    (cs : List Char) :
    nextToken (c :: cs) = some (scanScalar (c :: cs)) := by
  simp only [marks, List.mem_cons, List.not_mem_nil, or_false,
    not_or] at h
  rcases h with
    ⟨hSpace, hTab, hLine, hReturn, h₁, h₂, h₃, h₄, h₅, h₆, h₇⟩
  have hNoSpace : ¬ isSpace c = true := by
    simp [isSpace, hSpace, hTab, hLine, hReturn]
  unfold nextToken
  rw [List.dropWhile_cons_of_neg hNoSpace]
  unfold tokenAt
  split
  · case _ hNil => cases hNil
  · case _ hCons => cases hCons; exact absurd rfl h₁
  · case _ hCons => cases hCons; exact absurd rfl h₂
  · case _ hCons => cases hCons; exact absurd rfl h₃
  · case _ hCons => cases hCons; exact absurd rfl h₄
  · case _ hCons => cases hCons; exact absurd rfl h₅
  · case _ hCons => cases hCons; exact absurd rfl h₆
  · case _ hCons => cases hCons; exact absurd rfl h₇
  · rfl

/- A digit begins no word and is no mark. -/
theorem not_mark_of_isDigit
    {c : Char}
    (h : Text.isDigit c = true) :
    c ∉ marks := by
  have hAll : (marks.all fun x => !Text.isDigit x) = true := by
    decide
  intro hMark
  have hOther := List.all_eq_true.mp hAll c hMark
  rw [h] at hOther
  cases hOther

/- A scalar that begins with a digit is a number. -/
theorem scanScalar_digit
    {c : Char}
    (hDigit : Text.isDigit c = true)
    {cs : List Char}
    {r : Token × List Char}
    (hNumber : scanNumber false (c :: cs) = some r) :
    scanScalar (c :: cs) = r := by
  have hNe (x : Char) (hOther : Text.isDigit x = false) : x ≠ c :=
    (ne_of_isDigit hDigit hOther).symm
  have hWord : scanWord (c :: cs) = none := by
    simp [scanWord, words, hNe 'n' rfl, hNe 't' rfl, hNe 'f' rfl,
      hNe 'N' rfl, hNe 'I' rfl, hNe '-' rfl]
  unfold scanScalar
  rw [hWord]
  split
  · case _ hSome => cases hSome
  · split
    · case _ hCons =>
        cases hCons
        exact absurd rfl (hNe '-' rfl)
    · rw [hNumber]

/- A scalar that begins with a sign and a digit is one below zero. -/
theorem scanScalar_negative
    {c : Char}
    (hDigit : Text.isDigit c = true)
    {cs : List Char}
    {r : Token × List Char}
    (hNumber : scanNumber true (c :: cs) = some r) :
    scanScalar ('-' :: c :: cs) = r := by
  have hNe : 'I' ≠ c :=
    (ne_of_isDigit hDigit rfl).symm
  have hWord : scanWord ('-' :: c :: cs) = none := by
    simp [scanWord, words, hNe]
  simp [scanScalar, hWord, hNumber]

/- A whole number that was written is the next token. -/
theorem nextToken_signedDecimal
    (n : Int)
    {rest : List Char}
    (hEnds : Ends rest) :
    nextToken ((Text.signedDecimal n).toList ++ rest) =
      some (integerToken n, rest) := by
  have hScan (negative : Bool) :=
    scanNumber_toDigits negative n.natAbs hEnds
  have hFirst :
      ∃ c cs, Nat.toDigits 10 n.natAbs ++ rest = c :: cs ∧
        Text.isDigit c = true := by
    cases hDigits : Nat.toDigits 10 n.natAbs with
    | nil => exact absurd hDigits Nat.toDigits_ne_nil
    | cons c cs =>
        have hMem : c ∈ Nat.toDigits 10 n.natAbs := by
          rw [hDigits]
          exact List.mem_cons_self
        exact ⟨c, cs ++ rest, rfl, isDigit_of_mem_toDigits hMem⟩
  rcases hFirst with ⟨c, cs, hCons, hDigit⟩
  rw [hCons] at hScan
  unfold Text.signedDecimal
  by_cases hNegative : n < 0
  · have hValue : -(n.natAbs : Int) = n := by
      omega
    have hSign : "-".toList = ['-'] := rfl
    rw [if_pos hNegative, String.toList_append, hSign,
      List.append_assoc, Text.decimal, String.toList_ofList, hCons]
    change nextToken ('-' :: c :: cs) = _
    rw [nextToken_scalar (by decide),
      scanScalar_negative hDigit (hScan true), if_pos rfl, hValue]
  · have hValue : (n.natAbs : Int) = n := by
      omega
    have hAbs : n.toNat = n.natAbs := by
      omega
    rw [if_neg hNegative, hAbs]
    simp only [Text.decimal, String.toList_ofList, hCons]
    rw [nextToken_scalar (not_mark_of_isDigit hDigit),
      scanScalar_digit hDigit (hScan false)]
    simp [hValue]

/- It is the number if it does not have too many digits. -/
theorem nextToken_integer
    {n : Int}
    (hLength : (Nat.toDigits 10 n.natAbs).length ≤ maxIntegerDigits)
    {rest : List Char}
    (hEnds : Ends rest) :
    nextToken ((Text.signedDecimal n).toList ++ rest) =
      some (.scalar (.integer n), rest) := by
  rw [nextToken_signedDecimal n hEnds, integerToken, if_neg (by omega)]

end Json

end KeyAssertion
