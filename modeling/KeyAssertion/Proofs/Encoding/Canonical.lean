import Mathlib.Algebra.Ring.Nat
import KeyAssertion.Proofs.Encoding.Base64

/-
  Which texts the unpadded form over the alphabet for URLs
  consists of: digits in groups of four, of which the last may
  be short, and no bit set in the last digit that is a part of
  no byte.

  Key definitions include:
    * `Base64.urlValue`
    * `Base64.spareBits`
    * `Base64.IsCanonical`

  Key theorems include:
    * `Base64.isCanonical_encodeUnpadded`
    * `Base64.exists_encodeUnpadded_of_isCanonical`
    * `Base64.exists_encodeUnpadded_iff`
-/

namespace KeyAssertion

namespace Base64

------------------------------------------------------------
-- Digits
------------------------------------------------------------

/- The six bits of a digit for URLs. -/
def urlValue (c : Char) : Nat :=
  (url.value? c).getD 0

/- A digit has the bits that it was written for. -/
theorem urlValue_digit
    {n : Nat}
    (h : n < 64) :
    urlValue (url.digit n) = n := by
  rw [urlValue, url.value?_digit n h, Option.getD_some]

/- The characters for URLs are the digits of their bits. -/
theorem IsUrlDigit.digit_urlValue
    {c : Char}
    (h : IsUrlDigit c) :
    urlValue c < 64 ∧ url.digit (urlValue c) = c := by
  have hAll :
      ∀ n : Fin 128, IsUrlDigit (Char.ofNat n) →
        urlValue (Char.ofNat n) < 64 ∧
          url.digit (urlValue (Char.ofNat n)) = Char.ofNat n := by
    decide
  have hSmall := IsUrlDigit.toNat_lt h
  rw [← Char.ofNat_toNat c] at h ⊢
  exact hAll ⟨c.toNat, hSmall⟩ h

------------------------------------------------------------
-- Canonical Texts
------------------------------------------------------------

/-
  How many bits of the last of so many digits are a part of no
  byte: two digits have twelve bits for one byte, three have
  eighteen for two.
-/
def spareBits (length : Nat) : Nat :=
  if length % 4 = 2 then
    4
  else if length % 4 = 3 then
    2
  else
    0

/- Whether digits can be an unpadded form and the spare bits are zero. -/
structure IsCanonical (cs : List Char) : Prop where
  unpadded : IsUnpadded cs
  spare : ∀ c, cs.getLast? = some c →
    urlValue c % 2 ^ spareBits cs.length = 0

section Groups

variable {a b c d : Char} {rest : List Char}

/- Groups of four digits have no spare bits. -/
theorem spareBits_add_four (length : Nat) :
    spareBits (length + 4) = spareBits length := by
  unfold spareBits
  rw [Nat.add_mod_right]

/- What comes after a group is canonical by itself. -/
theorem IsCanonical.of_group
    (h : IsCanonical (a :: b :: c :: d :: rest)) :
    IsCanonical rest := by
  rcases h with ⟨⟨hDigits, hLength⟩, hSpare⟩
  simp only [List.length_cons] at hLength hSpare
  constructor
  · constructor
    · intro x hMem
      exact hDigits x (by simp [hMem])
    · omega
  · intro x hLast
    rw [← spareBits_add_four]
    apply hSpare x
    cases rest with
    | nil => cases hLast
    | cons y rest => simpa using hLast

/- A group before what is canonical makes no difference. -/
theorem IsCanonical.group
    (hGroup : ∀ x ∈ [a, b, c, d], IsUrlDigit x)
    (h : IsCanonical rest) :
    IsCanonical (a :: b :: c :: d :: rest) := by
  rcases h with ⟨⟨hDigits, hLength⟩, hSpare⟩
  constructor
  · constructor
    · intro x hMem
      rcases List.mem_append.mp
          (show x ∈ [a, b, c, d] ++ rest from hMem) with hFirst | hLater
      · exact hGroup x hFirst
      · exact hDigits x hLater
    · simp only [List.length_cons]
      omega
  · intro x hLast
    simp only [List.length_cons, spareBits_add_four]
    cases rest with
    | nil => exact Nat.mod_one _
    | cons y rest => exact hSpare x (by simpa using hLast)

end Groups

/- The unpadded form is canonical. -/
theorem isCanonical_encodeUnpadded (bytes : List UInt8) :
    IsCanonical (encodeUnpadded url bytes) := by
  fun_induction encode url bytes with
  | case1 => exact ⟨isUnpadded_encodeUnpadded [], fun _ hLast => by cases hLast⟩
  | case2 x n =>
      have hx := x.toNat_lt
      have hUnpadded := isUnpadded_encodeUnpadded [x]
      rw [encodeUnpadded_single] at hUnpadded ⊢
      refine ⟨hUnpadded, ?_⟩
      intro c hLast
      have hDigit : url.digit (x.toNat * 16 % 64) = c :=
        Option.some.inj hLast
      rw [← hDigit, urlValue_digit (by omega)]
      change x.toNat * 16 % 64 % 16 = 0
      omega
  | case3 x y n =>
      have hx := x.toNat_lt
      have hy := y.toNat_lt
      have hUnpadded := isUnpadded_encodeUnpadded [x, y]
      rw [encodeUnpadded_pair] at hUnpadded ⊢
      refine ⟨hUnpadded, ?_⟩
      intro c hLast
      have hDigit :
          url.digit ((x.toNat * 256 + y.toNat) * 4 % 64) = c :=
        Option.some.inj hLast
      rw [← hDigit, urlValue_digit (by omega)]
      change (x.toNat * 256 + y.toNat) * 4 % 64 % 4 = 0
      omega
  | case4 x y z rest n ih =>
      have hUnpadded := isUnpadded_encodeUnpadded (x :: y :: z :: rest)
      rw [encodeUnpadded_group] at hUnpadded ⊢
      apply IsCanonical.group _ ih
      intro c hMem
      apply hUnpadded.1 c
      exact List.mem_append_left _ hMem

section Bytes

variable {a b c d : Char}

/- Two digits without spare bits are those of one byte. -/
theorem exists_encodeUnpadded_single
    (hDigits : ∀ x ∈ [a, b], IsUrlDigit x)
    (hSpare : urlValue b % 16 = 0) :
    ∃ x, encodeUnpadded url [x] = [a, b] := by
  rcases (hDigits a (by simp)).digit_urlValue with ⟨ha, hFirst⟩
  rcases (hDigits b (by simp)).digit_urlValue with ⟨hb, hSecond⟩
  let n := urlValue a * 4 + urlValue b / 16
  refine ⟨UInt8.ofNat n, ?_⟩
  have hByte : (UInt8.ofNat n).toNat = n := by
    rw [UInt8.toNat_ofNat']
    omega
  have h₁ : n * 16 / 64 = urlValue a := by omega
  have h₂ : n * 16 % 64 = urlValue b := by omega
  rw [encodeUnpadded_single, hByte, h₁, h₂, hFirst, hSecond]

/- Three digits without spare bits are those of two bytes. -/
theorem exists_encodeUnpadded_pair
    (hDigits : ∀ x ∈ [a, b, c], IsUrlDigit x)
    (hSpare : urlValue c % 4 = 0) :
    ∃ x y, encodeUnpadded url [x, y] = [a, b, c] := by
  rcases (hDigits a (by simp)).digit_urlValue with ⟨ha, hFirst⟩
  rcases (hDigits b (by simp)).digit_urlValue with ⟨hb, hSecond⟩
  rcases (hDigits c (by simp)).digit_urlValue with ⟨hc, hThird⟩
  let n := (urlValue a * 64 + urlValue b) * 16 + urlValue c / 4
  refine ⟨UInt8.ofNat (n / 256), UInt8.ofNat (n % 256), ?_⟩
  have hBytes :
      (UInt8.ofNat (n / 256)).toNat * 256 + (UInt8.ofNat (n % 256)).toNat =
        n := by
    rw [UInt8.toNat_ofNat', UInt8.toNat_ofNat']
    omega
  have h₁ : n * 4 / 4096 = urlValue a := by omega
  have h₂ : n * 4 / 64 % 64 = urlValue b := by omega
  have h₃ : n * 4 % 64 = urlValue c := by omega
  rw [encodeUnpadded_pair, hBytes, h₁, h₂, h₃, hFirst, hSecond, hThird]

/- Four digits are those of three bytes. -/
theorem exists_encodeUnpadded_group
    (hDigits : ∀ x ∈ [a, b, c, d], IsUrlDigit x)
    (rest : List UInt8) :
    ∃ x y z, encodeUnpadded url (x :: y :: z :: rest) =
      a :: b :: c :: d :: encodeUnpadded url rest := by
  rcases (hDigits a (by simp)).digit_urlValue with ⟨ha, hFirst⟩
  rcases (hDigits b (by simp)).digit_urlValue with ⟨hb, hSecond⟩
  rcases (hDigits c (by simp)).digit_urlValue with ⟨hc, hThird⟩
  rcases (hDigits d (by simp)).digit_urlValue with ⟨hd, hFourth⟩
  let n :=
    ((urlValue a * 64 + urlValue b) * 64 + urlValue c) * 64 + urlValue d
  refine ⟨UInt8.ofNat (n / 65536), UInt8.ofNat (n / 256 % 256),
    UInt8.ofNat (n % 256), ?_⟩
  have hBytes :
      ((UInt8.ofNat (n / 65536)).toNat * 256 +
          (UInt8.ofNat (n / 256 % 256)).toNat) * 256 +
        (UInt8.ofNat (n % 256)).toNat = n := by
    rw [UInt8.toNat_ofNat', UInt8.toNat_ofNat', UInt8.toNat_ofNat']
    omega
  have h₁ : n / 262144 = urlValue a := by omega
  have h₂ : n / 4096 % 64 = urlValue b := by omega
  have h₃ : n / 64 % 64 = urlValue c := by omega
  have h₄ : n % 64 = urlValue d := by omega
  rw [encodeUnpadded_group, hBytes, h₁, h₂, h₃, h₄, hFirst, hSecond,
    hThird, hFourth]

end Bytes

/- What is canonical is the unpadded form of some bytes. -/
theorem exists_encodeUnpadded_of_isCanonical
    {cs : List Char}
    (h : IsCanonical cs) :
    ∃ bytes, encodeUnpadded url bytes = cs := by
  -- By groups of four; the last one has two or three digits.
  match cs with
  | [] => exact ⟨[], encodeUnpadded_nil⟩
  | [a] => exact absurd rfl h.unpadded.2
  | [a, b] =>
      rcases exists_encodeUnpadded_single h.unpadded.1
          (h.spare b rfl) with ⟨x, hText⟩
      exact ⟨_, hText⟩
  | [a, b, c] =>
      rcases exists_encodeUnpadded_pair h.unpadded.1
          (h.spare c rfl) with ⟨x, y, hText⟩
      exact ⟨_, hText⟩
  | a :: b :: c :: d :: rest =>
      rcases exists_encodeUnpadded_of_isCanonical h.of_group with
        ⟨bytes, hRest⟩
      have hGroup : ∀ x ∈ [a, b, c, d], IsUrlDigit x := by
        intro x hMem
        apply h.unpadded.1 x
        exact List.mem_append_left rest hMem
      rcases exists_encodeUnpadded_group hGroup bytes with
        ⟨x, y, z, hText⟩
      rw [hRest] at hText
      exact ⟨_, hText⟩

/- The canonical texts are those that are written for bytes. -/
theorem exists_encodeUnpadded_iff (cs : List Char) :
    (∃ bytes, encodeUnpadded url bytes = cs) ↔ IsCanonical cs := by
  constructor
  · intro h
    rcases h with ⟨bytes, rfl⟩
    exact isCanonical_encodeUnpadded bytes
  · exact exists_encodeUnpadded_of_isCanonical

end Base64

end KeyAssertion
