import KeyAssertion.Proofs.Encoding.Canonical
import KeyAssertion.Proofs.Key.Identity

/-
  Bytes and numbers as texts: both are given back by the texts
  that are written for them, and a number is written back as
  the text that it was read from if this has no spare bits and
  no more bytes than the number takes.

  Key definitions include:
    * `Key.IsKept`

  Key theorems include:
    * `Key.isKept_encodeUrl_iff`
    * `Key.isCanonical_of_isKept`
    * `Key.roundTrips`
-/

namespace KeyAssertion

------------------------------------------------------------
-- Texts of Bytes
------------------------------------------------------------

/- The text of bytes is canonical. -/
theorem Base64.isCanonical_encodeUrl (octets : List UInt8) :
    IsCanonical (encodeUrl octets).toList := by
  rw [encodeUrl, String.toList_ofList]
  exact isCanonical_encodeUnpadded octets

/- A canonical text is that of the bytes that are read from it. -/
theorem Base64.exists_octets_of_isCanonical
    {s : String}
    (h : IsCanonical s.toList) :
    ∃ octets, encodeUrl octets = s ∧ ofUnpadded s = .ok octets := by
  rcases exists_encodeUnpadded_of_isCanonical h with ⟨octets, hText⟩
  have hSame : encodeUrl octets = s := by
    rw [encodeUrl, hText, String.ofList_toList]
  refine ⟨octets, hSame, ?_⟩
  rw [← hSame]
  exact ofUnpadded_encodeUrl octets

/- No bytes have the empty text, and no others. -/
theorem Base64.encodeUrl_eq_empty_iff (octets : List UInt8) :
    encodeUrl octets = "" ↔ octets = [] :=
  encodeUrl_inj (b := [])

namespace Key

------------------------------------------------------------
-- Texts of Numbers
------------------------------------------------------------

/- Whether a text is read as a number and the number written as it. -/
def IsKept (s : String) : Prop :=
  ∃ n, readMember (.text s) = .ok n ∧ writeMember n = s

/-
  The text of bytes is kept if these are the fewest for their
  number: one zero byte, or bytes that do not begin with zero.
-/
theorem isKept_encodeUrl_iff (octets : Bytes) :
    IsKept (Base64.encodeUrl octets) ↔
      octets = [0] ∨ octets ≠ [] ∧ octets.head? ≠ some 0 := by
  constructor
  · intro hKept
    rcases hKept with ⟨n, -, hWritten⟩
    have hOctets : Bytes.ofNat n = octets :=
      Base64.encodeUrl_inj.mp hWritten
    rw [← hOctets]
    by_cases hZero : n = 0
    · left
      rw [hZero]
      rfl
    · right
      exact ⟨Bytes.ofNat_ne_nil n, mt (Bytes.head?_ofNat_iff n).mp hZero⟩
  · intro hFewest
    have hSome : octets ≠ [] := by
      rcases hFewest with hZero | hLead
      · simp [hZero]
      · exact hLead.1
    have hBytes : Bytes.ofNat (Bytes.toNat octets) = octets := by
      rcases hFewest with hZero | hLead
      · rw [hZero]
        rfl
      · exact Bytes.ofNat_toNat hLead.1 hLead.2
    refine ⟨Bytes.toNat octets, readMember_encodeUrl hSome, ?_⟩
    rw [writeMember, hBytes]

/- What is kept is canonical. -/
theorem isCanonical_of_isKept
    {s : String}
    (h : IsKept s) :
    Base64.IsCanonical s.toList := by
  rcases h with ⟨n, -, hWritten⟩
  rw [← hWritten]
  exact Base64.isCanonical_encodeUrl _

/-
  Bytes and numbers are given back by their texts:
    * the text of bytes is made of digits for URLs and, filled
      up with padding, read as the bytes;
    * the text of a number is read as the number; its bytes do
      not begin with zero, but zero itself has one zero byte;
    * a canonical text has bytes, and it is the text of the
      number that it is read as if there are bytes and the
      first is not zero, or if zero is the only one.  The empty
      text has no bytes and is refused.
  No other text is that of the number that it is read as.
-/
theorem roundTrips :
    (∀ bytes : Bytes,
      (∀ c ∈ (Base64.encodeUrl bytes).toList, Base64.IsUrlDigit c) ∧
        Base64.ofUnpadded (Base64.encodeUrl bytes) = .ok bytes) ∧
    (∀ n,
      readMember (.text (writeMember n)) = .ok n ∧
        ∃ octets,
          Base64.ofUnpadded (writeMember n) = .ok octets ∧
            Bytes.toNat octets = n ∧
            (octets.head? = some 0 ↔ n = 0) ∧ (octets = [0] ↔ n = 0)) ∧
    (∀ s, Base64.IsCanonical s.toList →
      ∃ octets,
        Base64.ofUnpadded s = .ok octets ∧
          (IsKept s ↔ octets = [0] ∨ s ≠ "" ∧ octets.head? ≠ some 0) ∧
          (s = "" ↔ readMember (.text s) = .error .notText)) ∧
    ∀ s, IsKept s → Base64.IsCanonical s.toList := by
  refine ⟨?_, ?_, ?_, fun s => isCanonical_of_isKept⟩
  · intro bytes
    refine ⟨?_, Base64.ofUnpadded_encodeUrl bytes⟩
    intro c hMem
    rw [Base64.encodeUrl, String.toList_ofList] at hMem
    exact (Base64.isUnpadded_encodeUnpadded bytes).1 c hMem
  · intro n
    have hZero : Bytes.ofNat n = [0] ↔ n = 0 := by
      constructor
      · intro hBytes
        rw [← Bytes.head?_ofNat_iff, hBytes, List.head?_cons]
      · rintro rfl
        rfl
    exact ⟨readMember_writeMember n, Bytes.ofNat n,
      Base64.ofUnpadded_encodeUrl _, Bytes.toNat_ofNat n,
      Bytes.head?_ofNat_iff n, hZero⟩
  · intro s hCanonical
    rcases Base64.exists_octets_of_isCanonical hCanonical with
      ⟨octets, rfl, hRead⟩
    refine ⟨octets, hRead, ?_, ?_⟩
    · simp only [isKept_encodeUrl_iff, ne_eq,
        Base64.encodeUrl_eq_empty_iff]
    · rw [Base64.encodeUrl_eq_empty_iff]
      constructor
      · rintro rfl
        rfl
      · intro hRefused
        by_contra hSome
        rw [readMember_encodeUrl hSome] at hRefused
        cases hRefused

/- Three bytes of a number, the first of which is not zero. -/
theorem roundTrips_of_exponent :
    Base64.IsUrlDigit 'B' ∧
      Base64.ofUnpadded "AQAB" = .ok [1, 0, 1] ∧
      readMember (.text (writeMember 65537)) = .ok 65537 ∧
      Base64.IsCanonical "AQAB".toList ∧ IsKept "AQAB" := by
  have hText : Base64.encodeUrl [1, 0, 1] = "AQAB" := rfl
  have hCanonical := Base64.isCanonical_encodeUrl [1, 0, 1]
  rcases roundTrips with ⟨hBytes, hNumbers, hTexts, -⟩
  rcases hBytes [1, 0, 1] with ⟨hDigits, hRead⟩
  rw [hText] at hDigits hRead hCanonical
  rcases hTexts "AQAB" hCanonical with ⟨octets, hOctets, hKept, -⟩
  rw [hRead] at hOctets
  obtain rfl := Except.ok.inj hOctets
  refine ⟨hDigits 'B' (by decide), hRead, (hNumbers 65537).1, hCanonical, ?_⟩
  exact hKept.mpr (Or.inr ⟨by decide, by decide⟩)

/-
  The empty text is canonical and has no first byte at all, but
  it is read as no number.
-/
theorem not_isKept_of_empty :
    Base64.IsCanonical "".toList ∧
      Base64.ofUnpadded "" = .ok [] ∧
      ([] : Bytes).head? ≠ some 0 ∧
      readMember (.text "") = .error .notText ∧ ¬ IsKept "" := by
  have hRefused : readMember (.text "") = .error .notText := rfl
  refine ⟨Base64.isCanonical_encodeUrl [], rfl, by simp, hRefused, ?_⟩
  intro hKept
  rcases hKept with ⟨n, hRead, -⟩
  rw [hRefused] at hRead
  cases hRead

end Key

end KeyAssertion
