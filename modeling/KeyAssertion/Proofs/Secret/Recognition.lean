import KeyAssertion.Proofs.Encoding.Strict
import KeyAssertion.Proofs.Secret.Document

/-
  What is recognized as Base64: of the texts that the strict
  reader accepts, those of whole groups, in which no more than
  two characters are padding.  A secret that is taken for Base64
  can therefore be read, and is passed on only for the bytes
  that it holds.

  Key definitions include:
    * `Bytes.HoldNoJson`

  Key theorems include:
    * `Secret.isBase64_iff`
    * `Secret.exists_decode_of_detect?`
    * `Secret.base64_recognized`
-/

namespace KeyAssertion

/-
  Whether bytes are not those of a text, or of one in which the
  reader of JSON finds a fault.
-/
inductive Bytes.HoldNoJson (bytes : Bytes) : Prop
  | notText
      (hNone : toText? bytes = none)
  | malformed
      (s : String)
      (fault : Json.Fault)
      (hText : toText? bytes = some s)
      (hRead : Json.read s = .error (.malformed fault))

namespace Secret

------------------------------------------------------------
-- Recognition
------------------------------------------------------------

/-
  A text is recognized if and only if something is left of it
  without the blanks at its ends, the strict reader accepts what
  is left, and that is of whole groups with two padding
  characters at most.
-/
theorem isBase64_iff (s : String) :
    isBase64 s = true ↔
      Text.strip s ≠ "" ∧
        (∃ bytes, Base64.Strict.decode (Text.strip s).toList =
          some bytes) ∧
        (Text.strip s).toList.length % 4 = 0 ∧
        (Text.strip s).toList.count '=' ≤ 2 := by
  rw [isBase64_eq, isBase64List_iff,
    Base64.Strict.isGrouped_iff_exists_decode, ne_eq, ne_eq,
    String.toList_eq_nil_iff]

/- Padding after a whole group can be read and is not recognized. -/
theorem not_isBase64_of_excess :
    ¬ (isBase64 "AAAA=" = true ↔
      Text.strip "AAAA=" ≠ "" ∧
        ∃ bytes, Base64.Strict.decode (Text.strip "AAAA=").toList =
          some bytes) := by
  have hStrip : Text.strip "AAAA=" = "AAAA=" := by decide +kernel
  have hNot : isBase64 "AAAA=" = false := by decide +kernel
  rw [hStrip, hNot]
  intro h
  exact absurd (h.mpr ⟨by decide, [0, 0, 0], by decide +kernel⟩) nofun

/- The Base64 form of bytes is recognized. -/
theorem isBase64_encode
    {bytes : Bytes}
    (h : bytes ≠ []) :
    isBase64 (String.ofList (Base64.encode Base64.standard bytes)) =
      true := by
  rw [isBase64_eq, strip_encode h, String.toList_ofList]
  exact isBase64List_encode h

------------------------------------------------------------
-- Secrets
------------------------------------------------------------

/- What is taken for Base64 is long and has no blanks at its ends. -/
theorem isBase64_of_detect?
    {raw text : String}
    (h : detect? (some raw) = some (.base64 text)) :
    text = Text.strip raw ∧ longestNonBase64 < text.toList.length ∧
      isBase64List text.toList = true := by
  rcases (detect?_eq_some_iff _ _).mp h with ⟨-, hTaken⟩
  cases hTaken with
  | base64 hNoBrace hOpensNot hLong hBase64 =>
      rw [isBase64_eq, Text.strip_strip] at hBase64
      exact ⟨rfl, hLong, hBase64⟩

/- It can be read. -/
theorem exists_decode_of_detect?
    {raw text : String}
    (h : detect? (some raw) = some (.base64 text)) :
    ∃ bytes, Base64.Strict.decode text.toList = some bytes := by
  rcases isBase64_of_detect? h with ⟨-, -, hBase64⟩
  rw [Base64.Strict.exists_decode_iff]
  exact .inl ((isBase64List_iff _).mp hBase64).2

/- Bytes without JSON are no document, and no other bytes are. -/
theorem holdsNoDocument_iff
    {text : String}
    {bytes : Bytes}
    (h : Base64.Strict.decode text.toList = some bytes) :
    HoldsNoDocument text ↔ bytes.HoldNoJson := by
  have hDocument : document? (.base64 text) = bytes.toText? := by
    simp only [document?, h, Option.bind_some]
  unfold HoldsNoDocument
  rw [hDocument]
  constructor
  · intro hNone
    cases hText : bytes.toText? with
    | none => exact .notText hText
    | some s =>
        rcases hNone s hText with ⟨fault, hRead⟩
        exact .malformed s fault hText hRead
  · rintro (hText | ⟨s, fault, hText, hRead⟩) t hSome
    · cases hText.symm.trans hSome
    · cases hText.symm.trans hSome
      exact ⟨fault, hRead⟩

/- Base64 is passed on if and only if it holds no document. -/
theorem base64Text_eq_none_iff (text : String) :
    base64Text text = .ok none ↔ HoldsNoDocument text := by
  rw [base64Text_eq]
  constructor
  · intro hNone s hDocument
    simp only [hDocument] at hNone
    cases hRead : Json.read s with
    | ok v => simp [hRead] at hNone
    | error e =>
        cases e with
        | malformed fault => exact ⟨fault, rfl⟩
        | longInteger digits => simp [hRead] at hNone
        | tooDeep => simp [hRead] at hNone
  · intro hNone
    cases hDocument : document? (.base64 text) with
    | none => rfl
    | some s =>
        rcases hNone s hDocument with ⟨fault, hRead⟩
        simp only [hRead]

/-
  Recognition and strict readability:
    * a text is recognized if and only if, without the blanks
      around it, it is not empty, the strict reader accepts it,
      and it is of whole groups with two padding characters at
      most;
    * the Base64 form of bytes is recognized and read back;
    * what is taken for Base64 can be read, and is passed on
      only if its bytes hold no JSON.
-/
theorem base64_recognized :
    (∀ s,
      isBase64 s = true ↔
        Text.strip s ≠ "" ∧
          (∃ bytes, Base64.Strict.decode (Text.strip s).toList =
            some bytes) ∧
          (Text.strip s).toList.length % 4 = 0 ∧
          (Text.strip s).toList.count '=' ≤ 2) ∧
      (∀ bytes : Bytes,
        bytes ≠ [] →
          isBase64 (String.ofList
              (Base64.encode Base64.standard bytes)) = true ∧
            Base64.Strict.decode
              (Base64.encode Base64.standard bytes) = some bytes) ∧
      ∀ raw text,
        detect? (some raw) = some (.base64 text) →
          ∃ bytes : Bytes,
            Base64.Strict.decode text.toList = some bytes ∧
              (base64Text text = .ok none ↔ bytes.HoldNoJson) := by
  refine ⟨isBase64_iff, ?_, ?_⟩
  · intro bytes hSome
    exact ⟨isBase64_encode hSome, Base64.Strict.decode_encode bytes⟩
  · intro raw text hDetect
    rcases exists_decode_of_detect? hDetect with ⟨bytes, hBytes⟩
    refine ⟨bytes, hBytes, ?_⟩
    rw [base64Text_eq_none_iff]
    exact holdsNoDocument_iff hBytes

/- Bytes that are not those of a text. -/
def strayBytes : Bytes :=
  List.replicate 90 0xa0

/- Their Base64 form is long enough for a secret. -/
theorem detect?_strayBytes :
    detect? (some (String.ofList
        (Base64.encode Base64.standard strayBytes))) =
      some (.base64 (String.ofList
        (Base64.encode Base64.standard strayBytes))) :=
  detect?_encode (by decide +kernel)

/- It is recognized, and passed on after the bytes have been read. -/
theorem base64_recognized_of_strayBytes :
    strayBytes ≠ [] ∧
      isBase64 (String.ofList
          (Base64.encode Base64.standard strayBytes)) = true ∧
        base64Text (String.ofList
          (Base64.encode Base64.standard strayBytes)) = .ok none := by
  have hSome : strayBytes ≠ [] := by decide
  have hNoText : Bytes.toText? strayBytes = none := by decide +kernel
  rcases base64_recognized with ⟨-, hWritten, hTaken⟩
  rcases hWritten strayBytes hSome with ⟨hBase64, hRead⟩
  rcases hTaken _ _ detect?_strayBytes with ⟨bytes, hBytes, hNone⟩
  rw [String.toList_ofList] at hBytes
  cases hRead.symm.trans hBytes
  exact ⟨hSome, hBase64, hNone.mpr (.notText hNoText)⟩

end Secret

end KeyAssertion
