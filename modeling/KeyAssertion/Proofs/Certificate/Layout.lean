import KeyAssertion.Certificate.Handle
import KeyAssertion.Proofs.Pem.Layout

/-
  Bundles that are laid out as blocks: what is read from one is
  told by its first certificate and its first private key, in
  whatever order these stand and whatever is between them.

  Key definitions include:
    * `CertificateEntry.ofTexts`

  Key theorems include:
    * `CertificateEntry.ofBundle_eq_of_isLaid`
    * `CertificateEntry.isExtracted_of_isLaid`
-/

namespace KeyAssertion

namespace CertificateEntry

/- Its first blocks are the first ones of each label. -/
theorem isFirstOfEach_of_isLaid (h : Pem.IsLaid data blocks) :
    Pem.IsFirstOfEach blocks (Pem.firstBlocks data) := by
  have hAll : Pem.allBlocks data = blocks :=
    (Pem.allBlocks_eq_iff _ _).mpr h.holds
  rw [Pem.firstBlocks, hAll]
  exact Pem.isFirstOfEach_firstOfLabel blocks

section Library

variable [KeyLibrary]

/-
  The entry of the text of a certificate, which must be there,
  and of the text of a private key, which may be.
-/
def ofTexts (certificate? key? : Option Bytes) :
    Except CertificateError CertificateEntry :=
  match certificate? with
  | none => .error .noCertificate
  | some text =>
      match Certificate.ofPem text with
      | .error fault => .error (certificateError fault)
      | .ok certificate =>
          match key? with
          | none => .ok ⟨certificate, none⟩
          | some text =>
              match LoadedKey.ofPem text with
              | .error (.unknownAlgorithm algorithm) =>
                  .error (.unknownAlgorithm algorithm)
              | .error _ => .error .malformedBundle
              | .ok key => .ok ⟨certificate, some key⟩

/- A bundle is read by the first blocks of its labels. -/
theorem ofBundle_eq_ofTexts (data : Bytes) :
    ofBundle data =
      ofTexts (Pem.certificateBlock? (Pem.firstBlocks data))
        (Pem.keyBlock? (Pem.firstBlocks data)) :=
  rfl

variable {data : Bytes} {blocks : List Pem.Block}

/- If it is laid out, these are the first ones of all its blocks. -/
theorem ofBundle_eq_of_isLaid (h : Pem.IsLaid data blocks) :
    ofBundle data =
      ofTexts (Pem.certificateBlock? blocks) (Pem.keyBlock? blocks) := by
  rw [ofBundle_eq_ofTexts, h.holds.certificateBlock?_eq,
    h.holds.keyBlock?_eq]

/-
  From a text that is laid out as blocks:
    * exactly the first block of each label is taken, in the
      order in which the labels first occur;
    * a bundle is read by its first certificate and by the first
      private key among the blocks taken;
    * another order, and anything else between the blocks, makes
      no difference if the certificates come in the same order
      and the private keys do, whichever of the two come first.
-/
theorem isExtracted_of_isLaid (h : Pem.IsLaid data blocks) :
    Pem.IsFirstOfEach blocks (Pem.firstBlocks data) ∧
      ofBundle data =
        ofTexts (Pem.certificateBlock? blocks)
          (Pem.keyBlock? (Pem.firstBlocks data)) ∧
      ∀ data' blocks', Pem.IsLaid data' blocks' →
        (blocks'.filter fun b => b.label == Pem.certificateLabel) =
            (blocks.filter fun b => b.label == Pem.certificateLabel) →
          (blocks'.filter fun b => Pem.keyLabelEnding.isSuffixOf b.label) =
              (blocks.filter fun b =>
                Pem.keyLabelEnding.isSuffixOf b.label) →
            ofBundle data' = ofBundle data := by
  refine ⟨isFirstOfEach_of_isLaid h, ?_, ?_⟩
  · rw [ofBundle_eq_of_isLaid h, h.holds.keyBlock?_eq]
  · intro data' blocks' h' hCertificates hKeys
    rw [ofBundle_eq_of_isLaid h, ofBundle_eq_of_isLaid h']
    have hCertificate :
        Pem.certificateBlock? blocks' = Pem.certificateBlock? blocks := by
      unfold Pem.certificateBlock?
      rw [← List.head?_filter, hCertificates, List.head?_filter]
    have hKey : Pem.keyBlock? blocks' = Pem.keyBlock? blocks := by
      unfold Pem.keyBlock?
      rw [← List.head?_filter, hKeys, List.head?_filter]
    rw [hCertificate, hKey]

end Library

/- A certificate with dashes before each of its lines. -/
def dashedCertificate : Pem.Piece :=
  ⟨Bytes.ofLatin "x-----", Pem.certificateLabel, Bytes.ofLatin "AA--"⟩

/- A key whose gap would be an opening line after a closing line. -/
def dashedKey : Pem.Piece :=
  ⟨Bytes.ofLatin "BEGIN CERTIFICATE-----", Bytes.ofLatin "RSA PRIVATE KEY",
    Bytes.ofLatin "AQ--"⟩

/-
  These two in one order and in the other, with the certificate
  once more behind them, are the same bundle, of which two blocks
  are taken.
-/
theorem isExtracted_of_isLaid_of_swapped :
    Pem.IsFirstOfEach
        [dashedCertificate.block, dashedKey.block, dashedCertificate.block]
        (Pem.firstBlocks
          (Pem.layOut
            [dashedCertificate, dashedKey, dashedCertificate]
            (Bytes.ofLatin "-----BEGI"))) ∧
      ofBundle
          (Pem.layOut
            [dashedKey, dashedCertificate, dashedCertificate] []) =
        ofBundle
          (Pem.layOut
            [dashedCertificate, dashedKey, dashedCertificate]
            (Bytes.ofLatin "-----BEGI")) := by
  have hCertificate : dashedCertificate.IsPlain := by decide
  have hKey : dashedKey.IsPlain := by decide
  have hLaid :
      Pem.IsLaid
        (Pem.layOut
          [dashedCertificate, dashedKey, dashedCertificate]
          (Bytes.ofLatin "-----BEGI"))
        [dashedCertificate.block, dashedKey.block,
          dashedCertificate.block] :=
    ⟨_, _, by simp [hCertificate, hKey], by decide, rfl, rfl⟩
  have hSwapped :
      Pem.IsLaid
        (Pem.layOut [dashedKey, dashedCertificate, dashedCertificate] [])
        [dashedKey.block, dashedCertificate.block,
          dashedCertificate.block] :=
    ⟨_, _, by simp [hCertificate, hKey], by decide, rfl, rfl⟩
  have hExtracted := isExtracted_of_isLaid hLaid
  exact ⟨hExtracted.1,
    hExtracted.2.2 _ _ hSwapped (by decide) (by decide)⟩

end CertificateEntry

end KeyAssertion
