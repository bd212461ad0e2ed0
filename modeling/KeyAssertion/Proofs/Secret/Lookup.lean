import KeyAssertion.Proofs.Certificate.Standing
import KeyAssertion.Proofs.Secret.Containment
import KeyAssertion.Proofs.Secret.Recognition

/-
  Secrets that are looked up.  The thumbprint of a certificate
  is resolved alike in all its spellings.  Base64 that holds no
  JSON is looked up as a thumbprint that no certificate has, so
  the answer is that there is none, unless the lookup meets a
  certificate of an unknown version on its way through a folder.

  Key definitions include:
    * `CertificateStore.IsLegible`

  Key theorems include:
    * `Thumbprint.spelling_immaterial`
    * `CertificateStore.lookup?_eq_none_iff`
    * `Secret.certificateMaterial_eq_notFound_iff`
    * `Secret.base64_falls_through`
-/

namespace KeyAssertion

------------------------------------------------------------
-- Spellings
------------------------------------------------------------

/-
  Spelling makes no difference:
    * the normal spelling is left as it is;
    * a text is looked up in any store like its normal spelling;
    * a spelling of the thumbprint of a certificate is taken for
      the thumbprint, and resolved like it.
-/
theorem Thumbprint.spelling_immaterial
    [KeyLibrary]
    :
    (∀ s, normalize (normalize s) = normalize s) ∧
      (∀ (store : CertificateStore) t,
        store.find t = store.find (normalize t)) ∧
      ∀ (c : Certificate) s,
        normalize s = c.thumbprint →
          Secret.detect? (some s) = some (.thumbprint c.thumbprint) ∧
            ∀ store now,
              Secret.resolve store now (some s) =
                Secret.resolve store now (some c.thumbprint) := by
  refine ⟨normalize_normalize, ?_, ?_⟩
  · intro store t
    exact (store.find_normalize t).symm
  · intro c s hSame
    have hDetect := Secret.detect?_of_spelling hSame
    refine ⟨hDetect, ?_⟩
    intro store now
    rw [Secret.resolve_of_detect? hDetect,
      Secret.resolve_of_detect? (Secret.detect?_thumbprint c)]

/-
  The thumbprint of the first sample certificate in lower case,
  with blanks in front, in between and behind.
-/
def Thumbprint.respelled : String :=
  "\u00a048484466 382d3d3a\tbaa6f4a3\nb3c6eb7a 0b67b608"
    ++ String.ofList (List.replicate 60 ' ')

/- It is taken for the thumbprint although it is longer than 100 characters. -/
theorem Thumbprint.spelling_immaterial_of_respelled :
    ∃ e, CertificateEntry.ofBundle CertificateStore.bundleA = .ok e ∧
      Secret.longestNonBase64 < respelled.toList.length ∧
        normalize respelled = e.certificate.thumbprint ∧
          Secret.detect? (some respelled) =
            some (.thumbprint e.certificate.thumbprint) := by
  have hName :
      ((CertificateEntry.ofBundle CertificateStore.bundleA).toOption.map
          fun e => e.certificate.thumbprint) =
        some "48484466382D3D3ABAA6F4A3B3C6EB7A0B67B608" := by
    decide +kernel
  have hNormal :
      normalize respelled = "48484466382D3D3ABAA6F4A3B3C6EB7A0B67B608" := by
    decide +kernel
  rcases Option.map_eq_some_iff.mp hName with ⟨e, hRead, hSame⟩
  rw [Attempt.toOption_eq_some_iff] at hRead
  rw [← hSame] at hNormal
  rcases spelling_immaterial.2.2 e.certificate respelled hNormal with
    ⟨hDetect, -⟩
  exact ⟨e, hRead, by decide +kernel, hNormal, hDetect⟩

------------------------------------------------------------
-- Thumbprints of no Certificate
------------------------------------------------------------

/- Whether a certificate file has a certificate of an unknown version. -/
def DirectoryStore.IsUnknown (file : String × Bytes) : Prop :=
  ∃ number, fileCertificate file = .error (.version number)

/- A file is passed over in such a search unless its certificate is unknown. -/
theorem DirectoryStore.isPassedOver_iff
    {thumbprint : String}
    (hNone : ∀ c : Certificate, thumbprint ≠ c.thumbprint)
    (file : String × Bytes) :
    IsPassedOver thumbprint file ↔ ¬ IsUnknown file := by
  constructor
  · rintro ⟨certificate?, hFile, -⟩ ⟨number, hUnknown⟩
    cases hFile.symm.trans hUnknown
  · intro hKnown
    cases hFile : fileCertificate file with
    | error e =>
        rcases (fileCertificate_eq_error_iff _ _).mp hFile with
          ⟨text, number, -, -, -, rfl⟩
        exact absurd ⟨number, hFile⟩ hKnown
    | ok certificate? =>
        exact ⟨certificate?, hFile, fun c _ => (hNone c).symm⟩

namespace CertificateStore

/- Whether no file of a store has a certificate of an unknown version. -/
def IsLegible : CertificateStore → Prop
  | .memory _ => True
  | .directory d =>
      ∀ folder, d.folder = some folder →
        ∀ file ∈ folder.files, ¬ DirectoryStore.IsUnknown file

/- A legible store answers that there is no certificate, and no other does. -/
theorem lookup?_eq_none_iff
    [KeyLibrary]
    {thumbprint : String}
    (hNone : ∀ c : Certificate, thumbprint ≠ c.thumbprint)
    (s : CertificateStore) :
    s.lookup? thumbprint = .ok none ↔ s.IsLegible := by
  cases s with
  | memory m =>
      have hMissing : m.lookup? thumbprint = none := by
        apply List.find?_eq_none.mpr
        intro e _
        simpa using (hNone e.certificate).symm
      simp only [lookup?, hMissing, IsLegible]
  | directory d =>
      cases hFolder : d.folder with
      | none => simp [lookup?, DirectoryStore.lookup?, hFolder, IsLegible]
      | some folder =>
          simp only [lookup?, DirectoryStore.lookup?, hFolder, IsLegible,
            DirectoryStore.search_eq_ok_iff, Option.some.injEq,
            forall_eq']
          constructor
          · intro hFinds file hMem
            cases hFinds with
            | missing hAll =>
                exact (DirectoryStore.isPassedOver_iff hNone file).mp
                  (hAll file hMem)
          · intro hKnown
            apply DirectoryStore.Finds.missing
            intro file hMem
            exact (DirectoryStore.isPassedOver_iff hNone file).mpr
              (hKnown file hMem)

/- Nothing is found if and only if nothing is looked up. -/
theorem find_eq_ok_none_iff
    [KeyLibrary]
    (s : CertificateStore)
    (thumbprint : String) :
    s.find thumbprint = .ok none ↔
      s.lookup? (Thumbprint.normalize thumbprint) = .ok none := by
  unfold find
  rw [Attempt.bind_eq_ok_iff]
  constructor
  · rintro ⟨e?, hEntry, hRest⟩
    cases e? with
    | none => exact hEntry
    | some e =>
        rcases (Attempt.bind_eq_ok_iff _ _ _).mp hRest with
          ⟨handle, -, hSome⟩
        cases hSome
  · intro hEntry
    exact ⟨none, hEntry, rfl⟩

end CertificateStore

------------------------------------------------------------
-- Base64 without JSON
------------------------------------------------------------

namespace Secret

/- The error that there is no certificate comes from the store only. -/
theorem certificateMaterial_eq_notFound_iff
    [KeyLibrary]
    (store : CertificateStore)
    (now : Moment)
    (thumbprint t : String)
    (location : StoreLocation) :
    certificateMaterial store now thumbprint =
        .error (.certificate (.notFound t location)) ↔
      store.certificate now thumbprint = .error (.notFound t location) := by
  unfold certificateMaterial
  rw [Attempt.bind_eq_error_iff]
  constructor
  · rintro (hStore | ⟨handle, -, hMaterial⟩)
    · rcases (Attempt.mapError_eq_error_iff _ _ _).mp hStore with
        ⟨fault, hFault, hSame⟩
      cases hSame
      exact hFault
    · rcases (Attempt.mapError_eq_error_iff _ _ _).mp hMaterial with
        ⟨fault, hFault, hSame⟩
      cases hSame
      unfold CertificateHandle.toMaterial at hFault
      split at hFault
      · cases hFault
      · cases hFault
      · cases hFault
  · intro hStore
    exact .inl ((Attempt.mapError_eq_error_iff _ _ _).mpr
      ⟨_, hStore, rfl⟩)

/-
  A text taken for Base64 spells no certificate's thumbprint.
  Its bytes can be read, and if they hold no JSON, the answer of
  a store is that there is no certificate of the text in upper
  case, if and only if the store is legible.
-/
theorem base64_falls_through
    [KeyLibrary]
    {raw text : String}
    (hDetect : detect? (some raw) = some (.base64 text)) :
    (∀ c : Certificate, Thumbprint.normalize text ≠ c.thumbprint) ∧
      ∃ bytes : Bytes,
        Base64.Strict.decode text.toList = some bytes ∧
          (bytes.HoldNoJson →
            ∀ store now,
              resolve store now (some raw) =
                  .error (.certificate
                    (.notFound (Text.upper text) store.location)) ↔
                store.IsLegible) := by
  rcases isBase64_of_detect? hDetect with ⟨-, hLong, hBase64⟩
  rcases exists_decode_of_detect? hDetect with ⟨bytes, hBytes⟩
  -- No certificate matches, so a store fails only at what it cannot tell.
  have hNone := normalize_ne_thumbprint hLong hBase64
  refine ⟨hNone, bytes, hBytes, ?_⟩
  intro hNoJson store now
  have hHolds := (holdsNoDocument_iff hBytes).mpr hNoJson
  have hUpper : Thumbprint.normalize text = Text.upper text :=
    Thumbprint.normalize_of_not_blank fun _ hMem =>
      not_blank_of_isBase64List hBase64 hMem
  have hSome : Thumbprint.normalize text ≠ "" :=
    ((LooksUp.base64 text hHolds).normal hDetect).2
  rw [resolve_of_detect? hDetect,
    material_base64_of_holdsNoDocument store now hHolds,
    certificateMaterial_eq_notFound_iff,
    CertificateStore.certificate_eq_notFound_iff,
    CertificateStore.find_eq_ok_none_iff, Thumbprint.normalize_normalize,
    CertificateStore.lookup?_eq_none_iff hNone]
  constructor
  · rintro ⟨-, hLegible, -⟩
    exact hLegible
  · intro hLegible
    exact ⟨hSome, hLegible, by rw [hUpper]⟩

/-
  A store in memory answers to stray bytes in Base64 that there
  is no such certificate.  A folder with a certificate of an
  unknown version does not.
-/
theorem base64_falls_through_of_strayBytes :
    resolve (.memory {}) .epoch
        (some (String.ofList (Base64.encode Base64.standard strayBytes))) =
      .error (.certificate (.notFound
        (Text.upper
          (String.ofList (Base64.encode Base64.standard strayBytes)))
        .currentUser)) ∧
      resolve (StoreFolder.mixedFolder.store .currentUser) .epoch
          (some (String.ofList
            (Base64.encode Base64.standard strayBytes))) ≠
        .error (.certificate (.notFound
          (Text.upper
            (String.ofList (Base64.encode Base64.standard strayBytes)))
          .currentUser)) := by
  rcases base64_falls_through detect?_strayBytes with
    ⟨-, bytes, hBytes, hFalls⟩
  rw [String.toList_ofList, Base64.Strict.decode_encode] at hBytes
  cases hBytes
  have hNoJson : strayBytes.HoldNoJson :=
    .notText (by decide +kernel)
  constructor
  · exact (hFalls hNoJson (.memory {}) .epoch).mpr trivial
  · intro hAnswer
    have hLegible := (hFalls hNoJson
      (StoreFolder.mixedFolder.store .currentUser) .epoch).mp hAnswer
    have hFile : ("a.pem", StoreFolder.laterCertificate) ∈
        StoreFolder.mixedFolder.files := by
      rw [StoreFolder.files_mixedFolder]
      exact List.mem_cons_self
    exact hLegible _ rfl _ hFile
      ⟨7, StoreFolder.fileCertificate_laterCertificate⟩

end Secret

end KeyAssertion
