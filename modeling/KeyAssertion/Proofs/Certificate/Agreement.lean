import Mathlib.Data.List.Induction
import KeyAssertion.Proofs.Certificate.Bundle
import KeyAssertion.Secret.Resolver

/-
  A folder and a store in memory.  A folder whose certificate
  files are bundles of different certificates, without key
  files beside them, answers like a store in memory that was
  given these bundles, in whatever order.

  Key definitions include:
    * `StoreFolder.IsBundled`
    * `CertificateEntry.Answers`
    * `CertificateStore.SameAnswers`

  Key theorems include:
    * `DirectoryStore.answers_search`
    * `MemoryStore.answers_lookup?`
    * `CertificateStore.sameAnswers_of_isBundled`
-/

namespace KeyAssertion

------------------------------------------------------------
-- Names of Files
------------------------------------------------------------

namespace FileName

/- Something stands before the ending of a certificate file. -/
theorem stem_ne_empty
    {name : String}
    (h : isCertificate name = true) :
    (split name).1 ≠ "" := by
  unfold isCertificate at h
  unfold split at h ⊢
  dsimp only at h ⊢
  have hNone : certificateEndings.contains "".toLower = false := by
    decide +kernel
  split at h
  · rw [hNone] at h
    cases h
  · case _ hSplit =>
      rw [if_neg hSplit]
      simp only [Bool.or_eq_true, not_or, List.isEmpty_iff] at hSplit
      intro hEmpty
      exact hSplit.2 (String.ofList_eq_empty_iff.mp hEmpty)

/- A name is split before an ending in which only the first is a dot. -/
theorem split_append
    {stem ending : String}
    {rest : List Char}
    (hStem : stem ≠ "")
    (hEnding : ending.toList = '.' :: rest)
    (hRest : rest ≠ [])
    (hDots : '.' ∉ rest) :
    split (stem ++ ending) = (stem, ending) := by
  have hChars :
      (stem ++ ending).toList = stem.toList ++ '.' :: rest := by
    rw [String.toList_append, hEnding]
  have hLast :
      ((stem ++ ending).toList.reverse.takeWhile fun c => c != '.') =
        rest.reverse := by
    have hOther : ∀ c ∈ rest.reverse, (c != '.') = true := by
      intro c hc
      have hNe : c ≠ '.' := by
        rintro rfl
        exact hDots (List.mem_reverse.mp hc)
      simpa using hNe
    rw [hChars, List.reverse_append, List.reverse_cons,
      List.append_assoc, List.takeWhile_append_of_pos hOther]
    simp
  have hLength :
      (stem ++ ending).toList.length - rest.reverse.length - 1 =
        stem.toList.length := by
    rw [hChars, List.length_append, List.length_cons, List.length_reverse]
    omega
  have hFront :
      (stem ++ ending).toList.take stem.toList.length = stem.toList := by
    rw [hChars, List.take_left]
  have hBack :
      (stem ++ ending).toList.drop stem.toList.length =
        ending.toList := by
    rw [hChars, List.drop_left, hEnding]
  have hSome : (rest.reverse.isEmpty || stem.toList.isEmpty) = false := by
    rw [Bool.or_eq_false_iff, List.isEmpty_eq_false_iff,
      List.isEmpty_eq_false_iff]
    refine ⟨by simpa using hRest, ?_⟩
    intro hNil
    exact hStem (String.toList_eq_nil_iff.mp hNil)
  unfold split
  simp only [hLast, hLength, hFront, hSome, hBack, Bool.false_eq_true,
    if_false, String.ofList_toList]

/- What is named like a key file has the ending of one. -/
theorem split_key
    {stem : String}
    (h : stem ≠ "") :
    (split (stem ++ ".key")).2 = ".key" := by
  have hEnding : ".key".toList = '.' :: "key".toList := rfl
  rw [split_append h hEnding (by decide) (by decide)]

/- So has the name of the key file of a certificate file. -/
theorem split_keyName
    {name : String}
    (h : isCertificate name = true) :
    (split (keyName name)).2 = ".key" :=
  split_key (stem_ne_empty h)

end FileName

------------------------------------------------------------
-- Folders
------------------------------------------------------------

namespace StoreFolder

/- The certificate files of a folder. -/
def certificateFiles (folder : StoreFolder) : List (String × Bytes) :=
  folder.files.filter fun file => FileName.isCertificate file.1

/-
  Whether the certificate files of a folder are bundles that
  can be read, of different certificates, and no file is a key
  file.
-/
structure IsBundled
    [KeyLibrary]
    (folder : StoreFolder) : Prop where
  read : ∀ file ∈ folder.certificateFiles,
    ∃ e, CertificateEntry.ofBundle file.2 = .ok e
  distinct : ∀ a ∈ folder.certificateFiles,
    ∀ b ∈ folder.certificateFiles, ∀ e e',
      CertificateEntry.ofBundle a.2 = .ok e →
        CertificateEntry.ofBundle b.2 = .ok e' →
          e.certificate.thumbprint = e'.certificate.thumbprint → a = b
  keyless : ∀ file ∈ folder.files, (FileName.split file.1).2 ≠ ".key"

/- The files of a folder are its items that are files. -/
theorem mem_files_iff
    (folder : StoreFolder)
    (file : String × Bytes) :
    file ∈ folder.files ↔ (file.1, .file file.2) ∈ folder := by
  unfold files
  rw [List.mem_filterMap]
  constructor
  · rintro ⟨⟨name, item⟩, hMem, hFile⟩
    cases item with
    | file content =>
        cases hFile
        exact List.mem_mergeSort.mp hMem
    | folder => cases hFile
  · intro hMem
    exact ⟨_, List.mem_mergeSort.mpr hMem, rfl⟩

/- The file of a name is one of the files. -/
theorem mem_files_of_file?
    {folder : StoreFolder}
    {name : String}
    {content : Bytes}
    (h : folder.file? name = some content) :
    (name, content) ∈ folder.files := by
  unfold file? at h
  split at h
  · case _ other hLookup =>
      cases h
      exact (mem_files_iff _ _).mpr (KeyedList.mem_of_lookup hLookup)
  · cases h

/- In such a folder no key lies beside a certificate. -/
theorem IsBundled.file?_keyName
    [KeyLibrary]
    {folder : StoreFolder}
    (h : folder.IsBundled)
    {name : String}
    (hName : FileName.isCertificate name = true) :
    folder.file? (FileName.keyName name) = none := by
  cases hFile : folder.file? (FileName.keyName name) with
  | none => rfl
  | some content =>
      have hEnding := h.keyless (FileName.keyName name, content)
        (mem_files_of_file? hFile)
      exact absurd (FileName.split_keyName hName) hEnding

end StoreFolder

------------------------------------------------------------
-- Entries
------------------------------------------------------------

namespace CertificateEntry

variable [KeyLibrary]

/- Whether an entry is that of one of some bundles, with a thumbprint. -/
structure IsFrom
    (bundles : List Bytes)
    (thumbprint : String)
    (e : CertificateEntry) : Prop where
  bundle : ∃ data ∈ bundles, ofBundle data = .ok e
  named : e.certificate.thumbprint = thumbprint

/-
  Whether a lookup of a thumbprint gives an entry of one of
  some bundles, or none if there is none.
-/
structure Answers
    (bundles : List Bytes)
    (thumbprint : String)
    (found? : Option CertificateEntry) : Prop where
  found : ∀ e, found? = some e → IsFrom bundles thumbprint e
  missing : found? = none → ∀ e, ¬ IsFrom bundles thumbprint e

variable {bundles : List Bytes} {thumbprint : String}
variable {found? : Option CertificateEntry}

/- Without bundles nothing is found. -/
theorem answers_nil : Answers [] thumbprint none := by
  refine ⟨?_, ?_⟩
  · intro e hFound
    cases hFound
  · rintro - e ⟨⟨data, hMem, -⟩, -⟩
    cases hMem

/-
  One more bundle gives its own entry if this is asked for, and
  makes no difference otherwise.
-/
theorem Answers.cons
    {data : Bytes}
    {e : CertificateEntry}
    (hData : ofBundle data = .ok e)
    (h : Answers bundles thumbprint found?) :
    Answers (data :: bundles) thumbprint
      (if e.certificate.thumbprint = thumbprint then some e
        else found?) := by
  by_cases hSame : e.certificate.thumbprint = thumbprint
  · rw [if_pos hSame]
    refine ⟨?_, ?_⟩
    · intro e' hFound
      cases hFound
      exact ⟨⟨data, List.mem_cons_self, hData⟩, hSame⟩
    · intro hNone
      cases hNone
  · rw [if_neg hSame]
    refine ⟨?_, ?_⟩
    · intro e' hFound
      rcases h.found e' hFound with ⟨⟨data', hMem, hData'⟩, hNamed⟩
      exact ⟨⟨data', List.mem_cons_of_mem _ hMem, hData'⟩, hNamed⟩
    · rintro hNone e' ⟨⟨data', hMem, hData'⟩, hNamed⟩
      rcases List.mem_cons.mp hMem with rfl | hLater
      · rw [hData] at hData'
        cases hData'
        exact hSame hNamed
      · exact h.missing hNone e' ⟨⟨data', hLater, hData'⟩, hNamed⟩

/- Bundles of different certificates leave one answer. -/
theorem Answers.eq
    {other? : Option CertificateEntry}
    (hOnly : ∀ e e', IsFrom bundles thumbprint e →
      IsFrom bundles thumbprint e' → e = e')
    (h : Answers bundles thumbprint found?)
    (hOther : Answers bundles thumbprint other?) :
    found? = other? := by
  cases found? with
  | none =>
      cases other? with
      | none => rfl
      | some e => exact absurd (hOther.found e rfl) (h.missing rfl e)
  | some e =>
      cases other? with
      | none => exact absurd (h.found e rfl) (hOther.missing rfl e)
      | some e' => rw [hOnly e e' (h.found e rfl) (hOther.found e' rfl)]

/- It only counts which bundles there are. -/
theorem Answers.congr
    {others : List Bytes}
    (hSame : ∀ data, data ∈ bundles ↔ data ∈ others)
    (h : Answers bundles thumbprint found?) :
    Answers others thumbprint found? := by
  refine ⟨?_, ?_⟩
  · intro e hFound
    rcases h.found e hFound with ⟨⟨data, hMem, hData⟩, hNamed⟩
    exact ⟨⟨data, (hSame data).mp hMem, hData⟩, hNamed⟩
  · rintro hNone e ⟨⟨data, hMem, hData⟩, hNamed⟩
    exact h.missing hNone e ⟨⟨data, (hSame data).mpr hMem, hData⟩, hNamed⟩

end CertificateEntry

------------------------------------------------------------
-- Lookups
------------------------------------------------------------

/- A store keeps its scope, whatever it is given. -/
theorem MemoryStore.location_foldl_given
    [KeyLibrary]
    (s : MemoryStore)
    (bundles : List Bytes) :
    (bundles.foldl given s).location = s.location := by
  induction bundles generalizing s with
  | nil => rfl
  | cons data rest ih =>
      rw [List.foldl_cons, ih]
      cases hData : CertificateEntry.ofBundle data with
      | ok e => rw [given_of_ok s hData, add]
      | error fault => rw [given_of_error s hData]

/- A store that was given bundles has their entries. -/
theorem MemoryStore.answers_lookup?
    [KeyLibrary]
    (location : StoreLocation)
    (bundles : List Bytes)
    (thumbprint : String)
    (hRead : ∀ data ∈ bundles,
      ∃ e, CertificateEntry.ofBundle data = .ok e) :
    CertificateEntry.Answers bundles.reverse thumbprint
      ((bundles.foldl given ⟨location, []⟩).lookup? thumbprint) := by
  induction bundles using List.reverseRecOn with
  | nil => exact CertificateEntry.answers_nil
  | append_singleton front data ih =>
      rcases hRead data (by simp) with ⟨e, hData⟩
      have hFront := ih fun other hMem => hRead other (by simp [hMem])
      rw [List.foldl_append, List.foldl_cons, List.foldl_nil,
        given_of_ok _ hData, lookup?_add, List.reverse_concat]
      exact hFront.cons hData

namespace DirectoryStore

variable {folder : StoreFolder}

variable [KeyLibrary]

/- The certificate of a bundle is read from a file. -/
theorem certificate?_of_bundle
    {content : Bytes}
    {e : CertificateEntry}
    (h : CertificateEntry.ofBundle content = .ok e) :
    certificate? (Pem.firstBlocks content) = .ok (some e.certificate) := by
  rcases (CertificateEntry.ofBundle_eq_ok_iff _ _).mp h with
    ⟨text, hText, hRead, -⟩
  unfold certificate?
  simp only [hText, hRead]

/- So is its key, if no key file lies beside it. -/
theorem key?_of_bundle
    {name : String}
    {content : Bytes}
    {e : CertificateEntry}
    (hBeside : folder.file? (FileName.keyName name) = none)
    (h : CertificateEntry.ofBundle content = .ok e) :
    key? folder name (Pem.firstBlocks content) = .ok e.key := by
  rcases (CertificateEntry.ofBundle_eq_ok_iff _ _).mp h with
    ⟨text, -, -, ⟨hNone, hKeyless⟩ | ⟨keyText, key, hSome, hRead, hKey⟩⟩
  · simp only [key?, hBeside, hNone, hKeyless, Option.or_none]
  · simp only [key?, hSome, hRead, hKey, Option.some_or]

/- The search ends at a bundle of the thumbprint, and passes any other. -/
theorem search_of_bundle
    {file : String × Bytes}
    {e : CertificateEntry}
    (hName : FileName.isCertificate file.1 = true)
    (hBeside : folder.file? (FileName.keyName file.1) = none)
    (h : CertificateEntry.ofBundle file.2 = .ok e)
    (thumbprint : String)
    (rest : List (String × Bytes)) :
    search folder thumbprint (file :: rest) =
      if e.certificate.thumbprint = thumbprint then .ok (some e)
      else search folder thumbprint rest := by
  have hFile : fileCertificate file = .ok (some e.certificate) := by
    unfold fileCertificate
    rw [if_pos hName, certificate?_of_bundle h]
  rw [search_cons, hFile, key?_of_bundle hBeside h]
  rfl

/- The search among certificate files gives the entries of their bundles. -/
theorem answers_search
    (thumbprint : String)
    {files : List (String × Bytes)}
    (hRead : ∀ file ∈ files, FileName.isCertificate file.1 = true →
      ∃ e, CertificateEntry.ofBundle file.2 = .ok e)
    (hBeside : ∀ file ∈ files, FileName.isCertificate file.1 = true →
      folder.file? (FileName.keyName file.1) = none) :
    ∃ found?, search folder thumbprint files = .ok found? ∧
      CertificateEntry.Answers
        ((files.filter fun file => FileName.isCertificate file.1).map
          (·.2))
        thumbprint found? := by
  induction files with
  | nil => exact ⟨none, rfl, CertificateEntry.answers_nil⟩
  | cons file rest ih =>
      rcases ih (fun f hf => hRead f (List.mem_cons_of_mem _ hf))
          (fun f hf => hBeside f (List.mem_cons_of_mem _ hf)) with
        ⟨found?, hSearch, hRest⟩
      cases hName : FileName.isCertificate file.1 with
      | false =>
          have hPassed : IsPassedOver thumbprint file :=
            ⟨none, by simp [fileCertificate, hName], by simp⟩
          rw [search_of_isPassedOver hPassed, List.filter_cons_of_neg]
          · exact ⟨found?, hSearch, hRest⟩
          · simp [hName]
      | true =>
          rcases hRead file List.mem_cons_self hName with ⟨e, hBundle⟩
          have hFound := search_of_bundle hName
            (hBeside file List.mem_cons_self hName) hBundle thumbprint rest
          refine ⟨if e.certificate.thumbprint = thumbprint then some e
            else found?, ?_, ?_⟩
          · rw [hFound, hSearch]
            split_ifs
            · rfl
            · rfl
          · simp only [List.filter_cons, hName, if_true, List.map_cons]
            exact hRest.cons hBundle

end DirectoryStore

------------------------------------------------------------
-- Stores
------------------------------------------------------------

namespace CertificateStore

section Library

variable [KeyLibrary]

/- Whether two stores answer every question alike. -/
structure SameAnswers (a b : CertificateStore) : Prop where
  location : a.location = b.location
  find : ∀ thumbprint, a.find thumbprint = b.find thumbprint
  certificate : ∀ now thumbprint,
    a.certificate now thumbprint = b.certificate now thumbprint
  privateKey : ∀ now thumbprint,
    a.privateKey now thumbprint = b.privateKey now thumbprint
  resolve : ∀ now raw,
    Secret.resolve a now raw = Secret.resolve b now raw

/- They do if they are of one scope and have the same entries. -/
theorem sameAnswers_of_lookup?
    {a b : CertificateStore}
    (hLocation : a.location = b.location)
    (hLookup : ∀ thumbprint, a.lookup? thumbprint = b.lookup? thumbprint) :
    a.SameAnswers b := by
  have hFind (thumbprint : String) :
      a.find thumbprint = b.find thumbprint := by
    unfold find
    rw [hLookup, hLocation]
  have hCertificate (now : Moment) (thumbprint : String) :
      a.certificate now thumbprint = b.certificate now thumbprint := by
    unfold certificate
    simp only [hFind, hLocation]
  refine ⟨hLocation, hFind, hCertificate, ?_, ?_⟩
  · intro now thumbprint
    unfold privateKey
    rw [hCertificate]
  · intro now raw
    have hMaterial (thumbprint : String) :
        Secret.certificateMaterial a now thumbprint =
          Secret.certificateMaterial b now thumbprint := by
      unfold Secret.certificateMaterial
      rw [hCertificate]
    unfold Secret.resolve
    cases Secret.detect? raw with
    | none => rfl
    | some secret =>
        cases secret with
        | jwk text => rfl
        | pem text => rfl
        | base64 text => simp only [Secret.material, hMaterial]
        | thumbprint text => simp only [Secret.material, hMaterial]

/-
  A folder of bundles of different certificates, without key
  files, answers like a store in memory of its scope that was
  given the bundles, in any order.
-/
theorem sameAnswers_of_isBundled
    {folder : StoreFolder}
    (hFolder : folder.IsBundled)
    (location : StoreLocation)
    {bundles : List Bytes}
    (hGiven : ∀ data, data ∈ bundles ↔
      ∃ file ∈ folder.certificateFiles, file.2 = data) :
    SameAnswers (.directory ⟨location, some folder⟩)
      (.memory (bundles.foldl MemoryStore.given ⟨location, []⟩)) := by
  have hBundles : ∀ data, data ∈ bundles.reverse ↔
      data ∈ folder.certificateFiles.map (·.2) := by
    intro data
    rw [List.mem_reverse, hGiven, List.mem_map]
  have hRead : ∀ data ∈ bundles,
      ∃ e, CertificateEntry.ofBundle data = .ok e := by
    intro data hMem
    rcases (hGiven data).mp hMem with ⟨file, hFile, rfl⟩
    exact hFolder.read file hFile
  apply sameAnswers_of_lookup?
  · exact (MemoryStore.location_foldl_given ⟨location, []⟩ bundles).symm
  intro thumbprint
  have hMemory :=
    (MemoryStore.answers_lookup? location bundles thumbprint hRead).congr
      hBundles
  rcases @DirectoryStore.answers_search folder _ thumbprint folder.files
      (fun file hMem hName =>
        hFolder.read file (List.mem_filter.mpr ⟨hMem, hName⟩))
      (fun _ _ hName => hFolder.file?_keyName hName) with
    ⟨found?, hSearch, hFound⟩
  have hOnly : ∀ e e',
      CertificateEntry.IsFrom (folder.certificateFiles.map (·.2))
          thumbprint e →
        CertificateEntry.IsFrom (folder.certificateFiles.map (·.2))
          thumbprint e' →
        e = e' := by
    rintro e e' ⟨⟨data, hMem, hData⟩, hNamed⟩
      ⟨⟨data', hMem', hData'⟩, hNamed'⟩
    rcases List.mem_map.mp hMem with ⟨a, ha, rfl⟩
    rcases List.mem_map.mp hMem' with ⟨b, hb, rfl⟩
    have hSame := hFolder.distinct a ha b hb e e' hData hData'
      (hNamed.trans hNamed'.symm)
    rw [← hSame, hData] at hData'
    exact Except.ok.inj hData'
  calc
    lookup? thumbprint (.directory ⟨location, some folder⟩)
      = .ok found? := hSearch
    _ = .ok ((bundles.foldl MemoryStore.given
          ⟨location, []⟩).lookup? thumbprint) := by
        rw [hFound.eq hOnly hMemory]

end Library

/- A certificate for the name `a`, without a key. -/
def bundleA : Bytes :=
  Bytes.ofText
    ("-----BEGIN CERTIFICATE-----\n"
      ++ "MGowVgIBATANBgkqhkiG9w0BAQsFADAAMB4XDTI2MDEwMTAwMDAwMFoXDTI3MDEw\n"
      ++ "MTAwMDAwMFowDDEKMAgGA1UEAwwBYTASMA0GCSqGSIb3DQEBAQUAAwEAMA0GCSqG\n"
      ++ "SIb3DQEBCwUAAwEA\n"
      ++ "-----END CERTIFICATE-----")

/- Another one, for the name `b`. -/
def bundleB : Bytes :=
  Bytes.ofText
    ("-----BEGIN CERTIFICATE-----\n"
      ++ "MGowVgIBATANBgkqhkiG9w0BAQsFADAAMB4XDTI2MDEwMTAwMDAwMFoXDTI3MDEw\n"
      ++ "MTAwMDAwMFowDDEKMAgGA1UEAwwBYjASMA0GCSqGSIb3DQEBAQUAAwEAMA0GCSqG\n"
      ++ "SIb3DQEBCwUAAwEA\n"
      ++ "-----END CERTIFICATE-----")

/- A folder with both, a note and a folder with the name of a file. -/
def sampleFolder : StoreFolder :=
  [("B.CRT", .file bundleB), ("a.pem", .file bundleA),
    ("notes.txt", .file []), ("old.pem", .folder)]

/- Its files; the names are in order. -/
theorem files_sampleFolder :
    sampleFolder.files =
      [("B.CRT", bundleB), ("a.pem", bundleA), ("notes.txt", [])] := by
  have hOrdered :
      sampleFolder.Pairwise fun a b => (!decide (b.1 < a.1)) = true := by
    decide +kernel
  unfold StoreFolder.files
  rw [List.mergeSort_of_pairwise hOrdered]
  rfl

/- Two of them are certificate files. -/
theorem certificateFiles_sampleFolder :
    sampleFolder.certificateFiles =
      [("B.CRT", bundleB), ("a.pem", bundleA)] := by
  rw [StoreFolder.certificateFiles, files_sampleFolder]
  decide +kernel

/- Both certificates can be read and are different. -/
theorem isBundled_sampleFolder : sampleFolder.IsBundled := by
  have hA :
      ((CertificateEntry.ofBundle bundleA).toOption.map
          fun e => e.certificate.thumbprint) =
        some "48484466382D3D3ABAA6F4A3B3C6EB7A0B67B608" := by
    decide +kernel
  have hB :
      ((CertificateEntry.ofBundle bundleB).toOption.map
          fun e => e.certificate.thumbprint) =
        some "F668687B623F647358BCDFAA657A127F45AE15F0" := by
    decide +kernel
  rcases Option.map_eq_some_iff.mp hA with ⟨a, hReadA, hNameA⟩
  rcases Option.map_eq_some_iff.mp hB with ⟨b, hReadB, hNameB⟩
  rw [Attempt.toOption_eq_some_iff] at hReadA hReadB
  refine ⟨?_, ?_, ?_⟩
  · rw [certificateFiles_sampleFolder]
    intro file hFile
    simp only [List.mem_cons, List.not_mem_nil, or_false] at hFile
    rcases hFile with rfl | rfl
    · exact ⟨b, hReadB⟩
    · exact ⟨a, hReadA⟩
  · rw [certificateFiles_sampleFolder]
    intro x hx y hy e e' hRead hRead' hSame
    simp only [List.mem_cons, List.not_mem_nil, or_false] at hx hy
    rcases hx with rfl | rfl
    · rcases hy with rfl | rfl
      · rfl
      · cases hReadB.symm.trans hRead
        cases hReadA.symm.trans hRead'
        rw [hNameA, hNameB] at hSame
        exact absurd hSame (by decide)
    · rcases hy with rfl | rfl
      · cases hReadA.symm.trans hRead
        cases hReadB.symm.trans hRead'
        rw [hNameA, hNameB] at hSame
        exact absurd hSame (by decide)
      · rfl
  · rw [files_sampleFolder]
    decide +kernel

/-
  The folder answers like a store that was given first the one
  and then the other bundle.
-/
theorem sameAnswers_of_sampleFolder :
    SameAnswers (.directory ⟨.localMachine, some sampleFolder⟩)
      (.memory ([bundleA, bundleB].foldl MemoryStore.given
        ⟨.localMachine, []⟩)) := by
  apply sameAnswers_of_isBundled isBundled_sampleFolder
  intro data
  rw [certificateFiles_sampleFolder]
  simp [or_comm, eq_comm]

end CertificateStore

end KeyAssertion
