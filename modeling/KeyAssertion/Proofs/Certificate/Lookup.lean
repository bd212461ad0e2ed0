import KeyAssertion.Attempt
import KeyAssertion.Certificate.Store
import KeyAssertion.Proofs.Text.Uppercase

/-
  What stops the lookup of a certificate before it comes to an
  answer.  In a folder the files are gone through in order, up
  to the first one that cannot be passed over.

  Key definitions include:
    * `DirectoryStore.IsPassedOver`
    * `DirectoryStore.Stops`
    * `CertificateStore.Halts`

  Key theorems include:
    * `Thumbprint.normalize_normalize`
    * `Thumbprint.normalize_strip`
    * `DirectoryStore.search_eq_error_iff`
    * `CertificateStore.exists_find_eq_error_iff`
-/

namespace KeyAssertion

------------------------------------------------------------
-- Thumbprints
------------------------------------------------------------

/- What is dropped in front is not kept by a filter. -/
theorem Text.filter_dropWhile
    (p : Char → Bool)
    (cs : List Char) :
    (cs.dropWhile p).filter (fun c => !p c) = cs.filter fun c => !p c := by
  induction cs with
  | nil => rfl
  | cons c rest ih =>
      by_cases hDropped : p c = true
      · simp [hDropped, ih]
      · simp [hDropped]

/- Neither is what is trimmed. -/
theorem Text.filter_trimList
    (p : Char → Bool)
    (cs : List Char) :
    (trimList p cs).filter (fun c => !p c) = cs.filter fun c => !p c := by
  rw [trimList, List.filter_reverse, filter_dropWhile,
    List.filter_reverse, List.reverse_reverse, filter_dropWhile]

namespace Thumbprint

/- The characters of a thumbprint are those left of the text, in upper case. -/
theorem toList_normalize (s : String) :
    (normalize s).toList =
      Text.upperList (s.toList.filter fun c => !Text.isBlank c) := by
  simp [normalize, Text.upper, Text.withoutBlanks]

/- No character that is left is blank. -/
theorem not_blank_of_mem_filter
    {cs : List Char}
    {c : Char}
    (h : c ∈ cs.filter fun c => !Text.isBlank c) :
    Text.isBlank c = false := by
  simpa using (List.mem_filter.mp h).2

/- A text without blanks is only put in upper case. -/
theorem normalize_of_not_blank
    {s : String}
    (h : ∀ c ∈ s.toList, Text.isBlank c = false) :
    normalize s = Text.upper s := by
  have hKept :
      (s.toList.filter fun c => !Text.isBlank c) = s.toList := by
    rw [List.filter_eq_self]
    intro c hMem
    rw [h c hMem]
    rfl
  rw [← String.toList_inj, toList_normalize, hKept, Text.upper,
    String.toList_ofList]

/- Settled characters are a thumbprint in its normal spelling. -/
theorem normalize_of_settled
    {s : String}
    (h : ∀ c ∈ s.toList, Text.IsSettled c.toNat) :
    normalize s = s := by
  rw [normalize_of_not_blank fun c hMem => (h c hMem).not_blank,
    Text.upper, Text.upperList_of_settled h, String.ofList_toList]

/- A thumbprint in its normal spelling is left as it is. -/
theorem normalize_normalize (s : String) :
    normalize (normalize s) = normalize s := by
  apply normalize_of_settled
  intro c hc
  rw [toList_normalize] at hc
  exact Text.isSettled_of_mem_upperList (fun _ => not_blank_of_mem_filter) hc

/- Blanks at the ends make no difference to the normal spelling. -/
theorem normalize_strip (s : String) :
    normalize (Text.strip s) = normalize s := by
  rw [← String.toList_inj, toList_normalize, toList_normalize,
    Text.strip, String.toList_ofList, Text.filter_trimList]

/- The upper-case form of a character that is no blank is part of it. -/
theorem mem_normalize
    {s : String}
    {c x : Char}
    (hMem : c ∈ s.toList)
    (hBlank : Text.isBlank c = false)
    (h : x ∈ Text.upperList [c]) :
    x ∈ (normalize s).toList := by
  rw [toList_normalize]
  apply Text.mem_upperList_of_mem _ h
  exact List.mem_filter.mpr ⟨hMem, by simp [hBlank]⟩

/- It has characters if the text has one that is not blank. -/
theorem normalize_ne_empty
    {s : String}
    {c : Char}
    (hMem : c ∈ s.toList)
    (hBlank : Text.isBlank c = false) :
    normalize s ≠ "" := by
  have hLeft : c ∈ s.toList.filter fun c => !Text.isBlank c :=
    List.mem_filter.mpr ⟨hMem, by simp [hBlank]⟩
  intro hEmpty
  have hUpper := toList_normalize s
  rw [hEmpty] at hUpper
  exact Text.upperList_ne_nil (List.ne_nil_of_mem hLeft) hUpper.symm

end Thumbprint

------------------------------------------------------------
-- Refusals
------------------------------------------------------------

namespace CertificateError

/-
  Whether an error refuses the certificate.  The others come
  from below the store and say nothing of what was asked for.
-/
def isRefusal : CertificateError → Bool
  | .version _ => false
  | .unknownAlgorithm _ => false
  | .unreadableName _ => false
  | _ => true

end CertificateError

------------------------------------------------------------
-- Folders
------------------------------------------------------------

namespace DirectoryStore

/- The certificate of a file, if its name is that of a certificate file. -/
def fileCertificate
    (file : String × Bytes) : Except CertificateError (Option Certificate) :=
  if FileName.isCertificate file.1 then
    certificate? (Pem.firstBlocks file.2)
  else
    .ok none

/-
  Whether the search for a thumbprint goes on after a file: no
  certificate of the thumbprint is in it.
-/
def IsPassedOver
    (thumbprint : String)
    (file : String × Bytes) : Prop :=
  ∃ certificate?, fileCertificate file = .ok certificate? ∧
    ∀ c, certificate? = some c → c.thumbprint ≠ thumbprint

/- A certificate file fails for an unknown version only. -/
theorem fileCertificate_eq_error_iff
    (file : String × Bytes)
    (e : CertificateError) :
    fileCertificate file = .error e ↔
      ∃ text number, FileName.isCertificate file.1 = true ∧
        Pem.certificateBlock? (Pem.firstBlocks file.2) = some text ∧
        Certificate.ofPem text = .error (.version number) ∧
        e = .version number := by
  unfold fileCertificate certificate?
  by_cases hName : FileName.isCertificate file.1 = true
  case neg => simp [hName]
  rw [if_pos hName]
  cases hText : Pem.certificateBlock? (Pem.firstBlocks file.2) with
  | none => simp
  | some text =>
      cases hFault : Certificate.ofPem text with
      | ok c => simp [hFault]
      | error fault =>
          cases fault with
          | malformed => simp [hFault]
          | version number => simp [hName, hFault, eq_comm]

variable [KeyLibrary]

/-
  Whether the search ends in an error at a file: its
  certificate cannot be told, or it is the one searched for and
  its key cannot be told.
-/
def FailsAt
    (folder : StoreFolder)
    (thumbprint : String)
    (file : String × Bytes)
    (e : CertificateError) : Prop :=
  fileCertificate file = .error e ∨
    ∃ c, fileCertificate file = .ok (some c) ∧
      c.thumbprint = thumbprint ∧
      key? folder file.1 (Pem.firstBlocks file.2) = .error e

/- The search takes one file after the other. -/
theorem search_cons
    (folder : StoreFolder)
    (thumbprint : String)
    (file : String × Bytes)
    (rest : List (String × Bytes)) :
    search folder thumbprint (file :: rest) =
      fileCertificate file >>= fun
        | some c =>
            if c.thumbprint = thumbprint then
              (key? folder file.1 (Pem.firstBlocks file.2)).map
                fun key => some ⟨c, key⟩
            else
              search folder thumbprint rest
        | none => search folder thumbprint rest := by
  rcases file with ⟨name, content⟩
  unfold fileCertificate
  rw [search]
  by_cases hName : FileName.isCertificate name = true
  · rw [if_pos hName, if_pos hName]
    rfl
  · rw [if_neg hName, if_neg hName]
    rfl

/- A file that is passed over makes no difference to the search. -/
theorem search_of_isPassedOver
    {folder : StoreFolder}
    {thumbprint : String}
    {file : String × Bytes}
    (h : IsPassedOver thumbprint file)
    (rest : List (String × Bytes)) :
    search folder thumbprint (file :: rest) =
      search folder thumbprint rest := by
  rcases h with ⟨certificate?, hFile, hOther⟩
  rw [search_cons, hFile]
  cases certificate? with
  | none => rfl
  | some c => exact if_neg (hOther c rfl)

/- Nor do several of them. -/
theorem search_append_of_isPassedOver
    {folder : StoreFolder}
    {thumbprint : String}
    {before : List (String × Bytes)}
    (h : ∀ f ∈ before, IsPassedOver thumbprint f)
    (rest : List (String × Bytes)) :
    search folder thumbprint (before ++ rest) =
      search folder thumbprint rest := by
  induction before with
  | nil => rfl
  | cons first before ih =>
      rw [List.forall_mem_cons] at h
      rw [List.cons_append, search_of_isPassedOver h.1, ih h.2]

/- At any other file the search ends, in an error or with what is found. -/
theorem search_eq_error_of_not_isPassedOver
    {folder : StoreFolder}
    {thumbprint : String}
    {file : String × Bytes}
    (h : ¬ IsPassedOver thumbprint file)
    (rest : List (String × Bytes))
    (e : CertificateError) :
    search folder thumbprint (file :: rest) = .error e ↔
      FailsAt folder thumbprint file e := by
  rw [search_cons, Attempt.bind_eq_error_iff]
  unfold FailsAt
  constructor
  · rintro (hFile | ⟨certificate?, hFile, hKey⟩)
    · exact .inl hFile
    · cases certificate? with
      | none => exact absurd ⟨none, hFile, by simp⟩ h
      | some c =>
          by_cases hSame : c.thumbprint = thumbprint
          · simp only [if_pos hSame] at hKey
            exact .inr ⟨c, hFile, hSame, (Attempt.map_eq_error_iff _ _ _).mp hKey⟩
          · exact absurd ⟨some c, hFile, by simpa using hSame⟩ h
  · rintro (hFile | ⟨c, hFile, hSame, hKey⟩)
    · exact .inl hFile
    · refine .inr ⟨some c, hFile, ?_⟩
      simp only [if_pos hSame]
      exact (Attempt.map_eq_error_iff _ _ _).mpr hKey

/- A file that is passed over is not where the search fails. -/
theorem IsPassedOver.not_failsAt
    {folder : StoreFolder}
    {thumbprint : String}
    {file : String × Bytes}
    {e : CertificateError}
    (h : IsPassedOver thumbprint file) :
    ¬ FailsAt folder thumbprint file e := by
  rcases h with ⟨certificate?, hFile, hOther⟩
  rintro (hError | ⟨c, hFound, hSame, -⟩)
  · rw [hFile] at hError
    cases hError
  · rw [hFile] at hFound
    cases hFound
    exact hOther c rfl hSame

/-
  The search ends in an error if it does so at one file and
  every file before this one is passed over.
-/
theorem search_eq_error_iff
    (folder : StoreFolder)
    (thumbprint : String)
    (files : List (String × Bytes))
    (e : CertificateError) :
    search folder thumbprint files = .error e ↔
      ∃ before file after, files = before ++ file :: after ∧
        (∀ f ∈ before, IsPassedOver thumbprint f) ∧
        FailsAt folder thumbprint file e := by
  constructor
  · intro h
    induction files with
    | nil => cases h
    | cons first rest ih =>
        by_cases hFirst : IsPassedOver thumbprint first
        · rw [search_of_isPassedOver hFirst] at h
          rcases ih h with ⟨before, file, after, hSplit, hBefore, hFails⟩
          refine ⟨first :: before, file, after, ?_,
            List.forall_mem_cons.mpr ⟨hFirst, hBefore⟩, hFails⟩
          rw [hSplit, List.cons_append]
        · rw [search_eq_error_of_not_isPassedOver hFirst] at h
          exact ⟨[], first, rest, rfl, by simp, h⟩
  · rintro ⟨before, file, after, rfl, hBefore, hFails⟩
    have hStop : ¬ IsPassedOver thumbprint file :=
      fun hPassed => hPassed.not_failsAt hFails
    rw [search_append_of_isPassedOver hBefore,
      search_eq_error_of_not_isPassedOver hStop]
    exact hFails

/- The text that the key of a certificate file is read from. -/
def keyText?
    (folder : StoreFolder)
    (file : String × Bytes) : Option Bytes :=
  (Pem.keyBlock? (Pem.firstBlocks file.2)).or
    (folder.file? (FileName.keyName file.1))

/-
  What stops the search at a file: a certificate of an unknown
  version, whichever one is searched for, or the certificate
  searched for with a key of an unknown algorithm beside it.
-/
inductive Stops
    (folder : StoreFolder)
    (thumbprint : String)
    (file : String × Bytes) : Prop
  | version
      (text : Bytes)
      (number : Nat)
      (hName : FileName.isCertificate file.1 = true)
      (hText : Pem.certificateBlock? (Pem.firstBlocks file.2) = some text)
      (hFault : Certificate.ofPem text = .error (.version number))
  | algorithm
      (c : Certificate)
      (text : Bytes)
      (algorithm : LoadedKey.UnknownAlgorithm)
      (hFile : fileCertificate file = .ok (some c))
      (hSame : c.thumbprint = thumbprint)
      (hText : keyText? folder file = some text)
      (hFault : LoadedKey.ofPem text = .error (.unknownAlgorithm algorithm))

/- The key beside a certificate fails for an unknown algorithm only. -/
theorem key?_eq_error_iff
    (folder : StoreFolder)
    (file : String × Bytes)
    (e : CertificateError) :
    key? folder file.1 (Pem.firstBlocks file.2) = .error e ↔
      ∃ text algorithm, keyText? folder file = some text ∧
        LoadedKey.ofPem text = .error (.unknownAlgorithm algorithm) ∧
        e = .unknownAlgorithm algorithm := by
  unfold key? keyText?
  cases (Pem.keyBlock? (Pem.firstBlocks file.2)).or
      (folder.file? (FileName.keyName file.1)) with
  | none => simp
  | some text =>
      cases hFault : LoadedKey.ofPem text with
      | ok key => simp [hFault]
      | error fault =>
          cases fault with
          | encrypted => simp [hFault]
          | malformed => simp [hFault]
          | unknownAlgorithm algorithm => simp [hFault, eq_comm]

/- The search fails at the files that stop it. -/
theorem exists_failsAt_iff
    (folder : StoreFolder)
    (thumbprint : String)
    (file : String × Bytes) :
    (∃ e, FailsAt folder thumbprint file e) ↔
      Stops folder thumbprint file := by
  simp only [FailsAt, fileCertificate_eq_error_iff, key?_eq_error_iff]
  constructor
  · rintro ⟨e, ⟨text, number, hName, hText, hFault, -⟩ |
      ⟨c, hFile, hSame, text, algorithm, hText, hFault, -⟩⟩
    · exact .version text number hName hText hFault
    · exact .algorithm c text algorithm hFile hSame hText hFault
  · rintro (⟨text, number, hName, hText, hFault⟩ |
      ⟨c, text, algorithm, hFile, hSame, hText, hFault⟩)
    · exact ⟨_, .inl ⟨text, number, hName, hText, hFault, rfl⟩⟩
    · exact ⟨_, .inr ⟨c, hFile, hSame, text, algorithm, hText, hFault, rfl⟩⟩

/- What the search fails with is no refusal of the certificate. -/
theorem FailsAt.not_isRefusal
    {folder : StoreFolder}
    {thumbprint : String}
    {file : String × Bytes}
    {e : CertificateError}
    (h : FailsAt folder thumbprint file e) :
    e.isRefusal = false := by
  rcases h with hFile | ⟨c, -, -, hKey⟩
  · rcases (fileCertificate_eq_error_iff _ _).mp hFile with
      ⟨text, number, -, -, -, rfl⟩
    rfl
  · rcases (key?_eq_error_iff _ _ _).mp hKey with
      ⟨text, algorithm, -, -, rfl⟩
    rfl

end DirectoryStore

------------------------------------------------------------
-- Stores
------------------------------------------------------------

namespace CertificateStore

/- An entry is handed out unless its name has no text. -/
theorem handle_eq_error_iff
    (entry : CertificateEntry)
    (location : StoreLocation)
    (e : CertificateError) :
    entry.handle location = .error e ↔
      ∃ fault, entry.certificate.subject.text = .error fault ∧
        .unreadableName fault = e := by
  unfold CertificateEntry.handle
  rw [Attempt.bind_eq_error_iff, Attempt.mapError_eq_error_iff]
  constructor
  · rintro (hFault | ⟨subject, -, hPure⟩)
    · exact hFault
    · cases hPure
  · exact .inl

/- A certificate that may not be used now is refused. -/
theorem isRefusal_of_validate
    {handle : CertificateHandle}
    {now : Moment}
    {e : CertificateError}
    (h : handle.validate now = .error e) :
    e.isRefusal = true := by
  unfold CertificateHandle.validate at h
  split_ifs at h
  · cases h
    rfl
  · cases h
    rfl
  · cases h
    rfl

variable [KeyLibrary]

/-
  What keeps a store from telling whether it has a certificate:
  a file that stops the search, with no certificate found before
  it, or a certificate found whose name has no text.
-/
inductive Halts (thumbprint : String) : CertificateStore → Prop
  | file
      (s : DirectoryStore)
      (folder : StoreFolder)
      (before : List (String × Bytes))
      (file : String × Bytes)
      (after : List (String × Bytes))
      (hFolder : s.folder = some folder)
      (hFiles : folder.files = before ++ file :: after)
      (hBefore : ∀ f ∈ before, DirectoryStore.IsPassedOver thumbprint f)
      (hStops : DirectoryStore.Stops folder thumbprint file) :
      Halts thumbprint (.directory s)
  | name
      (s : CertificateStore)
      (entry : CertificateEntry)
      (fault : SubjectFault)
      (hEntry : s.lookup? thumbprint = .ok (some entry))
      (hName : entry.certificate.subject.text = .error fault) :
      Halts thumbprint s

/- The entry of a thumbprint cannot be told where a file stops the search. -/
theorem lookup?_eq_error_iff
    (s : CertificateStore)
    (thumbprint : String)
    (e : CertificateError) :
    s.lookup? thumbprint = .error e ↔
      ∃ d folder before file after, s = .directory d ∧
        d.folder = some folder ∧ folder.files = before ++ file :: after ∧
        (∀ f ∈ before, DirectoryStore.IsPassedOver thumbprint f) ∧
        DirectoryStore.FailsAt folder thumbprint file e := by
  cases s with
  | memory m => simp [lookup?]
  | directory d =>
      cases hFolder : d.folder with
      | none => simp [lookup?, DirectoryStore.lookup?, hFolder]
      | some folder =>
          simp only [lookup?, DirectoryStore.lookup?, hFolder,
            DirectoryStore.search_eq_error_iff]
          constructor
          · rintro ⟨before, file, after, hFiles, hBefore, hFails⟩
            exact ⟨d, folder, before, file, after, rfl, hFolder, hFiles,
              hBefore, hFails⟩
          · rintro ⟨d', folder', before, file, after, hSame, hFolder',
              hFiles, hBefore, hFails⟩
            cases hSame
            cases hFolder.symm.trans hFolder'
            exact ⟨before, file, after, hFiles, hBefore, hFails⟩

/- The search for a certificate fails with its entry or after it. -/
theorem find_eq_error_iff
    (s : CertificateStore)
    (thumbprint : String)
    (e : CertificateError) :
    s.find thumbprint = .error e ↔
      s.lookup? (Thumbprint.normalize thumbprint) = .error e ∨
        ∃ entry fault,
          s.lookup? (Thumbprint.normalize thumbprint) =
            .ok (some entry) ∧
          entry.certificate.subject.text = .error fault ∧
          .unreadableName fault = e := by
  unfold find
  rw [Attempt.bind_eq_error_iff]
  constructor
  · rintro (hEntry | ⟨found?, hEntry, hHandle⟩)
    · exact .inl hEntry
    · cases found? with
      | none => cases hHandle
      | some entry =>
          rcases (Attempt.bind_eq_error_iff _ _ _).mp hHandle with
            hError | ⟨handle, -, hPure⟩
          · rcases (handle_eq_error_iff _ _ _).mp hError with
              ⟨fault, hName, hSame⟩
            exact .inr ⟨entry, fault, hEntry, hName, hSame⟩
          · cases hPure
  · rintro (hEntry | ⟨entry, fault, hEntry, hName, hSame⟩)
    · exact .inl hEntry
    · refine .inr ⟨some entry, hEntry, ?_⟩
      exact (Attempt.bind_eq_error_iff _ _ _).mpr
        (.inl ((handle_eq_error_iff _ _ _).mpr ⟨fault, hName, hSame⟩))

/- A store comes to no answer where it halts. -/
theorem exists_find_eq_error_iff
    (s : CertificateStore)
    (thumbprint : String) :
    (∃ e, s.find thumbprint = .error e) ↔
      s.Halts (Thumbprint.normalize thumbprint) := by
  simp only [find_eq_error_iff, lookup?_eq_error_iff]
  constructor
  · rintro ⟨e, ⟨d, folder, before, file, after, rfl, hFolder, hFiles,
      hBefore, hFails⟩ | ⟨entry, fault, hEntry, hName, -⟩⟩
    · exact .file d folder before file after hFolder hFiles hBefore
        ((DirectoryStore.exists_failsAt_iff _ _ _).mp ⟨e, hFails⟩)
    · exact .name s entry fault hEntry hName
  · rintro (⟨d, folder, before, file, after, hFolder, hFiles, hBefore,
      hStops⟩ | ⟨_, entry, fault, hEntry, hName⟩)
    · rcases (DirectoryStore.exists_failsAt_iff _ _ _).mpr hStops with
        ⟨e, hFails⟩
      exact ⟨e, .inl ⟨d, folder, before, file, after, rfl, hFolder,
        hFiles, hBefore, hFails⟩⟩
    · exact ⟨_, .inr ⟨entry, fault, hEntry, hName, rfl⟩⟩

/- What the search for a certificate fails with is no refusal of it. -/
theorem not_isRefusal_of_find
    {s : CertificateStore}
    {thumbprint : String}
    {e : CertificateError}
    (h : s.find thumbprint = .error e) :
    e.isRefusal = false := by
  rcases (find_eq_error_iff _ _ _).mp h with
    hEntry | ⟨entry, fault, -, -, rfl⟩
  · rcases (lookup?_eq_error_iff _ _ _).mp hEntry with
      ⟨d, folder, before, file, after, -, -, -, -, hFails⟩
    exact hFails.not_isRefusal
  · rfl

/-
  The certificate of a thumbprint is had or refused, whatever
  the time, unless the store halts.
-/
theorem exists_certificate_eq_error_iff
    (s : CertificateStore)
    (now : Moment)
    (thumbprint : String) :
    (∃ e, s.certificate now thumbprint = .error e ∧ e.isRefusal = false) ↔
      Thumbprint.normalize thumbprint ≠ "" ∧
        s.Halts (Thumbprint.normalize thumbprint) := by
  unfold certificate
  by_cases hEmpty : Thumbprint.normalize thumbprint = ""
  · simp [hEmpty, bind, Except.bind, CertificateError.isRefusal]
  have hFind := exists_find_eq_error_iff s (Thumbprint.normalize thumbprint)
  rw [Thumbprint.normalize_normalize] at hFind
  rw [← hFind]
  simp only [ne_eq, hEmpty, not_false_eq_true, true_and]
  constructor
  · rintro ⟨e, hError, hOther⟩
    rcases (Attempt.bind_eq_error_iff _ _ _).mp hError with
      hStore | ⟨handle?, -, hUse⟩
    · exact ⟨e, hStore⟩
    · cases handle? with
      | none =>
          cases hUse
          cases hOther
      | some handle =>
          rcases (Attempt.bind_eq_error_iff _ _ _).mp hUse with
            hRefused | ⟨_, -, hPure⟩
          · rw [isRefusal_of_validate hRefused] at hOther
            cases hOther
          · cases hPure
  · rintro ⟨e, hStore⟩
    exact ⟨e, (Attempt.bind_eq_error_iff _ _ _).mpr (.inl hStore),
      not_isRefusal_of_find hStore⟩

end CertificateStore

end KeyAssertion
