import KeyAssertion.Proofs.Certificate.Lookup
import KeyAssertion.Proofs.Secret.Document

/-
  Which errors leave the resolution of a secret.  The secret is
  refused with an error that tells what is wrong with it, unless
  it is read by something that fails in a way not foreseen: the
  reader of JSON by a document beyond its limits, the reader of
  PEM by a key of an unknown algorithm, the certificate store by a
  certificate that it cannot tell.

  Key definitions include:
    * `SecretError.isRefusal`
    * `Secret.Spills`
    * `Secret.IsContained`

  Key theorems include:
    * `Secret.exists_material_eq_error_iff`
    * `Secret.resolve_isContained_iff`
-/

namespace KeyAssertion

------------------------------------------------------------
-- Refusals
------------------------------------------------------------

/-
  Whether an error refuses the secret.  The others are errors
  of what reads the secret that are passed on as they are.
-/
def SecretError.isRefusal : SecretError → Bool
  | .empty => true
  | .text (.longInteger _) => false
  | .text .tooDeep => false
  | .text _ => true
  | .pem (.unknownAlgorithm _) => false
  | .pem _ => true
  | .certificate e => e.isRefusal

/- Whether the reader gives a text up before it has found a fault in it. -/
inductive Json.IsBeyondLimits (text : String) : Prop
  | longInteger
      (digits : Nat)
      (h : Json.read text = .error (.longInteger digits))
  | tooDeep
      (h : Json.read text = .error .tooDeep)

namespace Secret

/- Whether a secret is looked up by a thumbprint. -/
inductive LooksUp : Secret → String → Prop
  | thumbprint
      (text : String) :
      LooksUp (.thumbprint text) text
  | base64
      (text : String)
      (hNone : HoldsNoDocument text) :
      LooksUp (.base64 text) (Thumbprint.normalize text)

/- Whether an attempt to resolve a secret fails without a refusal. -/
def Escapes (r : Except SecretError KeyMaterial) : Prop :=
  ∃ e, r = .error e ∧ e.isRefusal = false

------------------------------------------------------------
-- Documents
------------------------------------------------------------

/- Base64 holds a document that is not malformed or none. -/
theorem holdsNoDocument_or (text : String) :
    HoldsNoDocument text ∨
      ∃ s, document? (.base64 text) = some s ∧
        ∀ fault, Json.read s ≠ .error (.malformed fault) := by
  by_cases h : ∃ s, document? (.base64 text) = some s ∧
      ∀ fault, Json.read s ≠ .error (.malformed fault)
  · exact .inr h
  · refine .inl ?_
    intro s hDocument
    by_contra hRead
    exact h ⟨s, hDocument, fun fault hFault => hRead ⟨fault, hFault⟩⟩

/- The text of a JWK is had or refused unless it is beyond the limits. -/
theorem escapes_readMaterial_iff (text : String) :
    Escapes ((Jwk.readMaterial text).mapError .text) ↔
      Json.IsBeyondLimits text := by
  constructor
  · rintro ⟨e, hError, hOther⟩
    rcases (Attempt.mapError_eq_error_iff _ _ _).mp hError with
      ⟨fault, hText, rfl⟩
    unfold Jwk.readMaterial at hText
    split at hText
    · rcases (Attempt.mapError_eq_error_iff _ _ _).mp hText with
        ⟨_, -, rfl⟩
      cases hOther
    · cases hText
      cases hOther
    · cases hText
      cases hOther
    · case _ digits hRead => exact .longInteger digits hRead
    · case _ hRead => exact .tooDeep hRead
  · rintro (⟨digits, hRead⟩ | hRead)
    · simp only [Jwk.readMaterial, hRead]
      exact ⟨_, rfl, rfl⟩
    · simp only [Jwk.readMaterial, hRead]
      exact ⟨_, rfl, rfl⟩

------------------------------------------------------------
-- Thumbprints
------------------------------------------------------------

/- A text that is taken for a secret has a character that is not blank. -/
theorem exists_not_blank_of_strip
    {raw : String}
    (h : Text.strip raw ≠ "") :
    ∃ c ∈ (Text.strip raw).toList, Text.isBlank c = false := by
  cases hList : (Text.strip raw).toList with
  | nil => exact absurd (String.toList_eq_nil_iff.mp hList) h
  | cons c rest =>
      refine ⟨c, List.mem_cons_self, ?_⟩
      apply Text.not_of_head?_trimList Text.isBlank raw.toList
      rw [Text.strip, String.toList_ofList] at hList
      rw [hList]
      rfl

/- A thumbprint or Base64 is taken from the text without its blanks. -/
theorem LooksUp.eq_normalize
    {s thumbprint : String}
    {secret : Secret}
    (h : secret.LooksUp thumbprint)
    (hTaken : IsTaken s secret) :
    thumbprint = Thumbprint.normalize s := by
  cases h with
  | thumbprint text =>
      cases hTaken with
      | thumbprint hNoBrace hOpensNot hOther => rfl
  | base64 text hNone =>
      cases hTaken with
      | base64 hNoBrace hOpensNot hLong hBase64 => rfl

/- The text that is looked up is in its normal spelling and not empty. -/
theorem LooksUp.normal
    {raw : Option String}
    {secret : Secret}
    {thumbprint : String}
    (h : secret.LooksUp thumbprint)
    (hDetect : detect? raw = some secret) :
    Thumbprint.normalize thumbprint = thumbprint ∧ thumbprint ≠ "" := by
  cases raw with
  | none => cases hDetect
  | some s =>
      rcases (detect?_eq_some_iff _ _).mp hDetect with ⟨hSome, hTaken⟩
      rcases exists_not_blank_of_strip hSome with ⟨c, hMem, hBlank⟩
      rw [h.eq_normalize hTaken]
      exact ⟨Thumbprint.normalize_normalize _,
        Thumbprint.normalize_ne_empty hMem hBlank⟩

------------------------------------------------------------
-- Keys and Certificates
------------------------------------------------------------

/- A handle gives its key or is refused. -/
theorem isRefusal_of_toMaterial
    {handle : CertificateHandle}
    {e : CertificateError}
    (h : handle.toMaterial = .error e) :
    e.isRefusal = true := by
  unfold CertificateHandle.toMaterial at h
  split at h
  · cases h
    rfl
  · cases h
  · cases h
    rfl

section Library

variable [KeyLibrary]

/- What makes the resolution of a secret fail without a refusal. -/
inductive Spills (store : CertificateStore) : Secret → Prop
  | document
      (secret : Secret)
      (text : String)
      (hDocument : secret.document? = some text)
      (hLimits : Json.IsBeyondLimits text) :
      Spills store secret
  | algorithm
      (text : String)
      (algorithm : LoadedKey.UnknownAlgorithm)
      (hUnknown : LoadedKey.ofPem (Bytes.ofText (Text.strip text)) =
        .error (.unknownAlgorithm algorithm)) :
      Spills store (.pem text)
  | lookup
      (secret : Secret)
      (thumbprint : String)
      (hLookup : secret.LooksUp thumbprint)
      (hHalts : store.Halts thumbprint) :
      Spills store secret

/- A PEM text is had or refused unless its key is of an unknown algorithm. -/
theorem escapes_pem_iff (text : String) :
    Escapes ((KeyPem.toMaterial text).mapError .pem) ↔
      ∃ algorithm, LoadedKey.ofPem (Bytes.ofText (Text.strip text)) =
        .error (.unknownAlgorithm algorithm) := by
  constructor
  · rintro ⟨e, hError, hOther⟩
    rcases (Attempt.mapError_eq_error_iff _ _ _).mp hError with
      ⟨fault, hText, rfl⟩
    unfold KeyPem.toMaterial at hText
    split at hText
    · cases hText
      cases hOther
    · cases hText
      cases hOther
    · case _ algorithm hUnknown => exact ⟨algorithm, hUnknown⟩
    · cases hText
    · cases hText
      cases hOther
  · rintro ⟨algorithm, hUnknown⟩
    simp only [KeyPem.toMaterial, hUnknown]
    exact ⟨_, rfl, rfl⟩

/- The certificate of a thumbprint is had or refused unless the store halts. -/
theorem escapes_certificateMaterial_iff
    (store : CertificateStore)
    (now : Moment)
    {thumbprint : String}
    (hNormal : Thumbprint.normalize thumbprint = thumbprint)
    (hSome : thumbprint ≠ "") :
    Escapes (certificateMaterial store now thumbprint) ↔
      store.Halts thumbprint := by
  have hStore :=
    CertificateStore.exists_certificate_eq_error_iff store now thumbprint
  simp only [hNormal, ne_eq, hSome, not_false_eq_true, true_and] at hStore
  rw [← hStore]
  unfold certificateMaterial
  constructor
  · rintro ⟨e, hError, hOther⟩
    rcases (Attempt.bind_eq_error_iff _ _ _).mp hError with
      hFound | ⟨handle, -, hUse⟩
    · rcases (Attempt.mapError_eq_error_iff _ _ _).mp hFound with
        ⟨fault, hFault, rfl⟩
      exact ⟨fault, hFault, hOther⟩
    · rcases (Attempt.mapError_eq_error_iff _ _ _).mp hUse with
        ⟨fault, hFault, rfl⟩
      have hRefused := isRefusal_of_toMaterial hFault
      rw [SecretError.isRefusal, hRefused] at hOther
      cases hOther
  · rintro ⟨fault, hFault, hOther⟩
    refine ⟨.certificate fault, ?_, hOther⟩
    exact (Attempt.bind_eq_error_iff _ _ _).mpr
      (.inl ((Attempt.mapError_eq_error_iff _ _ _).mpr
        ⟨fault, hFault, rfl⟩))

------------------------------------------------------------
-- Secrets
------------------------------------------------------------

variable {store : CertificateStore} {now : Moment}

/- A JWK spills if its text is beyond the limits. -/
theorem spills_jwk_iff (text : String) :
    Spills store (.jwk text) ↔ Json.IsBeyondLimits text := by
  constructor
  · intro h
    cases h with
    | document _ s hDocument hLimits =>
        cases hDocument
        exact hLimits
    | lookup _ thumbprint hLookup hHalts => cases hLookup
  · exact .document (.jwk text) text rfl

/- A PEM text spills if its key is of an unknown algorithm. -/
theorem spills_pem_iff (text : String) :
    Spills store (.pem text) ↔
      ∃ algorithm, LoadedKey.ofPem (Bytes.ofText (Text.strip text)) =
        .error (.unknownAlgorithm algorithm) := by
  constructor
  · intro h
    cases h with
    | document _ s hDocument hLimits => cases hDocument
    | algorithm _ algorithm hUnknown => exact ⟨algorithm, hUnknown⟩
    | lookup _ thumbprint hLookup hHalts => cases hLookup
  · rintro ⟨algorithm, hUnknown⟩
    exact .algorithm text algorithm hUnknown

/- A thumbprint spills if the store halts. -/
theorem spills_thumbprint_iff (text : String) :
    Spills store (.thumbprint text) ↔ store.Halts text := by
  constructor
  · intro h
    cases h with
    | document _ s hDocument hLimits => cases hDocument
    | lookup _ thumbprint hLookup hHalts =>
        cases hLookup
        exact hHalts
  · exact .lookup (.thumbprint text) text (.thumbprint text)

/- Base64 spills like the document that it holds. -/
theorem spills_base64_of_document
    {text s : String}
    (hDocument : document? (.base64 text) = some s)
    (hRead : ∀ fault, Json.read s ≠ .error (.malformed fault)) :
    Spills store (.base64 text) ↔ Json.IsBeyondLimits s := by
  constructor
  · intro h
    cases h with
    | document _ t hText hLimits =>
        rw [hDocument] at hText
        cases hText
        exact hLimits
    | lookup _ thumbprint hLookup hHalts =>
        cases hLookup with
        | base64 _ hNone =>
            rcases hNone s hDocument with ⟨fault, hFault⟩
            exact absurd hFault (hRead fault)
  · exact .document (.base64 text) s hDocument

/- If it holds no document it spills like a thumbprint. -/
theorem spills_base64_of_holdsNoDocument
    {text : String}
    (hNone : HoldsNoDocument text) :
    Spills store (.base64 text) ↔
      store.Halts (Thumbprint.normalize text) := by
  constructor
  · intro h
    cases h with
    | document _ s hDocument hLimits =>
        rcases hNone s hDocument with ⟨fault, hFault⟩
        rcases hLimits with ⟨digits, hRead⟩ | hRead
        · cases hFault.symm.trans hRead
        · cases hFault.symm.trans hRead
    | lookup _ thumbprint hLookup hHalts =>
        cases hLookup
        exact hHalts
  · exact .lookup (.base64 text) _ (.base64 text hNone)

/-
  The material of a secret is had or refused unless something
  that reads the secret fails.
-/
theorem escapes_material_iff
    {secret : Secret}
    (hNormal : ∀ thumbprint, secret.LooksUp thumbprint →
      Thumbprint.normalize thumbprint = thumbprint ∧ thumbprint ≠ "") :
    Escapes (secret.material store now) ↔ secret.Spills store := by
  cases secret with
  | jwk text =>
      rw [spills_jwk_iff]
      exact escapes_readMaterial_iff text
  | pem text =>
      rw [spills_pem_iff]
      exact escapes_pem_iff text
  | base64 text =>
      rcases holdsNoDocument_or text with hNone | ⟨s, hDocument, hRead⟩
      · rcases hNormal _ (.base64 text hNone) with ⟨hSpelling, hSome⟩
        rw [material_base64_of_holdsNoDocument store now hNone,
          spills_base64_of_holdsNoDocument hNone]
        exact escapes_certificateMaterial_iff store now hSpelling hSome
      · rw [material_base64_of_document store now hDocument hRead,
          spills_base64_of_document hDocument hRead]
        exact escapes_readMaterial_iff s
  | thumbprint text =>
      rcases hNormal text (.thumbprint text) with ⟨hSpelling, hSome⟩
      rw [spills_thumbprint_iff]
      exact escapes_certificateMaterial_iff store now hSpelling hSome

/-
  Whether the resolution of a text comes to material or to a
  refusal, and takes Base64 that cannot be read as JSON for a
  thumbprint.
-/
structure IsContained
    (store : CertificateStore)
    (now : Moment)
    (raw : Option String) : Prop where
  refusal : ∀ e, resolve store now raw = .error e → e.isRefusal = true
  fallsThrough : ∀ text, detect? raw = some (.base64 text) →
    (∀ s v, document? (.base64 text) = some s → Json.read s ≠ .ok v) →
      resolve store now raw =
        certificateMaterial store now (Thumbprint.normalize text)

/- A text that is taken for a secret is resolved to its material. -/
theorem resolve_of_detect?
    {raw : Option String}
    {secret : Secret}
    (hDetect : detect? raw = some secret) :
    resolve store now raw = secret.material store now := by
  simp only [resolve, hDetect]

/- It escapes if and only if the secret spills. -/
theorem escapes_resolve_iff
    {raw : Option String}
    {secret : Secret}
    (hDetect : detect? raw = some secret) :
    Escapes (resolve store now raw) ↔ secret.Spills store := by
  rw [resolve_of_detect? hDetect]
  exact escapes_material_iff fun _ hLookup => hLookup.normal hDetect

/-
  A text is resolved to material or refused, and Base64 without
  JSON is taken for a thumbprint, if and only if it spills
  nothing as the secret that it is taken for.
-/
theorem resolve_isContained_iff
    (store : CertificateStore)
    (now : Moment)
    (raw : Option String) :
    IsContained store now raw ↔
      ∀ secret, detect? raw = some secret → ¬ secret.Spills store := by
  constructor
  · intro hContained secret hDetect hSpills
    rcases (escapes_resolve_iff hDetect).mpr hSpills with
      ⟨e, hError, hOther⟩
    rw [hContained.refusal e hError] at hOther
    cases hOther
  · intro hNone
    constructor
    · intro e hError
      cases hDetect : detect? raw with
      | none =>
          simp only [resolve, hDetect] at hError
          cases hError
          rfl
      | some secret =>
          by_contra hRefusal
          have hOther : e.isRefusal = false := by
            simpa using hRefusal
          exact hNone secret hDetect
            ((escapes_resolve_iff hDetect).mp ⟨e, hError, hOther⟩)
    · intro text hDetect hJson
      rw [resolve_of_detect? hDetect]
      rcases holdsNoDocument_or text with hHolds | ⟨s, hDocument, hRead⟩
      · exact material_base64_of_holdsNoDocument store now hHolds
      · have hLimits : Json.IsBeyondLimits s := by
          cases hResult : Json.read s with
          | ok v => exact absurd hResult (hJson s v hDocument)
          | error e =>
              cases e with
              | malformed fault => exact absurd hResult (hRead fault)
              | longInteger digits => exact .longInteger digits hResult
              | tooDeep => exact .tooDeep hResult
        exact absurd (.document (.base64 text) s hDocument hLimits)
          (hNone _ hDetect)

end Library

/- The least whole number of too many digits. -/
def longNumber : Nat :=
  10 ^ Json.maxIntegerDigits

/- It has a digit more than a number may have. -/
theorem maxIntegerDigits_lt_longNumber :
    Json.maxIntegerDigits < (Nat.toDigits 10 longNumber).length := by
  apply Nat.lt_of_not_le
  rw [Nat.length_toDigits_le_iff (by decide) (by decide)]
  exact Nat.lt_irrefl longNumber

/- The text of an object with this number. -/
def longDocument : String :=
  Json.write Json.spaced (.object [(.text "d", .integer longNumber)])

/- The reader gives it up. -/
theorem read_longDocument :
    Json.read longDocument =
      .error (.longInteger (Nat.toDigits 10 longNumber).length) := by
  have hLong := maxIntegerDigits_lt_longNumber
  rw [← Int.natAbs_natCast longNumber] at hLong
  have hRead :=
    Json.read_write_longInteger Json.spaced_isPlain (.text "d") hLong []
  rw [Int.natAbs_natCast] at hRead
  exact hRead

/- It is long enough for its Base64 form to be recognized. -/
theorem longestNonBase64_lt_longDocument :
    longestNonBase64 <
      (Base64.encode Base64.standard (Bytes.ofText longDocument)).length := by
  have hDigits := maxIntegerDigits_lt_longNumber
  have hBase64 := Base64.length_le_length_encode Base64.standard
    (Bytes.ofText longDocument)
  have hBytes := Bytes.length_le_length_ofText longDocument
  have hText :
      (Nat.toDigits 10 longNumber).length ≤ longDocument.toList.length := by
    have hSign : ¬ ((longNumber : Nat) : Int) < 0 := by
      omega
    unfold longDocument Json.write
    simp only [Json.writeList, Json.writeMembers, Text.signedDecimal,
      if_neg hSign, Text.decimal, Int.toNat_natCast, String.toList_ofList,
      List.length_cons, List.length_append]
    omega
  have hLimit : longestNonBase64 < Json.maxIntegerDigits := by
    decide
  omega

/- Its Base64 form is neither refused nor looked up. -/
theorem not_isContained_of_longInteger :
    ¬ IsContained (.memory {}) .epoch
      (some (String.ofList
        (Base64.encode Base64.standard (Bytes.ofText longDocument)))) := by
  rw [resolve_isContained_iff]
  intro hNone
  exact hNone _ (detect?_encode longestNonBase64_lt_longDocument)
    (.document _ longDocument (document?_encode longDocument)
      (.longInteger _ read_longDocument))

end Secret

end KeyAssertion
