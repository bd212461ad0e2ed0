import KeyAssertion.Proofs.Encoding.Strict
import KeyAssertion.Proofs.Json.Reading
import KeyAssertion.Proofs.Key.Export
import KeyAssertion.Proofs.Secret.Detection
import KeyAssertion.Secret.Resolver

/-
  Secrets that are JSON documents: a key that is written as a
  JWK is resolved to what was written, and the Base64 form of a
  document is resolved to what the document is.

  Key definitions include:
    * `Secret.document?`
    * `Secret.HoldsNoDocument`

  Key theorems include:
    * `Secret.resolve_write_toJwk`
    * `Secret.material_base64_of_document`
    * `Secret.material_base64_of_holdsNoDocument`
    * `Secret.resolve_encode_eq_iff`
-/

namespace KeyAssertion

------------------------------------------------------------
-- Written Keys
------------------------------------------------------------

namespace Secret

variable (store : CertificateStore) (now : Moment)

/- What is written for an object has no blanks at its ends. -/
theorem strip_write_object
    (style : Json.Style)
    (members : JsonObject) :
    Text.strip (Json.write style (.object members)) =
      Json.write style (.object members) := by
  unfold Text.strip Json.write
  rw [String.toList_ofList, Text.trimList_eq_self]
  · intro c hHead
    cases hHead
    decide
  · intro c hLast
    rw [Json.writeList, ← List.cons_append, List.getLast?_concat] at hLast
    cases hLast
    decide

/- It is taken for a JWK. -/
theorem detect?_write_object
    (style : Json.Style)
    (members : JsonObject) :
    detect? (some (Json.write style (.object members))) =
      some (.jwk (Json.write style (.object members))) := by
  apply detect?_of_brace (strip_write_object style members)
  rw [Json.write, String.toList_ofList]
  rfl

/-
  A key that passes the check of its numbers, written as a
  private JWK, is resolved to the material that was written:
  the numbers, the algorithm, the key id and the use, each of
  the last three as it was or absent as before.
-/
theorem resolve_write_toJwk
    [KeyLibrary]
    {key : Rsa.PrivateKey}
    {alg : Option String}
    (kid use : Option JsonString)
    (hCheck : key.numbers.check = .ok key)
    (hAlg : ∀ name, alg = some name →
      ∃ a ∈ SigningAlgorithm.all, a.name = name) :
    resolve store now
        (some (Json.write Json.spaced
          (.object (KeyMaterial.ofKey key alg kid use).toJwk))) =
      .ok (KeyMaterial.ofKey key alg kid use) := by
  have hRead :
      Json.read (Json.write Json.spaced
          (.object (KeyMaterial.ofKey key alg kid use).toJwk)) =
        .ok (.object (KeyMaterial.ofKey key alg kid use).toJwk) :=
    Json.read_write Json.spaced_isPlain (KeyMaterial.readable_toJwk _)
  have hImport :
      Jwk.toMaterial (KeyMaterial.ofKey key alg kid use).toJwk =
        .ok (KeyMaterial.ofKey key alg kid use) :=
    KeyMaterial.toMaterial_toJwk hCheck hAlg
  unfold resolve
  rw [detect?_write_object]
  simp only [material, Jwk.readMaterial, hRead, hImport]
  rfl

/- The smallest key: its factors are five and three. -/
def smallKey : Rsa.PrivateKey :=
  ⟨⟨15, 3, 3, 5, 3, 3, 1, 2⟩, by decide⟩

/- Its numbers pass the check. -/
theorem check_smallKey :
    smallKey.numbers.check = .ok smallKey :=
  (Rsa.Numbers.check_eq_ok_iff _ _).mpr ⟨rfl, by decide, by decide⟩

/- An empty key id is kept, and an absent use stays absent. -/
theorem resolve_write_toJwk_of_smallKey :
    smallKey.numbers.check = .ok smallKey ∧
      resolve (.memory {}) .epoch
          (some (Json.write Json.spaced
            (.object (KeyMaterial.ofKey smallKey (some "PS384")
              (some (.text "")) none).toJwk))) =
        .ok (KeyMaterial.ofKey smallKey (some "PS384")
          (some (.text "")) none) := by
  refine ⟨check_smallKey, ?_⟩
  apply resolve_write_toJwk (.memory {}) .epoch (some (.text "")) none
    check_smallKey
  rintro name ⟨⟩
  exact ⟨⟨.pss, .sha384⟩, by decide, rfl⟩

------------------------------------------------------------
-- Documents in Base64
------------------------------------------------------------

/- The text that is read as JSON: a JWK, or what a Base64 text encodes. -/
def document? : Secret → Option String
  | .jwk text => some text
  | .base64 text =>
      (Base64.Strict.decode text.toList).bind Bytes.toText?
  | _ => none

/- Whether a Base64 text encodes no text or a malformed one. -/
def HoldsNoDocument (text : String) : Prop :=
  ∀ s, document? (.base64 text) = some s →
    ∃ fault, Json.read s = .error (.malformed fault)

/- The Base64 form of a text encodes the text. -/
theorem document?_encode (s : String) :
    document? (.base64 (String.ofList
        (Base64.encode Base64.standard (Bytes.ofText s)))) = some s := by
  simp only [document?, String.toList_ofList,
    Base64.Strict.decode_encode, Option.bind_some, Bytes.toText?_ofText]

/- The text that a Base64 text holds is that of the document. -/
theorem base64Text_eq (text : String) :
    base64Text text =
      match document? (.base64 text) with
      | none => .ok none
      | some s =>
          match Json.read s with
          | .ok _ => .ok (some s)
          | .error (.malformed _) => .ok none
          | .error (.longInteger digits) => .error (.longInteger digits)
          | .error .tooDeep => .error .tooDeep :=
  rfl

section Library

variable [KeyLibrary]

/- A Base64 text is as good as the text that it encodes, if not malformed. -/
theorem material_base64_of_document
    {text s : String}
    (hDocument : document? (.base64 text) = some s)
    (hRead : ∀ fault, Json.read s ≠ .error (.malformed fault)) :
    material store now (.base64 text) = material store now (.jwk s) := by
  have hText := base64Text_eq text
  rw [hDocument] at hText
  simp only [material]
  cases hResult : Json.read s with
  | ok v =>
      simp only [hResult] at hText
      simp only [hText, Except.mapError, bind, Except.bind]
  | error e =>
      simp only [Jwk.readMaterial, hResult]
      cases e with
      | malformed fault => exact absurd hResult (hRead fault)
      | longInteger digits =>
          simp only [hResult] at hText
          simp only [hText, Except.mapError, bind, Except.bind]
      | tooDeep =>
          simp only [hResult] at hText
          simp only [hText, Except.mapError, bind, Except.bind]

/- Any other Base64 text is taken for a thumbprint. -/
theorem material_base64_of_holdsNoDocument
    {text : String}
    (h : HoldsNoDocument text) :
    material store now (.base64 text) =
      certificateMaterial store now (Thumbprint.normalize text) := by
  have hText : base64Text text = .ok none := by
    rw [base64Text_eq]
    cases hDocument : document? (.base64 text) with
    | none => rfl
    | some s =>
        rcases h s hDocument with ⟨fault, hRead⟩
        simp only [hRead]
  simp only [material, hText, Except.mapError, bind, Except.bind]

/- The lookup of a certificate finds no fault in a text. -/
theorem certificateMaterial_ne_text
    (thumbprint : String)
    (e : Jwk.TextError) :
    certificateMaterial store now thumbprint ≠ .error (.text e) := by
  unfold certificateMaterial
  intro h
  simp only [Attempt.bind_eq_error_iff, Attempt.mapError_eq_error_iff] at h
  rcases h with ⟨e', -, hSame⟩ | ⟨handle, -, e', -, hSame⟩
  · cases hSame
  · cases hSame

/-
  A text that begins with a brace and is long enough is
  resolved like its Base64 form, with blanks around it or not,
  if it is not malformed.  A malformed text is refused, but its
  Base64 form is taken for a thumbprint.
-/
theorem resolve_encode_eq_iff
    {s : String}
    {front back : List Char}
    (hStrip : Text.strip s = s)
    (hBrace : s.toList.head? = some '\x7b')
    (hLong : longestNonBase64 <
      (Base64.encode Base64.standard (Bytes.ofText s)).length)
    (hFront : ∀ c ∈ front, Text.isBlank c = true)
    (hBack : ∀ c ∈ back, Text.isBlank c = true) :
    resolve store now
        (some (String.ofList
          (front ++ Base64.encode Base64.standard (Bytes.ofText s)
            ++ back))) =
      resolve store now (some s) ↔
      ∀ fault, Json.read s ≠ .error (.malformed fault) := by
  unfold resolve
  rw [detect?_surrounded hFront hBack, detect?_encode hLong,
    detect?_of_brace hStrip hBrace]
  constructor
  · intro hSame fault hRead
    have hNone :
        HoldsNoDocument (String.ofList
          (Base64.encode Base64.standard (Bytes.ofText s))) := by
      intro t hText
      rw [document?_encode] at hText
      cases hText
      exact ⟨fault, hRead⟩
    have hRefused :
        material store now (.jwk s) =
          .error (.text (.malformed fault)) := by
      simp only [material, Jwk.readMaterial, hRead]
      rfl
    simp only [material_base64_of_holdsNoDocument store now hNone] at hSame
    exact certificateMaterial_ne_text store now _ _
      (hSame.trans hRefused)
  · exact material_base64_of_document store now (document?_encode s)

end Library

/- The JWK of the smallest key. -/
def smallDocument : String :=
  Json.write Json.spaced
    (.object (KeyMaterial.ofKey smallKey none none none).toJwk)

/- Its Base64 form, with a blank on either side, is resolved like it. -/
theorem resolve_encode_eq_of_smallDocument :
    resolve (.memory {}) .epoch
        (some (String.ofList
          ([' '] ++
            Base64.encode Base64.standard (Bytes.ofText smallDocument) ++
            ['\n']))) =
      resolve (.memory {}) .epoch (some smallDocument) := by
  have hRead :
      Json.read smallDocument =
        .ok (.object (KeyMaterial.ofKey smallKey none none none).toJwk) :=
    Json.read_write Json.spaced_isPlain (KeyMaterial.readable_toJwk _)
  have hLong :
      longestNonBase64 <
        (Base64.encode Base64.standard
          (Bytes.ofText smallDocument)).length := by
    decide +kernel
  have hStrip : Text.strip smallDocument = smallDocument :=
    strip_write_object Json.spaced _
  have hBrace : smallDocument.toList.head? = some '\x7b' := by
    decide +kernel
  have hSpace : ∀ c ∈ [' '], Text.isBlank c = true := by
    intro c hMem
    rw [List.mem_singleton.mp hMem]
    decide
  have hLine : ∀ c ∈ ['\n'], Text.isBlank c = true := by
    intro c hMem
    rw [List.mem_singleton.mp hMem]
    decide
  apply (resolve_encode_eq_iff (.memory {}) .epoch hStrip hBrace hLong
    hSpace hLine).mpr
  intro fault hFault
  rw [hRead] at hFault
  cases hFault

end Secret

end KeyAssertion
