import KeyAssertion.Proofs.Json.Sorting
import KeyAssertion.Proofs.Key.Agreement

/-
  The text that a thumbprint is taken of tells the public key
  and nothing else: it is the same for two imported JWKs if and
  only if they have the same modulus and public exponent, in
  whatever way these are spelled, and for any three texts it is
  the same only if the texts are.

  Key definitions include:
    * `Jwk.HasTexts`
    * `Jwk.publicText`
    * `Jwk.IsPublished`
    * `Hash.Collides`

  Key theorems include:
    * `Json.write_inj`
    * `Jwk.publicText_inj`
    * `Jwk.canonicalText_of_hasTexts`
    * `Jwk.exists_isPublished`
    * `Jwk.identity_canonical`
-/

namespace KeyAssertion

------------------------------------------------------------
-- Forms That Can Be Undone
------------------------------------------------------------

/- Forms of which each gives back what it is of are different. -/
theorem form_inj
    {α β γ : Type}
    {f : α → β}
    {g : β → γ}
    {h : α → γ}
    {a b : α}
    (hInj : Function.Injective h)
    (ha : g (f a) = h a)
    (hb : g (f b) = h b) :
    f a = f b ↔ a = b := by
  constructor
  · intro hSame
    apply hInj
    rw [← ha, hSame, hb]
  · rintro rfl
    rfl

/- Values that can be read are written differently. -/
theorem Json.write_inj
    {style : Style}
    {v w : Json}
    (hPlain : style.IsPlain)
    (hv : Readable maxDepth v)
    (hw : Readable maxDepth w) :
    write style v = write style w ↔ v = w :=
  form_inj (f := write style) (g := read) (fun _ _ => Except.ok.inj)
    (read_write hPlain hv) (read_write hPlain hw)

/- Different texts have different bytes. -/
theorem Bytes.ofText_inj
    {s t : String} :
    ofText s = ofText t ↔ s = t :=
  form_inj (f := ofText) (g := toText?) (Option.some_injective String)
    (toText?_ofText s) (toText?_ofText t)

/- The bytes of an unpadded form, which is filled up first. -/
def Base64.ofUnpadded (s : String) : Except Lenient.Fault (List UInt8) :=
  Lenient.decode (s.toList ++ Key.padding s.toList.length)

/- They are those that were written. -/
theorem Base64.ofUnpadded_encodeUrl (bytes : List UInt8) :
    ofUnpadded (encodeUrl bytes) = .ok bytes := by
  have hPadded :
      encodeUnpadded url bytes ++
          Key.padding (encodeUnpadded url bytes).length =
        encode url bytes :=
    (encode_url_eq bytes).symm
  rw [ofUnpadded, encodeUrl, String.toList_ofList, hPadded,
    Lenient.decode_encode_url]

/- Different bytes have different forms in Base64. -/
theorem Base64.encodeUrl_inj
    {a b : List UInt8} :
    encodeUrl a = encodeUrl b ↔ a = b :=
  form_inj (f := encodeUrl) (g := ofUnpadded) (fun _ _ => Except.ok.inj)
    (ofUnpadded_encodeUrl a) (ofUnpadded_encodeUrl b)

/- Different numbers have different members. -/
theorem Key.writeMember_inj
    {n k : Nat} :
    writeMember n = writeMember k ↔ n = k :=
  form_inj (f := writeMember) (g := fun s => readMember (.text s))
    (fun _ _ => Except.ok.inj)
    (readMember_writeMember n) (readMember_writeMember k)

/- Whether different bytes have the same hash. -/
def Hash.Collides (a b : Bytes) : Prop :=
  a ≠ b ∧ sha256 a = sha256 b

namespace Jwk

------------------------------------------------------------
-- Texts
------------------------------------------------------------

/- Whether the members of a thumbprint are these texts. -/
structure HasTexts
    (jwk : JsonObject)
    (e kty n : String) : Prop where
  exponent : jwk.member? "e" = some (Json.text e)
  type : jwk.member? "kty" = some (Json.text kty)
  modulus : jwk.member? "n" = some (Json.text n)

/- The three members of a thumbprint, in order of their names. -/
def publicMembers (e kty n : String) : JsonObject :=
  JsonObject.ofTexts
    [("e", Json.text e), ("kty", Json.text kty), ("n", Json.text n)]

/- The text of these members alone, in this order. -/
def publicText (e kty n : String) : String :=
  Json.write Json.compact (.object (publicMembers e kty n))

section Texts

variable {e kty n e' kty' n' : String}

/- The members can be read. -/
theorem readable_publicMembers (e kty n : String) :
    Json.Readable Json.maxDepth (.object (publicMembers e kty n)) := by
  refine ⟨by decide, by simp [publicMembers, JsonObject.ofTexts], ?_⟩
  exact ⟨trivial, trivial, trivial, trivial⟩

/- So their text tells the three texts. -/
theorem publicText_inj :
    publicText e kty n = publicText e' kty' n' ↔
      e = e' ∧ kty = kty' ∧ n = n' := by
  unfold publicText
  rw [Json.write_inj Json.compact_isPlain (readable_publicMembers _ _ _)
    (readable_publicMembers _ _ _)]
  simp [publicMembers, JsonObject.ofTexts, Json.text]

/- It is what is hashed, whatever else is in the JWK. -/
theorem canonicalText_of_hasTexts
    {jwk : JsonObject}
    (h : HasTexts jwk e kty n) :
    canonicalText jwk = .ok (publicText e kty n) := by
  have hSorted :
      Json.sorted (.object (publicMembers e kty n)) =
        .object (publicMembers e kty n) := rfl
  simp only [canonicalText, h.exponent, h.type, h.modulus]
  change
    Except.ok (Json.write Json.compact
      (Json.sorted (.object (publicMembers e kty n)))) = _
  rw [hSorted]
  rfl

/- So the thumbprint is the hash of this text. -/
theorem thumbprint_of_hasTexts
    {jwk : JsonObject}
    (h : HasTexts jwk e kty n) :
    thumbprint jwk =
      .ok (Base64.encodeUrl
        (Hash.sha256 (Bytes.ofText (publicText e kty n)))) := by
  unfold thumbprint
  rw [canonicalText_of_hasTexts h]
  rfl

end Texts

------------------------------------------------------------
-- Public Keys
------------------------------------------------------------

/-
  Whether a JWK and its material have a public key of these
  numbers, and this text is the one hashed for the thumbprint.
-/
structure IsPublished
    (jwk : JsonObject)
    (m : KeyMaterial)
    (n e : Nat)
    (t : String) : Prop where
  modulus :
    number jwk "n" = .ok n ∧ number m.publicJwk "n" = .ok n
  exponent :
    number jwk "e" = .ok e ∧ number m.publicJwk "e" = .ok e
  text : canonicalText m.publicJwk = .ok t
  thumbprint :
    m.thumbprint = Base64.encodeUrl (Hash.sha256 (Bytes.ofText t))

/- The public JWK of material has the texts of its members. -/
theorem hasTexts_publicJwk (m : KeyMaterial) :
    HasTexts m.publicJwk m.e m.kty m.n :=
  ⟨rfl, rfl, rfl⟩

/- The thumbprint of material is the hash of the text of its members. -/
theorem thumbprint_material (m : KeyMaterial) :
    m.thumbprint =
      Base64.encodeUrl
        (Hash.sha256 (Bytes.ofText (publicText m.e m.kty m.n))) := by
  unfold KeyMaterial.thumbprint
  rw [thumbprint_of_hasTexts (hasTexts_publicJwk m)]

/- The text for a public key is that of its written numbers. -/
def keyText (n e : Nat) : String :=
  publicText (Key.writeMember e) "RSA" (Key.writeMember n)

/- It tells the two numbers. -/
theorem keyText_inj
    {n e n' e' : Nat} :
    keyText n e = keyText n' e' ↔ n = n' ∧ e = e' := by
  unfold keyText
  rw [publicText_inj, Key.writeMember_inj, Key.writeMember_inj]
  simp only [true_and, and_comm]

/- Every imported JWK has a public key with this text. -/
theorem exists_isPublished
    {jwk : JsonObject}
    {m : KeyMaterial}
    (h : toMaterial jwk = .ok m) :
    ∃ n e, IsPublished jwk m n e (keyText n e) := by
  rcases (toMaterial_eq_ok_iff _ _).mp h with
    ⟨-, -, -, alg, key, kid, use, -, hKey, -, -, rfl⟩
  rcases (numbers_eq_ok_iff _ _).mp ((key_eq_ok_iff _ _).mp hKey).1 with
    ⟨⟨hModulus, hExponent, -⟩, -⟩
  refine ⟨key.numbers.n, key.numbers.e, ?_⟩
  constructor
  · exact ⟨hModulus, number_of_writeMember rfl⟩
  · exact ⟨hExponent, number_of_writeMember rfl⟩
  · exact canonicalText_of_hasTexts (hasTexts_publicJwk _)
  · exact thumbprint_material _

------------------------------------------------------------
-- Identity
------------------------------------------------------------

/-
  Two materials have the same thumbprint if and only if it is
  taken of the same text or of two texts with the same hash.
-/
theorem thumbprint_eq_iff
    {jwk jwk' : JsonObject}
    {m m' : KeyMaterial}
    {n e n' e' : Nat}
    {t t' : String}
    (h : IsPublished jwk m n e t)
    (h' : IsPublished jwk' m' n' e' t') :
    m.thumbprint = m'.thumbprint ↔
      t = t' ∨ Hash.Collides (Bytes.ofText t) (Bytes.ofText t') := by
  rw [h.thumbprint, h'.thumbprint, Base64.encodeUrl_inj]
  constructor
  · intro hHash
    by_cases hText : t = t'
    · exact .inl hText
    · exact .inr ⟨mt Bytes.ofText_inj.mp hText, hHash⟩
  · rintro (rfl | hCollides)
    · rfl
    · exact hCollides.2

/-
  Thumbprints identify public keys:
    * for two JWKs that are imported, the texts hashed are the
      same if and only if both numbers are, and the thumbprints
      if and only if the numbers are or the hashes collide;
    * for any three texts as members, the text hashed tells all
      three, and nothing else in the JWK has a part in it.
-/
theorem identity_canonical :
    (∀ jwk jwk' m m',
      toMaterial jwk = .ok m →
        toMaterial jwk' = .ok m' →
          ∃ n e t n' e' t',
            IsPublished jwk m n e t ∧ IsPublished jwk' m' n' e' t' ∧
              (t = t' ↔ n = n' ∧ e = e') ∧
              (m.thumbprint = m'.thumbprint ↔
                (n = n' ∧ e = e') ∨
                  Hash.Collides (Bytes.ofText t) (Bytes.ofText t'))) ∧
      ∀ jwk jwk' e kty n e' kty' n',
        HasTexts jwk e kty n →
          HasTexts jwk' e' kty' n' →
            ∃ t t',
              canonicalText jwk = .ok t ∧ canonicalText jwk' = .ok t' ∧
                (t = t' ↔ e = e' ∧ kty = kty' ∧ n = n') := by
  constructor
  · intro jwk jwk' m m' hMaterial hMaterial'
    rcases exists_isPublished hMaterial with ⟨n, e, hPublished⟩
    rcases exists_isPublished hMaterial' with ⟨n', e', hPublished'⟩
    refine ⟨n, e, _, n', e', _, hPublished, hPublished', keyText_inj, ?_⟩
    rw [thumbprint_eq_iff hPublished hPublished', keyText_inj]
  · intro jwk jwk' e kty n e' kty' n' hTexts hTexts'
    exact ⟨_, _, canonicalText_of_hasTexts hTexts,
      canonicalText_of_hasTexts hTexts', publicText_inj⟩

/- The bare JWK in another order and spelling, with a key id. -/
def respelledJwk : JsonObject :=
  JsonObject.ofTexts
    [("kid", Json.text "k"), ("d", Json.text "Bw="),
      ("e", Json.text "Aw=="), ("n", Json.text "ACE"),
      ("kty", Json.text "RSA")]

/-
  The same text is hashed for the two materials, though not for
  the two JWKs as they are spelled.
-/
theorem identity_canonical_of_respelled :
    (∃ m m',
      toMaterial bareJwk = .ok m ∧ toMaterial respelledJwk = .ok m' ∧
        canonicalText m.publicJwk = canonicalText m'.publicJwk) ∧
      canonicalText bareJwk ≠ canonicalText respelledJwk := by
  have hSpelled : canonicalText bareJwk ≠ canonicalText respelledJwk := by
    have hBare : HasTexts bareJwk "Aw" "RSA" "IQ" := ⟨rfl, rfl, rfl⟩
    have hOther : HasTexts respelledJwk "Aw==" "RSA" "ACE" :=
      ⟨rfl, rfl, rfl⟩
    rcases identity_canonical.2 _ _ _ _ _ _ _ _ hBare hOther with
      ⟨t, t', hText, hText', hSame⟩
    rw [hText, hText']
    intro hEqual
    exact absurd (hSame.mp (Except.ok.inj hEqual)).1 (by decide)
  refine ⟨?_, hSpelled⟩
  rcases exists_toMaterial_bareJwk with ⟨m, hMaterial⟩
  have hSome : (toMaterial respelledJwk).toOption.isSome = true := by
    decide +kernel
  rcases Option.isSome_iff_exists.mp hSome with ⟨m', hOption⟩
  have hMaterial' := (Attempt.toOption_eq_some_iff _ _).mp hOption
  rcases identity_canonical.1 _ _ _ _ hMaterial hMaterial' with
    ⟨n, e, t, n', e', t', h, h', hText, -⟩
  have hModulus : n = n' := by
    have hRead : number bareJwk "n" = number respelledJwk "n" := by
      decide +kernel
    rw [h.modulus.1, h'.modulus.1] at hRead
    exact Except.ok.inj hRead
  have hExponent : e = e' := by
    have hRead : number bareJwk "e" = number respelledJwk "e" := by
      decide +kernel
    rw [h.exponent.1, h'.exponent.1] at hRead
    exact Except.ok.inj hRead
  refine ⟨m, m', hMaterial, hMaterial', ?_⟩
  rw [h.text, h'.text, hText.mpr ⟨hModulus, hExponent⟩]

end Jwk

end KeyAssertion
