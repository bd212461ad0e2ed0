import KeyAssertion.Key.Pair
import KeyAssertion.Proofs.Key.Identity

/-
  Pairs of a public and a private JWK that are made for a new
  key.  The private text is imported as the material that it
  was written for, the public one has the public members of it
  with the same values, and the key id is the one asked for or
  the thumbprint of either.

  Key definitions include:
    * `KeyPair.keyId`
    * `KeyPair.publicTextOf`
    * `KeyPair.Request.issue`
    * `KeyPair.IsOf`
    * `KeyPair.HasKeyId`

  Key theorems include:
    * `Jwk.keyText_eq`
    * `KeyPair.generate_eq`
    * `KeyPair.publicText_of_generate`
    * `KeyPair.exists_ofKey`
    * `KeyPair.issue_isConsistent`
-/

namespace KeyAssertion

------------------------------------------------------------
-- The Text of a Thumbprint
------------------------------------------------------------

/- A text whose characters need no escape is written as it is. -/
theorem Json.writeString_of_plain
    {s : String}
    (h : ∀ c ∈ s.toList, writePoint c.toNat = [c]) :
    writeString (.text s) = '"' :: (s.toList ++ ['"']) := by
  have hPoints :
      (s.toList.map Char.toNat).flatMap writePoint = s.toList := by
    rw [List.flatMap_map, List.flatMap_congr h, List.flatMap_singleton']
  rw [writeString, JsonString.points, hPoints]

/- So are numbers as members of a JWK. -/
theorem Json.writeString_writeMember (n : Nat) :
    writeString (.text (Key.writeMember n)) =
      '"' :: ((Key.writeMember n).toList ++ ['"']) := by
  have hAll :
      ∀ k : Fin 64,
        writePoint (Base64.url.digit k).toNat = [Base64.url.digit k] := by
    decide
  apply writeString_of_plain
  intro c hMem
  rw [Key.writeMember, Base64.encodeUrl, String.toList_ofList] at hMem
  rcases Base64.exists_digit_of_mem_encodeUnpadded hMem with ⟨k, hk, rfl⟩
  exact hAll ⟨k, hk⟩

namespace Jwk

/-
  The text that the thumbprint of an RSA key is taken of: the
  required members in order of their names, without blanks.
-/
def thumbprintText (n e : Nat) : String :=
  "\x7b\"e\":\"" ++ Key.writeMember e
    ++ "\",\"kty\":\"RSA\",\"n\":\"" ++ Key.writeMember n ++ "\"\x7d"

/- It is the one hashed for a public key. -/
theorem keyText_eq (n e : Nat) :
    keyText n e = thumbprintText n e := by
  have he : Json.writeString (.text "e") = "\"e\"".toList := rfl
  have hkty : Json.writeString (.text "kty") = "\"kty\"".toList := rfl
  have hn : Json.writeString (.text "n") = "\"n\"".toList := rfl
  have hRsa : Json.writeString (.text "RSA") = "\"RSA\"".toList := rfl
  apply String.toList_inj.mp
  simp [keyText, thumbprintText, publicText, publicMembers, Json.write,
    Json.writeList, Json.writeMembers, JsonObject.ofTexts, Json.text,
    Json.compact, Json.writeString_writeMember, he, hkty, hn, hRsa]

end Jwk

namespace SigningAlgorithm

/- The names of the algorithms for RSA keys. -/
def family : List String :=
  ["RS256", "RS384", "RS512", "PS256", "PS384", "PS512"]

/- They are those of the algorithms that are supported. -/
theorem map_name_all : all.map name = family := by
  decide

/- Each of them is the name of one. -/
theorem exists_of_mem_family
    {algorithm : String}
    (h : algorithm ∈ family) :
    ∃ a ∈ all, a.name = algorithm := by
  rw [← map_name_all] at h
  exact List.mem_map.mp h

/- The name of each supported algorithm is one of them. -/
theorem name_mem_family
    (a : SigningAlgorithm)
    (h : a ∈ all) :
    a.name ∈ family := by
  rw [← map_name_all]
  exact List.mem_map_of_mem h

end SigningAlgorithm

namespace KeyPair

------------------------------------------------------------
-- Members
------------------------------------------------------------

/-
  The key id of a new key: the one asked for, or else the
  thumbprint, in which the private numbers have no part.
-/
def keyId
    (n e : Nat)
    (kid : Option JsonString) : JsonString :=
  (kid.filter (!·.isEmpty)).getD
    (.text (KeyMaterial.ofNumbers ⟨n, e, 0, 0, 0, 0, 0, 0⟩
      none none none).thumbprint)

/- The text of the public JWK of a modulus and an exponent. -/
def publicTextOf
    (n e : Nat)
    (algorithm : String)
    (use : JsonString)
    (kid : Option JsonString) : String :=
  Json.write Json.spaced (.object (JsonObject.ofTexts
    [("kty", Json.text "RSA"),
      ("n", Json.text (Key.writeMember n)),
      ("e", Json.text (Key.writeMember e)),
      ("alg", Json.text algorithm),
      ("use", .string use),
      ("kid", .string (keyId n e kid))]))

/- The key id of the material of a new key. -/
theorem kid_material
    (key : Rsa.PrivateKey)
    (algorithm : String)
    (use kid : Option JsonString) :
    (material key algorithm use kid).kid =
      some (keyId key.numbers.n key.numbers.e kid) := by
  have hPublic :
      (KeyMaterial.ofKey key (some algorithm) none use).publicJwk =
        (KeyMaterial.ofNumbers
          ⟨key.numbers.n, key.numbers.e, 0, 0, 0, 0, 0, 0⟩
          none none none).publicJwk :=
    rfl
  have hThumbprint :
      (KeyMaterial.ofKey key (some algorithm) none use).thumbprint =
        (KeyMaterial.ofNumbers
          ⟨key.numbers.n, key.numbers.e, 0, 0, 0, 0, 0, 0⟩
          none none none).thumbprint := by
    unfold KeyMaterial.thumbprint
    rw [hPublic]
  unfold material keyId
  rw [← hThumbprint]
  cases kid with
  | none => rfl
  | some k =>
      by_cases hEmpty : k.isEmpty = true
      · simp [hEmpty, Option.filter]
      · simp [hEmpty, Option.filter]

section Select

variable {m : KeyMaterial} {algorithm : String} {kid : JsonString}

/- The members of the public JWK, when all of them are there. -/
theorem select_toJwk
    {use : JsonString}
    (hAlg : m.alg = some algorithm)
    (hUse : m.use = some use)
    (hKid : m.kid = some kid) :
    select m.toJwk publicMembers =
      .ok (JsonObject.ofTexts
        [("kty", Json.text m.kty), ("n", Json.text m.n),
          ("e", Json.text m.e), ("alg", Json.text algorithm),
          ("use", .string use), ("kid", .string kid)]) := by
  simp [select, publicMembers, KeyMaterial.toJwk, Jwk.present, hAlg, hUse,
    hKid, JsonObject.member?, JsonString.text_beq_text,
    JsonObject.ofTexts, Json.text, bind, Except.bind, pure, Except.pure]

/- Without a use there is no public JWK. -/
theorem select_toJwk_of_no_use
    (hAlg : m.alg = some algorithm)
    (hUse : m.use = none)
    (hKid : m.kid = some kid) :
    select m.toJwk publicMembers = .error "use" := by
  simp [select, publicMembers, KeyMaterial.toJwk, Jwk.present, hAlg, hUse,
    hKid, JsonObject.member?, JsonString.text_beq_text, bind, Except.bind]

end Select

/- The public text of a key is made of these parts. -/
theorem publicText_of_ofKey
    {key : Rsa.PrivateKey}
    {algorithm : String}
    {use kid : Option JsonString}
    {pair : KeyPair}
    (h : ofKey key algorithm use kid = .ok pair) :
    ∃ u, use = some u ∧
      pair.publicText =
        publicTextOf key.numbers.n key.numbers.e algorithm u kid := by
  have hKid := kid_material key algorithm use kid
  unfold ofKey at h
  rcases (Attempt.bind_eq_ok_iff _ _ _).mp h with ⟨shared, hShared, hPure⟩
  rw [Attempt.mapError_eq_ok_iff] at hShared
  cases use with
  | none =>
      rw [select_toJwk_of_no_use rfl rfl hKid] at hShared
      cases hShared
  | some u =>
      rw [select_toJwk rfl rfl hKid] at hShared
      obtain rfl := Except.ok.inj hShared
      obtain rfl := Except.ok.inj hPure
      exact ⟨u, rfl, rfl⟩

/- The algorithm of a new key is the one asked for. -/
theorem algorithm_of_algorithmName
    {r : Request}
    {algorithm : String}
    (h : r.algorithmName = .ok algorithm) :
    r.algorithm = some algorithm := by
  unfold Request.algorithmName at h
  cases hAsked : r.algorithm with
  | none => simp [hAsked] at h
  | some name =>
      simp only [hAsked] at h
      split_ifs at h
      cases h
      rfl

/- So is that of a key that is drawn. -/
theorem publicText_of_generate
    {r : Request}
    {s : Rsa.Entropy}
    {pair : KeyPair}
    (h : generate r s = .ok pair) :
    ∃ key algorithm use, Rsa.generate? r.bits.toNat s = some key ∧
      r.algorithm = some algorithm ∧ r.use = some use ∧
      pair.publicText =
        publicTextOf key.numbers.n key.numbers.e algorithm use r.kid := by
  rcases (Attempt.bind_eq_ok_iff _ _ _).mp h with
    ⟨algorithm, hAlgorithm, hDraw⟩
  by_cases hSmall : r.bits < 1024
  · rw [if_pos hSmall] at hDraw
    cases hDraw
  · rw [if_neg hSmall] at hDraw
    cases hKey : Rsa.generate? r.bits.toNat s with
    | none =>
        simp only [hKey] at hDraw
        cases hDraw
    | some key =>
        simp only [hKey] at hDraw
        rcases publicText_of_ofKey hDraw with ⟨use, hUse, hText⟩
        exact ⟨key, algorithm, use, rfl,
          algorithm_of_algorithmName hAlgorithm, hUse, hText⟩

------------------------------------------------------------
-- Generators
------------------------------------------------------------

/-
  What becomes of a request: the pair, or why there is none,
  and the sizes of the keys that were drawn for it.
-/
structure Issue where
  result : Except Error KeyPair
  drawn : List Int

/- A new pair from any generator of keys. -/
def Request.issue
    (r : Request)
    (draw : Int → Except Error Rsa.PrivateKey) : Issue :=
  match r.algorithmName with
  | .error e => ⟨.error e, []⟩
  | .ok algorithm =>
      ⟨draw r.bits >>= fun key => ofKey key algorithm r.use r.kid,
        [r.bits]⟩

/- The generator that takes its random bytes from a source. -/
def drawFrom
    (s : Rsa.Entropy)
    (bits : Int) : Except Error Rsa.PrivateKey :=
  if bits < 1024 then
    .error .smallSize
  else
    match Rsa.generate? bits.toNat s with
    | none => .error .noPrime
    | some key => .ok key

/- It is the one that new pairs are made with. -/
theorem generate_eq
    (r : Request)
    (s : Rsa.Entropy) :
    generate r s = (r.issue (drawFrom s)).result := by
  unfold generate Request.issue
  cases r.algorithmName with
  | error e => rfl
  | ok algorithm =>
      by_cases hSmall : r.bits < 1024
      · simp only [drawFrom, if_pos hSmall]
        rfl
      · simp only [drawFrom, if_neg hSmall]
        cases Rsa.generate? r.bits.toNat s with
        | none => rfl
        | some key => rfl

/- The name of a supported algorithm is taken as it is. -/
theorem algorithmName_of_supported
    {r : Request}
    {a : SigningAlgorithm}
    (hSupported : a ∈ SigningAlgorithm.all)
    (hAsked : r.algorithm = some a.name) :
    r.algorithmName = .ok a.name := by
  simp only [Request.algorithmName, hAsked,
    SigningAlgorithm.ofName?_name hSupported, Option.isSome_some, if_true]

/- Any other algorithm is refused as not supported. -/
theorem algorithmName_of_unsupported
    {r : Request}
    (hOther : ∀ algorithm ∈ SigningAlgorithm.family,
      r.algorithm ≠ some algorithm) :
    r.algorithmName =
      .error (.key (.algorithm (r.algorithm.getD "None"))) := by
  unfold Request.algorithmName
  cases hAsked : r.algorithm with
  | none => rfl
  | some name =>
      have hNone : (SigningAlgorithm.ofName? name).isSome = false := by
        rw [Bool.eq_false_iff]
        intro hSome
        rcases (SigningAlgorithm.isSome_ofName?_iff name).mp hSome with
          ⟨a, hSupported, hName⟩
        apply hOther name (hName ▸ a.name_mem_family hSupported)
        rw [hAsked]
      simp [hNone]

------------------------------------------------------------
-- Consistency
------------------------------------------------------------

/-
  Whether a pair is that of material: its private text is read
  as a JWK that is imported as the material and that the
  material is written as again, and its public text has public
  members only, with the values of the private ones.
-/
structure IsOf
    (pair : KeyPair)
    (m : KeyMaterial)
    (jwk shared : JsonObject) : Prop where
  read : Json.read pair.privateText = .ok (.object jwk)
  imported : Jwk.toMaterial jwk = .ok m
  exported :
    Json.write Json.spaced (.object m.toJwk) = pair.privateText
  published : Json.read pair.publicText = .ok (.object shared)
  names :
    shared.map Prod.fst =
      ["kty", "n", "e", "alg", "use", "kid"].map JsonString.text
  values : ∀ name v,
    shared.member? name = some v → jwk.member? name = some v

/-
  Whether the key id of two JWKs is the one asked for or, if
  this is empty or there is none, the thumbprint of both.
-/
structure HasKeyId
    (key : Rsa.PrivateKey)
    (asked : Option JsonString)
    (kid : JsonString)
    (jwk shared : JsonObject) : Prop where
  member : shared.member? "kid" = some (.string kid)
  given : ∀ k, asked = some k → k ≠ .text "" → kid = k
  derived : asked = none ∨ asked = some (.text "") →
    ∃ t, kid = .text t ∧
      t = Base64.encodeUrl (Hash.sha256 (Bytes.ofText
        (Jwk.thumbprintText key.numbers.n key.numbers.e))) ∧
      Jwk.thumbprint jwk = .ok t ∧ Jwk.thumbprint shared = .ok t

/- A selection takes the value of each name in turn. -/
theorem select_cons_eq_ok_iff
    (members : JsonObject)
    (name : String)
    (rest : List String)
    (chosen : JsonObject) :
    select members (name :: rest) = .ok chosen ↔
      ∃ v later, members.member? name = some v ∧
        select members rest = .ok later ∧
          (.text name, v) :: later = chosen := by
  rw [select]
  cases hValue : members.member? name with
  | none => simp
  | some v =>
      cases select members rest with
      | error absent => simp [bind, Except.bind]
      | ok later => simp [bind, Except.bind, pure, Except.pure]

/- What is selected has the names that were selected. -/
theorem names_select
    {members chosen : JsonObject}
    {names : List String}
    (h : select members names = .ok chosen) :
    chosen.map Prod.fst = names.map JsonString.text := by
  induction names generalizing chosen with
  | nil =>
      obtain rfl := Except.ok.inj h
      rfl
  | cons name rest ih =>
      rcases (select_cons_eq_ok_iff _ _ _ _).mp h with
        ⟨v, later, -, hLater, rfl⟩
      rw [List.map_cons, List.map_cons, ih hLater]

/- It has the values that were there. -/
theorem member?_of_select
    {members chosen : JsonObject}
    {names : List String}
    {name : String}
    {v : Json}
    (h : select members names = .ok chosen)
    (hMember : chosen.member? name = some v) :
    members.member? name = some v := by
  induction names generalizing chosen with
  | nil =>
      obtain rfl := Except.ok.inj h
      cases hMember
  | cons first rest ih =>
      rcases (select_cons_eq_ok_iff _ _ _ _).mp h with
        ⟨w, later, hValue, hLater, rfl⟩
      rw [JsonObject.member?_cons] at hMember
      split_ifs at hMember with hFirst
      · rw [← JsonString.text.inj hFirst, hValue, hMember]
      · exact ih hLater hMember

/- Two texts that are written for material and a selection of it. -/
theorem isOf_of_select
    {m : KeyMaterial}
    {shared : JsonObject}
    (hImported : Jwk.toMaterial m.toJwk = .ok m)
    (hShared : select m.toJwk publicMembers = .ok shared)
    (hReadable : Json.Readable Json.maxDepth (.object shared)) :
    IsOf ⟨Json.write Json.spaced (.object shared),
        Json.write Json.spaced (.object m.toJwk)⟩
      m m.toJwk shared := by
  constructor
  · exact Json.read_write Json.spaced_isPlain m.readable_toJwk
  · exact hImported
  · rfl
  · exact Json.read_write Json.spaced_isPlain hReadable
  · exact names_select hShared
  · intro name v hMember
    exact member?_of_select hShared hMember

------------------------------------------------------------
-- Key Ids
------------------------------------------------------------

/- The material of a new key is that of the key with the key id. -/
theorem material_eq
    (key : Rsa.PrivateKey)
    (algorithm : String)
    (use kid : Option JsonString) :
    material key algorithm use kid =
      KeyMaterial.ofKey key (some algorithm)
        (some (keyId key.numbers.n key.numbers.e kid)) use := by
  rw [← kid_material key algorithm use kid]
  rfl

/- A key id that is asked for is kept. -/
theorem keyId_of_given
    {k : JsonString}
    (n e : Nat)
    (h : k ≠ .text "") :
    keyId n e (some k) = k := by
  have hSome : ¬ k.isEmpty = true := by
    rwa [k.isEmpty_iff_eq]
  simp [keyId, Option.filter, hSome]

/- Without one, or with an empty one, it is the thumbprint. -/
theorem keyId_of_none
    {kid : Option JsonString}
    (n e : Nat)
    (h : kid = none ∨ kid = some (.text "")) :
    keyId n e kid =
      .text (Base64.encodeUrl
        (Hash.sha256 (Bytes.ofText (Jwk.thumbprintText n e)))) := by
  have hAbsent : kid.filter (!·.isEmpty) = none := by
    rcases h with rfl | rfl
    · rfl
    · rfl
  rw [keyId, hAbsent, Option.getD_none, Jwk.thumbprint_material,
    ← Jwk.keyText_eq]
  rfl

/- The key id of an object is that of its public members. -/
theorem hasKeyId_keyId
    {jwk shared : JsonObject}
    (key : Rsa.PrivateKey)
    (asked : Option JsonString)
    (hMember : shared.member? "kid" =
      some (.string (keyId key.numbers.n key.numbers.e asked)))
    (hPrivate : Jwk.HasTexts jwk (Key.writeMember key.numbers.e) "RSA"
      (Key.writeMember key.numbers.n))
    (hPublic : Jwk.HasTexts shared (Key.writeMember key.numbers.e) "RSA"
      (Key.writeMember key.numbers.n)) :
    HasKeyId key asked (keyId key.numbers.n key.numbers.e asked)
      jwk shared := by
  refine ⟨hMember, ?_, ?_⟩
  · intro k hAsked hSome
    rw [hAsked, keyId_of_given _ _ hSome]
  · intro hNone
    have hText := Jwk.keyText_eq key.numbers.n key.numbers.e
    rw [Jwk.thumbprint_of_hasTexts hPrivate,
      Jwk.thumbprint_of_hasTexts hPublic, keyId_of_none _ _ hNone, ← hText]
    exact ⟨_, rfl, rfl, rfl, rfl⟩

------------------------------------------------------------
-- New Pairs
------------------------------------------------------------

/- A key that passes the check has a pair of texts. -/
theorem exists_ofKey
    {key : Rsa.PrivateKey}
    {a : SigningAlgorithm}
    (hCheck : key.numbers.check = .ok key)
    (hSupported : a ∈ SigningAlgorithm.all)
    (use : JsonString)
    (asked : Option JsonString) :
    ∃ pair kid jwk shared,
      ofKey key a.name (some use) asked = .ok pair ∧
        pair.IsOf
          (KeyMaterial.ofKey key (some a.name) (some kid) (some use))
          jwk shared ∧
        HasKeyId key asked kid jwk shared := by
  let kid := keyId key.numbers.n key.numbers.e asked
  let m := KeyMaterial.ofKey key (some a.name) (some kid) (some use)
  let shared : JsonObject := Jwk.present
    [("kty", some (.text m.kty)), ("n", some (.text m.n)),
      ("e", some (.text m.e)), ("alg", some (.text a.name)),
      ("use", some use), ("kid", some kid)]
  have hShared : select m.toJwk publicMembers = .ok shared :=
    select_toJwk rfl rfl rfl
  have hReadable : Json.Readable Json.maxDepth (.object shared) :=
    Jwk.readable_present (by simp)
  have hImported : Jwk.toMaterial m.toJwk = .ok m := by
    apply KeyMaterial.toMaterial_toJwk hCheck
    intro name hName
    exact ⟨a, hSupported, Option.some.inj hName⟩
  refine ⟨_, kid, m.toJwk, shared, ?_,
    isOf_of_select hImported hShared hReadable,
    hasKeyId_keyId key asked rfl ⟨rfl, rfl, rfl⟩ ⟨rfl, rfl, rfl⟩⟩
  unfold ofKey
  -- The pair is selected from the material with its key id filled in.
  simp only [material_eq, m, kid] at hShared ⊢
  rw [hShared]
  rfl

/-
  Whatever keys the generator gives:
    * with an algorithm of the family, for a key that passes the
      check, a pair is made of the key, the algorithm, the use
      and the key id, of which the private text is imported and
      the public one has the same values;
    * with any other algorithm the request is refused before a
      key is drawn;
    * with the generator that has a source of random bytes these
      are the pairs that are made from the source.
-/
theorem issue_isConsistent
    (r : Request)
    (draw : Int → Except Error Rsa.PrivateKey) :
    (∀ algorithm use key,
      algorithm ∈ SigningAlgorithm.family →
        r.algorithm = some algorithm →
        r.use = some use →
        draw r.bits = .ok key →
        key.numbers.check = .ok key →
          ∃ pair kid jwk shared,
            r.issue draw = ⟨.ok pair, [r.bits]⟩ ∧
              pair.IsOf
                (KeyMaterial.ofKey key (some algorithm) (some kid)
                  (some use))
                jwk shared ∧
              HasKeyId key r.kid kid jwk shared) ∧
    ((∀ algorithm ∈ SigningAlgorithm.family,
        r.algorithm ≠ some algorithm) →
      r.issue draw =
        ⟨.error (.key (.algorithm (r.algorithm.getD "None"))), []⟩) ∧
    ∀ s, generate r s = (r.issue (drawFrom s)).result := by
  refine ⟨?_, ?_, generate_eq r⟩
  · intro algorithm use key hFamily hAsked hUse hDrawn hCheck
    rcases SigningAlgorithm.exists_of_mem_family hFamily with
      ⟨a, hSupported, rfl⟩
    rcases exists_ofKey hCheck hSupported use r.kid with
      ⟨pair, kid, jwk, shared, hMade, hOf, hKeyId⟩
    refine ⟨pair, kid, jwk, shared, ?_, hOf, hKeyId⟩
    simp only [Request.issue, algorithmName_of_supported hSupported hAsked,
      hDrawn, hUse, bind, Except.bind, hMade]
  · intro hOther
    rw [Request.issue, algorithmName_of_unsupported hOther]

/- A key whose factors are eleven and three. -/
def tinyKey : Rsa.PrivateKey :=
  ⟨⟨33, 3, 7, 11, 3, 7, 1, 4⟩, by decide⟩

/-
  An empty key id gives way to the thumbprint, a quote in the
  use is kept, and no key is drawn for another algorithm.
-/
theorem issue_isConsistent_of_tinyKey :
    tinyKey.numbers.check = .ok tinyKey ∧
      (∃ pair kid jwk shared,
        Request.issue
            { algorithm := some "PS384", use := some (.text "\"")
              kid := some (.text "") }
            (fun _ => .ok tinyKey) =
          ⟨.ok pair, [4096]⟩ ∧
        pair.IsOf
          (KeyMaterial.ofKey tinyKey (some "PS384") (some kid)
            (some (.text "\"")))
          jwk shared ∧
        HasKeyId tinyKey (some (.text "")) kid jwk shared) ∧
      Request.issue { algorithm := some "HS256" }
          (fun _ => .ok tinyKey) =
        ⟨.error (.key (.algorithm "HS256")), []⟩ := by
  have hCheck : tinyKey.numbers.check = .ok tinyKey :=
    (Rsa.Numbers.check_eq_ok_iff _ _).mpr ⟨rfl, by decide, by decide⟩
  refine ⟨hCheck, ?_, ?_⟩
  · exact
      (issue_isConsistent
        { algorithm := some "PS384", use := some (.text "\"")
          kid := some (.text "") }
        (fun _ => .ok tinyKey)).1 "PS384" (.text "\"") tinyKey (by decide)
        rfl rfl rfl hCheck
  · exact
      (issue_isConsistent { algorithm := some "HS256" }
        (fun _ => .ok tinyKey)).2.1 (by decide)

end KeyPair

end KeyAssertion
