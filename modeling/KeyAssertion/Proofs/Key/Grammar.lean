import KeyAssertion.Proofs.Encoding.Lenient
import KeyAssertion.Proofs.Key.Carried
import KeyAssertion.Proofs.Rsa.Prime

/-
  Numbers as members of a JWK are read more widely than their
  grammar allows: a value that is read as a number other than
  zero is accepted in some JWK, whether or not it is in the
  alphabet for URLs, with padding at its end only.

  Key definitions include:
    * `Key.IsGrammatical`
    * `Key.IsReadLeniently`
    * `Jwk.ReadsAlike`
    * `Jwk.HeedsGrammar`

  Key theorems include:
    * `Key.exists_readValue_iff`
    * `Key.isReadLeniently_of_isGrammatical`
    * `Jwk.ReadsAlike.toMaterial_eq`
    * `Jwk.heedsGrammar_iff`
-/

namespace KeyAssertion

------------------------------------------------------------
-- Values
------------------------------------------------------------

namespace Key

/-
  Whether a value is a text of digits of the alphabet for URLs
  and of no more padding than fills up its last group.
-/
def IsGrammatical (v : Json) : Prop :=
  ∃ s data pads,
    v = .string s ∧
      s.points = (data ++ List.replicate pads '=').map Char.toNat ∧
      data ≠ [] ∧ Base64.IsUnpadded data ∧
      pads ≤ (4 - data.length % 4) % 4

/- The characters that the reader of Base64 is given for a text. -/
def filledUp (points : List Nat) : List Char :=
  points.map Char.ofNat ++ padding points.length

/-
  Whether a value is a text in ASCII whose digits fill up their
  groups, or in which padding completes one; what else there is
  in the text, and what follows this padding, does not matter.
-/
def IsReadLeniently (v : Json) : Prop :=
  ∃ s,
    v = .string s ∧ s.points ≠ [] ∧ (∀ c ∈ s.points, c < 128) ∧
      (Base64.Lenient.digits (filledUp s.points) % 4 = 0 ∨
        Base64.Lenient.Completes (filledUp s.points))

/- Code points that are not refused are in ASCII. -/
theorem foreignRun?_eq_none_iff (points : List Nat) :
    foreignRun? points = none ↔ ∀ c ∈ points, c < 128 := by
  constructor
  · intro hNone
    unfold foreignRun? at hNone
    dsimp only at hNone
    split at hNone
    · case _ hRest =>
        have hBefore := List.takeWhile_prefix
          (l := points) (fun c => decide (c < 128))
        have hSame := hBefore.eq_of_length_le
          (List.drop_eq_nil_iff.mp hRest)
        intro c hMem
        simpa using List.takeWhile_eq_self_iff.mp hSame c hMem
    · cases hNone
  · exact foreignRun?_of_ascii

/- Code points are read if the characters they stand for are. -/
theorem exists_readPoints_iff (points : List Nat) :
    (∃ n, readPoints points = .ok n) ↔
      (∀ c ∈ points, c < 128) ∧
        ∃ bytes, Base64.Lenient.decode (filledUp points) = .ok bytes := by
  rw [← foreignRun?_eq_none_iff]
  unfold readPoints filledUp
  cases hForeign : foreignRun? points with
  | some fault => simp
  | none =>
      cases hDecode :
          Base64.Lenient.decode
            (points.map Char.ofNat ++ padding points.length) with
      | ok bytes => simp [hDecode]
      | error fault => simp [hDecode]

/- The values that are read are those that can be read leniently. -/
theorem exists_readValue_iff (v : Json) :
    (∃ n, readValue v = .ok n) ↔ IsReadLeniently v := by
  cases v with
  | string s =>
      by_cases hEmpty : s.points = []
      · simp [readValue, readMember, JsonString.isEmpty_iff,
          IsReadLeniently, hEmpty]
      · simp [readValue, readMember, JsonString.isEmpty_iff,
          IsReadLeniently, hEmpty, exists_readPoints_iff,
          Base64.Lenient.exists_decode_iff]
  | null => simp [readValue, IsReadLeniently]
  | bool b => simp [readValue, IsReadLeniently]
  | integer n => simp [readValue, IsReadLeniently]
  | real x => simp [readValue, IsReadLeniently]
  | array items => simp [readValue, IsReadLeniently]
  | object members => simp [readValue, IsReadLeniently]

/- A value in the grammar has no other characters. -/
theorem IsGrammatical.exists_of_mem_points
    {s : JsonString}
    {point : Nat}
    (h : IsGrammatical (.string s))
    (hMem : point ∈ s.points) :
    ∃ c, c.toNat = point ∧ (Base64.IsUrlDigit c ∨ c = '=') := by
  rcases h with ⟨t, data, pads, hSame, hPoints, _, ⟨hUrl, _⟩, _⟩
  rw [Json.string.inj hSame, hPoints] at hMem
  rcases List.mem_map.mp hMem with ⟨c, hChar, hPoint⟩
  refine ⟨c, hPoint, ?_⟩
  rcases List.mem_append.mp hChar with hData | hPad
  · exact Or.inl (hUrl c hData)
  · exact Or.inr (List.mem_replicate.mp hPad).2

section Grammatical

/- The digits for URLs are among those that are read. -/
theorem isDigit_of_isUrlDigit
    {c : Char}
    (h : Base64.IsUrlDigit c) :
    Base64.Lenient.isDigit c = true := by
  have hAll :
      ∀ n : Fin 128,
        Base64.IsUrlDigit (Char.ofNat n) →
          Base64.Lenient.isDigit (Char.ofNat n) = true := by
    decide
  have hSmall := h.toNat_lt
  rw [← Char.ofNat_toNat c] at h ⊢
  exact hAll ⟨c.toNat, hSmall⟩ h

/-
  Digits with padding are filled up to what they are with all
  the padding that their last group takes.
-/
theorem filledUp_grammatical
    {data : List Char}
    {pads : Nat}
    (hPads : pads ≤ (4 - data.length % 4) % 4) :
    filledUp ((data ++ List.replicate pads '=').map Char.toNat) =
      data ++ List.replicate ((4 - data.length % 4) % 4) '=' := by
  have hCount :
      pads + (4 - (data.length + pads) % 4) % 4 =
        (4 - data.length % 4) % 4 := by
    omega
  have hSame : Char.ofNat ∘ Char.toNat = id :=
    funext fun c => Char.ofNat_toNat c
  unfold filledUp padding
  rw [List.map_map, hSame, List.map_id, List.length_map,
    List.length_append, List.length_replicate, List.append_assoc,
    List.replicate_append_replicate, hCount]

/- Digits are completed by the padding that their last group takes. -/
theorem completes_append_pads
    {data : List Char}
    (hDigits : Base64.Lenient.digits data = data.length)
    (hLast : data.length % 4 = 2 ∨ data.length % 4 = 3) :
    Base64.Lenient.Completes
      (data ++ List.replicate ((4 - data.length % 4) % 4) '=') := by
  rcases hLast with hTwo | hThree
  · rw [hTwo]
    refine ⟨data ++ ['='], [], by simp, Or.inr ⟨?_, data, [], rfl, rfl⟩⟩
    have hFront :
        Base64.Lenient.digits (data ++ ['=']) = data.length := by
      rw [← hDigits]
      simp [Base64.Lenient.digits, Base64.Lenient.not_isDigit_pad]
    rw [hFront, hTwo]
  · rw [hThree]
    refine ⟨data, [], rfl, Or.inl ?_⟩
    rw [hDigits, hThree]

/- What is in the grammar can be read. -/
theorem isReadLeniently_of_isGrammatical
    {v : Json}
    (h : IsGrammatical v) :
    IsReadLeniently v := by
  rcases h with ⟨s, data, pads, rfl, hPoints, hSome, ⟨hUrl, hLast⟩, hPads⟩
  have hDigits : Base64.Lenient.digits data = data.length :=
    List.countP_eq_length.mpr fun c hMem =>
      isDigit_of_isUrlDigit (hUrl c hMem)
  refine ⟨s, rfl, ?_, ?_, ?_⟩
  · rw [hPoints]
    simp [hSome]
  · rw [hPoints]
    intro n hMem
    rcases List.mem_map.mp hMem with ⟨c, hChar, rfl⟩
    rcases List.mem_append.mp hChar with hData | hPad
    · exact (hUrl c hData).toNat_lt
    · rw [(List.mem_replicate.mp hPad).2]
      decide
  · rw [hPoints, filledUp_grammatical hPads]
    by_cases hFull : data.length % 4 = 0
    · left
      rw [hFull]
      simp [hDigits, hFull]
    · right
      exact completes_append_pads hDigits (by omega)

end Grammatical

end Key

------------------------------------------------------------
-- Import
------------------------------------------------------------

namespace Jwk

variable {jwk jwk' : JsonObject}

/- The members that are read as numbers. -/
def numberMembers (jwk : JsonObject) : List String :=
  ["n", "e", "d"] ++
    if factorMembers.all (has jwk) then factorMembers else []

/-
  Whether two JWKs have the same texts and read alike in all
  their members.
-/
structure ReadsAlike (jwk jwk' : JsonObject) : Prop where
  kept :
    ∀ name ∈ ["kty", "alg", "kid", "use"],
      jwk'.memberOrNull name = jwk.memberOrNull name
  has_eq : ∀ name, has jwk' name = has jwk name
  number_eq : ∀ name, number jwk' name = number jwk name

/- They are imported as the same material. -/
theorem ReadsAlike.toMaterial_eq (h : ReadsAlike jwk jwk') :
    toMaterial jwk' = toMaterial jwk := by
  have hHas : has jwk' = has jwk := funext h.has_eq
  have hNumber : number jwk' = number jwk := funext h.number_eq
  apply toMaterial_congr h.kept
  · intro name _
    exact h.has_eq name
  · unfold key numbers givenFactors
    rw [hHas, hNumber]

/- Another spelling of a number changes nothing. -/
theorem readsAlike_set
    {name : String}
    {v : Json}
    {n : Nat}
    (hOther : name ∉ ["kty", "alg", "kid", "use"])
    (hOld : number jwk name = .ok n)
    (hNew : Key.readValue v = .ok n) :
    ReadsAlike jwk (jwk.set (.text name) v) := by
  have hRead : Key.readValue (jwk.memberOrNull name) = .ok n :=
    (Attempt.mapError_eq_ok_iff _ _ _).mp hOld
  constructor
  · intro other hMem
    rw [JsonObject.memberOrNull_set, if_neg]
    rintro rfl
    exact hOther hMem
  · intro other
    unfold has
    rw [JsonObject.memberOrNull_set]
    by_cases hSame : name = other
    · rw [if_pos hSame, ← hSame, Key.isTruthy_of_readValue hNew,
        Key.isTruthy_of_readValue hRead]
    · rw [if_neg hSame]
  · intro other
    unfold number
    rw [JsonObject.memberOrNull_set]
    by_cases hSame : name = other
    · rw [if_pos hSame, ← hSame, hNew, hRead]
    · rw [if_neg hSame]

/- The numbers of an accepted JWK are not zero. -/
theorem number_of_toMaterial
    {m : KeyMaterial}
    {name : String}
    (hAccepted : toMaterial jwk = .ok m)
    (hMem : name ∈ numberMembers jwk) :
    ∃ n, number jwk name = .ok n ∧ n ≠ 0 := by
  rcases (toMaterial_eq_ok_iff _ _).mp hAccepted with
    ⟨_, _, _, _, key, _, _, _, hKey, _⟩
  have hSound := key.isSound
  rcases (numbers_eq_ok_iff _ _).mp ((key_eq_ok_iff _ _).mp hKey).1 with
    ⟨⟨hn, he, hd⟩, hRest⟩
  have hFirst := hSound.three_le_p
  have hSecond := hSound.three_le_q
  have hModulus := hSound.three_mul_p_le
  have hPublic := hSound.three_le_e
  have hPrivate := hSound.d_odd
  unfold numberMembers at hMem
  by_cases hAll : factorMembers.all (has jwk) = true
  · rw [if_pos hAll] at hRest hMem
    rcases (givenFactors_eq_ok_iff _ _ _ _ _).mp hRest with
      ⟨_, hp, hq, hdp, hdq, hqi⟩
    have hInverse : key.numbers.qi ≠ 0 := by
      intro hZero
      have hOne := hSound.qi_inverse
      simp [hZero] at hOne
    have hReduced := hSound.dp_odd
    have hOther := hSound.dq_odd
    have hMem' : name ∈ ["n", "e", "d", "p", "q", "dp", "dq", "qi"] :=
      hMem
    simp only [List.mem_cons, List.not_mem_nil, or_false] at hMem'
    rcases hMem' with
      rfl | rfl | rfl | rfl | rfl | rfl | rfl | rfl
    · exact ⟨_, hn, by omega⟩
    · exact ⟨_, he, by omega⟩
    · exact ⟨_, hd, by omega⟩
    · exact ⟨_, hp, by omega⟩
    · exact ⟨_, hq, by omega⟩
    · exact ⟨_, hdp, by omega⟩
    · exact ⟨_, hdq, by omega⟩
    · exact ⟨_, hqi, hInverse⟩
  · rw [if_neg hAll, List.append_nil] at hMem
    simp only [List.mem_cons, List.not_mem_nil, or_false] at hMem
    rcases hMem with rfl | rfl | rfl
    · exact ⟨_, hn, by omega⟩
    · exact ⟨_, he, by omega⟩
    · exact ⟨_, hd, by omega⟩

/-
  However it is spelled, a number other than zero is accepted in
  some JWK: as the inverse in one that has all its members.
-/
theorem exists_accepted_of_readValue
    {v : Json}
    {n : Nat}
    (hRead : Key.readValue v = .ok n)
    (hNonzero : n ≠ 0) :
    ∃ jwk name m,
      name ∈ numberMembers jwk ∧ jwk.memberOrNull name = v ∧
        toMaterial jwk = .ok m := by
  rcases Rsa.exists_key_of_inverse (Nat.pos_of_ne_zero hNonzero) with
    ⟨key, hInverse, hCheck⟩
  let full := (KeyMaterial.ofKey key none none none).toJwk
  have hFull :
      toMaterial full = .ok (KeyMaterial.ofKey key none none none) :=
    KeyMaterial.toMaterial_toJwk hCheck (by simp)
  have hOld : number full "qi" = .ok n := by
    rw [← hInverse]
    exact number_of_writeMember rfl
  have hAlike : ReadsAlike full (full.set (.text "qi") v) :=
    readsAlike_set (by decide) hOld hRead
  have hAll : factorMembers.all (has full) = true := by
    apply List.all_eq_true.mpr
    intro name hMem
    fin_cases hMem
    all_goals exact has_of_writeMember rfl
  refine ⟨full.set (.text "qi") v, "qi", _, ?_, ?_,
    hAlike.toMaterial_eq.trans hFull⟩
  · unfold numberMembers
    rw [funext hAlike.has_eq, if_pos hAll]
    decide
  · rw [JsonObject.memberOrNull_set, if_pos rfl]

------------------------------------------------------------
-- Grammar
------------------------------------------------------------

/-
  Whether a value is held to the grammar wherever it is a
  member that is read as a number: a JWK is accepted with it
  only if it is in the grammar, and is refused as invalid, not
  as one of another kind, if it is not.
-/
def HeedsGrammar (v : Json) : Prop :=
  ∀ jwk, ∀ name ∈ numberMembers jwk,
    jwk.memberOrNull name = v →
      (∀ m, toMaterial jwk = .ok m → Key.IsGrammatical v) ∧
        (jwk.memberOrNull "kty" = Json.text "RSA" →
          AsksSupported jwk →
            ¬ Key.IsGrammatical v →
              ∃ e, toMaterial jwk = .error e ∧ e.isUnsupported = false)

/-
  A value is held to the grammar if and only if it is in it, or
  cannot be read even leniently, or is read as zero, which is
  no number of a key.
-/
theorem heedsGrammar_iff (v : Json) :
    HeedsGrammar v ↔
      Key.IsGrammatical v ∨ ¬ Key.IsReadLeniently v ∨
        Key.readValue v = .ok 0 := by
  constructor
  · intro hHeeds
    by_contra hNot
    push Not at hNot
    rcases hNot with ⟨hForeign, hLenient, hNonzero⟩
    -- what is read is the inverse in some key, and is accepted there
    rcases (Key.exists_readValue_iff v).mpr hLenient with ⟨n, hRead⟩
    rcases exists_accepted_of_readValue hRead
        (fun h => hNonzero (h ▸ hRead)) with
      ⟨jwk, name, m, hMem, hMember, hAccepted⟩
    exact hForeign ((hHeeds jwk name hMem hMember).1 m hAccepted)
  · intro hEnds jwk name hMem hMember
    have hAccepted :
        ∀ m, toMaterial jwk = .ok m → Key.IsGrammatical v := by
      intro m hMaterial
      rcases number_of_toMaterial hMaterial hMem with
        ⟨n, hNumber, hNonzero⟩
      have hRead : Key.readValue v = .ok n := by
        rw [← hMember]
        exact (Attempt.mapError_eq_ok_iff _ _ _).mp hNumber
      rcases hEnds with hGrammatical | hUnread | hZero
      · exact hGrammatical
      · exact absurd ((Key.exists_readValue_iff v).mp ⟨n, hRead⟩) hUnread
      · rw [hRead] at hZero
        exact absurd (Except.ok.inj hZero) hNonzero
    refine ⟨hAccepted, ?_⟩
    intro hType hSupported hForeign
    cases hMaterial : toMaterial jwk with
    | ok m => exact absurd (hAccepted m hMaterial) hForeign
    | error e =>
        exact ⟨e, rfl,
          isUnsupported_of_toMaterial hType hSupported hMaterial⟩

/- Characters of no alphabet inside a number are not held against it. -/
theorem not_heedsGrammar_of_foreign :
    ¬ HeedsGrammar (Json.text "AQ!!!!AB") := by
  have hRead : Key.readValue (Json.text "AQ!!!!AB") = .ok 65537 := by
    decide +kernel
  have hForeign : ¬ Key.IsGrammatical (Json.text "AQ!!!!AB") := by
    intro h
    have hMem : 33 ∈ (JsonString.text "AQ!!!!AB").points := by
      decide
    rcases h.exists_of_mem_points hMem with ⟨c, hPoint, hAllowed⟩
    rw [← Char.ofNat_toNat c, hPoint] at hAllowed
    revert hAllowed
    decide
  rw [heedsGrammar_iff, hRead]
  rintro (h | h | h)
  · exact hForeign h
  · exact h ((Key.exists_readValue_iff _).mp ⟨_, hRead⟩)
  · exact absurd (Except.ok.inj h) (by decide)

end Jwk

end KeyAssertion
