import Mathlib.Tactic.NormNum.Prime
import KeyAssertion.Proofs.Key.Recovery

/-
  What a JWK carries of its factors, and whether it is looked
  at: if all five members are there they are checked against
  each other, if any is absent the others are ignored, whatever
  they are.

  Key definitions include:
    * `Jwk.CarriesTrue`
    * `Jwk.ChecksFactors`

  Key theorems include:
    * `Jwk.carriesTrue_of_all`
    * `Jwk.isUnsupported_of_toMaterial`
    * `Jwk.toMaterial_congr`
    * `Jwk.LacksFactors.toMaterial_congr`
    * `Jwk.checksFactors_iff`
-/

namespace KeyAssertion

namespace Jwk

variable {jwk jwk' : JsonObject}

------------------------------------------------------------
-- Agreement
------------------------------------------------------------

/- Whether a number is a prime factor of the modulus. -/
def IsFactor
    (jwk : JsonObject)
    (f : Nat) : Prop :=
  ∃ n, number jwk "n" = .ok n ∧ f.Prime ∧ f ∣ n

/-
  Whether what a JWK carries of its factors agrees with its
  modulus and private exponent: a factor is a prime factor of
  the modulus, an exponent is the private one reduced for such
  a factor, and the inverse is that of one factor modulo
  another one.
-/
structure CarriesTrue (jwk : JsonObject) : Prop where
  factor :
    ∀ name ∈ ["p", "q"],
      has jwk name = true →
        ∃ f, number jwk name = .ok f ∧ IsFactor jwk f
  exponent :
    ∀ name ∈ ["dp", "dq"],
      has jwk name = true →
        ∃ d f,
          number jwk "d" = .ok d ∧ IsFactor jwk f ∧
            number jwk name = .ok (d % (f - 1))
  inverse :
    has jwk "qi" = true →
      ∃ f g i,
        IsFactor jwk f ∧ IsFactor jwk g ∧ f ≠ g ∧
          number jwk "qi" = .ok i ∧ i < f ∧ i * g % f = 1

/- Whether the test for primes is right about the modulus. -/
def IsTestedRight (jwk : JsonObject) : Prop :=
  ∀ n f,
    number jwk "n" = .ok n →
      f ∣ n → Rsa.isProbablePrime f = true → f.Prime

/- A JWK that carries nothing carries nothing wrong. -/
theorem carriesTrue_of_none
    (hNone : ∀ name ∈ factorMembers, has jwk name = false) :
    CarriesTrue jwk := by
  have hAbsent :
      ∀ name ∈ factorMembers, ¬ has jwk name = true := by
    intro name hMem
    rw [hNone name hMem]
    exact Bool.false_ne_true
  have hFactors : ∀ name ∈ ["p", "q"], name ∈ factorMembers := by
    decide
  have hExponents : ∀ name ∈ ["dp", "dq"], name ∈ factorMembers := by
    decide
  constructor
  · intro name hMem hHas
    exact absurd hHas (hAbsent name (hFactors name hMem))
  · intro name hMem hHas
    exact absurd hHas (hAbsent name (hExponents name hMem))
  · intro hHas
    exact absurd hHas (hAbsent "qi" (by decide))

/- What is carried by an accepted JWK with all members agrees. -/
theorem carriesTrue_of_all
    {m : KeyMaterial}
    (hAll : ∀ name ∈ factorMembers, has jwk name = true)
    (hTested : IsTestedRight jwk)
    (hAccepted : toMaterial jwk = .ok m) :
    CarriesTrue jwk := by
  rcases (toMaterial_eq_ok_iff _ _).mp hAccepted with
    ⟨_, _, _, _, key, _, _, _, hKey, _⟩
  have hSound := key.isSound
  have hNumbers := ((key_eq_ok_iff _ _).mp hKey).1
  rcases (numbers_eq_ok_iff _ _).mp hNumbers with
    ⟨⟨hn, _, hd⟩, hRest⟩
  rw [if_pos (List.all_eq_true.mpr hAll)] at hRest
  rcases (givenFactors_eq_ok_iff _ _ _ _ _).mp hRest with
    ⟨_, hp, hq, hdp, hdq, hqi⟩
  have hpFactor : IsFactor jwk key.numbers.p := by
    have hDvd : key.numbers.p ∣ key.numbers.n :=
      hSound.product ▸ Nat.dvd_mul_right _ _
    exact ⟨_, hn, hTested _ _ hn hDvd hSound.p_passes, hDvd⟩
  have hqFactor : IsFactor jwk key.numbers.q := by
    have hDvd : key.numbers.q ∣ key.numbers.n :=
      hSound.product ▸ Nat.dvd_mul_left _ _
    exact ⟨_, hn, hTested _ _ hn hDvd hSound.q_passes, hDvd⟩
  rw [hSound.dp_eq] at hdp
  rw [hSound.dq_eq] at hdq
  constructor
  · intro name hMem _
    rcases List.mem_pair.mp hMem with rfl | rfl
    · exact ⟨_, hp, hpFactor⟩
    · exact ⟨_, hq, hqFactor⟩
  · intro name hMem _
    rcases List.mem_pair.mp hMem with rfl | rfl
    · exact ⟨_, _, hd, hpFactor, hdp⟩
    · exact ⟨_, _, hd, hqFactor, hdq⟩
  · intro _
    exact ⟨_, _, _, hpFactor, hqFactor, hSound.p_ne_q, hqi,
      hSound.qi_lt, hSound.qi_inverse⟩

------------------------------------------------------------
-- Refusals
------------------------------------------------------------

/- Whether the algorithm that is asked for, if any, is supported. -/
def AsksSupported (jwk : JsonObject) : Prop :=
  ∀ s,
    optionalText jwk "alg" = .ok (some s) →
      ∃ a ∈ SigningAlgorithm.all, s = .text a.name

/- A text that cannot be had is not one of another kind. -/
theorem isUnsupported_of_optionalText
    {name : String}
    {e : KeyError}
    (hError : optionalText jwk name = .error e) :
    e.isUnsupported = false := by
  unfold optionalText at hError
  split at hError
  · cases hError
  · cases hError
  · rw [← Except.error.inj hError]
    rfl

/- Nor is an algorithm, if it is not an unsupported one. -/
theorem isUnsupported_of_algorithmText
    {e : KeyError}
    (hSupported : AsksSupported jwk)
    (hError : algorithmText jwk = .error e) :
    e.isUnsupported = false := by
  unfold algorithmText at hError
  rcases (Attempt.bind_eq_error_iff _ _ _).mp hError with
    hText | ⟨alg, hText, hRest⟩
  · exact isUnsupported_of_optionalText hText
  · cases alg with
    | none => cases hRest
    | some s =>
        rcases hSupported s hText with ⟨a, hMem, rfl⟩
        have hName : supportedName? (.text a.name) = some a.name :=
          (supportedName?_eq_some_iff _ _).mpr ⟨rfl, a, hMem, rfl⟩
        simp only [hName] at hRest
        cases hRest

/- A JWK for RSA is not refused as one of another kind. -/
theorem isUnsupported_of_toMaterial
    {e : KeyError}
    (hType : jwk.memberOrNull "kty" = Json.text "RSA")
    (hSupported : AsksSupported jwk)
    (hError : toMaterial jwk = .error e) :
    e.isUnsupported = false := by
  unfold toMaterial at hError
  by_cases hMissing :
      (requiredMembers.filter fun name => !has jwk name) = []
  case neg =>
    simp [hMissing, bind, Except.bind] at hError
    rw [← hError]
    rfl
  simp only [hMissing, hType, Json.text, List.isEmpty_nil, Bool.not_true,
    Bool.false_eq_true, if_false, Attempt.bind_eq_error_iff] at hError
  rcases hError with hAlg | ⟨alg, _, hRest⟩
  · exact isUnsupported_of_algorithmText hSupported hAlg
  split at hRest
  · rw [← Except.error.inj hRest]
    rfl
  rcases (Attempt.bind_eq_error_iff _ _ _).mp hRest with
    hKey | ⟨key, _, hRest⟩
  · rcases (Attempt.mapError_eq_error_iff _ _ _).mp hKey with
      ⟨fault, _, hFault⟩
    rw [← hFault]
    rfl
  rcases (Attempt.bind_eq_error_iff _ _ _).mp hRest with
    hKid | ⟨kid, _, hRest⟩
  · exact isUnsupported_of_optionalText hKid
  rcases (Attempt.bind_eq_error_iff _ _ _).mp hRest with
    hUse | ⟨use, _, hRest⟩
  · exact isUnsupported_of_optionalText hUse
  · cases hRest

------------------------------------------------------------
-- What Is Ignored
------------------------------------------------------------

/-
  Two JWKs with the same texts and the same key, of which the
  one has the members that it must have if the other one does,
  are imported alike.
-/
theorem toMaterial_congr
    (hKept :
      ∀ name ∈ ["kty", "alg", "kid", "use"],
        jwk'.memberOrNull name = jwk.memberOrNull name)
    (hHas :
      ∀ name ∈ "d" :: requiredMembers, has jwk' name = has jwk name)
    (hKey : key jwk' = key jwk) :
    toMaterial jwk' = toMaterial jwk := by
  have hMissing :
      (requiredMembers.filter fun name => !has jwk' name) =
        requiredMembers.filter fun name => !has jwk name := by
    apply List.filter_congr
    intro name hMem
    rw [hHas name (List.mem_cons_of_mem _ hMem)]
  have hPrivate : has jwk' "d" = has jwk "d" :=
    hHas "d" List.mem_cons_self
  have hType : jwk'.memberOrNull "kty" = jwk.memberOrNull "kty" :=
    hKept "kty" (by decide)
  have hText :
      ∀ name ∈ ["kty", "alg", "kid", "use"],
        optionalText jwk' name = optionalText jwk name := by
    intro name hMem
    unfold optionalText
    rw [hKept name hMem]
  have hAlg : algorithmText jwk' = algorithmText jwk := by
    unfold algorithmText
    rw [hText "alg" (by decide)]
  have hKid : optionalText jwk' "kid" = optionalText jwk "kid" :=
    hText "kid" (by decide)
  have hUse : optionalText jwk' "use" = optionalText jwk "use" :=
    hText "use" (by decide)
  unfold toMaterial
  simp only [hMissing, hType, hAlg, hPrivate, hKey, hKid, hUse]

/-
  Two JWKs that both lack members of their factors are imported
  alike, whatever the others of these members are.
-/
theorem LacksFactors.toMaterial_congr
    (h : LacksFactors jwk jwk')
    (hLacks : ¬ factorMembers.all (has jwk) = true) :
    toMaterial jwk' = toMaterial jwk := by
  have hTexts :
      ∀ name ∈ ["kty", "alg", "kid", "use"], name ∉ factorMembers := by
    decide
  have hMembers :
      ∀ name ∈ "d" :: requiredMembers, name ∉ factorMembers := by
    decide
  have hn : number jwk' "n" = number jwk "n" :=
    h.number_eq (by decide)
  have he : number jwk' "e" = number jwk "e" :=
    h.number_eq (by decide)
  have hd : number jwk' "d" = number jwk "d" :=
    h.number_eq (by decide)
  apply Jwk.toMaterial_congr
  · intro name hMem
    exact h.kept name (hTexts name hMem)
  · intro name hMem
    exact h.has_eq (hMembers name hMem)
  · unfold key numbers
    simp only [hn, he, hd, h.not_all, hLacks, Bool.false_eq_true,
      if_false]

/- A JWK in which several members have one value. -/
def fill
    (jwk : JsonObject)
    (names : List String)
    (value : Json) : JsonObject :=
  names.foldl (fun jwk name => jwk.set (.text name) value) jwk

/- They have this value, the others are as before. -/
theorem memberOrNull_fill
    (jwk : JsonObject)
    (names : List String)
    (value : Json)
    (name : String) :
    (fill jwk names value).memberOrNull name =
      if name ∈ names then value else jwk.memberOrNull name := by
  induction names generalizing jwk with
  | nil => simp [fill]
  | cons first rest ih =>
      rw [fill, List.foldl_cons, ← fill, ih,
        JsonObject.memberOrNull_set]
      by_cases hRest : name ∈ rest
      · simp [hRest]
      · by_cases hFirst : name = first
        · simp [hFirst]
        · simp [hRest, hFirst, Ne.symm hFirst]

/- A JWK with the modulus 33 and without any factor. -/
def bareJwk : JsonObject :=
  JsonObject.ofTexts
    [("kty", Json.text "RSA"), ("n", Json.text "IQ"),
      ("e", Json.text "Aw"), ("d", Json.text "Bw")]

/- This JWK with the modulus in the place of some of its factors. -/
def carrying (names : List String) : JsonObject :=
  fill bareJwk (names.filter fun name => factorMembers.contains name)
    (Json.text "IQ")

section Carrying

variable (names : List String)

/- It carries these members and no others. -/
theorem has_carrying
    {name : String}
    (hMem : name ∈ factorMembers) :
    has (carrying names) name = true ↔ name ∈ names := by
  have hBare : ∀ name ∈ factorMembers, has bareJwk name = false := by
    decide
  have hValue : (Json.text "IQ").isTruthy = true := by
    decide
  unfold has carrying
  rw [memberOrNull_fill]
  by_cases hName : name ∈ names
  · simp [hName, hMem, hValue]
  · have hAbsent := hBare name hMem
    unfold has at hAbsent
    simp [hName, hAbsent]

/- Those that it carries are the modulus. -/
theorem number_carrying
    {name : String}
    (hMem : name ∈ factorMembers)
    (hName : name ∈ names) :
    number (carrying names) name = .ok 33 := by
  have hRead : Key.readValue (Json.text "IQ") = .ok 33 := by
    decide +kernel
  have hValue :
      (carrying names).memberOrNull name = Json.text "IQ" := by
    unfold carrying
    rw [memberOrNull_fill]
    simp [hName, hMem]
  unfold number
  rw [hValue, hRead]
  rfl

/- The rest of it is as without them. -/
theorem lacksFactors_carrying
    (hAbsent : ∃ name ∈ factorMembers, name ∉ names) :
    LacksFactors bareJwk (carrying names) := by
  constructor
  · intro name hOther
    unfold carrying
    rw [memberOrNull_fill, if_neg]
    intro hMem
    have hContains := (List.mem_filter.mp hMem).2
    exact hOther (List.contains_iff_mem.mp hContains)
  · rcases hAbsent with ⟨name, hMem, hNot⟩
    refine ⟨name, hMem, ?_⟩
    have hHas := mt (has_carrying names hMem).mp hNot
    exact Bool.eq_false_of_not_eq_true hHas

/- A bare JWK lacks its factors. -/
theorem not_all_bareJwk :
    ¬ factorMembers.all (has bareJwk) = true := by
  decide

/- It is accepted. -/
theorem exists_toMaterial_bareJwk :
    ∃ m, toMaterial bareJwk = .ok m := by
  have hSome : (toMaterial bareJwk).toOption.isSome = true := by
    decide +kernel
  rcases Option.isSome_iff_exists.mp hSome with ⟨m, hMaterial⟩
  exact ⟨m, (Attempt.toOption_eq_some_iff _ _).mp hMaterial⟩

/- What is carried by such a JWK does not agree with it. -/
theorem not_carriesTrue_carrying
    (hSome : ∃ name ∈ factorMembers, name ∈ names)
    (hAbsent : ∃ name ∈ factorMembers, name ∉ names) :
    ¬ CarriesTrue (carrying names) := by
  have hLacks := lacksFactors_carrying names hAbsent
  have hModulus : number (carrying names) "n" = .ok 33 := by
    rw [hLacks.number_eq (by decide)]
    decide +kernel
  have hPrivate : number (carrying names) "d" = .ok 7 := by
    rw [hLacks.number_eq (by decide)]
    decide +kernel
  have hFactor :
      ∀ f, IsFactor (carrying names) f → f.Prime ∧ f ≤ 33 := by
    intro f h
    rcases h with ⟨n, hn, hPrime, hDvd⟩
    rw [hModulus] at hn
    rw [← Except.ok.inj hn] at hDvd
    exact ⟨hPrime, Nat.le_of_dvd (by decide) hDvd⟩
  have hKinds :
      ∀ name ∈ factorMembers,
        name ∈ ["p", "q"] ∨ name ∈ ["dp", "dq"] ∨ name = "qi" := by
    decide
  intro hTrue
  rcases hSome with ⟨name, hMem, hName⟩
  have hHas := (has_carrying names hMem).mpr hName
  have hNumber := number_carrying names hMem hName
  rcases hKinds name hMem with hKind | hKind | hKind
  · rcases hTrue.factor name hKind hHas with ⟨f, hf, hIs⟩
    rw [hNumber] at hf
    have hPrime := (hFactor f hIs).1
    rw [← Except.ok.inj hf] at hPrime
    norm_num at hPrime
  · rcases hTrue.exponent name hKind hHas with ⟨d, f, hd, _, hReduced⟩
    rw [hPrivate] at hd
    rw [hNumber, ← Except.ok.inj hd] at hReduced
    have hEqual : 33 = 7 % (f - 1) := Except.ok.inj hReduced
    have hLess := Nat.mod_le 7 (f - 1)
    omega
  · rw [hKind] at hHas hNumber
    rcases hTrue.inverse hHas with
      ⟨f, g, i, hf, _, _, hi, hBelow, _⟩
    rw [hNumber] at hi
    have hEqual : 33 = i := Except.ok.inj hi
    have hLess := (hFactor f hf).2
    omega

end Carrying

------------------------------------------------------------
-- Checks
------------------------------------------------------------

/-
  Whether the members of the factors are checked in every JWK
  that carries those of the names and no others: if it is
  accepted then they agree with it, and if they do not then it
  is refused, as one that is invalid and not as one of another
  kind.
-/
def ChecksFactors (names : List String) : Prop :=
  ∀ jwk,
    (∀ name ∈ factorMembers, has jwk name = true ↔ name ∈ names) →
      IsTestedRight jwk →
        (∀ m, toMaterial jwk = .ok m → CarriesTrue jwk) ∧
          (jwk.memberOrNull "kty" = Json.text "RSA" →
            AsksSupported jwk →
              ¬ CarriesTrue jwk →
                ∃ e,
                  toMaterial jwk = .error e ∧
                    e.isUnsupported = false)

/- A JWK that is only accepted if it agrees is refused else. -/
theorem refused_of_accepted
    (hAccepted : ∀ m, toMaterial jwk = .ok m → CarriesTrue jwk)
    (hType : jwk.memberOrNull "kty" = Json.text "RSA")
    (hSupported : AsksSupported jwk)
    (hFalse : ¬ CarriesTrue jwk) :
    ∃ e, toMaterial jwk = .error e ∧ e.isUnsupported = false := by
  cases hMaterial : toMaterial jwk with
  | ok m => exact absurd (hAccepted m hMaterial) hFalse
  | error e =>
      exact ⟨e, rfl,
        isUnsupported_of_toMaterial hType hSupported hMaterial⟩

/- The test for primes is right about the modulus 33. -/
theorem isTestedRight_of_number
    (hModulus : number jwk "n" = .ok 33) :
    IsTestedRight jwk := by
  have hSmall :
      ∀ f < 34, f ∣ 33 → Rsa.isProbablePrime f = true →
        f = 3 ∨ f = 11 := by
    decide +kernel
  intro n f hn hDvd hPasses
  rw [hModulus] at hn
  rw [← Except.ok.inj hn] at hDvd
  have hLe : f ≤ 33 := Nat.le_of_dvd (by decide) hDvd
  rcases hSmall f (by omega) hDvd hPasses with rfl | rfl
  · exact Nat.prime_three
  · exact Nat.prime_eleven

/-
  The members of the factors are checked if and only if none of
  them is there or all five are.
-/
theorem checksFactors_iff (names : List String) :
    ChecksFactors names ↔
      (∀ name ∈ factorMembers, name ∉ names) ∨
        ∀ name ∈ factorMembers, name ∈ names := by
  constructor
  · intro hChecks
    by_contra hMixed
    push Not at hMixed
    rcases hMixed with ⟨hSome, hAbsent⟩
    have hLacks := lacksFactors_carrying names hAbsent
    have hModulus : number (carrying names) "n" = .ok 33 := by
      rw [hLacks.number_eq (by decide)]
      decide +kernel
    rcases exists_toMaterial_bareJwk with ⟨m, hBare⟩
    have hAccepted : toMaterial (carrying names) = .ok m := by
      rw [hLacks.toMaterial_congr not_all_bareJwk]
      exact hBare
    have hTrue :=
      (hChecks (carrying names) (fun _ => has_carrying names)
        (isTestedRight_of_number hModulus)).1 m hAccepted
    exact not_carriesTrue_carrying names hSome hAbsent hTrue
  · intro hEnds jwk hCarries hTested
    have hAccepted :
        ∀ m, toMaterial jwk = .ok m → CarriesTrue jwk := by
      intro m hMaterial
      rcases hEnds with hNone | hAll
      · apply carriesTrue_of_none
        intro name hMem
        apply Bool.eq_false_of_not_eq_true
        exact mt (hCarries name hMem).mp (hNone name hMem)
      · apply carriesTrue_of_all _ hTested hMaterial
        intro name hMem
        exact (hCarries name hMem).mpr (hAll name hMem)
    exact ⟨hAccepted, refused_of_accepted hAccepted⟩

/- One factor alone is not checked. -/
theorem not_checksFactors_of_first :
    ¬ ChecksFactors ["p"] := by
  rw [checksFactors_iff]
  decide

end Jwk

end KeyAssertion
