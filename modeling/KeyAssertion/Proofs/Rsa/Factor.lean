import KeyAssertion.Proofs.Rsa.Euclid
import KeyAssertion.Proofs.Rsa.Inverse
import KeyAssertion.Rsa.Factor

/-
  The factors that are recovered from the exponents of a key
  are those of the key, whatever numbers the search is based
  on, and with them the key is the same one: its private
  operation gives the same numbers.

  Key definitions include:
    * `Rsa.IsRoot`
    * `Rsa.recoverFactorsFrom`
    * `Rsa.Numbers.SharesFactors`
    * `Rsa.Numbers.recovered`

  Key theorems include:
    * `Rsa.IsRoot.gcd_cases`
    * `Rsa.Numbers.Sound.recoverFactorsFrom_cases`
    * `Rsa.Numbers.Sound.recovered`
    * `Rsa.Numbers.Sound.privatePower_eq`
-/

namespace KeyAssertion

namespace Rsa

------------------------------------------------------------
-- Roots of One
------------------------------------------------------------

/- Whether a number is a root of one other than one and minus one. -/
structure IsRoot (n x : Nat) : Prop where
  lt : x < n
  square : x * x % n = 1
  ne_one : x ≠ 1
  ne_minus_one : x ≠ n - 1

/- What is found by squaring is such a root. -/
theorem isRoot_of_rootOfOne?
    {n count x root : Nat}
    (hLess : x < n)
    (h : rootOfOne? n count x = some root) :
    IsRoot n root := by
  induction count generalizing x with
  | zero => cases h
  | succ count ih =>
      unfold rootOfOne? at h
      dsimp only at h
      by_cases hRoot : x ≠ 1 ∧ x ≠ n - 1 ∧ x * x % n = 1
      · rw [if_pos hRoot] at h
        rw [← Option.some.inj h]
        exact ⟨hLess, hRoot.2.2, hRoot.1, hRoot.2.1⟩
      · rw [if_neg hRoot] at h
        apply ih _ h
        exact Nat.mod_lt _ (by omega)

/- So is what one of several bases leads to. -/
theorem isRoot_of_searchRoot?
    {n odd count root : Nat}
    {bases : List Nat}
    (hModulus : 0 < n)
    (h : searchRoot? n odd count bases = some root) :
    IsRoot n root := by
  induction bases with
  | nil => cases h
  | cons base rest ih =>
      unfold searchRoot? at h
      split at h
      · case _ x hFound =>
          rw [← Option.some.inj h]
          apply isRoot_of_rootOfOne? _ hFound
          rw [powMod_eq]
          exact Nat.mod_lt _ hModulus
      · exact ih h

namespace IsRoot

variable {n x : Nat}

/- A root of one is not zero. -/
theorem pos (h : IsRoot n x) :
    0 < x := by
  by_contra hZero
  have hSquare := h.square
  simp [Nat.eq_zero_of_not_pos hZero] at hSquare

/- Each factor divides one of the numbers next to a root. -/
theorem dvd_or_dvd
    {f : Nat}
    (h : IsRoot n x)
    (hPrime : f.Prime)
    (hFactor : f ∣ n) :
    f ∣ x + 1 ∨ f ∣ x - 1 := by
  have hDvd : n ∣ x * x - x * x % n := Nat.dvd_sub_mod _
  rw [h.square, ← Nat.mul_one 1, Nat.mul_self_sub_mul_self_eq] at hDvd
  exact hPrime.dvd_mul.mp (hFactor.trans hDvd)

/- The modulus divides neither of them. -/
theorem not_dvd (h : IsRoot n x) :
    ¬ n ∣ x + 1 ∧ ¬ n ∣ x - 1 := by
  have hPos := h.pos
  have hLess := h.lt
  have hOne := h.ne_one
  have hMinusOne := h.ne_minus_one
  constructor
  · intro hDvd
    have hLarge := Nat.le_of_dvd (by omega) hDvd
    omega
  · intro hDvd
    have hLarge := Nat.le_of_dvd (by omega) hDvd
    omega

/- So the one factor divides the one number, the other the other. -/
theorem gcd_cases
    {p q : Nat}
    (hp : p.Prime)
    (hq : q.Prime)
    (hCoprime : p.Coprime q)
    (h : IsRoot (p * q) x) :
    Nat.gcd (x + 1) (p * q) = p ∨ Nat.gcd (x + 1) (p * q) = q := by
  have hNot := h.not_dvd
  rw [hCoprime.gcd_mul]
  rcases h.dvd_or_dvd hp (Nat.dvd_mul_right p q) with hpUp | hpDown
  · left
    have hqUp : ¬ q ∣ x + 1 := by
      intro hqUp
      exact hNot.1 (hCoprime.mul_dvd_of_dvd_of_dvd hpUp hqUp)
    rw [Nat.gcd_eq_right hpUp,
      ((Nat.Prime.coprime_iff_not_dvd hq).mpr hqUp).symm.gcd_eq_one,
      Nat.mul_one]
  · right
    have hqUp : q ∣ x + 1 := by
      rcases h.dvd_or_dvd hq (Nat.dvd_mul_left q p) with hqUp | hqDown
      · exact hqUp
      · exact absurd (hCoprime.mul_dvd_of_dvd_of_dvd hpDown hqDown)
          hNot.2
    have hpUp : ¬ p ∣ x + 1 := by
      intro hpUp
      exact hNot.1 (hCoprime.mul_dvd_of_dvd_of_dvd hpUp hqUp)
    rw [Nat.gcd_eq_right hqUp,
      ((Nat.Prime.coprime_iff_not_dvd hp).mpr hpUp).symm.gcd_eq_one,
      Nat.one_mul]

end IsRoot

------------------------------------------------------------
-- Recovery
------------------------------------------------------------

/- The factors of a modulus, from a search with bases of one's own. -/
def recoverFactorsFrom
    (bases : List Nat)
    (n e d : Nat) : Except FactorFault (Nat × Nat) :=
  if d ≤ 1 ∨ e ≤ 1 then
    .error .smallExponent
  else if n = 0 then
    .error .zeroModulus
  else if powMod 17 (e * d) n ≠ 17 then
    .error .exponentsMismatch
  else
    let total := d * e - 1
    let count := twoPower (total.log2 + 1) total
    match searchRoot? n (total / Nat.pow 2 count) count bases with
    | none => .error .notFound
    | some x =>
        let p := Nat.gcd (x + 1) n
        let q := n / p
        .ok (max p q, min p q)

/- The bases of the search are particular ones. -/
theorem recoverFactors_eq (n e d : Nat) :
    recoverFactors n e d = recoverFactorsFrom factorBases n e d :=
  rfl

namespace Numbers

/-
  Whether two sets of numbers have the modulus, the exponents
  and the factors in common, the factors in either order.
-/
structure SharesFactors (k k' : Numbers) : Prop where
  n : k'.n = k.n
  e : k'.e = k.e
  d : k'.d = k.d
  factors : (k'.p = k.p ∧ k'.q = k.q) ∨ (k'.p = k.q ∧ k'.q = k.p)

/-
  The numbers of a key with its factors in order, the greater
  first, and the last three computed from the others.
-/
def recovered (k : Numbers) : Numbers :=
  let p := max k.p k.q
  let q := min k.p k.q
  ⟨k.n, k.e, k.d, p, q, k.d % (p - 1), k.d % (q - 1), inverseMod q p⟩

/- Their factors are those of the key. -/
theorem sharesFactors_recovered (k : Numbers) :
    k.SharesFactors k.recovered := by
  refine ⟨rfl, rfl, rfl, ?_⟩
  rcases Nat.le_total k.p k.q with hLess | hMore
  · exact Or.inr ⟨max_eq_right hLess, min_eq_left hLess⟩
  · exact Or.inl ⟨max_eq_left hMore, min_eq_right hMore⟩

namespace Sound

variable {k k' : Numbers}

/- The power to both exponents is the number itself. -/
theorem pow_modEq_n
    (h : k.Sound)
    (hp : k.p.Prime)
    (hq : k.q.Prime)
    (hPositive : 0 < k.d * k.e)
    (m : Nat) :
    m ^ (k.d * k.e) ≡ m [MOD k.n] := by
  rw [← h.product]
  apply (Nat.modEq_and_modEq_iff_modEq_mul h.coprime).mp
  constructor
  · apply pow_modEq_self hp hPositive
    exact h.d_mul_e_modEq_one (Nat.dvd_lcm_left _ _)
  · apply pow_modEq_self hq hPositive
    exact h.d_mul_e_modEq_one (Nat.dvd_lcm_right _ _)

/-
  From the modulus and the exponents of a key its factors are
  recovered, the greater first, or no root is found.
-/
theorem recoverFactorsFrom_cases
    (h : k.Sound)
    (hp : k.p.Prime)
    (hq : k.q.Prime)
    (hModulus : 17 < k.n)
    (hPrivate : 1 < k.d)
    (bases : List Nat) :
    recoverFactorsFrom bases k.n k.e k.d =
        .ok (k.recovered.p, k.recovered.q) ∨
      recoverFactorsFrom bases k.n k.e k.d = .error .notFound := by
  have hPublic := h.three_le_e
  have hPositive : 0 < k.d * k.e :=
    Nat.mul_pos (by omega) (by omega)
  have hMatch : powMod 17 (k.e * k.d) k.n = 17 := by
    rw [powMod_eq, Nat.mul_comm, h.pow_modEq_n hp hq hPositive 17,
      Nat.mod_eq_of_lt hModulus]
  unfold recoverFactorsFrom
  rw [if_neg (by omega), if_neg (by omega), if_neg (not_not.mpr hMatch)]
  dsimp only
  split
  · exact Or.inr rfl
  · case _ x hFound =>
      left
      have hRoot := isRoot_of_searchRoot? (by omega) hFound
      rw [← h.product] at hRoot ⊢
      have hpPos := hp.pos
      have hqPos := hq.pos
      rcases hRoot.gcd_cases hp hq h.coprime with hGcd | hGcd
      · rw [hGcd, Nat.mul_div_cancel_left _ hpPos]
        rfl
      · rw [hGcd, Nat.mul_div_cancel _ hqPos, max_comm, min_comm]
        rfl

/-
  Numbers that share the factors of a key belong together if
  the last three are those of their factors.
-/
theorem of_sharesFactors
    (h : k.Sound)
    (hShares : k.SharesFactors k')
    (hdp : k'.dp = k'.d % (k'.p - 1))
    (hdq : k'.dq = k'.d % (k'.q - 1))
    (hLess : k'.qi < k'.p)
    (hInverse : k'.qi * k'.q % k'.p = 1) :
    k'.Sound := by
  have hOdd : k'.e % 2 = 1 := by
    rw [hShares.e]
    exact h.e_odd
  have hOne : k'.e ≠ 1 := by
    rw [hShares.e]
    exact h.e_ne_one
  rcases hShares.factors with ⟨hFirst, hSecond⟩ | ⟨hFirst, hSecond⟩
  · refine ⟨hOdd, hOne, ?_, ?_, ?_, ?_, ?_, ?_, hdp, hdq, hLess,
      hInverse⟩
    · rw [hFirst, hSecond, hShares.n, h.product]
    · rw [hFirst, h.p_odd]
    · rw [hSecond, h.q_odd]
    · rw [hFirst, h.p_passes]
    · rw [hSecond, h.q_passes]
    · rw [hFirst, hSecond, hShares.d, hShares.e, h.inverse]
  · refine ⟨hOdd, hOne, ?_, ?_, ?_, ?_, ?_, ?_, hdp, hdq, hLess,
      hInverse⟩
    · rw [hFirst, hSecond, hShares.n, Nat.mul_comm, h.product]
    · rw [hFirst, h.q_odd]
    · rw [hSecond, h.p_odd]
    · rw [hFirst, h.q_passes]
    · rw [hSecond, h.p_passes]
    · rw [hFirst, hSecond, hShares.d, hShares.e, Nat.lcm_comm,
        h.inverse]

/- The factors of such numbers have no factor in common. -/
theorem coprime_of_sharesFactors
    (h : k.Sound)
    (hShares : k.SharesFactors k') :
    k'.q.Coprime k'.p := by
  rcases hShares.factors with ⟨hFirst, hSecond⟩ | ⟨hFirst, hSecond⟩
  · rw [hFirst, hSecond]
    exact h.coprime.symm
  · rw [hFirst, hSecond]
    exact h.coprime

/- Both are at least three. -/
theorem three_le_of_sharesFactors
    (h : k.Sound)
    (hShares : k.SharesFactors k') :
    3 ≤ k'.p ∧ 3 ≤ k'.q := by
  have hp := h.three_le_p
  have hq := h.three_le_q
  rcases hShares.factors with ⟨hFirst, hSecond⟩ | ⟨hFirst, hSecond⟩
  · omega
  · omega

/- The numbers with the factors in order belong together. -/
theorem recovered (h : k.Sound) :
    k.recovered.Sound := by
  have hShares := k.sharesFactors_recovered
  have hThree := (h.three_le_of_sharesFactors hShares).1
  have hPos : 0 < k.recovered.p := by
    omega
  have hInverse :
      k.recovered.qi * k.recovered.q ≡ 1 [MOD k.recovered.p] :=
    inverseMod_mul_modEq hPos (h.coprime_of_sharesFactors hShares)
  apply h.of_sharesFactors hShares rfl rfl
  · exact inverseMod_lt k.recovered.q hPos
  · rw [hInverse]
    exact Nat.mod_eq_of_lt (by omega)

/- The first of them is the greater one. -/
theorem recovered_q_lt_p (h : k.Sound) :
    k.recovered.q < k.recovered.p := by
  have hNe := h.recovered.p_ne_q
  have hOrder : k.recovered.q ≤ k.recovered.p := min_le_max
  omega

/- Modulo a factor the private operation is the reduced power. -/
theorem privatePower_modEq
    (h : k.Sound)
    {f : Nat}
    (hFactor : f = k.p ∨ f = k.q)
    (m : Nat) :
    privatePower k m ≡ m ^ (k.d % (f - 1)) [MOD f] := by
  rcases hFactor with hFirst | hSecond
  · rw [hFirst, ← h.dp_eq]
    exact h.privatePower_modEq_p m
  · rw [hSecond, ← h.dq_eq]
    exact privatePower_modEq_q m

/-
  Two keys with the same factors have one private operation: a
  number below the modulus is told by what it leaves modulo
  the factors.
-/
theorem privatePower_eq
    (h : k.Sound)
    (h' : k'.Sound)
    (hShares : k.SharesFactors k')
    (m : Nat) :
    privatePower k' m = privatePower k m := by
  have hFactor :
      ∀ f, f = k.p ∨ f = k.q →
        privatePower k' m ≡ privatePower k m [MOD f] := by
    intro f hOf
    have hOf' : f = k'.p ∨ f = k'.q := by
      rcases hShares.factors with ⟨hFirst, hSecond⟩ | ⟨hFirst, hSecond⟩
      · rw [hFirst, hSecond]
        exact hOf
      · rw [hFirst, hSecond]
        exact hOf.symm
    have hLeft := h'.privatePower_modEq hOf' m
    rw [hShares.d] at hLeft
    exact hLeft.trans (h.privatePower_modEq hOf m).symm
  have hModulus : privatePower k' m ≡ privatePower k m [MOD k.n] := by
    rw [← h.product]
    apply (Nat.modEq_and_modEq_iff_modEq_mul h.coprime).mp
    exact ⟨hFactor _ (Or.inl rfl), hFactor _ (Or.inr rfl)⟩
  apply hModulus.eq_of_lt_of_lt
  · rw [← hShares.n]
    exact h'.privatePower_lt m
  · exact h.privatePower_lt m

end Sound

end Numbers

/- So they sign alike with the deterministic padding. -/
theorem sign_eq_of_sharesFactors
    {key key' : PrivateKey}
    (hShares : key.numbers.SharesFactors key'.numbers)
    (h : Digest)
    (salt message : Bytes) :
    sign key' .pkcs1 h salt message = sign key .pkcs1 h salt message := by
  have hBits : key'.bits = key.bits := by
    rw [PrivateKey.bits, hShares.n, PrivateKey.bits]
  unfold sign
  simp only [hBits, key.isSound.privatePower_eq key'.isSound hShares]

end Rsa

end KeyAssertion
