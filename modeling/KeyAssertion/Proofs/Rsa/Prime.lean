import Mathlib.NumberTheory.LSeries.PrimesInAP
import Mathlib.Tactic.NormNum.Prime
import KeyAssertion.Proofs.Rsa.Factor

/-
  Every prime passes the test for primes.  There are enough of
  them for keys in which any number one likes is the inverse of
  the second factor.

  Key theorems include:
    * `Rsa.isProbablePrime_of_prime`
    * `Rsa.exists_key_of_inverse`
-/

namespace KeyAssertion

namespace Rsa

------------------------------------------------------------
-- Primes
------------------------------------------------------------

/- The power of two that was taken out of a number divides it. -/
theorem two_pow_twoPower_dvd (fuel n : Nat) :
    2 ^ twoPower fuel n ∣ n := by
  induction fuel generalizing n with
  | zero => exact Nat.one_dvd n
  | succ fuel ih =>
      unfold twoPower
      by_cases hEven : n % 2 = 0
      · have hHalf : n / 2 * 2 = n :=
          Nat.div_mul_cancel (Nat.dvd_of_mod_eq_zero hEven)
        rw [if_pos hEven, Nat.pow_succ]
        calc
          2 ^ twoPower fuel (n / 2) * 2 ∣ n / 2 * 2 :=
              Nat.mul_dvd_mul_right (ih _) 2
          _ = n := hHalf
      · rw [if_neg hEven]
        exact Nat.one_dvd n

section Prime

variable {n : Nat}

/- Modulo a prime only one and minus one are roots of one. -/
theorem eq_of_square_eq_one
    {x : Nat}
    (hPrime : n.Prime)
    (hLess : x < n)
    (hSquare : x * x % n = 1) :
    x = 1 ∨ x = n - 1 := by
  by_contra hOther
  push Not at hOther
  have hRoot : IsRoot n x := ⟨hLess, hSquare, hOther.1, hOther.2⟩
  rcases hRoot.dvd_or_dvd hPrime dvd_rfl with hUp | hDown
  · exact hRoot.not_dvd.1 hUp
  · exact hRoot.not_dvd.2 hDown

/-
  If squaring leads to one, then from one, or through minus
  one.
-/
theorem meetsMinusOne_of_pow
    {x : Nat}
    (hPrime : n.Prime)
    (hLess : x < n)
    (count : Nat)
    (hPower : x ^ 2 ^ count % n = 1) :
    x = 1 ∨ meetsMinusOne n count x = true := by
  induction count generalizing x with
  | zero =>
      left
      rwa [Nat.pow_zero, Nat.pow_one, Nat.mod_eq_of_lt hLess] at hPower
  | succ count ih =>
      have hSquared : (x * x % n) ^ 2 ^ count % n = 1 := by
        rw [← Nat.pow_mod, ← Nat.pow_two, ← Nat.pow_mul,
          Nat.mul_comm 2, ← Nat.pow_succ]
        exact hPower
      unfold meetsMinusOne
      rcases ih (Nat.mod_lt _ hPrime.pos) hSquared with hOne | hMeets
      · rcases eq_of_square_eq_one hPrime hLess hOne with hFrom | hMinus
        · exact Or.inl hFrom
        · right
          simp [hMinus]
      · right
        simp [hMeets]

/- A prime passes for every base that it does not divide. -/
theorem passesBase_of_prime
    {base : Nat}
    (hPrime : n.Prime)
    (hBase : ¬ n ∣ base)
    {s odd : Nat}
    (hOrder : odd * 2 ^ s = n - 1) :
    passesBase n s odd base = true := by
  have hCoprime : base.Coprime n :=
    ((Nat.Prime.coprime_iff_not_dvd hPrime).mpr hBase).symm
  have hFermat : base ^ (n - 1) % n = 1 := by
    have hTotient := Nat.ModEq.pow_totient hCoprime
    rw [Nat.totient_prime hPrime] at hTotient
    rw [hTotient, Nat.mod_eq_of_lt hPrime.one_lt]
  have hPower : powMod base odd n ^ 2 ^ s % n = 1 := by
    rw [powMod_eq, ← Nat.pow_mod, ← Nat.pow_mul, hOrder, hFermat]
  have hLess : powMod base odd n < n := by
    rw [powMod_eq]
    exact Nat.mod_lt _ hPrime.pos
  unfold passesBase
  rcases meetsMinusOne_of_pow hPrime hLess s hPower with hOne | hMeets
  · simp [hOne]
  · simp [hMeets]

/- A prime passes the test. -/
theorem isProbablePrime_of_prime (hPrime : n.Prime) :
    isProbablePrime n = true := by
  have hTwo := hPrime.two_le
  unfold isProbablePrime
  rw [if_neg (by omega)]
  by_cases hListed : witnessBases.contains n = true
  · rw [if_pos hListed]
  have hBases :
      ∀ base ∈ witnessBases, base.Prime ∧ base ≠ n := by
    intro base hMem
    refine ⟨?_, ?_⟩
    · fin_cases hMem <;> norm_num
    · rintro rfl
      exact hListed (List.contains_iff_mem.mpr hMem)
  have hFactor :
      ¬ (witnessBases.any fun p => n % p == 0) = true := by
    intro hAny
    rcases List.any_eq_true.mp hAny with ⟨base, hMem, hZero⟩
    have hDvd : base ∣ n :=
      Nat.dvd_of_mod_eq_zero (beq_iff_eq.mp hZero)
    rcases hBases base hMem with ⟨hBase, hNe⟩
    exact hNe ((Nat.prime_dvd_prime_iff_eq hBase hPrime).mp hDvd)
  rw [if_neg hListed, if_neg hFactor]
  apply List.all_eq_true.mpr
  intro base hMem
  rcases hBases base hMem with ⟨hBase, hNe⟩
  apply passesBase_of_prime hPrime
  · intro hDvd
    exact hNe ((Nat.prime_dvd_prime_iff_eq hPrime hBase).mp hDvd).symm
  · exact Nat.div_mul_cancel (two_pow_twoPower_dvd _ _)

end Prime

------------------------------------------------------------
-- Keys
------------------------------------------------------------

/- One less than a modulus is its own inverse. -/
theorem pred_mul_pred_mod
    {m : Nat}
    (h : 1 < m) :
    (m - 1) * (m - 1) % m = 1 := by
  have hSquare : (m - 1) * (m - 1) = 1 + m * (m - 2) := by
    obtain ⟨k, rfl⟩ : ∃ k, m = k + 2 := ⟨m - 2, by omega⟩
    simp only [Nat.add_sub_cancel, show k + 2 - 1 = k + 1 by omega]
    ring
  rw [hSquare, Nat.add_mul_mod_self_left, Nat.mod_eq_of_lt h]

/-
  The numbers of a key with two given factors and a given
  inverse.  Both exponents are one less than the common
  multiple of the orders.
-/
def Numbers.ofInverse
    (p q qi : Nat) : Numbers :=
  let d := Nat.lcm (p - 1) (q - 1) - 1
  ⟨p * q, d, d, p, q, d % (p - 1), d % (q - 1), qi⟩

/- They belong together if the factors are odd primes. -/
theorem Numbers.sound_ofInverse
    {p q qi : Nat}
    (hp : p.Prime)
    (hq : q.Prime)
    (hpOdd : p % 2 = 1)
    (hqLarge : 5 ≤ q)
    (hLess : qi < p)
    (hInverse : qi * q % p = 1) :
    (ofInverse p q qi).Sound := by
  have hqOdd : q % 2 = 1 :=
    hq.eq_two_or_odd.resolve_left (by omega)
  have hpTwo := hp.two_le
  have hOrders : q - 1 ∣ Nat.lcm (p - 1) (q - 1) :=
    Nat.dvd_lcm_right _ _
  have hPositive : 0 < Nat.lcm (p - 1) (q - 1) :=
    Nat.lcm_pos (by omega) (by omega)
  have hLarge := Nat.le_of_dvd hPositive hOrders
  have hEven : 2 ∣ Nat.lcm (p - 1) (q - 1) :=
    dvd_trans (by omega) hOrders
  constructor
  · simp only [ofInverse]
    omega
  · simp only [ofInverse]
    omega
  · rfl
  · exact hpOdd
  · exact hqOdd
  · exact isProbablePrime_of_prime hp
  · exact isProbablePrime_of_prime hq
  · exact pred_mul_pred_mod (by omega)
  · rfl
  · rfl
  · exact hLess
  · exact hInverse

/- The exponents are below the modulus. -/
theorem Numbers.exponent_ofInverse_lt
    {p q : Nat}
    (hp : p.Prime)
    (hq : q.Prime)
    (qi : Nat) :
    (ofInverse p q qi).d < (ofInverse p q qi).n := by
  have hpTwo := hp.two_le
  have hqTwo := hq.two_le
  have hProduct : 0 < (p - 1) * (q - 1) :=
    Nat.mul_pos (by omega) (by omega)
  have hLcm : Nat.lcm (p - 1) (q - 1) ≤ (p - 1) * (q - 1) :=
    Nat.le_of_dvd hProduct (Nat.lcm_dvd_mul _ _)
  have hMul : (p - 1) * (q - 1) ≤ p * q :=
    Nat.mul_le_mul (Nat.sub_le _ _) (Nat.sub_le _ _)
  simp only [ofInverse]
  omega

/- Every number but zero is the inverse in some key. -/
theorem exists_key_of_inverse
    {qi : Nat}
    (hPositive : 0 < qi) :
    ∃ key : PrivateKey,
      key.numbers.qi = qi ∧ key.numbers.check = .ok key := by
  rcases Nat.exists_infinite_primes (qi + 3) with ⟨p, hpLarge, hp⟩
  have hpOdd : p % 2 = 1 :=
    hp.eq_two_or_odd.resolve_left (by omega)
  have hCoprime : qi.Coprime p :=
    (Nat.coprime_of_lt_prime (by omega) (by omega) hp).symm
  have hOwn : inverseMod qi p * qi ≡ 1 [MOD p] :=
    inverseMod_mul_modEq hp.pos hCoprime
  -- the second factor is a prime among the inverses of the number
  rcases Nat.forall_exists_prime_gt_and_modEq 5 hp.ne_zero
      (Nat.coprime_of_mul_modEq_one _ hOwn) with
    ⟨q, hqLarge, hq, hqMod⟩
  have hInverse : qi * q % p = 1 := by
    have hOne : qi * q ≡ 1 [MOD p] := by
      rw [Nat.mul_comm] at hOwn
      exact (hqMod.mul_left qi).trans hOwn
    rw [hOne, Nat.mod_eq_of_lt hp.one_lt]
  have hSound :=
    Numbers.sound_ofInverse hp hq hpOdd hqLarge.le (by omega) hInverse
  have hSmall := Numbers.exponent_ofInverse_lt hp hq qi
  refine ⟨⟨_, (Numbers.isSound_iff _).mpr hSound⟩, rfl, ?_⟩
  exact (Numbers.check_eq_ok_iff _ _).mpr ⟨rfl, hSmall, hSmall⟩

end Rsa

end KeyAssertion
