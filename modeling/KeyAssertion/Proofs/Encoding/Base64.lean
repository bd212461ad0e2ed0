import KeyAssertion.Encoding.Base64

/-
  Base64: what the padded form consists of and, over the
  alphabet for URLs, what the unpadded form does, how it is
  padded, and that the lenient reader gives back the bytes that
  were written.

  Key definitions include:
    * `Base64.IsUnpadded`

  Key theorems include:
    * `Base64.head?_encode`
    * `Base64.exists_digit_of_mem_encodeUnpadded`
    * `Base64.isUnpadded_encodeUnpadded`
    * `Base64.encode_url_eq`
    * `Base64.Lenient.decode_encode_url`
-/

namespace KeyAssertion

namespace Base64

------------------------------------------------------------
-- The Padded Form
------------------------------------------------------------

/- There are at least as many characters as bytes. -/
theorem length_le_length_encode
    (a : Alphabet)
    (bytes : List UInt8) :
    bytes.length ≤ (encode a bytes).length := by
  fun_induction encode a bytes with
  | case1 => simp
  | case2 x n => simp
  | case3 x y n => simp
  | case4 x y z rest n ih =>
      simp only [List.length_cons]
      omega

/- Bytes begin with a digit, if there are any. -/
theorem head?_encode
    (a : Alphabet)
    {bytes : List UInt8}
    (h : bytes ≠ []) :
    ∃ n, n < 64 ∧ (encode a bytes).head? = some (a.digit n) := by
  match bytes with
  | [x] =>
      have hx := x.toNat_lt
      exact ⟨_, by omega, rfl⟩
  | [x, y] =>
      have hx := x.toNat_lt
      have hy := y.toNat_lt
      exact ⟨_, by omega, rfl⟩
  | x :: y :: z :: rest =>
      have hx := x.toNat_lt
      have hy := y.toNat_lt
      have hz := z.toNat_lt
      exact ⟨_, by omega, rfl⟩

------------------------------------------------------------
-- The Unpadded Form
------------------------------------------------------------

section Unpadded

variable (x y z : UInt8) (rest : List UInt8)

/- No bytes have no characters. -/
@[simp]
theorem encodeUnpadded_nil :
    encodeUnpadded url [] = [] :=
  rfl

/- One byte has two characters. -/
theorem encodeUnpadded_single :
    encodeUnpadded url [x] =
      [url.digit (x.toNat * 16 / 64), url.digit (x.toNat * 16 % 64)] := by
  have hx := x.toNat_lt
  have h₁ := url.digit_ne_pad (x.toNat * 16 / 64) (by omega)
  have h₂ := url.digit_ne_pad (x.toNat * 16 % 64) (by omega)
  simp [encodeUnpadded, encode, h₁, h₂]

/- Two bytes have three characters. -/
theorem encodeUnpadded_pair :
    encodeUnpadded url [x, y] =
      [url.digit ((x.toNat * 256 + y.toNat) * 4 / 4096),
        url.digit ((x.toNat * 256 + y.toNat) * 4 / 64 % 64),
        url.digit ((x.toNat * 256 + y.toNat) * 4 % 64)] := by
  have hx := x.toNat_lt
  have hy := y.toNat_lt
  have h₁ := url.digit_ne_pad ((x.toNat * 256 + y.toNat) * 4 / 4096)
    (by omega)
  have h₂ := url.digit_ne_pad ((x.toNat * 256 + y.toNat) * 4 / 64 % 64)
    (by omega)
  have h₃ := url.digit_ne_pad ((x.toNat * 256 + y.toNat) * 4 % 64)
    (by omega)
  simp [encodeUnpadded, encode, h₁, h₂, h₃]

/- The first three bytes have four characters. -/
theorem encodeUnpadded_group :
    encodeUnpadded url (x :: y :: z :: rest) =
      url.digit (((x.toNat * 256 + y.toNat) * 256 + z.toNat) / 262144) ::
        url.digit
          (((x.toNat * 256 + y.toNat) * 256 + z.toNat) / 4096 % 64) ::
        url.digit
          (((x.toNat * 256 + y.toNat) * 256 + z.toNat) / 64 % 64) ::
        url.digit (((x.toNat * 256 + y.toNat) * 256 + z.toNat) % 64) ::
        encodeUnpadded url rest := by
  have hx := x.toNat_lt
  have hy := y.toNat_lt
  have hz := z.toNat_lt
  have h₁ := url.digit_ne_pad
    (((x.toNat * 256 + y.toNat) * 256 + z.toNat) / 262144) (by omega)
  have h₂ := url.digit_ne_pad
    (((x.toNat * 256 + y.toNat) * 256 + z.toNat) / 4096 % 64) (by omega)
  have h₃ := url.digit_ne_pad
    (((x.toNat * 256 + y.toNat) * 256 + z.toNat) / 64 % 64) (by omega)
  have h₄ := url.digit_ne_pad
    (((x.toNat * 256 + y.toNat) * 256 + z.toNat) % 64) (by omega)
  simp [encodeUnpadded, encode, h₁, h₂, h₃, h₄]

/- Bytes have characters if there are any. -/
theorem encodeUnpadded_ne_nil
    {bytes : List UInt8}
    (h : bytes ≠ []) :
    encodeUnpadded url bytes ≠ [] := by
  match bytes with
  | [x] => simp [encodeUnpadded_single]
  | [x, y] => simp [encodeUnpadded_pair]
  | x :: y :: z :: rest => simp [encodeUnpadded_group]

end Unpadded

/- The unpadded form consists of digits only. -/
theorem exists_digit_of_mem_encodeUnpadded
    {c : Char}
    {bytes : List UInt8}
    (h : c ∈ encodeUnpadded url bytes) :
    ∃ n, n < 64 ∧ c = url.digit n := by
  fun_induction encode url bytes with
  | case1 => simp at h
  | case2 x n =>
      have hx := x.toNat_lt
      rw [encodeUnpadded_single] at h
      simp only [List.mem_cons, List.not_mem_nil, or_false] at h
      rcases h with h | h
      · exact ⟨_, by omega, h⟩
      · exact ⟨_, by omega, h⟩
  | case3 x y n =>
      have hx := x.toNat_lt
      have hy := y.toNat_lt
      rw [encodeUnpadded_pair] at h
      simp only [List.mem_cons, List.not_mem_nil, or_false] at h
      rcases h with h | h | h
      · exact ⟨_, by omega, h⟩
      · exact ⟨_, by omega, h⟩
      · exact ⟨_, by omega, h⟩
  | case4 x y z rest n ih =>
      have hx := x.toNat_lt
      have hy := y.toNat_lt
      have hz := z.toNat_lt
      rw [encodeUnpadded_group] at h
      simp only [List.mem_cons] at h
      rcases h with h | h | h | h | h
      · exact ⟨_, by omega, h⟩
      · exact ⟨_, by omega, h⟩
      · exact ⟨_, by omega, h⟩
      · exact ⟨_, by omega, h⟩
      · exact ih h

/- Whether a character is a digit of the alphabet for URLs. -/
def IsUrlDigit (c : Char) : Prop :=
  ('A' ≤ c ∧ c ≤ 'Z') ∨ ('a' ≤ c ∧ c ≤ 'z') ∨ ('0' ≤ c ∧ c ≤ '9') ∨
    c = '-' ∨ c = '_'

instance (c : Char) : Decidable (IsUrlDigit c) := by
  unfold IsUrlDigit
  infer_instance

/-
  Whether characters are digits for URLs, in groups of four of
  which the last may be short, but not of one digit.
-/
def IsUnpadded (cs : List Char) : Prop :=
  (∀ c ∈ cs, IsUrlDigit c) ∧ cs.length % 4 ≠ 1

/- The digits are those characters. -/
theorem isUrlDigit_digit
    {n : Nat}
    (h : n < 64) :
    IsUrlDigit (url.digit n) := by
  have hAll : ∀ n : Fin 64, IsUrlDigit (url.digit n) := by
    decide
  exact hAll ⟨n, h⟩

/- They are in ASCII. -/
theorem IsUrlDigit.toNat_lt
    {c : Char}
    (h : IsUrlDigit c) :
    c.toNat < 128 := by
  rcases h with ⟨_, hUpper⟩ | ⟨_, hLower⟩ | ⟨_, hFigure⟩ | rfl | rfl
  · have hLe : c.toNat ≤ 'Z'.toNat := UInt32.le_iff_toNat_le.mp hUpper
    exact Nat.lt_of_le_of_lt hLe (by decide)
  · have hLe : c.toNat ≤ 'z'.toNat := UInt32.le_iff_toNat_le.mp hLower
    exact Nat.lt_of_le_of_lt hLe (by decide)
  · have hLe : c.toNat ≤ '9'.toNat := UInt32.le_iff_toNat_le.mp hFigure
    exact Nat.lt_of_le_of_lt hLe (by decide)
  · decide
  · decide

/- The unpadded form is made up of them. -/
theorem isUnpadded_encodeUnpadded (bytes : List UInt8) :
    IsUnpadded (encodeUnpadded url bytes) := by
  constructor
  · intro c hMem
    rcases exists_digit_of_mem_encodeUnpadded hMem with ⟨n, hn, rfl⟩
    exact isUrlDigit_digit hn
  · fun_induction encode url bytes with
    | case1 => simp
    | case2 x n => simp [encodeUnpadded_single]
    | case3 x y n => simp [encodeUnpadded_pair]
    | case4 x y z rest n ih =>
        rw [encodeUnpadded_group]
        simp only [List.length_cons]
        omega

/-
  The padded form is the unpadded one, filled with padding
  characters to groups of four.
-/
theorem encode_url_eq (bytes : List UInt8) :
    encode url bytes =
      encodeUnpadded url bytes ++
        List.replicate
          ((4 - (encodeUnpadded url bytes).length % 4) % 4) '=' := by
  fun_induction encode url bytes with
  | case1 => rfl
  | case2 x n =>
      rw [encodeUnpadded_single]
      rfl
  | case3 x y n =>
      rw [encodeUnpadded_pair]
      rfl
  | case4 x y z rest n ih =>
      rw [encodeUnpadded_group, ih]
      have hLength (k : Nat) :
          (4 - (k + 1 + 1 + 1 + 1) % 4) % 4 = (4 - k % 4) % 4 := by
        omega
      simp only [List.length_cons, hLength, List.cons_append]
      rfl

------------------------------------------------------------
-- Reading
------------------------------------------------------------

namespace Lenient

/- A digit adds its value to what has been read. -/
theorem run_digit
    (s : State)
    {n : Nat}
    (h : n < 64)
    (rest : List Char) :
    run s (url.digit n :: rest) = run (s.push n) rest := by
  have hAll : ∀ n : Fin 64,
      standard.value? (url.digit n) = some n.val ∨
        standard.value? (url.digit n) = none ∧
          url.value? (url.digit n) = some n.val := by
    decide
  rw [run, if_neg (url.digit_ne_pad n h)]
  rcases hAll ⟨n, h⟩ with hValue | ⟨hNone, hValue⟩
  · simp only [hValue]
  · simp only [hNone, hValue]

/- The padded form is read to its end. -/
theorem run_encode_url
    (bytes done : List UInt8) :
    run ⟨done, 0, 0, 0⟩ (encode url bytes) =
      .ok (done.reverse ++ bytes) := by
  fun_induction encode url bytes generalizing done with
  | case1 => simp [run, State.finish]
  | case2 x n =>
      have hx := x.toNat_lt
      have ha : UInt8.ofNat (n / 64 * 4 + n % 64 / 16) = x := by
        rw [show n / 64 * 4 + n % 64 / 16 = x.toNat by omega,
          UInt8.ofNat_toNat]
      rw [run_digit _ (by omega), run_digit _ (by omega)]
      simp [State.push, run, ha]
  | case3 x y n =>
      have hx := x.toNat_lt
      have hy := y.toNat_lt
      have ha : UInt8.ofNat (n / 4096 * 4 + n / 64 % 64 / 16) = x := by
        rw [show n / 4096 * 4 + n / 64 % 64 / 16 = x.toNat by omega,
          UInt8.ofNat_toNat]
      have hb :
          UInt8.ofNat (n / 64 % 64 % 16 * 16 + n % 64 / 4) = y := by
        rw [show n / 64 % 64 % 16 * 16 + n % 64 / 4 = y.toNat by omega,
          UInt8.ofNat_toNat]
      rw [run_digit _ (by omega), run_digit _ (by omega),
        run_digit _ (by omega)]
      simp only [State.push, ha, hb]
      simp [run]
  | case4 x y z rest n ih =>
      have hx := x.toNat_lt
      have hy := y.toNat_lt
      have hz := z.toNat_lt
      have ha :
          UInt8.ofNat (n / 262144 * 4 + n / 4096 % 64 / 16) = x := by
        rw [show n / 262144 * 4 + n / 4096 % 64 / 16 = x.toNat by omega,
          UInt8.ofNat_toNat]
      have hb :
          UInt8.ofNat (n / 4096 % 64 % 16 * 16 + n / 64 % 64 / 4) =
            y := by
        rw [show n / 4096 % 64 % 16 * 16 + n / 64 % 64 / 4 = y.toNat by
          omega, UInt8.ofNat_toNat]
      have hc :
          UInt8.ofNat (n / 64 % 64 % 4 * 64 + n % 64) = z := by
        rw [show n / 64 % 64 % 4 * 64 + n % 64 = z.toNat by omega,
          UInt8.ofNat_toNat]
      rw [run_digit _ (by omega), run_digit _ (by omega),
        run_digit _ (by omega), run_digit _ (by omega)]
      simp only [State.push, ha, hb, hc]
      rw [ih]
      simp

/- What was written is read back. -/
theorem decode_encode_url (bytes : List UInt8) :
    decode (encode url bytes) = .ok bytes :=
  run_encode_url bytes []

end Lenient

end Base64

end KeyAssertion
