import Mathlib.Data.List.TakeWhile
import KeyAssertion.Key.Member
import KeyAssertion.Proofs.Encoding.Base64
import KeyAssertion.Proofs.Encoding.Bytes

/-
  Members of a JWK that are read back as the numbers that were
  written.

  Key theorems include:
    * `Key.readMember_encodeUrl`
    * `Key.readMember_writeMember`
    * `Key.isTruthy_of_readValue`
-/

namespace KeyAssertion

/- A string is empty if it has no code points. -/
theorem JsonString.isEmpty_iff (s : JsonString) :
    s.isEmpty = true ↔ s.points = [] := by
  cases s with
  | text t => simp [isEmpty, points]
  | broken points h => simp [isEmpty, JsonString.points]

/- Only the empty text is. -/
theorem JsonString.isEmpty_iff_eq (s : JsonString) :
    s.isEmpty = true ↔ s = .text "" := by
  cases s with
  | text t => simp [isEmpty]
  | broken points h =>
      cases points with
      | nil => cases h
      | cons p rest => simp [isEmpty]

namespace Key

/- Code points in ASCII are not refused. -/
theorem foreignRun?_of_ascii
    {points : List Nat}
    (h : ∀ c ∈ points, c < 128) :
    foreignRun? points = none := by
  have hBefore : points.takeWhile (· < 128) = points := by
    rw [List.takeWhile_eq_self_iff]
    intro c hc
    simpa using h c hc
  simp [foreignRun?, hBefore]

/- The characters of unpadded Base64 are in ASCII. -/
theorem toNat_lt_of_mem_encodeUnpadded
    {bytes : Bytes}
    {c : Char}
    (h : c ∈ Base64.encodeUnpadded Base64.url bytes) :
    c.toNat < 128 := by
  have hAll : ∀ n : Fin 64, (Base64.url.digit n).toNat < 128 := by
    decide
  rcases Base64.exists_digit_of_mem_encodeUnpadded h with ⟨n, hn, rfl⟩
  exact hAll ⟨n, hn⟩

/- The code points of unpadded Base64 are read as its bytes. -/
theorem readPoints_encodeUnpadded (bytes : Bytes) :
    readPoints
        ((Base64.encodeUnpadded Base64.url bytes).map Char.toNat) =
      .ok (Bytes.toNat bytes) := by
  have hForeign :
      foreignRun?
          ((Base64.encodeUnpadded Base64.url bytes).map Char.toNat) =
        none := by
    apply foreignRun?_of_ascii
    intro c hc
    rcases List.mem_map.mp hc with ⟨x, hMem, rfl⟩
    exact toNat_lt_of_mem_encodeUnpadded hMem
  have hPadded :
      Base64.encodeUnpadded Base64.url bytes ++
          padding (Base64.encodeUnpadded Base64.url bytes).length =
        Base64.encode Base64.url bytes :=
    (Base64.encode_url_eq bytes).symm
  simp only [readPoints, hForeign, List.map_map, List.length_map]
  rw [show Char.ofNat ∘ Char.toNat = id from funext fun c => Char.ofNat_toNat c,
    List.map_id, hPadded, Base64.Lenient.decode_encode_url]

/- The text of some bytes is read as their number. -/
theorem readMember_encodeUrl
    {bytes : Bytes}
    (h : bytes ≠ []) :
    readMember (.text (Base64.encodeUrl bytes)) =
      .ok (Bytes.toNat bytes) := by
  have hSome := Base64.encodeUnpadded_ne_nil h
  have hEmpty :
      ¬ (JsonString.text (Base64.encodeUrl bytes)).isEmpty = true := by
    simpa [JsonString.isEmpty, Base64.encodeUrl] using hSome
  rw [readMember, if_neg hEmpty]
  simpa [JsonString.points, Base64.encodeUrl] using
    readPoints_encodeUnpadded bytes

/- What was written for a number is read back. -/
theorem readMember_writeMember (n : Nat) :
    readMember (.text (writeMember n)) = .ok n := by
  rw [writeMember, readMember_encodeUrl (Bytes.ofNat_ne_nil n),
    Bytes.toNat_ofNat]

/- A value that is read as a number is there. -/
theorem isTruthy_of_readValue
    {v : Json}
    {n : Nat}
    (hRead : readValue v = .ok n) :
    v.isTruthy = true := by
  cases v with
  | string s =>
      have hText : readMember s = .ok n := hRead
      unfold readMember at hText
      split_ifs at hText with hEmpty
      simpa [Json.isTruthy] using hEmpty
  | null => cases hRead
  | bool b => cases hRead
  | integer i => cases hRead
  | real x => cases hRead
  | array items => cases hRead
  | object members => cases hRead

end Key

end KeyAssertion
