import KeyAssertion.Certificate.Store

/-
  This file defines runs of a store in memory: certificates are
  added and looked up in any order.

  Key definitions include:
    * `MemoryStore.Operation`
    * `MemoryStore.Answer`
    * `MemoryStore.perform`
    * `MemoryStore.run`
-/

namespace KeyAssertion

namespace MemoryStore

/- What can be done with a store. -/
inductive Operation
  | add (e : CertificateEntry)
  | addBundle (data : Bytes)
  | find (thumbprint : String)
  | certificate (now : Moment) (thumbprint : String)
  | privateKey (now : Moment) (thumbprint : String)

/- What it answers, unless it fails. -/
inductive Answer
  | added (thumbprint : String)
  | found (handle : Option CertificateHandle)
  | usable (handle : CertificateHandle)
  | material (m : Option KeyMaterial)

/- Whether an operation only asks for something. -/
def Operation.isLookup : Operation → Bool
  | .add _ => false
  | .addBundle _ => false
  | _ => true

variable [KeyLibrary]

/- The answer to an operation, and the store after it. -/
def perform
    (s : MemoryStore) :
    Operation → Except CertificateError Answer × MemoryStore
  | .add e => (.ok (.added e.certificate.thumbprint), s.add e)
  | .addBundle data =>
      match s.addBundle data with
      | .ok (after, thumbprint) => (.ok (.added thumbprint), after)
      | .error e => (.error e, s)
  | .find thumbprint =>
      (((CertificateStore.memory s).find thumbprint).map .found, s)
  | .certificate now thumbprint =>
      (((CertificateStore.memory s).certificate now thumbprint).map
        .usable, s)
  | .privateKey now thumbprint =>
      (((CertificateStore.memory s).privateKey now thumbprint).map
        .material, s)

/- The store after several operations. -/
def run
    (s : MemoryStore)
    (operations : List Operation) : MemoryStore :=
  operations.foldl (fun s operation => (s.perform operation).2) s

/- The last of several operations is performed last. -/
theorem run_concat
    (s : MemoryStore)
    (operations : List Operation)
    (operation : Operation) :
    s.run (operations ++ [operation]) =
      ((s.run operations).perform operation).2 := by
  simp [run]

end MemoryStore

end KeyAssertion
