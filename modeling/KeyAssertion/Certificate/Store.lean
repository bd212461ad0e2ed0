import KeyAssertion.Certificate.Handle
import KeyAssertion.Certificate.Thumbprint
import KeyAssertion.KeyedList

/-
  This file defines certificate stores, the lookup of a
  certificate by its thumbprint and the use of what is found.

  Key definitions include:
    * `MemoryStore`
    * `StoreFolder`
    * `DirectoryStore`
    * `CertificateStore`
    * `CertificateStore.find`
    * `CertificateStore.certificate`
    * `CertificateStore.privateKey`
-/

namespace KeyAssertion

------------------------------------------------------------
-- Certificates in Memory
------------------------------------------------------------

/- Certificates held in memory, the newest first. -/
structure MemoryStore where
  location : StoreLocation := .currentUser
  entries : List CertificateEntry := []

namespace MemoryStore

/- Add a certificate, in front of an older one of its thumbprint. -/
def add
    (s : MemoryStore)
    (e : CertificateEntry) : MemoryStore :=
  { s with entries := e :: s.entries }

/- Add the certificate and the key of a bundle. -/
def addBundle
    [KeyLibrary]
    (s : MemoryStore)
    (bytes : Bytes) : Except CertificateError (MemoryStore × String) := do
  let e ← CertificateEntry.ofBundle bytes
  return (s.add e, e.certificate.thumbprint)

/- The newest entry of a thumbprint in its normal spelling. -/
def lookup?
    (s : MemoryStore)
    (thumbprint : String) : Option CertificateEntry :=
  s.entries.find? fun e => e.certificate.thumbprint == thumbprint

/- A certificate that was added hides older ones of its thumbprint. -/
theorem lookup?_add
    (s : MemoryStore)
    (e : CertificateEntry)
    (thumbprint : String) :
    (s.add e).lookup? thumbprint =
      if e.certificate.thumbprint = thumbprint then some e
      else s.lookup? thumbprint := by
  by_cases h : e.certificate.thumbprint = thumbprint <;>
    simp [add, lookup?, h]

end MemoryStore

------------------------------------------------------------
-- Certificates in Files
------------------------------------------------------------

/- What a name in a folder stands for. -/
inductive StoreItem
  | file (content : Bytes)
  | folder
deriving DecidableEq, Repr, Inhabited

/- A folder: its items by name, each name once. -/
abbrev StoreFolder :=
  KeyedList StoreItem

namespace StoreFolder

/- The file of a name. -/
def file?
    (folder : StoreFolder)
    (name : String) : Option Bytes :=
  match folder.lookup name with
  | some (.file content) => some content
  | _ => none

/- A folder without a name. -/
def remove
    (folder : StoreFolder)
    (name : String) : StoreFolder :=
  KeyedList.drop name folder

/- A folder in which a name stands for an item. -/
def write
    (folder : StoreFolder)
    (name : String)
    (item : StoreItem) : StoreFolder :=
  KeyedList.put name item folder

/- The files of a folder, in the order of their names. -/
def files (folder : StoreFolder) : List (String × Bytes) :=
  (folder.mergeSort fun a b => !decide (b.1 < a.1)).filterMap fun i =>
    match i.2 with
    | .file content => some (i.1, content)
    | .folder => none

end StoreFolder

namespace FileName

/-
  A name split before its last dot.  A dot that begins or ends
  the name does not count.
-/
def split (name : String) : String × String :=
  let cs := name.toList
  let ending := cs.reverse.takeWhile fun c => c != '.'
  let stem := cs.take (cs.length - ending.length - 1)
  if ending.isEmpty || stem.isEmpty then
    (name, "")
  else
    (String.ofList stem, String.ofList (cs.drop stem.length))

/- The endings of the names of certificate files, in lower case. -/
def certificateEndings : List String :=
  [".pem", ".crt", ".cer"]

/- Whether a name is that of a certificate file. -/
def isCertificate (name : String) : Bool :=
  certificateEndings.contains (split name).2.toLower

/- The name of the key file beside a certificate file. -/
def keyName (name : String) : String :=
  (split name).1 ++ ".key"

end FileName

/-
  Certificates in the files of a folder, which may be missing.
  The files are read on every lookup.
-/
structure DirectoryStore where
  location : StoreLocation := .currentUser
  folder : Option StoreFolder := none

namespace DirectoryStore

/- The first certificate of a file, if it has one that is readable. -/
def certificate? (blocks : List Pem.Block) :
    Except CertificateError (Option Certificate) :=
  match Pem.certificateBlock? blocks with
  | none => .ok none
  | some text =>
      match Certificate.ofPem text with
      | .ok certificate => .ok (some certificate)
      | .error .malformed => .ok none
      | .error (.version number) => .error (.version number)

/-
  The key of a certificate file: the first one in it, or else
  that of the key file beside it; none if it is not readable.
-/
def key?
    [KeyLibrary]
    (folder : StoreFolder)
    (name : String)
    (blocks : List Pem.Block) :
    Except CertificateError (Option LoadedKey) :=
  match (Pem.keyBlock? blocks).or
      (folder.file? (FileName.keyName name)) with
  | none => .ok none
  | some text =>
      match LoadedKey.ofPem text with
      | .ok key => .ok (some key)
      | .error (.unknownAlgorithm algorithm) =>
          .error (.unknownAlgorithm algorithm)
      | .error _ => .ok none

/- The first certificate of a thumbprint among files, with its key. -/
def search
    [KeyLibrary]
    (folder : StoreFolder)
    (thumbprint : String) :
    List (String × Bytes) →
    Except CertificateError (Option CertificateEntry)
  | [] => .ok none
  | (name, content) :: rest => do
      if FileName.isCertificate name then
        let blocks := Pem.firstBlocks content
        match ← certificate? blocks with
        | some certificate =>
            if certificate.thumbprint = thumbprint then
              return some ⟨certificate, ← key? folder name blocks⟩
            else
              search folder thumbprint rest
        | none => search folder thumbprint rest
      else
        search folder thumbprint rest

/- The entry of a thumbprint in its normal spelling. -/
def lookup?
    [KeyLibrary]
    (s : DirectoryStore)
    (thumbprint : String) :
    Except CertificateError (Option CertificateEntry) :=
  match s.folder with
  | none => .ok none
  | some folder => search folder thumbprint folder.files

end DirectoryStore

------------------------------------------------------------
-- Lookup
------------------------------------------------------------

/- A store of either kind. -/
inductive CertificateStore
  | memory (store : MemoryStore)
  | directory (store : DirectoryStore)

namespace CertificateStore

/- The scope of a store. -/
def location : CertificateStore → StoreLocation
  | .memory s => s.location
  | .directory s => s.location

variable [KeyLibrary]

/- The entry of a thumbprint in its normal spelling. -/
def lookup? (thumbprint : String) :
    CertificateStore → Except CertificateError (Option CertificateEntry)
  | .memory s => .ok (s.lookup? thumbprint)
  | .directory s => s.lookup? thumbprint

/- The certificate of a thumbprint in any spelling, if there is one. -/
def find
    (s : CertificateStore)
    (thumbprint : String) :
    Except CertificateError (Option CertificateHandle) := do
  match ← s.lookup? (Thumbprint.normalize thumbprint) with
  | none => return none
  | some e => return some (← e.handle s.location)

/- The certificate of a thumbprint, which must be usable now. -/
def certificate
    (s : CertificateStore)
    (now : Moment)
    (thumbprint : String) : Except CertificateError CertificateHandle := do
  let normal := Thumbprint.normalize thumbprint
  if normal = "" then
    throw .emptyThumbprint
  match ← s.find normal with
  | none => throw (.notFound normal s.location)
  | some h =>
      h.validate now
      return h

/-
  The material of the key of a certificate, which must be
  valid now; none if there is no certificate or no key.
-/
def privateKey
    (s : CertificateStore)
    (now : Moment)
    (thumbprint : String) : Except CertificateError (Option KeyMaterial) :=
  match s.certificate now thumbprint with
  | .ok h => h.toMaterial.map some
  | .error (.notFound _ _) => .ok none
  | .error (.noKey _ _) => .ok none
  | .error e => .error e

end CertificateStore

end KeyAssertion
