import Mathlib.Data.List.Induction
import KeyAssertion.Certificate.Operation
import KeyAssertion.Proofs.Secret.Bundle

/-
  A store in memory over whole runs: under a thumbprint it has
  the certificate and the key that were added last, and nothing
  but an addition that succeeds changes that.  The certificate
  is handed out as long as its name has a text.

  Key definitions include:
    * `MemoryStore.Operation.added?`
    * `MemoryStore.LastAdded`
    * `MemoryStore.KeepsLast`

  Key theorems include:
    * `MemoryStore.perform_snd`
    * `MemoryStore.perform_eq_added_iff`
    * `MemoryStore.lookup?_run`
    * `MemoryStore.keepsLast_iff`
-/

namespace KeyAssertion

namespace MemoryStore

------------------------------------------------------------
-- Operations
------------------------------------------------------------

namespace Operation

variable [KeyLibrary]

/- The entry that an operation adds, if it adds one. -/
def added? : Operation → Option CertificateEntry
  | .add e => some e
  | .addBundle data => (CertificateEntry.ofBundle data).toOption
  | _ => none

/- Whether an operation adds a certificate of a thumbprint. -/
def Adds
    (operation : Operation)
    (thumbprint : String) : Prop :=
  ∃ e, operation.added? = some e ∧
    e.certificate.thumbprint = thumbprint

/- A lookup adds nothing. -/
theorem added?_of_isLookup
    {operation : Operation}
    (h : operation.isLookup = true) :
    operation.added? = none := by
  cases operation with
  | add e => cases h
  | addBundle data => cases h
  | _ => rfl

/- A bundle that can be read adds its entry. -/
theorem added?_of_ok
    {data : Bytes}
    {e : CertificateEntry}
    (h : CertificateEntry.ofBundle data = .ok e) :
    (addBundle data).added? = some e :=
  (Attempt.toOption_eq_some_iff _ _).mpr h

/- Any other bundle adds nothing. -/
theorem added?_of_error
    {data : Bytes}
    {fault : CertificateError}
    (h : CertificateEntry.ofBundle data = .error fault) :
    (addBundle data).added? = none := by
  simp only [added?, h]
  rfl

/- An operation that adds an entry adds its thumbprint and no other. -/
theorem adds_iff
    {operation : Operation}
    {e : CertificateEntry}
    (h : operation.added? = some e)
    (thumbprint : String) :
    operation.Adds thumbprint ↔
      e.certificate.thumbprint = thumbprint := by
  simp [Adds, h]

/- An operation that adds no entry adds no thumbprint. -/
theorem not_adds
    {operation : Operation}
    (h : operation.added? = none)
    (thumbprint : String) :
    ¬ operation.Adds thumbprint := by
  simp [Adds, h]

end Operation

variable (s : MemoryStore)

variable [KeyLibrary]

/- The store after an operation has what this adds. -/
theorem perform_snd (operation : Operation) :
    (s.perform operation).2 =
      match operation.added? with
      | some e => s.add e
      | none => s := by
  cases operation with
  | addBundle data =>
      unfold perform
      cases hRead : CertificateEntry.ofBundle data with
      | ok e =>
          simp only [s.addBundle_of_ok hRead,
            Operation.added?_of_ok hRead]
      | error fault =>
          simp only [s.addBundle_of_error hRead,
            Operation.added?_of_error hRead]
  | _ => rfl

/- An operation adds what it answers with the thumbprint of. -/
theorem perform_eq_added_iff
    (operation : Operation)
    (thumbprint : String) :
    (s.perform operation).1 = .ok (.added thumbprint) ↔
      operation.Adds thumbprint := by
  cases operation with
  | add e => simp [perform, Operation.Adds, Operation.added?]
  | addBundle data =>
      unfold perform
      cases hRead : CertificateEntry.ofBundle data with
      | ok e =>
          rw [Operation.adds_iff (Operation.added?_of_ok hRead)]
          simp [s.addBundle_of_ok hRead]
      | error fault =>
          have hNone :=
            Operation.not_adds (Operation.added?_of_error hRead)
              thumbprint
          simp [s.addBundle_of_error hRead, hNone]
  | _ =>
      simp [perform, Operation.Adds, Operation.added?,
        Attempt.map_eq_ok_iff]

/- A lookup leaves the store as it is, also when it fails. -/
theorem perform_of_isLookup
    {operation : Operation}
    (h : operation.isLookup = true) :
    (s.perform operation).2 = s := by
  rw [perform_snd, Operation.added?_of_isLookup h]

/- So does a bundle that is refused. -/
theorem perform_of_refused
    {data : Bytes}
    {fault : CertificateError}
    (h : (s.perform (.addBundle data)).1 = .error fault) :
    (s.perform (.addBundle data)).2 = s := by
  cases hRead : CertificateEntry.ofBundle data with
  | ok e =>
      simp only [perform, s.addBundle_of_ok hRead] at h
      cases h
  | error fault =>
      simp only [perform, s.addBundle_of_error hRead]

/- No operation changes the scope of the store. -/
theorem location_run (operations : List Operation) :
    (s.run operations).location = s.location := by
  induction operations using List.reverseRecOn with
  | nil => rfl
  | append_singleton before operation ih =>
      rw [run_concat, perform_snd]
      cases operation.added? with
      | none => exact ih
      | some e => exact ih

------------------------------------------------------------
-- Runs
------------------------------------------------------------

/-
  Whether an entry is what the last of the operations that add
  a certificate of a thumbprint has added.
-/
def LastAdded
    (operations : List Operation)
    (thumbprint : String)
    (e : CertificateEntry) : Prop :=
  ∃ before operation after,
    operations = before ++ operation :: after ∧
      operation.added? = some e ∧
      e.certificate.thumbprint = thumbprint ∧
      ∀ later ∈ after, ¬ later.Adds thumbprint

/-
  The last operation of a run is the last that adds, or it does
  not add and the last one that does is before it.
-/
theorem lastAdded_concat_iff
    (operations : List Operation)
    (operation : Operation)
    (thumbprint : String)
    (e : CertificateEntry) :
    LastAdded (operations ++ [operation]) thumbprint e ↔
      (operation.added? = some e ∧
          e.certificate.thumbprint = thumbprint) ∨
        (¬ operation.Adds thumbprint ∧
          LastAdded operations thumbprint e) := by
  constructor
  · intro h
    rcases h with ⟨before, adding, after, hEq, hAdded, hSame, hLater⟩
    rcases List.eq_nil_or_concat after with hNil | hConcat
    · left
      rw [hNil] at hEq
      have hLast := (List.append_inj' hEq rfl).2
      rw [List.singleton_inj.mp hLast]
      exact ⟨hAdded, hSame⟩
    · right
      rcases hConcat with ⟨rest, last, hConcat⟩
      rw [List.concat_eq_append] at hConcat
      have hSplit :
          operations ++ [operation] =
            (before ++ adding :: rest) ++ [last] := by
        rw [hEq, hConcat, List.append_assoc, List.cons_append]
      rcases List.append_inj' hSplit rfl with ⟨hBefore, hLast⟩
      rw [List.singleton_inj.mp hLast]
      rw [hConcat] at hLater
      constructor
      · apply hLater
        exact List.mem_append_right rest (List.mem_singleton_self last)
      · refine ⟨before, adding, rest, hBefore, hAdded, hSame, ?_⟩
        intro later hMem
        exact hLater later (List.mem_append_left [last] hMem)
  · intro h
    rcases h with ⟨hAdded, hSame⟩ | ⟨hOther, hEarlier⟩
    · refine ⟨operations, operation, [], rfl, hAdded, hSame, ?_⟩
      intro later hMem
      exact absurd hMem List.not_mem_nil
    · rcases hEarlier with
        ⟨before, adding, after, hEq, hAdded, hSame, hLater⟩
      refine ⟨before, adding, after ++ [operation], ?_, hAdded, hSame, ?_⟩
      · rw [hEq, List.append_assoc, List.cons_append]
      · intro later hMem
        rcases List.mem_append.mp hMem with hOld | hNew
        · exact hLater later hOld
        · rw [List.mem_singleton.mp hNew]
          exact hOther

/- What a store has under a thumbprint after one more operation. -/
theorem lookup?_run_concat
    (operations : List Operation)
    (operation : Operation)
    (thumbprint : String) :
    (s.run (operations ++ [operation])).lookup? thumbprint =
      match operation.added? with
      | some e =>
          if e.certificate.thumbprint = thumbprint then some e
          else (s.run operations).lookup? thumbprint
      | none => (s.run operations).lookup? thumbprint := by
  rw [run_concat, perform_snd]
  cases operation.added? with
  | none => rfl
  | some e => exact lookup?_add _ e thumbprint

section Runs

variable (location : StoreLocation) (operations : List Operation)
variable (thumbprint : String)

/-
  Under a thumbprint a store has the entry that was added last
  in its run.
-/
theorem lookup?_run_eq_some_iff (e : CertificateEntry) :
    (run { location := location } operations).lookup? thumbprint =
        some e ↔
      LastAdded operations thumbprint e := by
  induction operations using List.reverseRecOn with
  | nil =>
      constructor
      · nofun
      · intro h
        rcases h with ⟨before, adding, after, hEq, _⟩
        simp at hEq
  | append_singleton before operation ih =>
      rw [lookup?_run_concat, lastAdded_concat_iff]
      cases hAdded : operation.added? with
      | none =>
          simp only [ih, Operation.not_adds hAdded, not_false_eq_true,
            true_and, reduceCtorEq, false_and, false_or]
      | some a =>
          rw [Operation.adds_iff hAdded]
          dsimp only
          by_cases hSame : a.certificate.thumbprint = thumbprint
          · rw [if_pos hSame, Option.some.injEq]
            constructor
            · intro hEq
              exact Or.inl ⟨hEq, hEq ▸ hSame⟩
            · intro h
              rcases h with ⟨hEq, _⟩ | ⟨hOther, _⟩
              · exact hEq
              · exact absurd hSame hOther
          · rw [if_neg hSame, Option.some.injEq, ih]
            constructor
            · intro hEarlier
              exact Or.inr ⟨hSame, hEarlier⟩
            · intro h
              rcases h with ⟨hEq, hThis⟩ | ⟨_, hEarlier⟩
              · exact absurd (hEq ▸ hThis) hSame
              · exact hEarlier

/- It has none if no operation of the run added one. -/
theorem lookup?_run_eq_none_iff :
    (run { location := location } operations).lookup? thumbprint =
        none ↔
      ∀ operation ∈ operations, ¬ operation.Adds thumbprint := by
  induction operations using List.reverseRecOn with
  | nil =>
      constructor
      · intro _ operation hMem
        exact absurd hMem List.not_mem_nil
      · intro _
        rfl
  | append_singleton before operation ih =>
      rw [lookup?_run_concat, List.forall_mem_append,
        List.forall_mem_singleton]
      cases hAdded : operation.added? with
      | none =>
          simp only [ih, Operation.not_adds hAdded, not_false_eq_true,
            and_true]
      | some a =>
          rw [Operation.adds_iff hAdded]
          by_cases hSame : a.certificate.thumbprint = thumbprint
          · simp [hSame]
          · simp [hSame, ih]

end Runs

end MemoryStore

------------------------------------------------------------
-- Handles
------------------------------------------------------------

/- The handle of an entry whose name has a text. -/
theorem CertificateEntry.handle_of_text
    {e : CertificateEntry}
    {subject : String}
    (h : e.certificate.subject.text = .ok subject)
    (location : StoreLocation) :
    e.handle location =
      .ok ⟨e.certificate.thumbprint, location, subject,
        e.certificate.notBefore, e.certificate.notAfter, e.key⟩ := by
  unfold handle
  rw [h]
  rfl

/- Only such an entry has one. -/
theorem CertificateEntry.exists_text_of_handle
    {e : CertificateEntry}
    {location : StoreLocation}
    {handle : CertificateHandle}
    (h : e.handle location = .ok handle) :
    ∃ subject, e.certificate.subject.text = .ok subject := by
  rcases (Attempt.bind_eq_ok_iff _ _ _).mp h with ⟨subject, hText, _⟩
  exact ⟨subject, (Attempt.mapError_eq_ok_iff _ _ _).mp hText⟩

namespace MemoryStore

section Library

variable [KeyLibrary]

/- What is found is the handle of the entry in the store. -/
theorem perform_find_of_some
    {s : MemoryStore}
    {thumbprint : String}
    {e : CertificateEntry}
    (h : s.lookup? (Thumbprint.normalize thumbprint) = some e) :
    (s.perform (.find thumbprint)).1 =
      (e.handle s.location).map fun handle => .found (some handle) := by
  have hFind :
      (CertificateStore.memory s).find thumbprint =
        (e.handle s.location).map some := by
    unfold CertificateStore.find CertificateStore.lookup?
    dsimp only
    rw [h]
    rfl
  change ((CertificateStore.memory s).find thumbprint).map _ = _
  rw [hFind, Attempt.map_map]

/- Without an entry nothing is found. -/
theorem perform_find_of_none
    {s : MemoryStore}
    {thumbprint : String}
    (h : s.lookup? (Thumbprint.normalize thumbprint) = none) :
    (s.perform (.find thumbprint)).1 = .ok (.found none) := by
  unfold perform CertificateStore.find CertificateStore.lookup?
  dsimp only
  rw [h]
  rfl

/-
  What a store in memory is to do after a run, about a spelling
  of a thumbprint:
    * what was added last for its normal spelling is found, with
      its key and with the normal spelling as thumbprint;
    * if nothing was added for it, nothing is found;
    * lookups, whatever they answer, leave the store as it is;
    * after a bundle that is refused every lookup is answered as
      before.
-/
structure KeepsLast
    (location : StoreLocation)
    (operations : List Operation)
    (thumbprint : String) : Prop where
  found :
    ∀ e,
      LastAdded operations (Thumbprint.normalize thumbprint) e →
        ∃ handle,
          ((run { location := location } operations).perform
              (.find thumbprint)).1 =
            .ok (.found (some handle)) ∧
          e.handle location = .ok handle ∧
          handle.thumbprint = Thumbprint.normalize thumbprint ∧
          handle.key = e.key
  missing :
    (∀ operation ∈ operations,
        ¬ operation.Adds (Thumbprint.normalize thumbprint)) →
      ((run { location := location } operations).perform
          (.find thumbprint)).1 =
        .ok (.found none)
  lookups :
    ∀ operation,
      operation.isLookup = true →
        run { location := location } (operations ++ [operation]) =
          run { location := location } operations
  refused :
    ∀ data fault,
      ((run { location := location } operations).perform
          (.addBundle data)).1 =
        .error fault →
        ∀ operation,
          operation.isLookup = true →
            ((run { location := location }
                  (operations ++ [.addBundle data])).perform
                operation).1 =
              ((run { location := location } operations).perform
                operation).1

/-
  A store keeps what was added last under a thumbprint if and
  only if the certificate has a name with a text.
-/
theorem keepsLast_iff
    (location : StoreLocation)
    (operations : List Operation)
    (thumbprint : String) :
    KeepsLast location operations thumbprint ↔
      ∀ e,
        LastAdded operations (Thumbprint.normalize thumbprint) e →
          ∃ subject, e.certificate.subject.text = .ok subject := by
  constructor
  · intro h e hLast
    rcases h.found e hLast with ⟨handle, _, hHandle, _⟩
    exact CertificateEntry.exists_text_of_handle hHandle
  · intro hNamed
    constructor
    · intro e hLast
      rcases hNamed e hLast with ⟨subject, hText⟩
      have hHandle := CertificateEntry.handle_of_text hText location
      have hEntry := (lookup?_run_eq_some_iff location _ _ e).mpr hLast
      refine ⟨_, ?_, hHandle, ?_, rfl⟩
      · rw [perform_find_of_some hEntry, location_run, hHandle]
        rfl
      · rcases hLast with ⟨_, _, _, _, _, hSame, _⟩
        exact hSame
    · intro hNone
      apply perform_find_of_none
      exact (lookup?_run_eq_none_iff _ _ _).mpr hNone
    · intro operation hLookup
      rw [run_concat, perform_of_isLookup _ hLookup]
    · intro data fault hRefused operation _
      rw [run_concat, perform_of_refused _ hRefused]

end Library

/- A certificate without a name is added but not found. -/
theorem not_keepsLast_of_namelessBundle :
    ∃ c : Certificate,
      Certificate.ofPem namelessBlock.text = .ok c ∧
        ¬ KeepsLast .currentUser [.addBundle namelessBundle]
          c.thumbprint := by
  have hFacts :
      (Certificate.ofPem namelessBlock.text).toOption.map
          (fun c => c.subject.text) =
        some (.error .notUtf8) := by
    decide +kernel
  have hLoads :
      ((LoadedKey.ofPem wideBlock.text).toOption.map fun k => k.kindName) =
        some "RSAPrivateKey" := by
    decide +kernel
  rcases Option.map_eq_some_iff.mp hFacts with ⟨c, hSome, hSubject⟩
  rcases Option.map_eq_some_iff.mp hLoads with ⟨k, hKey, _⟩
  rw [Attempt.toOption_eq_some_iff] at hSome hKey
  have hBundle :
      CertificateEntry.IsBundle namelessBundle c wideBlock :=
    .intro _ _ holds_namelessBundle rfl hSome rfl
  have hRead :
      CertificateEntry.ofBundle namelessBundle = .ok ⟨c, some k⟩ := by
    rw [CertificateEntry.ofBundle_eq hBundle, hKey]
  have hLast :
      LastAdded [.addBundle namelessBundle]
        (Thumbprint.normalize c.thumbprint) ⟨c, some k⟩ := by
    refine ⟨[], _, [], rfl, Operation.added?_of_ok hRead, ?_, ?_⟩
    · exact c.normalize_thumbprint.symm
    · intro later hMem
      exact absurd hMem List.not_mem_nil
  refine ⟨c, hSome, ?_⟩
  rw [keepsLast_iff]
  intro hNamed
  rcases hNamed _ hLast with ⟨subject, hText⟩
  rw [hSubject] at hText
  cases hText

end MemoryStore

end KeyAssertion
