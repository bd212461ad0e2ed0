import KeyAssertion.Proofs.Clock.Seconds
import KeyAssertion.Proofs.Token.Claims

/-
  The moments that the claims of tokens name.  They are the
  whole seconds of the moments that the tokens are made with,
  for nearly three hundred years after 1970; and always an
  assertion does not end before it begins, nor before one that
  was made earlier for as long.

  Key definitions include:
    * `ClientAssertion.IsDated`
    * `PossessionProof.IsDated`

  Key theorems include:
    * `ClientAssertion.isDated_of_create`
    * `ClientAssertion.expiresAt_of_create`
    * `PossessionProof.isDated_of_create`
    * `Moment.tokens_dated_exactly`
    * `Moment.tokens_dated_in_order`
-/

namespace KeyAssertion

------------------------------------------------------------
-- Assertions
------------------------------------------------------------

namespace ClientAssertion

/-
  Whether the claims of an assertion tell when it was made,
  from when it is valid and until when.
-/
structure IsDated
    (x : ClientAssertion)
    (iat nbf exp : Int) : Prop where
  claims :
    ∃ claims,
      OpenedToken.claims? x.token.value = some claims ∧
        claims.memberOrNull "iat" = .integer iat ∧
        claims.memberOrNull "nbf" = .integer nbf ∧
        claims.memberOrNull "exp" = .integer exp

variable {r : Request} {now : Moment} {source : TokenSource}
variable {x : ClientAssertion}

/- They tell the whole seconds of the clock and of the expiry. -/
theorem isDated_of_create
    (h : (create r now source).1 = .ok x) :
    x.IsDated now.unixSeconds now.unixSeconds
      x.expiresAt.unixSeconds :=
  ⟨_, claims?_of_create h, rfl, rfl, rfl⟩

/- An assertion expires after the time asked for, which is not negative. -/
theorem expiresAt_of_create
    (h : (create r now source).1 = .ok x) :
    0 ≤ r.expirySeconds ∧
      x.expiresAt.micros = now.micros + r.expirySeconds * 1000000 := by
  rcases (create_eq_ok_iff _ _ _ _).mp h with ⟨a, hCheck, _⟩
  rcases (check_eq_ok_iff _ _ _ _).mp hCheck with
    ⟨hExpiry, _, _, _, hExpires⟩
  exact ⟨hExpiry, hExpires⟩

end ClientAssertion

------------------------------------------------------------
-- Proofs of Possession
------------------------------------------------------------

namespace PossessionProof

/- Whether the claims of a proof tell when it was made. -/
structure IsDated
    (x : PossessionProof)
    (iat : Int) : Prop where
  claims :
    ∃ claims,
      OpenedToken.claims? x.token.value = some claims ∧
        claims.memberOrNull "iat" = .integer iat

/- They tell the whole seconds of the moment at which it was issued. -/
theorem isDated_of_create
    {r : Request}
    {now : Moment}
    {source : TokenSource}
    {x : PossessionProof}
    (h : (create r now source).1 = .ok x) :
    x.issuedAt = now ∧ x.IsDated x.issuedAt.unixSeconds := by
  have hClaims := claims?_of_create h
  rcases (create_eq_ok_iff _ _ _ _).mp h with ⟨_, t, _, _, rfl⟩
  exact ⟨rfl, _, hClaims, rfl⟩

end PossessionProof

------------------------------------------------------------
-- Exact Dates
------------------------------------------------------------

namespace Moment

/-
  Until `2 ^ 33` seconds after 1970 the claims name the whole
  seconds of the clock, of the expiry and of the moment at
  which a proof was issued, although these are rounded.
-/
theorem tokens_dated_exactly
    {now : Moment}
    {expiry : Int}
    (hStart : 0 ≤ now.micros)
    (hExpiry : 0 ≤ expiry)
    (hEnd : now.micros + expiry * 1000000 < 2 ^ 33 * 1000000) :
    now.unixSeconds = now.micros / 1000000 ∧
      (∃ later,
        (Duration.ofSeconds expiry >>= now.add) = .ok later ∧
          later.micros = now.micros + expiry * 1000000 ∧
          later.unixSeconds = later.micros / 1000000) ∧
      (∀ (r : ClientAssertion.Request) (source : TokenSource)
          (x : ClientAssertion),
        r.expirySeconds = expiry →
        (ClientAssertion.create r now source).1 = .ok x →
        ∃ iat nbf exp,
          x.IsDated iat nbf exp ∧
            iat = now.micros / 1000000 ∧ nbf = iat ∧
            nbf * 1000000 ≤ now.micros ∧
            now.micros < (nbf + 1) * 1000000 ∧
            exp = iat + expiry ∧
            exp * 1000000 ≤ x.expiresAt.micros ∧
            x.expiresAt.micros < (exp + 1) * 1000000) ∧
      ∀ (r : PossessionProof.Request) (source : TokenSource)
          (x : PossessionProof),
        (PossessionProof.create r now source).1 = .ok x →
        x.issuedAt = now ∧ x.IsDated (x.issuedAt.micros / 1000000) := by
  have hNow : now.unixSeconds = now.micros / 1000000 :=
    unixSeconds_eq_div hStart (by omega)
  refine ⟨hNow, ?_, ?_, ?_⟩
  · have hLeast := now.inRange.1
    have hRange :
        minMicros ≤ now.micros + expiry * 1000000 ∧
          now.micros + expiry * 1000000 ≤ maxMicros := by
      unfold minMicros maxMicros at *
      omega
    let later : Moment := ⟨_, hRange⟩
    have hLifetime :
        Duration.ofSeconds expiry = .ok ⟨expiry * 1000000⟩ :=
      @Duration.ofMicros_of_moments now later _ rfl
    have hAfter : 0 ≤ later.micros :=
      Int.add_nonneg hStart (by omega)
    refine ⟨later, ?_, rfl, unixSeconds_eq_div hAfter hEnd⟩
    rw [hLifetime]
    exact (ofMicros_eq_ok_iff _ _).mpr rfl
  · rintro r source x rfl hCreated
    have hDated := ClientAssertion.isDated_of_create hCreated
    rcases ClientAssertion.expiresAt_of_create hCreated with
      ⟨_, hExpires⟩
    have hLater : x.expiresAt.unixSeconds = x.expiresAt.micros / 1000000 :=
      unixSeconds_eq_div (by omega) (by omega)
    rw [hNow, hLater] at hDated
    refine ⟨_, _, _, hDated, rfl, rfl, ?_⟩
    omega
  · intro r source x hCreated
    rcases PossessionProof.isDated_of_create hCreated with
      ⟨hIssued, hDated⟩
    rw [hIssued, hNow] at hDated
    rw [hIssued]
    exact ⟨rfl, hDated⟩

/-
  An assertion of ten seconds and a proof, made a microsecond
  before a whole second, so that the expiry is the last moment
  before `2 ^ 33` seconds.
-/
theorem tokens_dated_exactly_of_lastMicrosecond :
    let now : Moment := ⟨8589934581999999, by decide⟩
    let key := KeyMaterial.ofKey Rsa.sampleKey none none none
    let source : TokenSource := ⟨fun _ => "i", fun _ _ => 0, 0⟩
    now.unixSeconds = 8589934581 ∧
      (∃ x,
        (ClientAssertion.create
          { issuer := "https://a", clientId := "c", key := key }
          now source).1 = .ok x ∧
        x.IsDated 8589934581 8589934581 8589934591) ∧
      ∃ x,
        (PossessionProof.create
          { httpMethod := "GET", httpUrl := "https://a", key := key }
          now source).1 = .ok x ∧
        x.IsDated 8589934581 := by
  intro now key source
  have hAssertion :
      ∃ x,
        (ClientAssertion.create
          { issuer := "https://a", clientId := "c", key := key }
          now source).1 = .ok x :=
    ClientAssertion.exists_create_of_sampleKey now source rfl (by decide)
      (by decide) (by decide) (by decide)
  have hProof :
      ∃ x,
        (PossessionProof.create
          { httpMethod := "GET", httpUrl := "https://a", key := key }
          now source).1 = .ok x :=
    PossessionProof.exists_create_of_sampleKey now source rfl (by decide)
      (by decide)
  rcases @tokens_dated_exactly now 10 (by decide) (by decide)
      (by decide) with ⟨hNow, _, hAssertions, hProofs⟩
  refine ⟨hNow, ?_, ?_⟩
  · rcases hAssertion with ⟨x, hCreated⟩
    rcases hAssertions _ _ _ rfl hCreated with
      ⟨iat, nbf, exp, hDated, hIssued, rfl, _, _, rfl, _⟩
    rw [hIssued] at hDated
    exact ⟨x, hCreated, hDated⟩
  · rcases hProof with ⟨x, hCreated⟩
    rcases hProofs _ _ _ hCreated with ⟨hIssued, hDated⟩
    rw [hIssued] at hDated
    exact ⟨x, hCreated, hDated⟩

------------------------------------------------------------
-- Dates in Order
------------------------------------------------------------

/-
  Whole seconds never go backward, whatever the moments are.
  So no assertion ends before it begins, and of two that are
  made for as long the one made later neither begins nor ends
  before the other.
-/
theorem tokens_dated_in_order :
    (∀ a b : Moment, a ≤ b → a.unixSeconds ≤ b.unixSeconds) ∧
      (∀ (r : ClientAssertion.Request) (now : Moment)
          (source : TokenSource) (x : ClientAssertion),
        (ClientAssertion.create r now source).1 = .ok x →
        ∃ iat nbf exp, x.IsDated iat nbf exp ∧ iat = nbf ∧ nbf ≤ exp) ∧
      ∀ (r r' : ClientAssertion.Request) (now now' : Moment)
          (source source' : TokenSource) (x x' : ClientAssertion),
        r.expirySeconds = r'.expirySeconds → now ≤ now' →
        (ClientAssertion.create r now source).1 = .ok x →
        (ClientAssertion.create r' now' source').1 = .ok x' →
        ∃ iat nbf exp iat' nbf' exp',
          x.IsDated iat nbf exp ∧ x'.IsDated iat' nbf' exp' ∧
            iat ≤ iat' ∧ exp ≤ exp' := by
  refine ⟨fun _ _ hOrder => unixSeconds_mono hOrder, ?_, ?_⟩
  · intro r now source x hCreated
    rcases ClientAssertion.expiresAt_of_create hCreated with
      ⟨hExpiry, hExpires⟩
    have hOrder : now ≤ x.expiresAt := by
      change now.micros ≤ x.expiresAt.micros
      omega
    exact ⟨_, _, _, ClientAssertion.isDated_of_create hCreated, rfl,
      unixSeconds_mono hOrder⟩
  · intro r r' now now' source source' x x' hSame hOrder hCreated hCreated'
    rcases ClientAssertion.expiresAt_of_create hCreated with
      ⟨_, hExpires⟩
    rcases ClientAssertion.expiresAt_of_create hCreated' with
      ⟨_, hExpires'⟩
    have hMicros : now.micros ≤ now'.micros := hOrder
    have hLater : x.expiresAt ≤ x'.expiresAt := by
      change x.expiresAt.micros ≤ x'.expiresAt.micros
      rw [hSame] at hExpires
      omega
    exact ⟨_, _, _, _, _, _, ClientAssertion.isDated_of_create hCreated,
      ClientAssertion.isDated_of_create hCreated',
      unixSeconds_mono hOrder, unixSeconds_mono hLater⟩

/-
  Two assertions that end at once, one a microsecond before
  1970 and one a microsecond before `2 ^ 35` seconds after it,
  which is rounded up.
-/
theorem tokens_dated_in_order_of_far :
    let early : Moment := ⟨-1, by decide⟩
    let late : Moment := ⟨34359738367999999, by decide⟩
    let r : ClientAssertion.Request :=
      { issuer := "https://a"
        clientId := "c"
        key := KeyMaterial.ofKey Rsa.sampleKey none none none
        expirySeconds := 0 }
    let source : TokenSource := ⟨fun _ => "i", fun _ _ => 0, 0⟩
    early ≤ late ∧ early.unixSeconds ≤ late.unixSeconds ∧
      ∃ x x' iat nbf exp iat' nbf' exp',
        (ClientAssertion.create r early source).1 = .ok x ∧
          (ClientAssertion.create r late source).1 = .ok x' ∧
          x.IsDated iat nbf exp ∧ x'.IsDated iat' nbf' exp' ∧
          iat ≤ iat' ∧ exp ≤ exp' := by
  intro early late r source
  have hOrder : early ≤ late := by
    decide
  rcases tokens_dated_in_order with ⟨hSeconds, _, hLater⟩
  rcases ClientAssertion.exists_create_of_sampleKey (r := r) early
      source rfl (by decide) (by decide) (by decide) (by decide) with
    ⟨x, hEarly⟩
  rcases ClientAssertion.exists_create_of_sampleKey (r := r) late
      source rfl (by decide) (by decide) (by decide) (by decide) with
    ⟨x', hLate⟩
  rcases hLater r r early late source source x x' rfl hOrder hEarly
      hLate with ⟨iat, nbf, exp, iat', nbf', exp', hDates⟩
  exact ⟨hOrder, hSeconds early late hOrder, x, x', iat, nbf, exp, iat',
    nbf', exp', hEarly, hLate, hDates⟩

end Moment

end KeyAssertion
