import KeyAssertion.Discovery.Exchange
import KeyAssertion.Token.Service

/-
  This file defines runs of the service with its callers.  A
  call for an assertion asks the cache for a document, then
  resolves its secret and then signs.  It waits before each of
  these stages, and anything may happen in between: events of
  the cache, other calls, a change of the certificates.

  Key definitions include:
    * `AssertionCall`
    * `CallStage`
    * `Issuance`
    * `Issuance.Event`
    * `Issuance.step`
    * `Issuance.run`
-/

namespace KeyAssertion

/- What is called for: an assertion for an authority, by a client. -/
structure AssertionCall where
  authority : Option String
  clientId : String
  secret : Option String
deriving Repr

/- The assertion that is asked for with a document and a key. -/
def AssertionCall.request
    (c : AssertionCall)
    (s : AssertionSettings)
    (d : DiscoveryDocument)
    (key : KeyMaterial) : ClientAssertion.Request where
  issuer := d.metadata.issuer
  clientId := c.clientId
  key := key
  expirySeconds := s.expirationSeconds

/-
  What a call waits for: its document, its secret or its
  signature; or what it has come to.  A call that is abandoned
  comes to nothing.
-/
inductive CallStage
  | discovering
  | resolving (document : DiscoveryDocument)
  | signing (document : DiscoveryDocument) (key : KeyMaterial)
  | ended (result : Except ServiceError ClientAssertion)
  | abandoned

namespace CallStage

/- Where a call goes on with what the cache gave. -/
def ofGet : Except CacheError DiscoveryDocument → CallStage
  | .ok d => .resolving d
  | .error e => .ended (.error (.cache e))

/- Where it goes on with what its secret was resolved to. -/
def ofSecret
    (d : DiscoveryDocument) :
    Except SecretError KeyMaterial → CallStage
  | .ok key => .signing d key
  | .error e => .ended (.error (.secret e))

/- Where it goes on with what was signed. -/
def ofSigning (r : Except TokenError ClientAssertion) : CallStage :=
  .ended (r.mapError .token)

end CallStage

/-
  The service at a moment: the exchange of its cache, its
  certificates, its source, its calls with their stages, the
  latest stage first, and the callers whose secrets it resolved.
-/
structure Issuance where
  exchange : Exchange
  store : CertificateStore
  settings : AssertionSettings := {}
  source : TokenSource
  calls : List (Nat × AssertionCall × CallStage) := []
  resolved : List Nat := []

namespace Issuance

/-
  What may happen.  Callers of the service leave the cache, by
  a timeout or because they are cancelled, as its other callers
  do.
-/
inductive Event
  | discovery (e : Exchange.Event)
  | setStore (store : CertificateStore)
  | draw
  | call (caller : Nat) (c : AssertionCall)
  | advance (caller : Nat)
  | abandon (caller : Nat)

/- A call and its stage. -/
def call?
    (x : Issuance)
    (caller : Nat) : Option (AssertionCall × CallStage) :=
  x.calls.lookup caller

/- What a call has come to, if it has ended. -/
def result?
    (x : Issuance)
    (caller : Nat) :
    Option (Except ServiceError ClientAssertion) :=
  match x.call? caller with
  | some (_, .ended r) => some r
  | _ => none

/- Put a call in a stage. -/
def enter
    (x : Issuance)
    (caller : Nat)
    (c : AssertionCall)
    (s : CallStage) : Issuance :=
  { x with calls := (caller, c, s) :: x.calls }

variable [KeyLibrary]

/- What the secret of a call is resolved to now. -/
def resolve
    (x : Issuance)
    (c : AssertionCall) : Except SecretError KeyMaterial :=
  Secret.resolve x.store x.exchange.now c.secret

/- What is signed now for a call, and the source after it. -/
def sign
    (x : Issuance)
    (c : AssertionCall)
    (d : DiscoveryDocument)
    (key : KeyMaterial) :
    Except TokenError ClientAssertion × TokenSource :=
  ClientAssertion.create (c.request x.settings d key) x.exchange.now
    x.source

/- A call goes on from its stage, if what it waits for is there. -/
def advanceFrom
    (x : Issuance)
    (caller : Nat)
    (c : AssertionCall) : CallStage → Issuance
  | .discovering =>
      match x.exchange.outcome? caller with
      | none => x
      | some o => x.enter caller c (.ofGet o.result)
  | .resolving d =>
      { x with resolved := caller :: x.resolved }.enter caller c
        (.ofSecret d (x.resolve c))
  | .signing d key =>
      { x with source := (x.sign c d key).2 }.enter caller c
        (.ofSigning (x.sign c d key).1)
  | .ended _ => x
  | .abandoned => x

/- A call goes on. -/
def advance
    (x : Issuance)
    (caller : Nat) : Issuance :=
  match x.call? caller with
  | none => x
  | some (c, s) => x.advanceFrom caller c s

/- A call that has not ended is given up. -/
def abandon
    (x : Issuance)
    (caller : Nat) : Issuance :=
  match x.call? caller with
  | none => x
  | some (_, .ended _) => x
  | some (c, _) => x.enter caller c .abandoned

/- What an event does. -/
def step (x : Issuance) : Event → Issuance
  | .discovery e => { x with exchange := (x.exchange.step e).1 }
  | .setStore store => { x with store := store }
  | .draw => { x with source := x.source.next }
  | .call caller c =>
      { x with
        exchange :=
          (x.exchange.step (.get caller c.authority)).1 }.enter
        caller c .discovering
  | .advance caller => x.advance caller
  | .abandon caller => x.abandon caller

/- A service in which nothing has happened yet. -/
def start
    (discovery : DiscoverySettings)
    (now : Moment)
    (store : CertificateStore)
    (settings : AssertionSettings)
    (source : TokenSource) : Issuance :=
  { exchange := .start discovery now, store := store,
    settings := settings, source := source }

/- What events do one after the other. -/
def run
    (x : Issuance)
    (events : List Event) : Issuance :=
  events.foldl step x

/- Events in two parts happen one part after the other. -/
theorem run_append
    (x : Issuance)
    (es fs : List Event) :
    x.run (es ++ fs) = (x.run es).run fs := by
  simp [run]

/- The last of several events happens last. -/
theorem run_concat
    (x : Issuance)
    (es : List Event)
    (e : Event) :
    x.run (es ++ [e]) = (x.run es).step e := by
  rw [run_append]
  rfl

end Issuance

end KeyAssertion
