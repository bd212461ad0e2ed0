import KeyAssertion.Token.Issuance
import KeyAssertion.Token.Proof

/-
  This file defines a service and its source together with
  every token that was made with them: the assertions that its
  calls were given, and those tokens that are made apart from
  it, with a key and at a moment of their own.

  Key definitions include:
    * `MadeToken`
    * `TokenLedger`
    * `TokenLedger.made?`
    * `TokenLedger.step`
    * `TokenLedger.run`
-/

namespace KeyAssertion

------------------------------------------------------------
-- Tokens
------------------------------------------------------------

/- A token that was made, with what its caller is told of it. -/
inductive MadeToken
  | assertion (x : ClientAssertion)
  | proof (x : PossessionProof)

/- The signed token. -/
def MadeToken.token : MadeToken → SignedToken
  | .assertion x => x.token
  | .proof x => x.token

namespace Issuance

/- The assertion that a call is given when it goes on. -/
def signedFrom?
    (x : Issuance)
    (c : AssertionCall) : CallStage → Option ClientAssertion
  | .signing d key => (x.sign c d key).1.toOption
  | _ => none

/- The assertion that a call is given by an event, if any. -/
def signed?
    (x : Issuance) : Event → Option ClientAssertion
  | .advance caller =>
      (x.call? caller).bind fun (c, s) => x.signedFrom? c s
  | _ => none

end Issuance

------------------------------------------------------------
-- Ledgers
------------------------------------------------------------

/- The service at a moment and all tokens, the latest first. -/
structure TokenLedger where
  service : Issuance
  made : List MadeToken := []

namespace TokenLedger

/-
  What may happen: an event of the service, or that a token is
  asked for without it.
-/
inductive Event
  | service (e : Issuance.Event)
  | assertion (now : Moment) (r : ClientAssertion.Request)
  | proof (now : Moment) (r : PossessionProof.Request)

/- What the tokens take from outside. -/
def source (x : TokenLedger) : TokenSource :=
  x.service.source

/- The token that an event gives, if any. -/
def made? (x : TokenLedger) : Event → Option MadeToken
  | .service e => (x.service.signed? e).map .assertion
  | .assertion now r =>
      (ClientAssertion.create r now x.source).1.toOption.map .assertion
  | .proof now r =>
      (PossessionProof.create r now x.source).1.toOption.map .proof

variable [KeyLibrary]

/- The service after an event. -/
def serviceAfter (x : TokenLedger) : Event → Issuance
  | .service e => x.service.step e
  | .assertion now r =>
      { x.service with
        source := (ClientAssertion.create r now x.source).2 }
  | .proof now r =>
      { x.service with
        source := (PossessionProof.create r now x.source).2 }

/- What an event does; the token that it gives is written down. -/
def step
    (x : TokenLedger)
    (e : Event) : TokenLedger where
  service := x.serviceAfter e
  made := (x.made? e).toList ++ x.made

/- A ledger in which nothing is written yet. -/
def start (service : Issuance) : TokenLedger :=
  { service := service }

/- What events do one after the other. -/
def run
    (x : TokenLedger)
    (events : List Event) : TokenLedger :=
  events.foldl step x

/- The last of several events happens last. -/
theorem run_concat
    (x : TokenLedger)
    (es : List Event)
    (e : Event) :
    x.run (es ++ [e]) = (x.run es).step e := by
  simp [run]

end TokenLedger

end KeyAssertion
