import KeyAssertion.Http.Status
import KeyAssertion.Url.Join

/-
  This file defines what comes back for a request: a response,
  or a failure of the transport.

  Key definitions include:
    * `HttpResponse`
    * `TransportFailure`
    * `HttpReply`
    * `HttpResponse.location?`
    * `Location.complete`
    * `Location.check`
-/

namespace KeyAssertion

/- A response. -/
structure HttpResponse where
  status : Int := 200
  headers : List (String × String) := []
  body : Bytes := []
deriving DecidableEq, Repr, Inhabited

/-
  A failure of the transport: one of the protocol, one of a
  value, or one of another kind.
-/
inductive TransportFailure
  | protocol (message : String)
  | value (message : String)
  | other (kind message : String)
deriving DecidableEq, Repr

/- What comes back for a request. -/
inductive HttpReply
  | response (r : HttpResponse)
  | failure (f : TransportFailure)
deriving DecidableEq, Repr

namespace HttpResponse

/- The values of a header, joined by commas; names ignore case. -/
def header?
    (r : HttpResponse)
    (name : String) : Option String :=
  let values := (r.headers.filter fun h => h.1.toLower == name).map (·.2)
  if values.isEmpty then none else some (String.intercalate ", " values)

/- The location that a response tells to go to. -/
def location? (r : HttpResponse) : Option String :=
  if HttpStatus.isRedirect r.status then r.header? "location" else none

end HttpResponse

namespace Location

/- Why nothing can be requested at a location. -/
inductive Fault
  | unreadable (fault : Url.Fault)
  | host (fault : Domain.Fault)
  | incomplete (fault : Url.Fault)
deriving DecidableEq, Repr

/-
  The URL that a location names for a request.  One without a
  scheme is completed by the URL of the request; one with a
  scheme and without a host takes the host of the request, so
  that its path must fit behind one.
-/
def complete
    (base u : Url) : Except Fault Url :=
  if u.scheme = "" then
    (Url.parse (base.join u)).mapError .incomplete
  else do
    (Host.check u.host).mapError .host
    if u.host = "" then
      ({ u with host := base.host }.remake).mapError .incomplete
    else
      return u

/- A URL with the fragment of the request, if it has none. -/
def keepFragment
    (base u : Url) : Except Fault Url :=
  if base.fragment.getD "" != "" && u.fragment.getD "" = "" then
    ({ u with fragment := base.fragment }.remake).mapError .incomplete
  else
    .ok u

/- Check that a location can be requested after a request. -/
def check
    (base : Url)
    (location : String) : Except Fault Unit := do
  let u ← (Url.parse location).mapError .unreadable
  let target ← complete base u
  let target ← keepFragment base target
  (Host.check target.host).mapError .host

end Location

end KeyAssertion
