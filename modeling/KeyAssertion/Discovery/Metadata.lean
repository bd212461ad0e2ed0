import KeyAssertion.Http.Status
import KeyAssertion.Record.Fault
import KeyAssertion.Url.Basic

/-
  This file defines what is kept of the description that a
  server gives of itself, and why a description is refused.

  Key definitions include:
    * `DiscoveryMetadata`
    * `DiscoveryError`
    * `DiscoveryMetadata.ofJson`
-/

namespace KeyAssertion

/- The issuer and the endpoints of a server. -/
structure DiscoveryMetadata where
  issuer : String
  authorizationEndpoint : Option String := none
  tokenEndpoint : Option String := none
  userinfoEndpoint : Option String := none
  jwksUri : Option String := none
  endSessionEndpoint : Option String := none
deriving DecidableEq, Repr, Inhabited

------------------------------------------------------------
-- Errors
------------------------------------------------------------

/- Why no response could be had, or none that tells of success. -/
inductive RetrievalFault
  | failure (description : String)
  | status (fault : HttpStatus.Fault)
  | badLocation (fault : Url.Fault)
deriving DecidableEq, Repr

/- The wording of a fault. -/
def RetrievalFault.message : RetrievalFault → String
  | .failure description => description
  | .status fault => fault.message
  | .badLocation fault =>
      "Invalid URL in location header: " ++ fault.message ++ "."

/- Why the metadata of an authority cannot be had. -/
inductive DiscoveryError
  | retrieval (authority : String) (fault : RetrievalFault)
  | notJson (authority : String)
  | notObject (authority : String)
  | invalid (authority : String) (faults : List FieldFault)
deriving DecidableEq, Repr

namespace DiscoveryError

/- The authority that an error is about. -/
def subject : DiscoveryError → String
  | .retrieval a _ => a
  | .notJson a => a
  | .notObject a => a
  | .invalid a _ => a

/- The wording of an error. -/
def message : DiscoveryError → String
  | .retrieval a fault =>
      "Error retrieving discovery document from " ++ a ++ ": "
        ++ fault.message
  | .notJson a => "Discovery response from " ++ a ++ " is not valid JSON"
  | .notObject a =>
      "Discovery response from " ++ a ++ " is not a JSON object"
  | .invalid a _ => "Invalid discovery document from " ++ a ++ ":"

end DiscoveryError

------------------------------------------------------------
-- Reading
------------------------------------------------------------

namespace DiscoveryMetadata

/- The metadata of named values, or the faults of its fields in order. -/
def ofMembers
    (members : JsonObject) :
    Except (List FieldFault) DiscoveryMetadata :=
  let issuer := Field.text members "issuer"
  let authorization := Field.text? members "authorization_endpoint"
  let token := Field.text? members "token_endpoint"
  let userinfo := Field.text? members "userinfo_endpoint"
  let jwks := Field.text? members "jwks_uri"
  let endSession := Field.text? members "end_session_endpoint"
  let record : Except FieldFault DiscoveryMetadata := do
    return ⟨← issuer, ← authorization, ← token, ← userinfo, ← jwks,
      ← endSession⟩
  match record with
  | .ok m => .ok m
  | .error _ =>
      .error (FieldFault.sort (Field.fault? issuer
        ++ [authorization, token, userinfo, jwks, endSession].flatMap
          Field.fault?))

/- The metadata of what an authority answered. -/
def ofJson
    (authority : String) : Json → Except DiscoveryError DiscoveryMetadata
  | .object members =>
      (ofMembers members).mapError (.invalid authority)
  | _ => .error (.notObject authority)

end DiscoveryMetadata

end KeyAssertion
