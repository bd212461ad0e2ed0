import Mathlib.Data.Nat.Digits.Defs
import KeyAssertion.Proofs.Clock.Moment
import KeyAssertion.Proofs.Token.Opening

/-
  The claims of a token as those who receive it read them.
  They are read as they were put together, whatever the texts
  in them are, so that the audience of an assertion is the
  issuer that it was asked for.

  Key definitions include:
    * `OpenedToken.claims?`

  Key theorems include:
    * `Moment.readable_unixSeconds`
    * `SignedToken.texts_of_sign`
    * `OpenedToken.claims?_value`
    * `OpenedToken.claims?_of_sign`
    * `ClientAssertion.claims?_of_create`
    * `PossessionProof.claims?_of_create`
-/

namespace KeyAssertion

------------------------------------------------------------
-- Claims
------------------------------------------------------------

namespace SignedToken

/- What is signed is the text of the header and that of the claims. -/
theorem texts_of_sign
    {m : KeyMaterial}
    {a : SigningAlgorithm}
    {salt : Nat → Bytes}
    {header claims : JsonObject}
    {t : SignedToken}
    (hSigned : sign m a salt header claims = .ok t) :
    t.header = headerText a header ∧ t.claims = claimsText claims := by
  rcases (Attempt.bind_eq_ok_iff _ _ _).mp hSigned with ⟨key, _, hRest⟩
  rcases (Attempt.bind_eq_ok_iff _ _ _).mp hRest with
    ⟨signature, _, hPure⟩
  rw [← Except.ok.inj hPure]
  exact ⟨rfl, rfl⟩

end SignedToken

namespace OpenedToken

/- The claims of a compact form, the second of its segments. -/
def claims? (value : String) : Option JsonObject :=
  match Text.pieces (· == '.') value.toList with
  | [_, claims, _] => segmentObject? claims
  | _ => none

/- The claims that can be read are those of the token. -/
theorem claims?_value
    {t : SignedToken}
    {members : JsonObject}
    (h : Json.read t.claims = .ok (.object members)) :
    claims? t.value = some members := by
  unfold claims?
  rw [pieces_value]
  exact segmentObject?_segment h

/- The claims that were signed are read as they were put together. -/
theorem claims?_of_sign
    {m : KeyMaterial}
    {a : SigningAlgorithm}
    {salt : Nat → Bytes}
    {header claims : JsonObject}
    {t : SignedToken}
    (hSigned : SignedToken.sign m a salt header claims = .ok t)
    (hReadable : Json.Readable Json.maxDepth (.object claims)) :
    claims? t.value = some claims := by
  apply claims?_value
  rw [(SignedToken.texts_of_sign hSigned).2]
  exact Json.read_write Json.compact_isPlain hReadable

end OpenedToken

/- The whole seconds of a moment can be read. -/
theorem Moment.readable_unixSeconds
    (m : Moment)
    (depth : Nat) :
    Json.Readable depth (.integer m.unixSeconds) := by
  apply Nat.toDigits_length
  · decide
  · calc
      m.unixSeconds.natAbs < 2 ^ (59 + 2 * Binary64.reach) :=
          m.natAbs_unixSeconds_lt
      _ ≤ 2 ^ Json.maxIntegerDigits :=
          Nat.pow_le_pow_right Nat.two_pos (by decide)
      _ ≤ 10 ^ Json.maxIntegerDigits :=
          Nat.pow_le_pow_left (by decide) _

------------------------------------------------------------
-- Assertions
------------------------------------------------------------

namespace ClientAssertion

/- The claims of an assertion are texts and moments. -/
theorem readable_claimMembers
    (r : Request)
    (now expiresAt : Moment)
    (identifier : String) :
    Json.Readable Json.maxDepth
      (.object (claimMembers r now expiresAt identifier)) := by
  refine ⟨by decide, ?_, ?_⟩
  · simp [claimMembers, JsonObject.ofTexts]
  · exact
      ⟨trivial, trivial, trivial, now.readable_unixSeconds _,
        now.readable_unixSeconds _, expiresAt.readable_unixSeconds _,
        trivial, trivial⟩

/- The claims of an assertion are read as they were put together. -/
theorem claims?_of_create
    {r : Request}
    {now : Moment}
    {source : TokenSource}
    {x : ClientAssertion}
    (h : (create r now source).1 = .ok x) :
    OpenedToken.claims? x.token.value =
      some (claimMembers r now x.expiresAt source.nextIdentifier) := by
  rcases (create_eq_ok_iff _ _ _ _).mp h with ⟨a, _, hSigned⟩
  exact OpenedToken.claims?_of_sign hSigned
    (readable_claimMembers _ _ _ _)

/- The audience among these claims is the issuer asked for. -/
theorem audience_claimMembers
    (r : Request)
    (now expiresAt : Moment)
    (identifier : String) :
    (claimMembers r now expiresAt identifier).memberOrNull "aud" =
      Json.text r.issuer := by
  rfl

end ClientAssertion

------------------------------------------------------------
-- Proofs of Possession
------------------------------------------------------------

namespace PossessionProof

/- The claims of a proof are texts and a moment. -/
theorem readable_claimMembers
    (r : Request)
    (now : Moment)
    (identifier : String) :
    Json.Readable Json.maxDepth
      (.object (claimMembers r now identifier)) := by
  refine ⟨by decide, ?_, ?_⟩
  · have hNames :
        ((claimMembers r now identifier).map Prod.fst).Sublist
          (["jti", "htm", "htu", "iat", "nonce", "ath"].map
            JsonString.text) := by
      rw [claimMembers, List.map_append]
      exact (List.Sublist.refl _).append (Jwk.names_present_sublist _)
    exact hNames.nodup (by decide)
  · exact
      ⟨trivial, trivial, trivial, now.readable_unixSeconds _,
        Jwk.readableMembers_present _ _⟩

/- The claims of a proof are read as they were put together. -/
theorem claims?_of_create
    {r : Request}
    {now : Moment}
    {source : TokenSource}
    {x : PossessionProof}
    (h : (create r now source).1 = .ok x) :
    OpenedToken.claims? x.token.value =
      some (claimMembers r now source.nextIdentifier) := by
  rcases (exists_create_token_iff r now source x.token).mp ⟨x, h, rfl⟩
    with ⟨a, _, hSigned⟩
  exact OpenedToken.claims?_of_sign hSigned
    (readable_claimMembers _ _ _)

end PossessionProof

end KeyAssertion
