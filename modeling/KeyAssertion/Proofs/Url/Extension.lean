import Mathlib.Data.List.TakeDrop
import Mathlib.Data.List.TakeWhile
import KeyAssertion.Attempt
import KeyAssertion.Url.Basic

/-
  What stands in front of the path of a URL does not depend on
  what is put behind: a URL with a scheme and a host that loses
  the slashes at its end and may get a path there instead has
  the same scheme, host and port.

  Key definitions include:
    * `Url.Written`

  Key theorems include:
    * `Url.written_of_split`
    * `Url.Written.split_eq`
    * `Url.Written.extend`
    * `Url.ofParts_of_path_fits`
    * `Url.parse_eq_ok_iff`
    * `Url.written_of_parse`
    * `Url.parse_extend`
-/

namespace KeyAssertion

namespace Url

------------------------------------------------------------
-- Scheme and Place
------------------------------------------------------------

/- The characters that end the place of a server. -/
def placeEnds : List Char :=
  ['/', '?', '#']

/-
  A text with a scheme and, behind two slashes, the place of a
  server, that is its user, host and port, and then the rest.
-/
structure Written (cs word place rest : List Char) : Prop where
  text : cs = word ++ ':' :: '/' :: '/' :: (place ++ rest)
  opening : ∃ c, word.head? = some c ∧ isLetter c = true
  scheme : ∀ c ∈ word, isSchemeCharacter c = true
  place : ∀ c ∈ place, c ∉ placeEnds
  rest : ∀ c, rest.head? = some c → c ∈ placeEnds

section Before

variable {ends front back cs : List Char}

/- A text is split before the first of some characters. -/
theorem splitBefore_append
    (hFront : ∀ c ∈ front, c ∉ ends)
    (hBack : ∀ c, back.head? = some c → c ∈ ends) :
    splitBefore ends (front ++ back) = (front, back) := by
  have hInside : ∀ c ∈ front, (!ends.contains c) = true := by
    intro c hc
    simpa using hFront c hc
  have hStop :
      (back.takeWhile fun c => !ends.contains c) = [] ∧
        (back.dropWhile fun c => !ends.contains c) = back := by
    cases back with
    | nil => exact ⟨rfl, rfl⟩
    | cons c back => simp [hBack c rfl]
  rw [splitBefore, List.span_eq_takeWhile_dropWhile,
    List.takeWhile_append_of_pos hInside,
    List.dropWhile_append_of_pos hInside, hStop.1, hStop.2,
    List.append_nil]

/- What is split before some characters has them behind only. -/
theorem append_of_splitBefore
    (hSplit : splitBefore ends cs = (front, back)) :
    cs = front ++ back ∧
      (∀ c ∈ front, c ∉ ends) ∧
      ∀ c, back.head? = some c → c ∈ ends := by
  rw [splitBefore, List.span_eq_takeWhile_dropWhile] at hSplit
  cases hSplit
  refine ⟨List.takeWhile_append_dropWhile.symm, ?_, ?_⟩
  · intro c hc
    simpa using List.mem_takeWhile_imp hc
  · intro c hc
    simpa using Text.not_of_head?_dropWhile _ _ c hc

end Before

/- A scheme is a word of its characters before a colon. -/
theorem splitScheme_word
    {word rest : List Char}
    (hOpening : ∃ c, word.head? = some c ∧ isLetter c = true)
    (hScheme : ∀ c ∈ word, isSchemeCharacter c = true) :
    splitScheme (word ++ ':' :: rest) = (word, rest) := by
  rcases hOpening with ⟨c, hHead, hLetter⟩
  have hColon : isSchemeCharacter ':' = false := by decide
  have hWord :
      (word ++ ':' :: rest).takeWhile isSchemeCharacter = word := by
    rw [List.takeWhile_append_of_pos hScheme]
    simp [hColon]
  unfold splitScheme
  simp [hWord, hHead, hLetter]

/- A scheme that is read is such a word. -/
theorem word_of_splitScheme
    {cs word rest : List Char}
    (hSplit : splitScheme cs = (word, rest))
    (hThere : word ≠ []) :
    cs = word ++ ':' :: rest ∧
      (∃ c, word.head? = some c ∧ isLetter c = true) ∧
      ∀ c ∈ word, isSchemeCharacter c = true := by
  have hFront :=
    List.takeWhile_prefix isSchemeCharacter (l := cs)
  unfold splitScheme at hSplit
  dsimp only at hSplit
  split at hSplit
  · cases hSplit
    exact absurd rfl hThere
  · next behind c hDrop hHead =>
      split at hSplit
      · next hLetter =>
          cases hSplit
          refine ⟨?_, ⟨c, hHead, hLetter⟩, ?_⟩
          · rw [← hDrop]
            exact (List.prefix_iff_eq_append.mp hFront).symm
          · intro c hc
            exact List.mem_takeWhile_imp hc
      · cases hSplit
        exact absurd rfl hThere
  · cases hSplit
    exact absurd rfl hThere

/- The place of a server stands behind two slashes. -/
theorem splitAuthority_place
    {place rest : List Char}
    (hPlace : ∀ c ∈ place, c ∉ placeEnds)
    (hRest : ∀ c, rest.head? = some c → c ∈ placeEnds) :
    splitAuthority ('/' :: '/' :: (place ++ rest)) =
      (place, rest) :=
  splitBefore_append hPlace hRest

/- A place that is read is such a one. -/
theorem place_of_splitAuthority
    {cs place rest : List Char}
    (hSplit : splitAuthority cs = (place, rest))
    (hThere : place ≠ []) :
    cs = '/' :: '/' :: (place ++ rest) ∧
      (∀ c ∈ place, c ∉ placeEnds) ∧
      ∀ c, rest.head? = some c → c ∈ placeEnds := by
  unfold splitAuthority at hSplit
  split at hSplit
  · rcases append_of_splitBefore hSplit with ⟨rfl, hPlace, hRest⟩
    exact ⟨rfl, hPlace, hRest⟩
  · cases hSplit
    exact absurd rfl hThere

/-
  The user, the host and the port at a place; the port as it is
  written.
-/
def placeParts (place : List Char) :
    List Char × List Char × List Char :=
  let (userinfo, server) := (splitLast? '@' place).getD ([], place)
  let (host, port) := splitHost server
  (userinfo, host, withoutColon port)

/- The path of the text behind a place. -/
def pathBefore (rest : List Char) : List Char :=
  (splitBefore ['?', '#'] rest).1

/- What the parts of a text depend on. -/
theorem split_eq
    {cs word behind place rest : List Char}
    (hWord : splitScheme cs = (word, behind))
    (hPlace : splitAuthority behind = (place, rest)) :
    (split cs).scheme = word ∧
      ((split cs).userinfo, (split cs).host, (split cs).port) =
        placeParts place ∧
      (split cs).path = pathBefore rest := by
  unfold split
  simp only [hWord, hPlace]
  exact ⟨trivial, rfl, rfl⟩

/- The parts of a text with a scheme and a place. -/
theorem Written.split_eq
    {cs word place rest : List Char}
    (h : Written cs word place rest) :
    (split cs).scheme = word ∧
      ((split cs).userinfo, (split cs).host, (split cs).port) =
        placeParts place ∧
      (split cs).path = pathBefore rest := by
  have hWord :
      splitScheme (word ++ ':' :: '/' :: '/' :: (place ++ rest)) =
        (word, '/' :: '/' :: (place ++ rest)) :=
    splitScheme_word h.opening h.scheme
  rw [← h.text] at hWord
  exact Url.split_eq hWord (splitAuthority_place h.place h.rest)

/- A text whose scheme and host are there is written like this. -/
theorem written_of_split
    {cs : List Char}
    (hScheme : (split cs).scheme ≠ [])
    (hHost : (split cs).host ≠ []) :
    ∃ place rest, Written cs (split cs).scheme place rest := by
  rcases hWord : splitScheme cs with ⟨word, behind⟩
  rcases hPlace : splitAuthority behind with ⟨place, rest⟩
  rcases Url.split_eq hWord hPlace with ⟨hWordEq, hParts, _⟩
  have hThere : place ≠ [] := by
    rintro rfl
    exact hHost (congrArg (fun p => p.2.1) hParts)
  rw [hWordEq] at hScheme ⊢
  rcases word_of_splitScheme hWord hScheme with
    ⟨hText, hOpening, hLetters⟩
  rcases place_of_splitAuthority hPlace hThere with
    ⟨hBehind, hInside, hRest⟩
  rw [hBehind] at hText
  exact ⟨place, rest, hText, hOpening, hLetters, hInside, hRest⟩

/- A place ends in a character that is no slash. -/
theorem Written.getLast?_front
    {cs word place rest : List Char}
    (h : Written cs word place rest)
    (hThere : place ≠ []) :
    ∃ c,
      (word ++ ':' :: '/' :: '/' :: place).getLast? = some c ∧
        (c == '/') = false := by
  refine ⟨place.getLast hThere, ?_, ?_⟩
  · simp [List.getLast?_append, List.getLast?_cons,
      List.getLast?_eq_some_getLast hThere]
  · have hEnd := h.place _ (List.getLast_mem hThere)
    simp only [placeEnds, List.mem_cons, not_or] at hEnd
    simpa using hEnd.1

/-
  The slashes at the end of such a text may be left out or give
  way to another path.
-/
theorem Written.extend
    {cs word place rest : List Char}
    (h : Written cs word place rest)
    (hThere : place ≠ [])
    {path : List Char}
    (hPath : ∀ c, path.head? = some c → c = '/') :
    Written (Text.trimEndList (· == '/') cs ++ path) word place
      (Text.trimEndList (· == '/') rest ++ path) := by
  refine ⟨?_, h.opening, h.scheme, h.place, ?_⟩
  · have hSplit :
        cs = (word ++ ':' :: '/' :: '/' :: place) ++ rest := by
      rw [h.text]
      simp
    rw [hSplit,
      Text.trimEndList_append _ _ _ (h.getLast?_front hThere)]
    simp
  · intro c hc
    rw [List.head?_append] at hc
    cases hHead : (Text.trimEndList (· == '/') rest).head? with
    | none =>
        rw [hHead] at hc
        rw [hPath c hc]
        decide
    | some d =>
        rw [hHead] at hc
        cases hc
        exact h.rest _ (Text.head?_trimEndList _ _ _ hHead)

/- Behind a place there is no path or one that begins with a slash. -/
theorem Written.path_fits
    {cs word place rest : List Char}
    (h : Written cs word place rest) :
    pathBefore rest = [] ∨ (pathBefore rest).head? = some '/' := by
  unfold pathBefore splitBefore
  rw [List.span_eq_takeWhile_dropWhile]
  cases rest with
  | nil => exact Or.inl rfl
  | cons c rest =>
      have hEnd := h.rest c rfl
      simp only [placeEnds, List.mem_cons, List.not_mem_nil,
        or_false] at hEnd
      rcases hEnd with rfl | rfl | rfl
      · exact Or.inr rfl
      · exact Or.inl rfl
      · exact Or.inl rfl

------------------------------------------------------------
-- Reading
------------------------------------------------------------

/- The host, the port and the scheme of a URL are those of its parts. -/
theorem ofParts_fields
    {p : Parts}
    {u : Url}
    (h : ofParts p = .ok u) :
    Host.encode (String.ofList p.host) = .ok u.host ∧
      readPort p.scheme p.port = .ok u.port ∧
      u.scheme = (String.ofList p.scheme).toLower := by
  unfold ofParts at h
  rcases (Attempt.bind_eq_ok_iff _ _ _).mp h with ⟨host, hHost, h⟩
  rcases (Attempt.bind_eq_ok_iff _ _ _).mp h with ⟨port, hPort, h⟩
  rcases (Attempt.bind_eq_ok_iff _ _ _).mp h with ⟨_, _, h⟩
  cases h
  exact ⟨(Attempt.mapError_eq_ok_iff _ _ _).mp hHost, hPort, rfl⟩

/- Parts with a host and a path that fits behind it make a URL. -/
theorem ofParts_of_path_fits
    {p : Parts}
    {host : String}
    {port : Option Int}
    (hHost : Host.encode (String.ofList p.host) = .ok host)
    (hThere : host ≠ "")
    (hPort : readPort p.scheme p.port = .ok port)
    (hPath : p.path = [] ∨ p.path.head? = some '/') :
    ∃ u, ofParts p = .ok u := by
  have hCheck : ∀ b, checkPath b true p.path = .ok () := by
    intro b
    rcases hPath with hNone | hSlash
    · simp [checkPath, hNone]
      rfl
    · simp [checkPath, hSlash]
      rfl
  have hNamed : (host != "") = true := by
    simpa using hThere
  simp [ofParts, hHost, hNamed, hPort, hCheck, Except.mapError,
    bind, Except.bind, pure, Except.pure]

------------------------------------------------------------
-- Texts
------------------------------------------------------------

/- The characters that may not stand in the text of a URL. -/
theorem unprintable?_eq_none_iff
    (position : Nat)
    (cs : List Char) :
    unprintable? position cs = none ↔
      ∀ c ∈ cs, c.toNat < 128 → Percent.isPrintableAscii c = true := by
  induction cs generalizing position with
  | nil => simp [unprintable?]
  | cons c rest ih =>
      unfold unprintable?
      by_cases hc : (c.toNat < 128 && !Percent.isPrintableAscii c) = true
      · rw [if_pos hc]
        simp only [Bool.and_eq_true, decide_eq_true_eq,
          Bool.not_eq_true'] at hc
        simp [hc.1, hc.2]
      · rw [if_neg hc, ih]
        simp only [Bool.and_eq_true, decide_eq_true_eq,
          Bool.not_eq_true', not_and, Bool.not_eq_false] at hc
        simpa using fun _ => hc

/- A text that is neither too long nor unprintable is read by parts. -/
theorem parse_eq_ok_iff
    (s : String)
    (u : Url) :
    parse s = .ok u ↔
      s.toList.length ≤ longest ∧
        unprintable? 0 s.toList = none ∧
        ofParts (split s.toList) = .ok u := by
  unfold parse
  by_cases hLong : longest < s.toList.length
  · simp [hLong, Nat.not_le.mpr hLong]
  · rw [if_neg hLong]
    cases hBad : unprintable? 0 s.toList with
    | none => simp [Nat.not_lt.mp hLong]
    | some bad => simp [Nat.not_lt.mp hLong]

/- A text that is too long is refused for it. -/
theorem parse_of_too_long
    {s : String}
    (hLong : longest < s.toList.length) :
    parse s = .error .tooLong := by
  unfold parse
  rw [if_pos hLong]

/- The text of a URL with a scheme and a host is written as such. -/
theorem written_of_parse
    {s : String}
    {u : Url}
    (hParse : parse s = .ok u)
    (hScheme : u.scheme ≠ "")
    (hHost : u.host ≠ "") :
    ∃ place rest,
      Written s.toList (split s.toList).scheme place rest ∧
        place ≠ [] := by
  rcases (parse_eq_ok_iff s u).mp hParse with ⟨_, _, hParts⟩
  rcases ofParts_fields hParts with ⟨hName, _, hWord⟩
  have hSchemeThere : (split s.toList).scheme ≠ [] := by
    intro hNone
    rw [hNone] at hWord
    exact hScheme (hWord.trans (by decide +kernel))
  have hHostThere : (split s.toList).host ≠ [] := by
    intro hNone
    have hEmpty : Host.encode (String.ofList []) = .ok "" := rfl
    rw [hNone, hEmpty] at hName
    exact hHost (Except.ok.inj hName).symm
  rcases written_of_split hSchemeThere hHostThere with
    ⟨place, rest, hWritten⟩
  refine ⟨place, rest, hWritten, ?_⟩
  rintro rfl
  exact hHostThere (congrArg (fun p => p.2.1) hWritten.split_eq.2.1)

/- The characters of a text with a path in place of slashes at its end. -/
theorem toList_withoutTrailingSlashes_append (s path : String) :
    (Text.withoutTrailingSlashes s ++ path).toList =
      Text.trimEndList (· == '/') s.toList ++ path.toList := by
  simp [Text.withoutTrailingSlashes]

/-
  The text of a URL with a scheme and a host may have a path, or
  nothing, in place of the slashes at its end, unless it gets
  too long: it then is the text of a URL with the same scheme,
  host and port.
-/
theorem parse_extend
    {s path : String}
    {u : Url}
    (hParse : parse s = .ok u)
    (hScheme : u.scheme ≠ "")
    (hHost : u.host ≠ "")
    (hOpening : ∀ c, path.toList.head? = some c → c = '/')
    (hPrintable :
      ∀ c ∈ path.toList, Percent.isPrintableAscii c = true)
    (hShort :
      (Text.withoutTrailingSlashes s ++ path).toList.length ≤
        longest) :
    ∃ v,
      parse (Text.withoutTrailingSlashes s ++ path) = .ok v ∧
        v.scheme = u.scheme ∧ v.host = u.host ∧ v.port = u.port := by
  rcases (parse_eq_ok_iff s u).mp hParse with
    ⟨_, hClean, hParts⟩
  rcases ofParts_fields hParts with ⟨hName, hPort, hWord⟩
  rcases written_of_parse hParse hScheme hHost with
    ⟨place, rest, hWritten, hPlaceThere⟩
  rcases hWritten.split_eq with ⟨_, hPlace, _⟩
  have hText := toList_withoutTrailingSlashes_append s path
  have hLonger := hWritten.extend hPlaceThere hOpening
  rw [← hText] at hLonger
  rcases hLonger.split_eq with ⟨hWord', hPlace', hPath'⟩
  -- The parts up to the path are those of the first text.
  have hSame := hPlace'.trans hPlace.symm
  simp only [Prod.mk.injEq] at hSame
  rcases hSame with ⟨_, hHost', hPort'⟩
  have hFits := hLonger.path_fits
  rw [← hPath'] at hFits
  have hClean' :
      unprintable? 0
        (Text.withoutTrailingSlashes s ++ path).toList = none := by
    rw [unprintable?_eq_none_iff] at hClean ⊢
    rw [hText]
    intro c hc hAscii
    rcases List.mem_append.mp hc with hOld | hNew
    · have hIn := (Text.trimEndList_prefix _ _).subset hOld
      exact hClean c hIn hAscii
    · exact hPrintable c hNew
  rw [← hHost'] at hName
  rw [← hPort', ← hWord'] at hPort
  rcases ofParts_of_path_fits hName hHost hPort hFits with ⟨v, hV⟩
  rcases ofParts_fields hV with ⟨hNameV, hPortV, hWordV⟩
  refine
    ⟨v, (parse_eq_ok_iff _ v).mpr ⟨hShort, hClean', hV⟩, ?_, ?_, ?_⟩
  · rw [hWordV, hWord', hWord]
  · rw [hNameV] at hName
    exact Except.ok.inj hName
  · rw [hPortV] at hPort
    exact Except.ok.inj hPort

end Url

end KeyAssertion
