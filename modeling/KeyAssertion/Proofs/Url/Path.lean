import KeyAssertion.Proofs.Url.Extension

/-
  What stands behind the place of a server in the text of a
  URL: a path, and what the mark of a query or of a fragment
  begins.  A path keeps its end, whatever segments of dots and
  percent signs stand before it.

  Key definitions include:
    * `Url.marks`
    * `Url.Behind`

  Key theorems include:
    * `Percent.encodeList_append_slash`
    * `Url.suffix_withoutDots`
    * `Url.Written.behind`
    * `Url.Written.not_marked_iff`
    * `Url.suffix_path_of_parse`
-/

namespace KeyAssertion

------------------------------------------------------------
-- Escapes
------------------------------------------------------------

namespace Percent

/- A character that begins no escape is encoded by itself. -/
theorem encodeList_cons
    (isSafe : Char → Bool)
    {c : Char}
    {rest : List Char}
    (h : ∀ a b more, c = '%' → rest = a :: b :: more →
      (isHexDigit a && isHexDigit b) = false) :
    encodeList isSafe (c :: rest) =
      character isSafe c ++ encodeList isSafe rest := by
  rw [encodeList.eq_def]
  split
  · next a b more hCons =>
      cases hCons
      rw [if_neg]
      simp [h a b more rfl rfl]
  · next c' rest' _ hCons =>
      cases hCons
      rfl
  · next hCons => cases hCons

/- No escape goes on over a slash. -/
theorem encodeList_append_slash
    (isSafe : Char → Bool)
    (front back : List Char) :
    encodeList isSafe (front ++ '/' :: back) =
      encodeList isSafe front ++ encodeList isSafe ('/' :: back) := by
  have hSlash : isHexDigit '/' = false := by
    decide
  fun_induction encodeList isSafe front with
  | case1 a b rest hEscape ih =>
    simp only [List.cons_append] at ih ⊢
    rw [encodeList, if_pos hEscape, ih]
  | case2 a b rest hPlain ih =>
    simp only [List.cons_append] at ih ⊢
    rw [encodeList, if_neg hPlain, ih, List.append_assoc]
  | case3 c rest hOther ih =>
    rw [List.cons_append, encodeList_cons, ih, List.append_assoc]
    intro a b more hPercent hRest
    cases rest with
    | nil =>
      cases hRest
      simp [hSlash]
    | cons d rest =>
      cases rest with
      | nil =>
        cases hRest
        simp [hSlash]
      | cons e rest => exact (hOther d e rest hPercent rfl).elim
  | case4 => rfl

end Percent

namespace Url

------------------------------------------------------------
-- Segments
------------------------------------------------------------

/- Lists of segments are joined one after the other. -/
theorem intercalate_append
    {separator : List Char}
    {front back : List (List Char)}
    (hFront : front ≠ [])
    (hBack : back ≠ []) :
    separator.intercalate (front ++ back) =
      separator.intercalate front ++ separator
        ++ separator.intercalate back := by
  induction front with
  | nil => exact absurd rfl hFront
  | cons segment front ih =>
    cases front with
    | nil =>
      rcases List.exists_cons_of_ne_nil hBack with ⟨first, more, rfl⟩
      simp [List.intercalate_cons_cons]
    | cons next front =>
      rw [List.cons_append, List.cons_append,
        List.intercalate_cons_cons, ← List.cons_append,
        ih (List.cons_ne_nil _ _), List.intercalate_cons_cons]
      simp

/- The segments of a path give the path again. -/
theorem intercalate_pieces (path : List Char) :
    ['/'].intercalate (Text.pieces (fun c => c == '/') path) = path := by
  induction path with
  | nil => rfl
  | cons c path ih =>
    cases hPieces : Text.pieces (fun c => c == '/') path with
    | nil => exact absurd hPieces (Text.pieces_ne_nil _ _)
    | cons piece more =>
      rw [hPieces] at ih
      by_cases hc : c = '/'
      · simp [Text.pieces, hc, hPieces, List.intercalate_cons_cons, ih]
      · have hStep :
            Text.pieces (fun c => c == '/') (c :: path) =
              (c :: piece) :: more := by
          simp [Text.pieces, hc, hPieces]
        rw [hStep]
        cases more with
        | nil => simpa using ih
        | cons second more =>
          rw [List.intercalate_cons_cons] at ih ⊢
          rw [← ih]
          simp

/- Segments without dots are all kept. -/
theorem foldl_addSegment
    {segments : List (List Char)}
    (h : ∀ s ∈ segments, s ≠ ['.'] ∧ s ≠ ['.', '.'])
    (path : List (List Char)) :
    segments.foldl addSegment path = segments.reverse ++ path := by
  induction segments generalizing path with
  | nil => rfl
  | cons s segments ih =>
    rcases h s List.mem_cons_self with ⟨hHere, hUp⟩
    rw [List.foldl_cons, ih fun t ht => h t (List.mem_cons_of_mem s ht)]
    simp [addSegment, hHere, hUp]

/-
  The segment before the first slash is never left: two dots
  take away what stands behind it only.
-/
theorem getLast?_foldl_addSegment
    (segments : List (List Char))
    {path : List (List Char)}
    (h : path.getLast? = some []) :
    (segments.foldl addSegment path).getLast? = some [] := by
  induction segments generalizing path with
  | nil => exact h
  | cons s segments ih =>
    apply ih
    unfold addSegment
    split_ifs with hHere hUp hRoot
    · exact h
    · exact h
    · cases path with
      | nil => cases h
      | cons first path =>
        cases path with
        | nil =>
          cases h
          exact absurd rfl hRoot
        | cons second path => simpa [List.getLast?_cons_cons] using h
    · cases path with
      | nil => cases h
      | cons first path => simpa [List.getLast?_cons_cons] using h

/-
  A path that gets further segments without dots ends with
  them, whatever the dots before them come to.
-/
theorem suffix_withoutDots
    {path more : List Char}
    (hPath : path = [] ∨ path.head? = some '/')
    (hMore : ∀ s ∈ Text.pieces (fun c => c == '/') more,
      s ≠ ['.'] ∧ s ≠ ['.', '.']) :
    '/' :: more <:+ withoutDots (path ++ '/' :: more) := by
  unfold withoutDots
  dsimp only
  split_ifs
  · have hFirst :
        ∃ others, Text.pieces (fun c => c == '/') path = [] :: others := by
      rcases hPath with rfl | hSlash
      · exact ⟨[], rfl⟩
      · rcases List.head?_eq_some_iff.mp hSlash with ⟨rest, rfl⟩
        exact ⟨Text.pieces (fun c => c == '/') rest, by simp [Text.pieces]⟩
    rcases hFirst with ⟨others, hPieces⟩
    have hRoot :
        ((others.foldl addSegment [[]]).getLast? = some []) :=
      getLast?_foldl_addSegment others rfl
    have hFront : (others.foldl addSegment [[]]).reverse ≠ [] := by
      intro hNone
      rw [List.reverse_eq_nil_iff.mp hNone] at hRoot
      cases hRoot
    have hStart :
        (([] : List Char) :: others).foldl addSegment [] =
          others.foldl addSegment [[]] := rfl
    rw [Text.pieces_separator rfl, List.foldl_append,
      foldl_addSegment hMore, List.reverse_append, List.reverse_reverse,
      hPieces, hStart,
      intercalate_append hFront (Text.pieces_ne_nil _ _),
      intercalate_pieces, List.append_assoc]
    exact List.suffix_append _ _
  · exact List.suffix_append _ _

------------------------------------------------------------
-- Marks
------------------------------------------------------------

/- The characters that end a path and begin a query or a fragment. -/
def marks : List Char :=
  ['?', '#']

/-
  What stands behind a path: a query, a fragment, both or
  nothing.
-/
inductive Behind :
    List Char → Option (List Char) → Option (List Char) → Prop
  | nothing : Behind [] none none
  | query (q : List Char) : Behind ('?' :: q) (some q) none
  | fragment (f : List Char) : Behind ('#' :: f) none (some f)
  | both (q f : List Char) :
      Behind ('?' :: (q ++ '#' :: f)) (some q) (some f)

section Behind

variable {back : List Char} {query fragment : Option (List Char)}

/- What begins with a mark or is empty is read like this. -/
theorem behind_of_splitMarked
    {rest rest' : List Char}
    (hMark : ∀ c, back.head? = some c → c ∈ marks)
    (hQuery : splitMarked '?' ['#'] back = (query, rest))
    (hFragment : splitMarked '#' [] rest = (fragment, rest')) :
    Behind back query fragment := by
  have hAll : ∀ cs, splitBefore [] cs = (cs, []) := by
    intro cs
    have hSplit : splitBefore [] (cs ++ []) = (cs, []) :=
      splitBefore_append (by simp) (by simp)
    rwa [List.append_nil] at hSplit
  cases back with
  | nil =>
    cases hQuery
    cases hFragment
    exact .nothing
  | cons c back =>
    have hc := hMark c rfl
    simp only [marks, List.mem_cons, List.not_mem_nil, or_false] at hc
    rcases hc with rfl | rfl
    · rcases hSplit : splitBefore ['#'] back with ⟨q, tail⟩
      rcases append_of_splitBefore hSplit with ⟨hBack, -, hTail⟩
      simp only [splitMarked, if_true, hSplit, Prod.mk.injEq] at hQuery
      rw [← hQuery.1, hBack]
      rw [← hQuery.2] at hFragment
      cases tail with
      | nil =>
        cases hFragment
        rw [List.append_nil]
        exact .query q
      | cons d tail =>
        obtain rfl : d = '#' := by simpa using hTail d rfl
        simp only [splitMarked, if_true, hAll] at hFragment
        cases hFragment
        exact .both q tail
    · simp only [splitMarked, Char.reduceEq, if_false] at hQuery
      cases hQuery
      simp only [splitMarked, if_true, hAll] at hFragment
      cases hFragment
      exact .fragment back

/- There is neither a query nor a fragment if there is no mark. -/
theorem Behind.none_iff (h : Behind back query fragment) :
    query = none ∧ fragment = none ↔ ∀ c ∈ back, c ∉ marks := by
  cases h with
  | nothing => simp
  | query q => simp [marks]
  | fragment f => simp [marks]
  | both q f => simp [marks]

/- If both are empty where they are, a mark comes last. -/
theorem Behind.getLast?_mem_marks
    (h : Behind back query fragment)
    (hThere : back ≠ [])
    (hQuery : ∀ q, query = some q → q = [])
    (hFragment : ∀ f, fragment = some f → f = []) :
    ∃ c, back.getLast? = some c ∧ c ∈ marks := by
  cases h with
  | nothing => exact absurd rfl hThere
  | query q =>
    obtain rfl := hQuery q rfl
    exact ⟨'?', rfl, by decide⟩
  | fragment f =>
    obtain rfl := hFragment f rfl
    exact ⟨'#', rfl, by decide⟩
  | both q f =>
    obtain rfl := hQuery q rfl
    obtain rfl := hFragment f rfl
    exact ⟨'#', rfl, by decide⟩

end Behind

variable {cs word place rest : List Char}

/- The scheme of such a text is there. -/
theorem Written.scheme_ne_nil
    (h : Written cs word place rest) :
    (split cs).scheme ≠ [] := by
  rw [h.split_eq.1]
  rcases h.opening with ⟨c, hHead, _⟩
  intro hNone
  rw [hNone] at hHead
  cases hHead

/- How the text behind the place of a server is read. -/
theorem Written.behind
    (h : Written cs word place rest) :
    ∃ back, rest = (split cs).path ++ back ∧
      (∀ c ∈ (split cs).path, c ∉ marks) ∧
      Behind back (split cs).query (split cs).fragment := by
  have hWord :
      splitScheme (word ++ ':' :: '/' :: '/' :: (place ++ rest)) =
        (word, '/' :: '/' :: (place ++ rest)) :=
    splitScheme_word h.opening h.scheme
  have hPlace := splitAuthority_place h.place h.rest
  rw [← h.text] at hWord
  rcases hPath : splitBefore ['?', '#'] rest with ⟨path, back⟩
  rcases hQuery : splitMarked '?' ['#'] back with ⟨query, rest₁⟩
  rcases hFragment : splitMarked '#' [] rest₁ with ⟨fragment, rest₂⟩
  rcases append_of_splitBefore hPath with ⟨hText, hClear, hBack⟩
  have hParts : (split cs).path = path ∧ (split cs).query = query ∧
      (split cs).fragment = fragment := by
    unfold split
    simp only [hWord, hPlace, hPath, hQuery, hFragment]
    exact ⟨trivial, trivial, trivial⟩
  rcases hParts with ⟨hPathEq, hQueryEq, hFragmentEq⟩
  rw [hPathEq, hQueryEq, hFragmentEq]
  exact ⟨back, hText, hClear,
    behind_of_splitMarked hBack hQuery hFragment⟩

/- No mark stands before the path. -/
theorem Written.marked_iff
    (h : Written cs word place rest) :
    (∀ c ∈ cs, c ∉ marks) ↔ ∀ c ∈ rest, c ∉ marks := by
  have hLetter : ∀ c, isSchemeCharacter c = true → c ∉ marks := by
    intro c hc
    simp only [marks, List.mem_cons, List.not_mem_nil, or_false, not_or]
    constructor
    · rintro rfl
      revert hc
      decide
    · rintro rfl
      revert hc
      decide
  have hPlace : ∀ c ∈ place, c ∉ marks := by
    intro c hc hMark
    exact h.place c hc (List.mem_cons_of_mem '/' hMark)
  rw [h.text]
  simp only [List.forall_mem_append, List.forall_mem_cons]
  constructor
  · rintro ⟨-, -, -, -, -, hRest⟩
    exact hRest
  · intro hRest
    refine ⟨fun c hc => hLetter c (h.scheme c hc), ?_, ?_, ?_, hPlace, hRest⟩
    · decide
    · decide
    · decide

/- A text has neither a query nor a fragment if no mark is in it. -/
theorem Written.not_marked_iff
    (h : Written cs word place rest) :
    (split cs).query = none ∧ (split cs).fragment = none ↔
      ∀ c ∈ cs, c ∉ marks := by
  rcases h.behind with ⟨back, hRest, hPath, hBehind⟩
  rw [hBehind.none_iff, h.marked_iff, hRest, List.forall_mem_append]
  exact ⟨fun hBack => ⟨hPath, hBack⟩, And.right⟩

/- Its path is then all that stands behind the place. -/
theorem Written.path_of_not_marked
    (h : Written cs word place rest)
    (hNone : ∀ c ∈ cs, c ∉ marks) :
    (split cs).path = rest := by
  rcases h.behind with ⟨back, hRest, -, hBehind⟩
  have hClear := h.marked_iff.mp hNone
  rw [hRest, List.forall_mem_append] at hClear
  rcases hBehind.none_iff.mpr hClear.2 with ⟨hQuery, hFragment⟩
  rw [hQuery, hFragment] at hBehind
  cases hBehind
  rw [hRest, List.append_nil]

------------------------------------------------------------
-- Parts of a URL
------------------------------------------------------------

/- The path, the query and the fragment of a URL are those of its parts. -/
theorem ofParts_behind
    {p : Parts}
    {u : Url}
    (h : ofParts p = .ok u)
    (hScheme : p.scheme ≠ []) :
    u.path =
        String.ofList
          (Percent.encodeList isPathSafe (withoutDots p.path)) ∧
      u.query =
        p.query.map (fun cs =>
          String.ofList (Percent.encodeList isQuerySafe cs)) ∧
      u.fragment =
        p.fragment.map (fun cs =>
          String.ofList (Percent.encodeList isFragmentSafe cs)) := by
  have hNamed : (!p.scheme.isEmpty) = true := by
    simpa using hScheme
  unfold ofParts at h
  rcases (Attempt.bind_eq_ok_iff _ _ _).mp h with ⟨host, _, h⟩
  rcases (Attempt.bind_eq_ok_iff _ _ _).mp h with ⟨port, _, h⟩
  rcases (Attempt.bind_eq_ok_iff _ _ _).mp h with ⟨_, _, h⟩
  cases h
  simp [hNamed]

variable {s : String} {u : Url}

/- A URL has neither a query nor a fragment if no mark is in its text. -/
theorem Written.not_marked_of_parse
    (h : Written s.toList word place rest)
    (hParse : parse s = .ok u) :
    u.query = none ∧ u.fragment = none ↔ ∀ c ∈ s.toList, c ∉ marks := by
  rcases (parse_eq_ok_iff s u).mp hParse with ⟨_, _, hParts⟩
  rcases ofParts_behind hParts h.scheme_ne_nil with ⟨_, hQuery, hFragment⟩
  rw [← h.not_marked_iff, hQuery, hFragment]
  simp

/-
  A path that is put behind the text of a URL without marks is
  where the path of the longer URL ends.
-/
theorem suffix_path_of_parse
    {more : List Char}
    (h : Written s.toList word place (rest ++ '/' :: more))
    (hParse : parse s = .ok u)
    (hNone : ∀ c ∈ s.toList, c ∉ marks)
    (hMore : ∀ s ∈ Text.pieces (fun c => c == '/') more,
      s ≠ ['.'] ∧ s ≠ ['.', '.'])
    (hSafe :
      Percent.encodeList isPathSafe ('/' :: more) = '/' :: more) :
    '/' :: more <:+ u.path.toList := by
  rcases (parse_eq_ok_iff s u).mp hParse with ⟨_, _, hParts⟩
  rcases ofParts_behind hParts h.scheme_ne_nil with ⟨hPath, _, _⟩
  have hRest : rest = [] ∨ rest.head? = some '/' := by
    cases rest with
    | nil => exact .inl rfl
    | cons c rest =>
      have hEnd := h.rest c rfl
      have hClear := h.marked_iff.mp hNone c List.mem_cons_self
      rcases List.mem_cons.mp hEnd with rfl | hMark
      · exact .inr rfl
      · exact absurd hMark hClear
  rcases suffix_withoutDots hRest hMore with ⟨front, hFront⟩
  rw [hPath, String.toList_ofList, h.path_of_not_marked hNone, ← hFront,
    Percent.encodeList_append_slash, hSafe]
  exact List.suffix_append _ _

end Url

end KeyAssertion
