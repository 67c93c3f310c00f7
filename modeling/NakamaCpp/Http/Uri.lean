import Mathlib.Data.List.Sort
import NakamaCpp.Lib.Transcode

/-!
# The request URI

Model of `uri`, `uri_builder` and their parser in
third_party/cpprestsdk/Release/src/uri, as far as `NHttpClientCppRest::request`
uses them: the path is parsed as a URI reference, the query arguments are encoded and
appended, and the text of the result is parsed again.  `none` is the `uri_exception`.

A path of the REST client has neither scheme nor authority (`Relative`), and then the
text reads back as what it was made of (`parse_join`): only the path can throw.
-/

namespace NakamaCpp.Http.Uri

open Transcode JsonText

/-! ## Characters -/

def isSubDelim (c : Char) : Bool :=
  c == '!' || c == '$' || c == '&' || c == '\'' || c == '(' || c == ')' || c == '*' || c == '+' ||
    c == ',' || c == ';' || c == '='

def isSchemeCharacter (c : Char) : Bool := c.isAlphanum || c == '+' || c == '-' || c == '.'

def isUserInfoCharacter (c : Char) : Bool := isUnreserved c || isSubDelim c || c == '%' || c == ':'

def isAuthorityCharacter (c : Char) : Bool :=
  isUnreserved c || isSubDelim c || c == '%' || c == '@' || c == ':' || c == '[' || c == ']'

def isPathCharacter (c : Char) : Bool :=
  isUnreserved c || isSubDelim c || c == '%' || c == '/' || c == ':' || c == '@'

def isQueryCharacter (c : Char) : Bool := isPathCharacter c || c == '?'

def isFragmentCharacter (c : Char) : Bool := isQueryCharacter c

/-- What ends the authority. -/
def isAuthorityEnd (c : Char) : Bool := c == '/' || c == '?' || c == '#'

def isPathEnd (c : Char) : Bool := c == '?' || c == '#'

def isQueryEnd (c : Char) : Bool := c == '#'

/-! ## Parsing -/

/-- `uri_components`. -/
structure UriComponents where
  scheme : List Char := []
  userInfo : List Char := []
  host : List Char := []
  port : Nat := 0
  path : List Char
  query : List Char := []
  fragment : List Char := []
deriving DecidableEq, Repr

/-- The characters up to one that ends the part, if they are all legal, and the rest. -/
def scan (stop legal : Char → Bool) : List Char → Option (List Char × List Char)
  | [] => some ([], [])
  | c :: cs =>
    if stop c then some ([], c :: cs)
    else if legal c then (scan stop legal cs).map fun r => (c :: r.1, r.2)
    else none

/-- There is a scheme if there is a colon before the first slash. -/
def parseScheme (cs : List Char) : Option (List Char × List Char) :=
  if ':' ∈ cs.takeWhile fun c => c != '/' then
    match cs with
    | c :: cs =>
      if c.isAlpha then
        (scan (fun c => c == ':') isSchemeCharacter cs).map fun r => (c :: r.1, r.2.tail)
      else none
    | [] => none
  else some ([], cs)

def parseAuthority : List Char → Option (List Char × List Char)
  | '/' :: '/' :: cs => scan isAuthorityEnd isAuthorityCharacter cs
  | cs => some ([], cs)

/-- Without a path the path is a slash; a character that begins no part ends the URI. -/
def parsePath : List Char → Option (List Char × List Char)
  | c :: cs =>
    if isPathCharacter c then scan isPathEnd isPathCharacter (c :: cs) else some (['/'], c :: cs)
  | [] => some (['/'], [])

def parseQuery : List Char → Option (List Char × List Char)
  | '?' :: cs => scan isQueryEnd isQueryCharacter cs
  | cs => some ([], cs)

def parseFragment : List Char → Option (List Char × List Char)
  | '#' :: cs => scan (fun _ => false) isFragmentCharacter cs
  | cs => some ([], cs)

/-- User info, host and port.  The digits at the end are a port if a colon is before
them; one that is too large is the largest `int`, and one without digits, which the
code leaves uninitialized, is 0. -/
def splitAuthority (authority : List Char) : List Char × List Char × Nat :=
  let digits := (authority.reverse.takeWhile Char.isDigit).reverse
  let before := authority.take (authority.length - digits.length)
  let (host, port) :=
    if before.getLast? = some ':' then
      (before.dropLast, min (Nat.ofDigitChars 10 digits 0) (2 ^ 31 - 1))
    else (authority, 0)
  let uinfo := host.takeWhile isUserInfoCharacter
  match host.drop uinfo.length with
  | '@' :: host => (uinfo, host, port)
  | _ => ([], host, port)

/-- `inner_parse_out::parse_from` and `write_to`, on a zero-terminated text. -/
def parse (encoded : List Char) : Option UriComponents := do
  let (scheme, cs) ← parseScheme (encoded.takeWhile fun c => c != '\x00')
  let (authority, cs) ← parseAuthority cs
  let (path, cs) ← parsePath cs
  let (query, cs) ← parseQuery cs
  let (fragment, _) ← parseFragment cs
  let (userInfo, host, port) := splitAuthority authority
  some
    { scheme := scheme.map Char.toLower, userInfo, host := host.map Char.toLower, port, path, query
      fragment }

/-- `uri_components::join`. -/
def UriComponents.join (u : UriComponents) : List Char :=
  (if u.scheme = [] then [] else u.scheme ++ [':']) ++
    (if u.host = [] then []
      else
        ['/', '/'] ++ (if u.userInfo = [] then [] else u.userInfo ++ ['@']) ++ u.host ++
          (if u.port = 0 then [] else ':' :: (toString u.port).toList) ++
          if u.path.head? = some '/' then [] else ['/']) ++
    u.path ++ (if u.query = [] then [] else '?' :: u.query) ++
    if u.fragment = [] then [] else '#' :: u.fragment

/-! ## Building -/

/-- The characters that `encode_query_impl` encodes. -/
def shouldEncode (c : Char) : Bool :=
  c == '&' || c == ';' || c == '=' || c == '%' || c == '+' || !isQueryCharacter c

def hexDigit (n : Nat) : Char := "0123456789ABCDEF".toList.getD n '0'

def encodeByte (b : UInt8) : List Char :=
  if shouldEncode (Char.ofNat b.toNat) then
    ['%', hexDigit (b.toNat / 16), hexDigit (b.toNat % 16)]
  else [Char.ofNat b.toNat]

/-- `encode_query_impl`. -/
def encodeQuery (raw : String) : List Char := raw.toByteArray.data.toList.flatMap encodeByte

/-- `append_query` of an encoded text, with one ampersand in between. -/
def appendEncoded (query toAppend : List Char) : List Char :=
  if query = [] then toAppend
  else if query.getLast? = some '&' ∧ toAppend.head? = some '&' then query.dropLast ++ toAppend
  else if query.getLast? ≠ some '&' ∧ toAppend.head? ≠ some '&' then query ++ '&' :: toAppend
  else query ++ toAppend

/-- `append_query` of a name and a value. -/
def UriComponents.appendQuery (u : UriComponents) (p : String × String) : UriComponents :=
  { u with query := appendEncoded u.query (encodeQuery p.1 ++ '=' :: encodeQuery p.2) }

/-- A `std::multimap` in the order of its keys. -/
def entries (args : List (String × String)) : List (String × String) :=
  args.insertionSort fun p q => p.1 ≤ q.1

/-- The request URI: `to_string` of the builder parses its text, and `set_request_uri`
parses it once more. -/
def requestUri (path : String) (args : List (String × String)) : Option UriComponents := do
  let u ← parse path.toList
  parse ((entries args).foldl UriComponents.appendQuery u).join

/-! ## Lemmas: one part -/

theorem scan_append {stop legal : Char → Bool} {a rest : List Char}
    (ha : ∀ c ∈ a, stop c = false ∧ legal c = true) (hr : ∀ c ∈ rest.head?, stop c = true) :
    scan stop legal (a ++ rest) = some (a, rest) := by
  induction a with
  | nil =>
    cases rest with
    | nil => rfl
    | cons c cs => rw [List.nil_append, scan, if_pos (hr c rfl)]
  | cons c a ih =>
    obtain ⟨hs, hl⟩ := ha c List.mem_cons_self
    rw [List.cons_append, scan, if_neg (by rw [hs]; decide), if_pos hl,
      ih fun d hd => ha d (List.mem_cons_of_mem c hd)]
    rfl

theorem scan_legal {stop legal : Char → Bool} {cs a rest : List Char}
    (h : scan stop legal cs = some (a, rest)) : ∀ c ∈ a, legal c = true := by
  induction cs generalizing a with
  | nil =>
    obtain ⟨rfl, rfl⟩ := Prod.mk.inj (Option.some.inj h)
    exact fun c hc => absurd hc List.not_mem_nil
  | cons d cs ih =>
    rw [scan] at h
    by_cases hs : stop d = true
    · rw [if_pos hs] at h
      obtain ⟨rfl, -⟩ := Prod.mk.inj (Option.some.inj h)
      exact fun c hc => absurd hc List.not_mem_nil
    · rw [if_neg hs] at h
      by_cases hl : legal d = true
      · rw [if_pos hl, Option.map_eq_some_iff] at h
        obtain ⟨r, hr, he⟩ := h
        obtain ⟨rfl, rfl⟩ := Prod.mk.inj he
        intro c hc
        rcases List.mem_cons.1 hc with rfl | hc
        · exact hl
        · exact ih hr c hc
      · rw [if_neg hl] at h
        cases h

theorem prefix_of_scan {stop legal : Char → Bool} {cs a rest : List Char}
    (h : scan stop legal cs = some (a, rest)) : a <+: cs := by
  induction cs generalizing a with
  | nil =>
    obtain ⟨rfl, -⟩ := Prod.mk.inj (Option.some.inj h)
    exact List.prefix_rfl
  | cons d cs ih =>
    rw [scan] at h
    split at h
    · obtain ⟨rfl, -⟩ := Prod.mk.inj (Option.some.inj h)
      exact List.nil_prefix
    · split at h
      · obtain ⟨r, hr, he⟩ := Option.map_eq_some_iff.1 h
        obtain ⟨rfl, rfl⟩ := Prod.mk.inj he
        exact List.cons_prefix_cons.2 ⟨rfl, ih hr⟩
      · cases h

/-- The first legal character of a part is in it. -/
theorem scan_head {stop legal : Char → Bool} {c : Char} {cs a rest : List Char}
    (hc : stop c = false) (h : scan stop legal (c :: cs) = some (a, rest)) :
    ∃ a', a = c :: a' ∧ scan stop legal cs = some (a', rest) := by
  rw [scan, if_neg (by rw [hc]; decide)] at h
  by_cases hl : legal c = true
  · rw [if_pos hl, Option.map_eq_some_iff] at h
    obtain ⟨⟨a', r⟩, hr, he⟩ := h
    obtain ⟨rfl, rfl⟩ := Prod.mk.inj he
    exact ⟨a', rfl, hr⟩
  · rw [if_neg hl] at h
    cases h

theorem isPathEnd_of_path {c : Char} (h : isPathCharacter c = true) : isPathEnd c = false := by
  unfold isPathEnd
  rw [Bool.or_eq_false_iff, beq_eq_false_iff_ne, beq_eq_false_iff_ne]
  constructor <;>
  · rintro rfl
    revert h
    decide

theorem isQueryEnd_of_query {c : Char} (h : isQueryCharacter c = true) : isQueryEnd c = false := by
  unfold isQueryEnd
  rw [beq_eq_false_iff_ne]
  rintro rfl
  revert h
  decide

theorem ne_nul_of_query {c : Char} (h : isQueryCharacter c = true) : c ≠ '\x00' := by
  rintro rfl
  revert h
  decide

/-! ## URIs without scheme and authority -/

/-- A URI of a path that starts with one slash, with its query and its fragment. -/
structure Relative (u : UriComponents) : Prop where
  scheme : u.scheme = []
  userInfo : u.userInfo = []
  host : u.host = []
  port : u.port = 0
  slash : ∃ c cs, u.path = '/' :: c :: cs ∧ c ≠ '/'
  path : ∀ c ∈ u.path, isPathCharacter c = true
  query : ∀ c ∈ u.query, isQueryCharacter c = true
  fragment : ∀ c ∈ u.fragment, isFragmentCharacter c = true

/-- A text that starts with one slash has neither scheme nor authority. -/
theorem parseAuthority_slash {c : Char} (hc : c ≠ '/') (cs : List Char) :
    parseScheme ('/' :: c :: cs) = some ([], '/' :: c :: cs) ∧
      parseAuthority ('/' :: c :: cs) = some ([], '/' :: c :: cs) := by
  constructor
  · rfl
  · unfold parseAuthority
    split
    · next h => exact absurd (List.cons.inj (List.cons.inj h).2).1 hc
    · rfl

theorem parsePath_slash (cs : List Char) :
    parsePath ('/' :: cs) = scan isPathEnd isPathCharacter ('/' :: cs) := by
  rw [parsePath, if_pos (by decide)]

theorem parseQuery_legal {cs q rest : List Char} (h : parseQuery cs = some (q, rest)) :
    ∀ c ∈ q, isQueryCharacter c = true := by
  unfold parseQuery at h
  split at h
  · exact scan_legal h
  · obtain ⟨rfl, -⟩ := Prod.mk.inj (Option.some.inj h)
    exact fun c hc => absurd hc List.not_mem_nil

theorem parseFragment_legal {cs f rest : List Char} (h : parseFragment cs = some (f, rest)) :
    ∀ c ∈ f, isFragmentCharacter c = true := by
  unfold parseFragment at h
  split at h
  · exact scan_legal h
  · obtain ⟨rfl, -⟩ := Prod.mk.inj (Option.some.inj h)
    exact fun c hc => absurd hc List.not_mem_nil

/-- The parts of a URI that starts with one slash. -/
theorem parse_slash {c : Char} (hc : isPathCharacter c = true) (hne : c ≠ '/') {cs : List Char}
    {u : UriComponents} (h : parse ('/' :: c :: cs) = some u) :
    ∃ p r q r' f r'',
      scan isPathEnd isPathCharacter (('/' :: c :: cs).takeWhile fun d => d != '\x00') = some (p, r) ∧
      parseQuery r = some (q, r') ∧ parseFragment r' = some (f, r'') ∧
      (∃ p', p = '/' :: c :: p') ∧ u = { path := p, query := q, fragment := f } := by
  have hnul : c ≠ '\x00' := ne_nul_of_query (by unfold isQueryCharacter; rw [hc]; rfl)
  have ht : (('/' :: c :: cs).takeWhile fun d => d != '\x00') =
      '/' :: c :: cs.takeWhile fun d => d != '\x00' := by
    rw [List.takeWhile_cons_of_pos (by decide), List.takeWhile_cons_of_pos (by simpa using hnul)]
  obtain ⟨hs, ha⟩ := parseAuthority_slash hne (cs.takeWhile fun d => d != '\x00')
  unfold parse at h
  rw [ht, hs] at h
  simp only [Option.bind_eq_bind, Option.bind_some, ha, parsePath_slash, Option.bind_eq_some_iff]
    at h
  obtain ⟨⟨p, r⟩, hp, ⟨q, r'⟩, hq, ⟨f, r''⟩, hf, hu⟩ := h
  obtain ⟨p', rfl, hp'⟩ := scan_head (by decide) hp
  obtain ⟨p'', rfl, -⟩ := scan_head (isPathEnd_of_path hc) hp'
  refine ⟨_, r, q, r', f, r'', ?_, hq, hf, ⟨p'', rfl⟩, (Option.some.inj hu).symm⟩
  rw [ht]
  exact hp

theorem parse_relative {c : Char} (hc : isPathCharacter c = true) (hne : c ≠ '/') {cs : List Char}
    {u : UriComponents} (h : parse ('/' :: c :: cs) = some u) : Relative u := by
  obtain ⟨p, r, q, r', f, r'', hp, hq, hf, ⟨p', rfl⟩, rfl⟩ := parse_slash hc hne h
  exact
    { scheme := rfl
      userInfo := rfl
      host := rfl
      port := rfl
      slash := ⟨c, p', rfl, hne⟩
      path := scan_legal hp
      query := parseQuery_legal hq
      fragment := parseFragment_legal hf }

/-- The path of a URI that starts with one slash begins its text. -/
theorem parse_path_prefix {c : Char} (hc : isPathCharacter c = true) (hne : c ≠ '/')
    {cs : List Char} {u : UriComponents} (h : parse ('/' :: c :: cs) = some u) :
    u.path <+: '/' :: c :: cs := by
  obtain ⟨p, r, q, r', f, r'', hp, -, -, -, rfl⟩ := parse_slash hc hne h
  exact (prefix_of_scan hp).trans (List.takeWhile_prefix _)

/-- The text of a query, or of a fragment, that is left out when it is empty. -/
def optPart (c : Char) (part : List Char) : List Char := if part = [] then [] else c :: part

theorem join_relative {u : UriComponents} (h : Relative u) :
    u.join = u.path ++ (optPart '?' u.query ++ optPart '#' u.fragment) := by
  unfold UriComponents.join optPart
  rw [h.scheme, h.host, if_pos rfl, if_pos rfl, List.append_assoc]
  rfl

theorem optPart_head (c : Char) (part : List Char) : ∀ d ∈ (optPart c part).head?, d = c := by
  unfold optPart
  intro d hd
  split at hd
  · cases hd
  · exact (Option.some.inj hd).symm

theorem parseQuery_optPart {q f : List Char} (hq : ∀ c ∈ q, isQueryCharacter c = true) :
    parseQuery (optPart '?' q ++ optPart '#' f) = some (q, optPart '#' f) := by
  have hf := optPart_head '#' f
  by_cases he : q = []
  · have ho : optPart '?' q ++ optPart '#' f = optPart '#' f := by rw [optPart, if_pos he]; rfl
    rw [ho, he]
    unfold parseQuery
    split
    · next hh =>
      rw [hh] at hf
      exact absurd (hf '?' rfl) (by decide)
    · rfl
  · have ho : optPart '?' q ++ optPart '#' f = '?' :: (q ++ optPart '#' f) := by
      rw [optPart, if_neg he]; rfl
    rw [ho]
    refine scan_append (fun c hc => ⟨isQueryEnd_of_query (hq c hc), hq c hc⟩) fun c hc => ?_
    rw [hf c hc]
    rfl

theorem parseFragment_optPart {f : List Char} (hf : ∀ c ∈ f, isFragmentCharacter c = true) :
    parseFragment (optPart '#' f) = some (f, []) := by
  unfold optPart
  split
  · next he => rw [he]; rfl
  · have hs : scan (fun _ => false) isFragmentCharacter (f ++ []) = some (f, []) :=
      scan_append (fun c hc => ⟨rfl, hf c hc⟩) (fun c hc => absurd hc (by simp))
    rw [List.append_nil] at hs
    exact hs

/-- The text of a relative URI parses to the URI. -/
theorem parse_join {u : UriComponents} (h : Relative u) : parse u.join = some u := by
  obtain ⟨c, cs, hp, hc⟩ := h.slash
  have hlegal : ∀ d ∈ u.join, d ≠ '\x00' := by
    intro d hd
    rw [join_relative h, List.mem_append, List.mem_append] at hd
    have hpart : ∀ {e : Char} {part : List Char}, e ≠ '\x00' →
        (∀ x ∈ part, isQueryCharacter x = true) → d ∈ optPart e part → d ≠ '\x00' := by
      intro e part he hall hm
      unfold optPart at hm
      split at hm
      · exact absurd hm List.not_mem_nil
      · rcases List.mem_cons.1 hm with rfl | hm
        · exact he
        · exact ne_nul_of_query (hall d hm)
    rcases hd with hd | hd | hd
    · exact ne_nul_of_query (by unfold isQueryCharacter; rw [h.path d hd]; rfl)
    · exact hpart (by decide) h.query hd
    · exact hpart (by decide) h.fragment hd
  have ht : (u.join.takeWhile fun d => d != '\x00') = u.join :=
    List.takeWhile_eq_self_iff.2 fun d hd => by simpa using hlegal d hd
  have hend : ∀ d ∈ (optPart '?' u.query ++ optPart '#' u.fragment).head?, isPathEnd d = true := by
    intro d hd
    rw [List.head?_append, Option.mem_def, Option.or_eq_some_iff] at hd
    rcases hd with hd | ⟨-, hd⟩
    · rw [optPart_head '?' _ d hd]; rfl
    · rw [optPart_head '#' _ d hd]; rfl
  have hpath := scan_append (fun d hd => ⟨isPathEnd_of_path (h.path d hd), h.path d hd⟩) hend
  have hjoin : u.join = '/' :: c :: (cs ++ (optPart '?' u.query ++ optPart '#' u.fragment)) := by
    rw [join_relative h, hp]
    rfl
  obtain ⟨hs, ha⟩ := parseAuthority_slash hc
    (cs ++ (optPart '?' u.query ++ optPart '#' u.fragment))
  unfold parse
  rw [ht, hjoin, hs]
  simp only [Option.bind_eq_bind, Option.bind_some, ha, parsePath_slash]
  rw [← hjoin, join_relative h, hpath]
  simp only [Option.bind_some, parseQuery_optPart h.query, parseFragment_optPart h.fragment]
  show some _ = some u
  rw [Option.some.injEq, UriComponents.mk.injEq]
  exact ⟨h.scheme.symm, h.userInfo.symm, h.host.symm, h.port.symm, rfl, rfl, rfl⟩

/-- A text of legal characters is a path. -/
theorem parse_legal {c : Char} {cs : List Char} (hne : c ≠ '/')
    (hl : ∀ d ∈ '/' :: c :: cs, isPathCharacter d = true) :
    parse ('/' :: c :: cs) = some { path := '/' :: c :: cs } := by
  have hrel : Relative { path := '/' :: c :: cs } :=
    { scheme := rfl
      userInfo := rfl
      host := rfl
      port := rfl
      slash := ⟨c, cs, rfl, hne⟩
      path := hl
      query := fun c hc => absurd hc List.not_mem_nil
      fragment := fun c hc => absurd hc List.not_mem_nil }
  have hj : ({ path := '/' :: c :: cs } : UriComponents).join = '/' :: c :: cs := by
    rw [join_relative hrel]
    exact List.append_nil _
  have := parse_join hrel
  rwa [hj] at this

/-! ## URIs with scheme and authority -/

theorem isAuthorityEnd_of_authority {c : Char} (h : isAuthorityCharacter c = true) :
    isAuthorityEnd c = false ∧ c ≠ '\x00' := by
  have hne : ∀ d : Char, isAuthorityCharacter d = false → c ≠ d := by
    rintro d hd rfl
    rw [h] at hd
    cases hd
  refine ⟨?_, hne '\x00' (by decide)⟩
  unfold isAuthorityEnd
  rw [Bool.or_eq_false_iff, Bool.or_eq_false_iff, beq_eq_false_iff_ne, beq_eq_false_iff_ne,
    beq_eq_false_iff_ne]
  exact ⟨⟨hne '/' (by decide), hne '?' (by decide)⟩, hne '#' (by decide)⟩

theorem ne_of_isAlphanum {d : Char} (h : d.isAlphanum = true) :
    d ≠ '/' ∧ d ≠ ':' ∧ d ≠ '\x00' := by
  refine ⟨?_, ?_, ?_⟩ <;>
  · rintro rfl
    revert h
    decide

theorem parseScheme_colon {c : Char} {scheme rest : List Char} (hc : c.isAlpha = true)
    (hscheme : ∀ d ∈ c :: scheme, d.isAlphanum = true) :
    parseScheme (c :: scheme ++ ':' :: rest) = some (c :: scheme, rest) := by
  have hmem : ':' ∈ (c :: scheme ++ ':' :: rest).takeWhile fun d => d != '/' := by
    rw [List.takeWhile_append_of_pos fun d hd => by
      simpa using (ne_of_isAlphanum (hscheme d hd)).1]
    exact List.mem_append_right _ List.mem_cons_self
  have hscan : scan (fun d => d == ':') isSchemeCharacter (scheme ++ ':' :: rest) =
      some (scheme, ':' :: rest) := by
    apply scan_append
    · intro d hd
      have hd := hscheme d (List.mem_cons_of_mem c hd)
      refine ⟨by simpa using (ne_of_isAlphanum hd).2.1, ?_⟩
      unfold isSchemeCharacter
      rw [hd]
      rfl
    · intro d hd
      obtain rfl := Option.some.inj hd
      rfl
  unfold parseScheme
  rw [if_pos hmem]
  show (if c.isAlpha then _ else _) = _
  rw [if_pos hc, List.append_eq, hscan]
  rfl

theorem parseAuthority_slashes {authority rest : List Char}
    (h : ∀ d ∈ authority, isAuthorityCharacter d = true) :
    parseAuthority ('/' :: '/' :: (authority ++ '/' :: rest)) = some (authority, '/' :: rest) := by
  apply scan_append
  · exact fun d hd => ⟨(isAuthorityEnd_of_authority (h d hd)).1, h d hd⟩
  · intro d hd
    obtain rfl := Option.some.inj hd
    rfl

theorem parsePath_question {path rest : List Char}
    (h : ∀ d ∈ '/' :: path, isPathCharacter d = true) :
    parsePath ('/' :: path ++ '?' :: rest) = some ('/' :: path, '?' :: rest) := by
  rw [List.cons_append, parsePath_slash, ← List.cons_append]
  apply scan_append
  · exact fun d hd => ⟨isPathEnd_of_path (h d hd), h d hd⟩
  · intro d hd
    obtain rfl := Option.some.inj hd
    rfl

theorem parseQuery_last {query : List Char} (h : ∀ d ∈ query, isQueryCharacter d = true) :
    parseQuery ('?' :: query) = some (query, []) := by
  have hscan : scan isQueryEnd isQueryCharacter (query ++ []) = some (query, []) :=
    scan_append (fun d hd => ⟨isQueryEnd_of_query (h d hd), h d hd⟩) fun d hd => by cases hd
  rw [List.append_nil] at hscan
  exact hscan

/-- The characters of a URL are none that ends it. -/
theorem url_ne_nul {c : Char} {scheme authority : List Char} (rest : List Char)
    (hscheme : ∀ d ∈ c :: scheme, d.isAlphanum = true)
    (hauthority : ∀ d ∈ authority, isAuthorityCharacter d = true)
    (hrest : ∀ d ∈ rest, d ≠ '\x00') :
    ∀ d ∈ c :: scheme ++ ':' :: '/' :: '/' :: (authority ++ rest), (d != '\x00') = true := by
  intro d hd
  rw [bne_iff_ne]
  simp only [List.mem_append, List.mem_cons] at hd
  rcases hd with hd | rfl | rfl | rfl | hd | hd
  · exact (ne_of_isAlphanum (hscheme d (List.mem_cons.2 hd))).2.2
  · decide
  · decide
  · decide
  · exact (isAuthorityEnd_of_authority (hauthority d hd)).2
  · exact hrest d hd

/-- A text made of a scheme, an authority, a path and a query is parsed to them. -/
theorem parse_url {c : Char} {scheme authority path query : List Char} (hc : c.isAlpha = true)
    (hscheme : ∀ d ∈ c :: scheme, d.isAlphanum = true)
    (hauthority : ∀ d ∈ authority, isAuthorityCharacter d = true)
    (hpath : ∀ d ∈ '/' :: path, isPathCharacter d = true)
    (hquery : ∀ d ∈ query, isQueryCharacter d = true) :
    parse (c :: scheme ++ ':' :: '/' :: '/' ::
        (authority ++ '/' :: (path ++ '?' :: query))) =
      some
        { scheme := (c :: scheme).map Char.toLower, userInfo := (splitAuthority authority).1
          host := (splitAuthority authority).2.1.map Char.toLower
          port := (splitAuthority authority).2.2, path := '/' :: path, query, fragment := [] } := by
  have hnul := url_ne_nul ('/' :: (path ++ '?' :: query)) hscheme hauthority
    fun d hd => by
      rw [List.mem_cons, List.mem_append, List.mem_cons] at hd
      rcases hd with rfl | hd | rfl | hd
      · decide
      · exact ne_nul_of_query (by
          unfold isQueryCharacter
          rw [hpath d (List.mem_cons_of_mem _ hd)]
          rfl)
      · decide
      · exact ne_nul_of_query (hquery d hd)
  have hp : parsePath ('/' :: (path ++ '?' :: query)) = some ('/' :: path, '?' :: query) :=
    parsePath_question hpath
  unfold parse
  rw [List.takeWhile_eq_self_iff.2 hnul, parseScheme_colon hc hscheme]
  simp only [Option.bind_eq_bind, Option.bind_some, parseAuthority_slashes hauthority, hp,
    parseQuery_last hquery]
  rfl

theorem parse_absolute {c : Char} {scheme authority path query : List Char} (hc : c.isAlpha = true)
    (hscheme : ∀ d ∈ c :: scheme, d.isAlphanum = true)
    (hauthority : ∀ d ∈ authority, isAuthorityCharacter d = true)
    (hpath : ∀ d ∈ '/' :: path, isPathCharacter d = true)
    (hquery : ∀ d ∈ query, isQueryCharacter d = true) :
    (parse (c :: scheme ++ ':' :: '/' :: '/' ::
        (authority ++ '/' :: (path ++ '?' :: query)))).map (fun u => (u.path, u.query)) =
      some ('/' :: path, query) := by
  rw [parse_url hc hscheme hauthority hpath hquery]
  rfl

/-- A text made of a scheme and an authority is parsed to them. -/
theorem parse_authority {c : Char} {scheme authority : List Char} (hc : c.isAlpha = true)
    (hscheme : ∀ d ∈ c :: scheme, d.isAlphanum = true)
    (hauthority : ∀ d ∈ authority, isAuthorityCharacter d = true) :
    parse (c :: scheme ++ ':' :: '/' :: '/' :: authority) =
      some
        { scheme := (c :: scheme).map Char.toLower, userInfo := (splitAuthority authority).1
          host := (splitAuthority authority).2.1.map Char.toLower
          port := (splitAuthority authority).2.2, path := ['/'], query := [], fragment := [] } := by
  have hnul := url_ne_nul [] hscheme hauthority fun d hd => absurd hd List.not_mem_nil
  have hscan : scan isAuthorityEnd isAuthorityCharacter (authority ++ []) = some (authority, []) :=
    scan_append (fun d hd => ⟨(isAuthorityEnd_of_authority (hauthority d hd)).1, hauthority d hd⟩)
      fun d hd => by cases hd
  rw [List.append_nil] at hnul hscan
  have hparse : parseAuthority ('/' :: '/' :: authority) = some (authority, []) := hscan
  unfold parse
  rw [List.takeWhile_eq_self_iff.2 hnul, parseScheme_colon hc hscheme]
  simp only [Option.bind_eq_bind, Option.bind_some, hparse]
  rfl

/-- The last colon and the digits after it are the port. -/
theorem splitAuthority_port {host digits : List Char} (hhost : '@' ∉ host)
    (hdigits : ∀ d ∈ digits, d.isDigit = true) :
    splitAuthority (host ++ ':' :: digits) =
      ([], host, min (Nat.ofDigitChars 10 digits 0) (2 ^ 31 - 1)) := by
  have hsplit : host ++ ':' :: digits = (host ++ [':']) ++ digits := by simp
  have htaken : ((host ++ ':' :: digits).reverse.takeWhile Char.isDigit).reverse = digits := by
    rw [hsplit, List.reverse_append, List.reverse_append, List.reverse_singleton,
      List.singleton_append,
      List.takeWhile_append_of_pos fun d hd => hdigits d (List.mem_reverse.1 hd),
      List.takeWhile_cons_of_neg (by decide), List.append_nil, List.reverse_reverse]
  have hbefore : (host ++ ':' :: digits).take ((host ++ ':' :: digits).length - digits.length) =
      host ++ [':'] := by
    rw [hsplit, List.length_append, Nat.add_sub_cancel, List.take_left]
  have hdrop : ∀ rest, host.drop (host.takeWhile isUserInfoCharacter).length ≠ '@' :: rest := by
    intro rest he
    exact hhost (List.mem_of_mem_drop (he ▸ List.mem_cons_self))
  unfold splitAuthority
  rw [htaken]
  dsimp only
  rw [hbefore, List.getLast?_concat, if_pos rfl, List.dropLast_concat]
  dsimp only
  split
  · next rest he => exact absurd he (hdrop _)
  · rfl

/-! ## The query -/

theorem hexDigit_legal (n : Nat) : isQueryCharacter (hexDigit n) = true := by
  have hall : ∀ c ∈ "0123456789ABCDEF".toList, isQueryCharacter c = true := by
    simp [isQueryCharacter, isPathCharacter, isUnreserved, Char.isAlphanum, Char.isAlpha,
      Char.isUpper, Char.isLower, Char.isDigit]
  unfold hexDigit
  rw [List.getD_eq_getElem?_getD]
  cases h : "0123456789ABCDEF".toList[n]? with
  | none => exact hall '0' List.mem_cons_self
  | some c => exact hall c (List.mem_of_getElem? h)

theorem encodeByte_legal (b : UInt8) : ∀ c ∈ encodeByte b, isQueryCharacter c = true := by
  unfold encodeByte
  split
  · intro c hc
    simp only [List.mem_cons, List.not_mem_nil, or_false] at hc
    rcases hc with rfl | rfl | rfl
    · decide
    · exact hexDigit_legal _
    · exact hexDigit_legal _
  · next h =>
    intro c hc
    rw [List.mem_singleton] at hc
    subst hc
    unfold shouldEncode at h
    rw [Bool.not_eq_true, Bool.or_eq_false_iff] at h
    simpa using h.2

theorem encodeQuery_legal (raw : String) : ∀ c ∈ encodeQuery raw, isQueryCharacter c = true := by
  intro c hc
  obtain ⟨b, -, hb⟩ := List.mem_flatMap.1 hc
  exact encodeByte_legal b c hb

theorem appendEncoded_legal {query toAppend : List Char}
    (hq : ∀ c ∈ query, isQueryCharacter c = true) (ha : ∀ c ∈ toAppend, isQueryCharacter c = true) :
    ∀ c ∈ appendEncoded query toAppend, isQueryCharacter c = true := by
  intro c hc
  unfold appendEncoded at hc
  split at hc
  · exact ha c hc
  · split at hc
    · rcases List.mem_append.1 hc with hc | hc
      · exact hq c (List.mem_of_mem_dropLast hc)
      · exact ha c hc
    · split at hc
      · rcases List.mem_append.1 hc with hc | hc
        · exact hq c hc
        · rcases List.mem_cons.1 hc with rfl | hc
          · decide
          · exact ha c hc
      · exact (List.mem_append.1 hc).elim (hq c) (ha c)

theorem Relative.appendQuery {u : UriComponents} (h : Relative u) (p : String × String) :
    Relative (u.appendQuery p) :=
  { h with
    query := appendEncoded_legal h.query fun c hc => by
      rcases List.mem_append.1 hc with hc | hc
      · exact encodeQuery_legal p.1 c hc
      · rcases List.mem_cons.1 hc with rfl | hc
        · decide
        · exact encodeQuery_legal p.2 c hc }

theorem Relative.foldl_appendQuery (args : List (String × String)) :
    ∀ {u : UriComponents}, Relative u → Relative (args.foldl UriComponents.appendQuery u) := by
  induction args with
  | nil => exact fun h => h
  | cons p args ih => exact fun h => ih (h.appendQuery p)

theorem foldl_appendQuery_path (args : List (String × String)) :
    ∀ u : UriComponents, (args.foldl UriComponents.appendQuery u).path = u.path := by
  induction args with
  | nil => exact fun _ => rfl
  | cons p args ih => exact fun u => ih (u.appendQuery p)

/-- The names in a query. -/
def queryNames (query : List Char) : List (List Char) :=
  if query = [] then [] else (query.splitOn '&').map fun arg => arg.takeWhile fun c => c != '='

theorem encodeQuery_not_mem {c : Char} (h : shouldEncode c = true)
    (hhex : c ∉ '%' :: '0' :: "0123456789ABCDEF".toList) (raw : String) : c ∉ encodeQuery raw := by
  intro hc
  obtain ⟨b, -, hb⟩ := List.mem_flatMap.1 hc
  unfold encodeByte at hb
  have hdigit : ∀ n, hexDigit n ∈ '%' :: '0' :: "0123456789ABCDEF".toList := by
    intro n
    unfold hexDigit
    rw [List.getD_eq_getElem?_getD]
    cases hn : "0123456789ABCDEF".toList[n]? with
    | none => exact List.mem_cons_of_mem _ List.mem_cons_self
    | some d => exact List.mem_cons_of_mem _ (List.mem_cons_of_mem _ (List.mem_of_getElem? hn))
  split at hb
  · simp only [List.mem_cons, List.not_mem_nil, or_false] at hb
    rcases hb with rfl | rfl | rfl
    · exact hhex List.mem_cons_self
    · exact hhex (hdigit _)
    · exact hhex (hdigit _)
  · next hs =>
    rw [List.mem_singleton] at hb
    rw [← hb] at hs
    exact hs h

/-- The text of one argument has no ampersand, and its name ends at the equals sign. -/
theorem queryArg (p : String × String) : '&' ∉ encodeQuery p.1 ++ '=' :: encodeQuery p.2 ∧
    ((encodeQuery p.1 ++ '=' :: encodeQuery p.2).takeWhile fun c => c != '=') = encodeQuery p.1 := by
  constructor
  · rw [List.mem_append, List.mem_cons, not_or, not_or]
    exact ⟨encodeQuery_not_mem (by decide) (by decide) p.1, by decide,
      encodeQuery_not_mem (by decide) (by decide) p.2⟩
  · rw [List.takeWhile_append_of_pos]
    · simp
    · intro c hc
      rw [bne_iff_ne]
      rintro rfl
      exact encodeQuery_not_mem (by decide) (by decide) p.1 hc

/-- The names in a query that has arguments already, and does not end in an ampersand. -/
theorem queryNames_appendQuery {u : UriComponents} (h : u.query.getLast? ≠ some '&')
    (p : String × String) :
    queryNames (u.appendQuery p).query = queryNames u.query ++ [encodeQuery p.1] ∧
      (u.appendQuery p).query.getLast? ≠ some '&' := by
  obtain ⟨hamp, hname⟩ := queryArg p
  have hne : encodeQuery p.1 ++ '=' :: encodeQuery p.2 ≠ [] := by simp
  have hhead : (encodeQuery p.1 ++ '=' :: encodeQuery p.2).head? ≠ some '&' := fun hh =>
    hamp (List.mem_of_mem_head? hh)
  have hlast : (encodeQuery p.1 ++ '=' :: encodeQuery p.2).getLast? ≠ some '&' := fun hh =>
    hamp (List.mem_of_getLast? hh)
  unfold UriComponents.appendQuery appendEncoded
  dsimp only
  by_cases hq : u.query = []
  · rw [if_pos hq, hq]
    refine ⟨?_, hlast⟩
    unfold queryNames
    rw [if_neg hne, if_pos rfl, List.splitOn_eq_singleton hamp, List.map_singleton, hname]
    rfl
  · rw [if_neg hq, if_neg (fun hh => h hh.1), if_pos ⟨h, hhead⟩]
    constructor
    · unfold queryNames
      rw [if_neg (by simp), if_neg hq, List.splitOn_append_cons_self, List.splitOn_eq_singleton hamp,
        List.map_append, List.map_singleton, hname]
    · rw [List.getLast?_append_of_ne_nil _ (by simp), List.getLast?_cons_of_ne_nil hne]
      exact hlast

theorem queryNames_foldl (args : List (String × String)) : ∀ u : UriComponents,
    u.query.getLast? ≠ some '&' →
      queryNames (args.foldl UriComponents.appendQuery u).query =
        queryNames u.query ++ args.map fun p => encodeQuery p.1 := by
  induction args with
  | nil => intro u _; simp
  | cons p args ih =>
    intro u h
    obtain ⟨hnames, hlast⟩ := queryNames_appendQuery h p
    rw [List.foldl_cons, ih _ hlast, hnames, List.map_cons, List.append_assoc]
    rfl

/-- Only the path can throw: the query arguments are encoded. -/
theorem requestUri_eq_some {path : String} (args : List (String × String)) {u : UriComponents}
    (hp : parse path.toList = some u) (h : Relative u) :
    requestUri path args = some ((entries args).foldl UriComponents.appendQuery u) := by
  unfold requestUri
  rw [hp, Option.bind_eq_bind, Option.bind_some, parse_join (h.foldl_appendQuery _)]

end NakamaCpp.Http.Uri
