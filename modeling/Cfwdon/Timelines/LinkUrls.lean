import Cfwdon.Library.FormUrlencoded
import Mathlib.Data.List.DropRight

/-!
# Links as they are compared

The timeline of a link shows the statuses that name it.  Links are compared in a canonical
form: without a fragment, and without the parameters that track where a reader comes from.
If there are such parameters the rest of the query is written anew; a query without any is
left as it is written.
-/

namespace Cfwdon.Timelines

open Library Library.FormUrlencoded

/-- A parsed URL: what stands before the query, the query and the fragment.  A URL with an
opaque path cannot be a base. -/
structure LinkUrl where
  front : String
  cannotBeABase : Bool
  query : Option (List Char)
  fragment : Option (List Char)
deriving DecidableEq

namespace LinkUrl

variable (url : LinkUrl)

/-- `to_string`. -/
def text : String :=
  url.front ++ (url.query.elim "" fun query => "?" ++ String.ofList query)
    ++ url.fragment.elim "" fun fragment => "#" ++ String.ofList fragment

/-- An opaque path that ends the URL has no spaces at its end. -/
def settled : LinkUrl :=
  if url.query = none ∧ url.fragment = none ∧ url.cannotBeABase = true then
    { url with front := trimEndMatches url.front ' ' }
  else url

/-- `set_fragment(None)`. -/
def withoutFragment : LinkUrl := settled { url with fragment := none }

/-- `set_query`, with a query that needs no escapes. -/
def setQuery (query : Option (List Char)) : LinkUrl := settled { url with query }

end LinkUrl

def formQuery (pairs : List (String × String)) : Option (List Char) :=
  (some (writePairs pairs)).filter (· ≠ [])

/-- The URL parser, with the accessors of paths.  A URL that is put together of parsed parts and
written queries is parsed as itself. -/
structure LinkUrlParser where
  parse : String → Option LinkUrl
  path : LinkUrl → String
  setPath : String → LinkUrl → LinkUrl
  parse_empty : parse "" = none
  reparse : ∀ {text : String} {url : LinkUrl} {query : Option (List Char)},
    parse text = some url → (query = url.query ∨ ∃ pairs, query = formQuery pairs) →
      parse (url.withoutFragment.setQuery query).text = some (url.withoutFragment.setQuery query)
        ∧ trim (url.withoutFragment.setQuery query).text = (url.withoutFragment.setQuery query).text

/-! ## The functions -/

section Functions

variable (utf8 : Utf8Lossy) (urls : LinkUrlParser)

/-- The names of parameters that are removed. -/
def isTrackingKey (key : String) : Bool :=
  let keyLower := toAsciiLowercase key
  "utm_".toList.isPrefixOf keyLower.toList
    || ["fbclid", "gclid", "mc_cid", "mc_eid", "igshid"].contains keyLower

def queryPairs (url : LinkUrl) : List (String × String) := readPairs utf8 (url.query.getD [])

/-- Whether there are such parameters. -/
def isTracked (url : LinkUrl) : Bool := (queryPairs utf8 url).any fun pair => isTrackingKey pair.1

def keptPairs (url : LinkUrl) : List (String × String) :=
  (queryPairs utf8 url).filter fun pair => !isTrackingKey pair.1

def removeTrackingQueryParamsUrl (url : LinkUrl) : Option String :=
  if isTracked utf8 url then some (url.setQuery (formQuery (keptPairs utf8 url))).text else none

def toggleTrailingSlashUrl (url : LinkUrl) : Option String :=
  let path := urls.path url
  if path = "/" ∨ path = "" then none
  else
    let toggled := if endsWith path "/" then trimEndMatches path '/' else path ++ "/"
    if toggled = "" then none else some (urls.setPath toggled url).text

def pushUniqueLinkTimelineUrl (links : List String) (value : String) : List String :=
  if value ≠ "" ∧ value ∉ links then links ++ [value] else links

def deriveLinkTimelineMatchUrls (value : String) : List String :=
  let target := trim value
  if target = "" then []
  else
    (urls.parse target).elim [target] fun parsed =>
      let normalized := parsed.withoutFragment
      let links := pushUniqueLinkTimelineUrl [target] normalized.text
      let links := (removeTrackingQueryParamsUrl utf8 normalized).elim links fun variant =>
        let links := pushUniqueLinkTimelineUrl links variant
        ((urls.parse variant).bind (toggleTrailingSlashUrl urls)).elim links
          (pushUniqueLinkTimelineUrl links)
      (toggleTrailingSlashUrl urls normalized).elim links (pushUniqueLinkTimelineUrl links)

def canonicalizeLinkTimelineUrl (value : String) : Option String :=
  let target := trim value
  if target = "" then none
  else
    (urls.parse target).elim (some target) fun parsed =>
      (removeTrackingQueryParamsUrl utf8 parsed.withoutFragment).or
        (some parsed.withoutFragment.text)

end Functions

/-! ## Canonical URLs -/

section Parts

variable {url : LinkUrl}

theorem trimEndMatches_again (text : String) (drop : Char) :
    trimEndMatches (trimEndMatches text drop) drop = trimEndMatches text drop := by
  rw [trimEndMatches, trimEndMatches, String.toList_ofList, List.reverse_reverse,
    List.dropWhile_idempotent]

namespace LinkUrl

theorem settled_again : url.settled.settled = url.settled := by
  by_cases ends : url.query = none ∧ url.fragment = none ∧ url.cannotBeABase = true
  · have trimmed : url.settled = { url with front := trimEndMatches url.front ' ' } := if_pos ends
    rw [trimmed]
    refine (if_pos ends).trans ?_
    rw [trimEndMatches_again]
  · have eq : url.settled = url := if_neg ends
    rw [eq, eq]

theorem query_settled : url.settled.query = url.query := by
  rw [settled]
  split_ifs <;> rfl

theorem fragment_settled : url.settled.fragment = url.fragment := by
  rw [settled]
  split_ifs <;> rfl

theorem query_withoutFragment : url.withoutFragment.query = url.query := query_settled

theorem setQuery_withoutFragment {query : Option (List Char)}
    (gone : url.query = none → query = none) :
    url.withoutFragment.setQuery query = settled { url with query, fragment := none } := by
  by_cases none_here : url.query = none
  · obtain rfl := gone none_here
    have eq : ({ url with fragment := none } : LinkUrl)
        = { url with query := none, fragment := none } := by rw [none_here]
    have kept : url.withoutFragment.setQuery none = url.withoutFragment.settled := by
      rw [setQuery, ← none_here, ← query_withoutFragment]
    rw [kept, withoutFragment, settled_again, eq]
  · have eq : url.withoutFragment = { url with fragment := none } :=
      if_neg fun ends => none_here ends.1
    rw [eq]
    rfl

end LinkUrl

theorem getD_formQuery (pairs : List (String × String)) :
    (formQuery pairs).getD [] = writePairs pairs := by
  rw [formQuery, Option.filter_some]
  by_cases empty : writePairs pairs = []
  · rw [if_neg (by simpa using empty), empty]
    rfl
  · rw [if_pos (by simpa using empty)]
    rfl

end Parts

variable {other : LinkUrl} {text : String} {c : Char}

section Canonical

variable (utf8 : Utf8Lossy)

def canonicalQuery (url : LinkUrl) : Option (List Char) :=
  if isTracked utf8 url then formQuery (keptPairs utf8 url) else url.query

def canonicalUrl (url : LinkUrl) : LinkUrl :=
  LinkUrl.settled { url with query := canonicalQuery utf8 url, fragment := none }

variable {utf8} {urls : LinkUrlParser} {url : LinkUrl}

theorem isTracked_congr (eq : other.query = url.query) :
    isTracked utf8 other = isTracked utf8 url := by
  rw [isTracked, isTracked, queryPairs, queryPairs, eq]

theorem keptPairs_congr (eq : other.query = url.query) :
    keptPairs utf8 other = keptPairs utf8 url := by
  rw [keptPairs, keptPairs, queryPairs, queryPairs, eq]

theorem query_ne_none_of_isTracked (tracked : isTracked utf8 url = true) : url.query ≠ none := by
  intro gone
  rw [isTracked, queryPairs, gone] at tracked
  cases tracked

theorem canonical_eq :
    canonicalUrl utf8 url = url.withoutFragment.setQuery (canonicalQuery utf8 url) := by
  refine (LinkUrl.setQuery_withoutFragment fun gone => ?_).symm
  rw [canonicalQuery, if_neg fun tracked => query_ne_none_of_isTracked tracked gone, gone]

theorem query_canonical : (canonicalUrl utf8 url).query = canonicalQuery utf8 url :=
  LinkUrl.query_settled

/-- What remains has no tracking parameters. -/
theorem isTracked_canonical : isTracked utf8 (canonicalUrl utf8 url) = false := by
  by_cases tracked : isTracked utf8 url = true
  · rw [isTracked, queryPairs, query_canonical, canonicalQuery, if_pos tracked,
      getD_formQuery, readPairs_writePairs, keptPairs, List.any_filter]
    simp
  · rw [isTracked_congr (query_canonical.trans (if_neg tracked))]
    exact Bool.eq_false_of_not_eq_true tracked

theorem canonical_again : canonicalUrl utf8 (canonicalUrl utf8 url) = canonicalUrl utf8 url := by
  have query : canonicalQuery utf8 (canonicalUrl utf8 url) = (canonicalUrl utf8 url).query := by
    rw [canonicalQuery, if_neg (by rw [isTracked_canonical]; exact Bool.false_ne_true)]
  have fragment : (canonicalUrl utf8 url).fragment = none := LinkUrl.fragment_settled
  calc canonicalUrl utf8 (canonicalUrl utf8 url)
      = LinkUrl.settled { canonicalUrl utf8 url with
          query := (canonicalUrl utf8 url).query,
          fragment := (canonicalUrl utf8 url).fragment } := by
        rw [fragment, ← query, canonicalUrl]
    _ = canonicalUrl utf8 url := LinkUrl.settled_again

theorem parse_canonical {text : String} (parsed : urls.parse text = some url) :
    urls.parse (canonicalUrl utf8 url).text = some (canonicalUrl utf8 url)
      ∧ trim (canonicalUrl utf8 url).text = (canonicalUrl utf8 url).text := by
  rw [canonical_eq]
  refine urls.reparse parsed ?_
  rw [canonicalQuery]
  split_ifs
  · exact .inr ⟨_, rfl⟩
  · exact .inl rfl

theorem removeTracking_withoutFragment :
    removeTrackingQueryParamsUrl utf8 url.withoutFragment
      = if isTracked utf8 url then some (canonicalUrl utf8 url).text else none := by
  rw [removeTrackingQueryParamsUrl, isTracked_congr LinkUrl.query_withoutFragment,
    keptPairs_congr LinkUrl.query_withoutFragment]
  split_ifs with tracked
  · rw [canonical_eq, canonicalQuery, if_pos tracked]
  · rfl

theorem text_withoutFragment (untracked : ¬isTracked utf8 url = true) :
    url.withoutFragment = canonicalUrl utf8 url := by
  rw [canonicalUrl, canonicalQuery, if_neg untracked]
  rfl

theorem canonicalize_of_parse {value : String} (parsed : urls.parse (trim value) = some url) :
    canonicalizeLinkTimelineUrl utf8 urls value = some (canonicalUrl utf8 url).text := by
  have here : trim value ≠ "" := by
    intro empty
    rw [empty, urls.parse_empty] at parsed
    cases parsed
  rw [canonicalizeLinkTimelineUrl, if_neg here, parsed, Option.elim_some,
    removeTracking_withoutFragment]
  split_ifs with tracked
  · rfl
  · rw [Option.none_or, text_withoutFragment tracked]

/-- **A canonical link is its own canonical link.** -/
theorem canonicalize_again {value link : String}
    (canonical : canonicalizeLinkTimelineUrl utf8 urls value = some link) :
    canonicalizeLinkTimelineUrl utf8 urls link = some link := by
  cases parsed : urls.parse (trim value) with
  | none =>
    have own := canonical
    rw [canonicalizeLinkTimelineUrl, parsed] at own
    split_ifs at own
    obtain rfl := Option.some.inj own
    rw [canonicalizeLinkTimelineUrl, trim_trim, ← canonicalizeLinkTimelineUrl, canonical]
  | some url =>
    rw [canonicalize_of_parse parsed] at canonical
    obtain rfl := Option.some.inj canonical
    obtain ⟨own, trimmed⟩ := @parse_canonical utf8 urls url _ parsed
    rw [← trimmed] at own
    rw [canonicalize_of_parse own, canonical_again]

end Canonical

/-! ## The links to look for -/

section Derived

variable {utf8 : Utf8Lossy} {urls : LinkUrlParser} {links : List String} {value link : String}

theorem mem_pushUnique (mem : link ∈ links) : link ∈ pushUniqueLinkTimelineUrl links value := by
  rw [pushUniqueLinkTimelineUrl]
  split_ifs
  · exact List.mem_append_left _ mem
  · exact mem

theorem pushed_mem (here : value ≠ "") : value ∈ pushUniqueLinkTimelineUrl links value := by
  rw [pushUniqueLinkTimelineUrl]
  split_ifs with gone
  · exact List.mem_append_right _ (List.mem_singleton_self _)
  · by_contra absent
    exact gone ⟨here, absent⟩

theorem nodup_pushUnique (once : links.Nodup) : (pushUniqueLinkTimelineUrl links value).Nodup := by
  rw [pushUniqueLinkTimelineUrl]
  split_ifs with gone
  · refine List.nodup_append.mpr ⟨once, List.nodup_singleton _, ?_⟩
    rintro first here second there rfl
    exact gone.2 (List.mem_singleton.mp there ▸ here)
  · exact once

theorem mem_elim_push (variant : Option String) (mem : link ∈ links) :
    link ∈ variant.elim links (pushUniqueLinkTimelineUrl links) := by
  cases variant with
  | none => exact mem
  | some value => exact mem_pushUnique mem

theorem nodup_elim_push (variant : Option String) (once : links.Nodup) :
    (variant.elim links (pushUniqueLinkTimelineUrl links)).Nodup := by
  cases variant with
  | none => exact once
  | some value => exact nodup_pushUnique once

/-- **No link is looked for twice.** -/
theorem nodup_derive : (deriveLinkTimelineMatchUrls utf8 urls value).Nodup := by
  rw [deriveLinkTimelineMatchUrls]
  split_ifs
  · exact List.nodup_nil
  · cases urls.parse (trim value) with
    | none => exact List.nodup_singleton _
    | some url =>
      apply nodup_elim_push
      cases removeTrackingQueryParamsUrl utf8 url.withoutFragment with
      | none => exact nodup_pushUnique (List.nodup_singleton _)
      | some variant =>
        exact nodup_elim_push _ (nodup_pushUnique (nodup_pushUnique (List.nodup_singleton _)))

/-- **The canonical link is looked for.** -/
theorem canonicalize_mem_derive
    (canonical : canonicalizeLinkTimelineUrl utf8 urls value = some link) :
    link ∈ deriveLinkTimelineMatchUrls utf8 urls value := by
  rw [deriveLinkTimelineMatchUrls]
  cases parsed : urls.parse (trim value) with
  | none =>
    rw [canonicalizeLinkTimelineUrl, parsed] at canonical
    split_ifs at canonical ⊢
    exact List.mem_singleton.mpr (Option.some.inj canonical).symm
  | some url =>
    have target : trim value ≠ "" := by
      intro empty
      rw [empty, urls.parse_empty] at parsed
      cases parsed
    rw [canonicalize_of_parse parsed] at canonical
    obtain rfl := Option.some.inj canonical
    have here : (canonicalUrl utf8 url).text ≠ "" := by
      intro empty
      have own := (@parse_canonical utf8 urls url _ parsed).1
      rw [empty, urls.parse_empty] at own
      cases own
    rw [if_neg target]
    apply mem_elim_push
    rw [removeTracking_withoutFragment]
    split_ifs with tracked
    · exact mem_elim_push _ (pushed_mem here)
    · rw [← text_withoutFragment tracked] at here ⊢
      exact pushed_mem here

end Derived

/-! ## Fragments and tracking parameters -/

section Additions

/-- A list with more entries of some kind. -/
inductive Inserts {α : Type} (extra : α → Bool) : List α → List α → Prop
  | nil : Inserts extra [] []
  | keep {first : α} {before after : List α} :
      Inserts extra before after → Inserts extra (first :: before) (first :: after)
  | insert {first : α} {before after : List α} :
      extra first = true → Inserts extra before after → Inserts extra before (first :: after)

theorem filter_of_inserts {α : Type} {extra : α → Bool} {pre post : List α}
    (inserts : Inserts extra pre post) :
    post.filter (fun entry => !extra entry) = pre.filter fun entry => !extra entry := by
  induction inserts with
  | nil => rfl
  | keep _ ih => rw [List.filter_cons, List.filter_cons, ih]
  | insert isExtra _ ih =>
    rw [List.filter_cons, isExtra, ih]
    rfl

structure AddsFragment (url longer : LinkUrl) : Prop where
  front : longer.front = url.front
  cannotBeABase : longer.cannotBeABase = url.cannotBeABase
  query : longer.query = url.query

/-- The same URL, with more tracking parameters anywhere in its query. -/
structure InsertsTracking (utf8 : Utf8Lossy) (url longer : LinkUrl) : Prop where
  front : longer.front = url.front
  cannotBeABase : longer.cannotBeABase = url.cannotBeABase
  inserts : Inserts (fun piece => isTrackingKey (readPair utf8 piece).1)
    (pieces (url.query.getD [])) (pieces (longer.query.getD []))
  tracked : isTracked utf8 longer = true

variable {utf8 : Utf8Lossy} {urls : LinkUrlParser} {url longer : LinkUrl}

theorem canonical_of_addsFragment (adds : AddsFragment url longer) :
    canonicalUrl utf8 longer = canonicalUrl utf8 url := by
  rw [canonicalUrl, canonicalUrl, canonicalQuery, canonicalQuery, isTracked_congr adds.query,
    keptPairs_congr adds.query, adds.query, adds.front, adds.cannotBeABase]

theorem keptPairs_of_insertsTracking (inserts : InsertsTracking utf8 url longer) :
    keptPairs utf8 longer = keptPairs utf8 url := by
  have eq := congrArg (List.map (readPair utf8)) (filter_of_inserts inserts.inserts)
  rw [keptPairs, keptPairs, queryPairs, queryPairs, readPairs, readPairs, List.filter_map,
    List.filter_map]
  exact eq

/-- The canonical form of a link with tracking parameters has the others, written anew. -/
theorem canonical_of_insertsTracking (inserts : InsertsTracking utf8 url longer) :
    canonicalUrl utf8 longer = LinkUrl.settled
      { url with query := formQuery (keptPairs utf8 url), fragment := none } := by
  rw [canonicalUrl, canonicalQuery, if_pos inserts.tracked, keptPairs_of_insertsTracking inserts,
    inserts.front, inserts.cannotBeABase]

theorem keptPairs_of_untracked (untracked : ¬isTracked utf8 url = true) :
    keptPairs utf8 url = queryPairs utf8 url := by
  refine List.filter_eq_self.mpr fun pair mem => ?_
  by_contra tracking
  refine untracked (List.any_eq_true.mpr ⟨pair, mem, ?_⟩)
  simpa using tracking

/-- A written query is written as it is anew. -/
theorem query_eq_formQuery_iff :
    (∃ pairs, url.query = formQuery pairs) ↔ url.query = formQuery (queryPairs utf8 url) := by
  constructor
  · rintro ⟨pairs, wrote⟩
    rw [queryPairs, wrote, getD_formQuery, readPairs_writePairs]
  · exact fun eq => ⟨_, eq⟩

/-- **A link with more tracking parameters has the same canonical form exactly if the link has
some already or its query is a written one.** -/
theorem canonicalize_tracked_iff (parsed : urls.parse text = some url)
    {longerText : String} (longerParsed : urls.parse longerText = some longer)
    (inserts : InsertsTracking utf8 url longer) :
    (canonicalUrl utf8 longer).text = (canonicalUrl utf8 url).text
      ↔ isTracked utf8 url = true ∨ ∃ pairs, url.query = formQuery pairs := by
  rw [@query_eq_formQuery_iff utf8 url]
  have query : (canonicalUrl utf8 longer).query = formQuery (keptPairs utf8 url) := by
    rw [canonical_of_insertsTracking inserts, LinkUrl.query_settled]
  constructor
  · intro eq
    by_cases tracked : isTracked utf8 url = true
    · exact .inl tracked
    · right
      have own := (@parse_canonical utf8 urls url _ parsed).1
      have other := (@parse_canonical utf8 urls longer _ longerParsed).1
      rw [eq, own, Option.some.injEq] at other
      rw [← other, query_canonical, canonicalQuery, if_neg tracked,
        keptPairs_of_untracked tracked] at query
      exact query
  · intro cond
    have eq : formQuery (keptPairs utf8 url) = canonicalQuery utf8 url := by
      rw [canonicalQuery]
      split_ifs with tracked
      · rfl
      · rw [keptPairs_of_untracked tracked, cond.resolve_left tracked]
    rw [canonical_of_insertsTracking inserts, eq]
    rfl

end Additions

/-- **Canonical links do not depend on fragments, and on tracking parameters exactly if the link
has some already or its query is a written one.** -/
theorem link_forms_iff (utf8 : Utf8Lossy) (urls : LinkUrlParser) (value : String) :
    (∀ link, canonicalizeLinkTimelineUrl utf8 urls value = some link →
        canonicalizeLinkTimelineUrl utf8 urls link = some link
          ∧ link ∈ deriveLinkTimelineMatchUrls utf8 urls value)
      ∧ (deriveLinkTimelineMatchUrls utf8 urls value).Nodup
      ∧ ∀ url, urls.parse (trim value) = some url →
          ∀ other longer, urls.parse (trim other) = some longer →
            (AddsFragment url longer → canonicalizeLinkTimelineUrl utf8 urls other
                = canonicalizeLinkTimelineUrl utf8 urls value)
              ∧ (InsertsTracking utf8 url longer →
                (canonicalizeLinkTimelineUrl utf8 urls other
                    = canonicalizeLinkTimelineUrl utf8 urls value
                  ↔ isTracked utf8 url = true ∨ ∃ pairs, url.query = formQuery pairs)) := by
  refine ⟨fun link canonical => ⟨canonicalize_again canonical, canonicalize_mem_derive canonical⟩,
    nodup_derive, ?_⟩
  intro url parsed other longer longerParsed
  rw [canonicalize_of_parse parsed, canonicalize_of_parse longerParsed, Option.some.injEq]
  refine ⟨fun adds => ?_, canonicalize_tracked_iff parsed longerParsed⟩
  rw [canonical_of_addsFragment adds]

/-! ## A link with a name and no value -/

/-- UTF-8 is decoded; anything else is one replacement character. -/
def decodeLossy (bytes : List UInt8) : String :=
  bytes.toByteArray.utf8Decode?.elim "\uFFFD" fun chars => String.ofList chars.toList

theorem decodeLossy_bytes (text : String) : decodeLossy (utf8Bytes text.toList) = text := by
  have decoded : (utf8Bytes text.toList).toByteArray.utf8Decode? = some text.toList.toArray :=
    List.utf8Decode?_utf8Encode
  rw [decodeLossy, decoded, Option.elim_some, List.toList_toArray, String.ofList_toList]

def pageUrl (query : Option (List Char)) : LinkUrl :=
  { front := "https://example.com/p", cannotBeABase := false, query, fragment := none }

/-- The characters of the queries of these URLs. -/
def isQueryChar (c : Char) : Bool := isWritten c || c == '=' || c == '&'

def parsePage (text : String) : Option LinkUrl :=
  if text = "https://example.com/p" then some (pageUrl none)
  else
    (stripPrefix text "https://example.com/p?").bind fun query =>
      if query.toList.all isQueryChar then some (pageUrl (some query.toList)) else none

theorem text_pageUrl (query : List Char) :
    (pageUrl (some query)).text = "https://example.com/p?" ++ String.ofList query := by
  rw [← String.toList_inj]
  simp [LinkUrl.text, pageUrl]

theorem parsePage_query {query : List Char} (plain : query.all isQueryChar = true) :
    parsePage (pageUrl (some query)).text = some (pageUrl (some query)) := by
  have other : (pageUrl (some query)).text ≠ "https://example.com/p" := by
    intro eq
    rw [text_pageUrl] at eq
    have lengths := congrArg String.length eq
    rw [String.length_append] at lengths
    have first : "https://example.com/p?".length = 22 := by decide
    have second : "https://example.com/p".length = 21 := by decide
    omega
  rw [parsePage, if_neg other, text_pageUrl, stripPrefix_append, Option.bind_some,
    String.toList_ofList, if_pos plain]

theorem isQueryChar_of_mem_writePairs {pairs : List (String × String)}
    (mem : c ∈ writePairs pairs) : isQueryChar c = true := by
  have inPair : ∀ pair, c ∈ writePair pair → isQueryChar c = true := by
    intro pair inside
    rw [writePair, List.mem_append, List.mem_cons] at inside
    rcases inside with name | rfl | value
    · simp [isQueryChar, isWritten_of_mem_write name]
    · rfl
    · simp [isQueryChar, isWritten_of_mem_write value]
  induction pairs with
  | nil => cases mem
  | cons pair rest ih =>
    cases rest with
    | nil =>
      have whole : writePairs [pair] = writePair pair := List.append_nil _
      exact inPair pair (whole ▸ mem)
    | cons next rest =>
      have parts : writePairs (pair :: next :: rest)
          = writePair pair ++ '&' :: writePairs (next :: rest) := rfl
      rw [parts, List.mem_append, List.mem_cons] at mem
      rcases mem with first | rfl | later
      · exact inPair pair first
      · rfl
      · exact ih later

theorem isWhitespace_of_isQueryChar (plain : isQueryChar c = true) : isWhitespace c = false := by
  have small : ∀ n < 128, isQueryChar (Char.ofNat n) = true →
      isWhitespace (Char.ofNat n) = false := by decide
  have below : c.toNat < 128 := by
    simp only [isQueryChar, isWritten, Bool.or_eq_true, beq_iff_eq, Bool.and_eq_true,
      decide_eq_true_eq] at plain
    rcases plain with (((rfl | rfl) | ⟨-, below⟩) | rfl) | rfl
    · decide
    · decide
    · exact below
    · decide
    · decide
  have own := small c.toNat below
  rw [Char.ofNat_toNat] at own
  exact own plain

theorem parsePage_cases {url : LinkUrl} (parsed : parsePage text = some url) :
    url = pageUrl none
      ∨ ∃ query : List Char, query.all isQueryChar = true ∧ url = pageUrl (some query) := by
  rw [parsePage] at parsed
  split_ifs at parsed
  · exact .inl (Option.some.inj parsed).symm
  · obtain ⟨query, -, got⟩ := Option.bind_eq_some_iff.mp parsed
    split_ifs at got with plain
    exact .inr ⟨query.toList, plain, (Option.some.inj got).symm⟩

theorem parsePage_reparse {url : LinkUrl} {query : Option (List Char)}
    (parsed : parsePage text = some url)
    (may : query = url.query ∨ ∃ pairs, query = formQuery pairs) :
    parsePage (url.withoutFragment.setQuery query).text = some (url.withoutFragment.setQuery query)
      ∧ trim (url.withoutFragment.setQuery query).text
        = (url.withoutFragment.setQuery query).text := by
  have plain : ∀ chars, query = some chars → chars.all isQueryChar = true := by
    rintro chars rfl
    rcases may with own | ⟨pairs, wrote⟩
    · rcases parsePage_cases parsed with rfl | ⟨got, foundPlain, rfl⟩
      · cases own
      · cases own
        exact foundPlain
    · rw [eq_comm, formQuery, Option.filter_eq_some_iff, Option.some.injEq] at wrote
      exact List.all_eq_true.mpr fun c mem =>
        isQueryChar_of_mem_writePairs (wrote.1 ▸ mem)
  have target : url.withoutFragment.setQuery query = pageUrl query := by
    rcases parsePage_cases parsed with rfl | ⟨got, -, rfl⟩ <;> cases query <;> rfl
  rw [target]
  cases query with
  | none => exact ⟨by decide, by decide⟩
  | some chars =>
    refine ⟨parsePage_query (plain chars rfl), trimMatches_of_forall fun c mem => ?_⟩
    have front : ∀ c ∈ "https://example.com/p?".toList, isWhitespace c = false :=
      forall_mem_of_all (by decide)
    rw [text_pageUrl, String.toList_append, List.mem_append] at mem
    rcases mem with first | later
    · exact front c first
    · rw [String.toList_ofList] at later
      exact isWhitespace_of_isQueryChar (List.all_eq_true.mp (plain chars rfl) c later)

def pageParser : LinkUrlParser where
  parse := parsePage
  path _ := "/p"
  setPath _ url := url
  parse_empty := by decide
  reparse := parsePage_reparse

/-- UTF-8 is decoded as above. -/
def lossyUtf8 : Utf8Lossy where
  decode := decodeLossy
  decode_bytes := decodeLossy_bytes

/-- The page with a name and no value, and with a tracking parameter behind it. -/
def plainPage : LinkUrl := pageUrl (some ['a'])

def trackedPage : LinkUrl :=
  pageUrl (some ['a', '&', 'u', 't', 'm', '_', 's', 'o', 'u', 'r', 'c', 'e', '=', 'x'])

theorem readPair_of_bytes {piece : List Char} {name value : String}
    (front : readBytes (piece.takeWhile (· != '=')) = utf8Bytes name.toList)
    (back : readBytes ((piece.dropWhile (· != '=')).drop 1) = utf8Bytes value.toList) :
    readPair lossyUtf8 piece = (name, value) := by
  rw [readPair, front, back]
  exact congrArg₂ Prod.mk (decodeLossy_bytes name) (decodeLossy_bytes value)

theorem queryPairs_plainPage : queryPairs lossyUtf8 plainPage = [("a", "")] := by
  have parts : pieces (plainPage.query.getD []) = [['a']] := by decide
  have first : readPair lossyUtf8 ['a'] = ("a", "") := readPair_of_bytes (by decide) (by decide)
  rw [queryPairs, readPairs, parts, List.map_singleton, first]

theorem insertsTracking_trackedPage : InsertsTracking lossyUtf8 plainPage trackedPage := by
  have plain : pieces (plainPage.query.getD []) = [['a']] := by decide
  have longer : pieces (trackedPage.query.getD [])
      = [['a'], ['u', 't', 'm', '_', 's', 'o', 'u', 'r', 'c', 'e', '=', 'x']] := by decide
  have tracking : readPair lossyUtf8 ['u', 't', 'm', '_', 's', 'o', 'u', 'r', 'c', 'e', '=', 'x']
      = ("utm_source", "x") := readPair_of_bytes (by decide) (by decide)
  have isTracking : isTrackingKey "utm_source" = true := by decide
  refine ⟨rfl, rfl, ?_, ?_⟩
  · rw [plain, longer]
    exact .keep (.insert (by rw [tracking]; exact isTracking) .nil)
  · rw [isTracked, queryPairs, readPairs, longer, List.map_cons, List.map_singleton, tracking,
      List.any_cons, List.any_cons, isTracking]
    simp

/-- **The link `https://example.com/p?a` has another canonical form than the same link with
`utm_source=x`: its query is written `a=` anew.** -/
theorem tracking_changes_link :
    ¬∀ (utf8 : Utf8Lossy) (urls : LinkUrlParser) (value other : String) (url longer : LinkUrl),
      urls.parse (trim value) = some url → urls.parse (trim other) = some longer →
        InsertsTracking utf8 url longer →
          canonicalizeLinkTimelineUrl utf8 urls other
            = canonicalizeLinkTimelineUrl utf8 urls value := by
  intro claim
  have page : parsePage (trim "https://example.com/p?a") = some plainPage := by decide
  have longer : parsePage (trim "https://example.com/p?a&utm_source=x") = some trackedPage := by
    decide
  have parsed : pageParser.parse (trim "https://example.com/p?a") = some plainPage := page
  have longerParsed : pageParser.parse (trim "https://example.com/p?a&utm_source=x")
      = some trackedPage := longer
  have eq := claim lossyUtf8 pageParser _ _ _ _ parsed longerParsed insertsTracking_trackedPage
  rw [canonicalize_of_parse parsed, canonicalize_of_parse longerParsed, Option.some.injEq,
    canonicalize_tracked_iff parsed longerParsed insertsTracking_trackedPage,
    @query_eq_formQuery_iff lossyUtf8, isTracked, queryPairs_plainPage] at eq
  exact absurd eq (by decide)

end Cfwdon.Timelines
