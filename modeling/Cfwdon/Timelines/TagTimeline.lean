import Cfwdon.Statuses.RenderedHashtags

/-!
# The timeline of a hashtag

The tag of the path is normalised like a search text: blanks and leading hash signs are
taken off, letters are folded.  Statuses are found through an index of their hashtags, with
the tag normalised once more, and each one that is found is compared with the hashtags of
its text or markup.

The lower case of a character is a parameter, as for the search.
-/

namespace Cfwdon.Timelines

open Library Search Statuses

/-- What a status is written in: a local one as text, a remote one as markup. -/
inductive StatusContent where
  | local (text : String)
  | remote (contentHtml : String)

/-- The hashtags that the index and the timeline read from a status. -/
def StatusContent.hashtags : StatusContent → List String
  | .local text => extractHashtagsFromText text
  | .remote contentHtml => extractHashtagsFromHtml contentHtml

/-- `replace_local_status_hashtags` and `replace_remote_status_hashtags`: the tags of the
status in the index, before and after. -/
def replaceStatusHashtags (existing next : List String) : List String :=
  pushMissing (existing.filter fun tag => next.contains tag) next

variable {tag : String}

/-- **Writing a status leaves exactly its hashtags in the index.** -/
theorem mem_replaceStatusHashtags {old next : List String} :
    tag ∈ replaceStatusHashtags old next ↔ tag ∈ next := by
  rw [replaceStatusHashtags, mem_pushMissing, List.mem_filter, List.contains_iff_mem]
  tauto

/-- A status with its rows in the index, as its last write left them. -/
structure IndexedStatus where
  content : StatusContent
  visibility : Visibility
  hasMedia : Bool
  index : List String
  indexed : ∀ tag, tag ∈ index ↔ tag ∈ content.hashtags

def IndexedStatus.written (content : StatusContent) (visibility : Visibility) (hasMedia : Bool)
    (existing : List String) : IndexedStatus where
  content := content
  visibility := visibility
  hasMedia := hasMedia
  index := replaceStatusHashtags existing content.hashtags
  indexed _ := mem_replaceStatusHashtags

/-! ## The timeline -/

/-- `TagTimelineQuery`, without the page. -/
structure TagTimelineQuery where
  onlyMedia : Option Bool
  localOnly : Option Bool
  remoteOnly : Option Bool
  any : Option (List String)
  all : Option (List String)
  none : Option (List String)

def includeLocalSource (localOnly remoteOnly : Option Bool) : Bool :=
  localOnly.getD false || !remoteOnly.getD false

def includeRemoteSource (localOnly remoteOnly : Option Bool) : Bool :=
  remoteOnly.getD false || !localOnly.getD false

def TagTimelineQuery.includes (query : TagTimelineQuery) : StatusContent → Bool
  | .local _ => includeLocalSource query.localOnly query.remoteOnly
  | .remote _ => includeRemoteSource query.localOnly query.remoteOnly

section Lowercase

variable (lowercase : Char → List Char)

def normalizeHashtag (value : String) : String :=
  normalizeSearchMatchText lowercase (trimStartMatches (trim value) "#")

/-- `normalize_unique_tags` and `normalized_unique_remote_status_tags`. -/
def normalizeUniqueTags (tags : List String) : List String :=
  pushMissing [] ((tags.map (normalizeHashtag lowercase)).filter fun tag => tag ≠ "")

def tagTimelineCandidateTags (primaryTag : String) (query : TagTimelineQuery) : List String :=
  pushMissing [primaryTag]
    (((query.any.getD []).map (normalizeHashtag lowercase)).filter fun tag => tag ≠ "")

def matchesTagTimelineFilters (tags : List String) (primaryTag : String)
    (query : TagTimelineQuery) : Bool :=
  (tagTimelineCandidateTags lowercase primaryTag query).any (fun tag => tags.contains tag)
    && (((query.all.getD []).map (normalizeHashtag lowercase)).filter (fun tag => tag ≠ "")).all
      (fun tag => tags.contains tag)
    && !(((query.none.getD []).map (normalizeHashtag lowercase)).filter
      (fun tag => tag ≠ "")).any (fun tag => tags.contains tag)

/-- Whether `list_local_public_statuses_by_tags`, or its remote sibling, finds a status. -/
def listedByTags (tags : List String) (status : IndexedStatus) : Bool :=
  decide (status.visibility = .publicPost)
    && status.index.any fun tag => (normalizeUniqueTags lowercase tags).contains tag

/-- Whether `tag_timeline_response` for a path parameter has a status, for a viewer who
mutes nobody and on a page that reaches it. -/
def tagTimelineContains (hashtag : String) (query : TagTimelineQuery)
    (status : IndexedStatus) : Bool :=
  let tag := normalizeHashtag lowercase hashtag
  if tag = "" then false
  else query.includes status.content
    && listedByTags lowercase (tagTimelineCandidateTags lowercase tag query) status
    && matchesTagTimelineFilters lowercase status.content.hashtags tag query
    && (!query.onlyMedia.getD false || status.hasMedia)

end Lowercase

/-! ## Extracted hashtags -/

theorem toNat_lt_of_isHashtagChar {c : Char} (word : isHashtagCharacter c = true) :
    c.toNat < 128 := by
  have ranges : (((decide (c.val ≥ 'A'.val ∧ c.val ≤ 'Z'.val)
        || (decide (c.val ≥ 'a'.val) && decide (c.val ≤ 'z'.val)))
      || (decide (c.val ≥ '0'.val) && decide (c.val ≤ '9'.val))) || c == '_') = true := word
  have small : ∀ top : Char, c.val ≤ top.val → top.toNat < 128 → c.toNat < 128 :=
    fun top below bound => Nat.lt_of_le_of_lt (UInt32.le_iff_toNat_le.mp below) bound
  simp only [Bool.or_eq_true, Bool.and_eq_true, decide_eq_true_eq, beq_iff_eq] at ranges
  rcases ranges with ((⟨_, below⟩ | ⟨_, below⟩) | ⟨_, below⟩) | rfl
  · exact small _ below (by decide)
  · exact small _ below (by decide)
  · exact small _ below (by decide)
  · decide

theorem of_toNat_lt {holds : Char → Bool} {c : Char} (small : c.toNat < 128)
    (each : (List.range 128).all (fun code => holds (Char.ofNat code)) = true) :
    holds c = true := by
  have got := List.all_eq_true.mp each _ (List.mem_range.mpr small)
  rwa [Char.ofNat_toNat] at got

/-- A character of an extracted hashtag: no capital letter. -/
def isTagCharacter (c : Char) : Bool :=
  isHashtagCharacter c && c.toLower == c

theorem isTagChar_toLower {c : Char} (word : isHashtagCharacter c = true) :
    isTagCharacter c.toLower = true := by
  have each := @of_toNat_lt (fun c => !isHashtagCharacter c || isTagCharacter c.toLower) c
    (toNat_lt_of_isHashtagChar word) (by decide +kernel)
  simpa [word] using each

theorem plain_of_isTagChar {c : Char} (tagged : isTagCharacter c = true) :
    isWhitespace c = false ∧ c ≠ '#' ∧ searchQuoteEquivalentCharacters.contains c = false
      ∧ foldSearchMatchCharacter c = none ∧ c.toLower = c := by
  have word : isHashtagCharacter c = true := (Bool.and_eq_true_iff.mp tagged).1
  have each := @of_toNat_lt
    (fun c => !isTagCharacter c || (!isWhitespace c && c != '#'
      && !searchQuoteEquivalentCharacters.contains c && (foldSearchMatchCharacter c).isNone
      && c.toLower == c)) c (toNat_lt_of_isHashtagChar word) (by decide +kernel)
  simp only [tagged, Bool.not_true, Bool.false_or, Bool.and_eq_true, Bool.not_eq_true',
    bne_iff_ne, ne_eq, Option.isNone_iff_eq_none, beq_iff_eq] at each
  exact ⟨each.1.1.1.1, each.1.1.1.2, each.1.1.2, each.1.2, each.2⟩

/-- An extracted hashtag is not empty, and of such characters. -/
def IsExtracted (tag : String) : Prop :=
  tag.toList ≠ [] ∧ ∀ c ∈ tag.toList, isTagCharacter c = true

theorem isExtracted_of_mem_hashtagsAfter {prev : Option Char} {text : List Char}
    (mem : tag ∈ hashtagsAfter prev text) : IsExtracted tag := by
  induction text generalizing prev with
  | nil => cases mem
  | cons c rest ih =>
    rw [hashtagsAfter] at mem
    split_ifs at mem with starts
    · rcases List.mem_cons.mp mem with rfl | later
      · rw [IsExtracted, toList_lowercase, String.toList_ofList]
        refine ⟨by simpa using starts.2.2, fun d isChar => ?_⟩
        obtain ⟨letter, taken, rfl⟩ := List.mem_map.mp isChar
        exact isTagChar_toLower (List.mem_takeWhile_imp taken)
      · exact ih later
    · exact ih mem

/-- **The hashtags of a status** are extracted ones. -/
theorem StatusContent.isExtracted {content : StatusContent} (mem : tag ∈ content.hashtags) :
    IsExtracted tag := by
  cases content <;> rcases mem_pushMissing.mp mem with none | got
  · cases none
  · exact isExtracted_of_mem_hashtagsAfter got
  · cases none
  · exact isExtracted_of_mem_hashtagsAfter got

theorem IsExtracted.ne_empty (extracted : IsExtracted tag) : tag ≠ "" := by
  rintro rfl
  exact extracted.1 rfl

theorem IsExtracted.trim_eq (extracted : IsExtracted tag) : trim tag = tag :=
  trimMatches_of_forall fun c isChar => (plain_of_isTagChar (extracted.2 c isChar)).1

theorem IsExtracted.trimStartMatches_eq (extracted : IsExtracted tag) :
    trimStartMatches tag "#" = tag := by
  obtain ⟨c, rest, chars⟩ := List.exists_cons_of_ne_nil extracted.1
  have other : c ≠ '#' := (plain_of_isTagChar (extracted.2 c (chars ▸ List.mem_cons_self))).2.1
  have hash : "#".toList = ['#'] := by decide
  refine trimStartMatches_of_not_isPrefix ?_
  rw [hash, chars, List.isPrefixOf_cons_cons, beq_false_of_ne other.symm]
  rfl

/-- What `char::to_lowercase` makes of an ASCII character. -/
def LowersAscii (lowercase : Char → List Char) : Prop :=
  ∀ c : Char, c.toNat < 128 → lowercase c = [c.toLower]

variable {lowercase : Char → List Char}

/-- **Normalising leaves an extracted hashtag alone.** -/
theorem normalizeHashtag_of_isExtracted (lowers : LowersAscii lowercase)
    (extracted : IsExtracted tag) : normalizeHashtag lowercase tag = tag := by
  have quotes : normalizeSearchQueryInput tag = tag := by
    rw [normalizeSearchQueryInput, List.map_congr_left (g := id), List.map_id, String.ofList_toList]
    intro c isChar
    rw [(plain_of_isTagChar (extracted.2 c isChar)).2.2.1]
    rfl
  have folded : ∀ c ∈ tag.toList, foldedCharacters lowercase c = [c] := by
    intro c isChar
    have tagged := extracted.2 c isChar
    obtain ⟨_, _, _, noFold, lower⟩ := plain_of_isTagChar tagged
    have small := toNat_lt_of_isHashtagChar (Bool.and_eq_true_iff.mp tagged).1
    rw [foldedCharacters, lowers c small, lower, List.flatMap_singleton, noFold]
    rfl
  have whole : tag.toList.flatMap (foldedCharacters lowercase) = tag.toList := by
    rw [List.flatMap_congr folded, List.flatMap_singleton']
  rw [normalizeHashtag, extracted.trim_eq, extracted.trimStartMatches_eq,
    normalizeSearchMatchText, quotes, extracted.trim_eq, whole, String.ofList_toList]

structure TagTimelineQuery.Plain (query : TagTimelineQuery) : Prop where
  any : query.any = Option.none
  all : query.all = Option.none
  none : query.none = Option.none
  onlyMedia : query.onlyMedia = Option.none

/-- **The timeline has the public statuses with the normalised tag**, from the sources that
are asked for. -/
theorem tagTimelineContains_iff (lowers : LowersAscii lowercase) {query : TagTimelineQuery}
    (plain : query.Plain) (hashtag : String) (status : IndexedStatus) :
    tagTimelineContains lowercase hashtag query status = true
      ↔ query.includes status.content = true ∧ status.visibility = .publicPost
        ∧ normalizeHashtag lowercase hashtag ∈ status.content.hashtags := by
  have cands : ∀ tag, tagTimelineCandidateTags lowercase tag query = [tag] := by
    intro tag
    rw [tagTimelineCandidateTags, plain.any]
    rfl
  have filters : ∀ tags tag, matchesTagTimelineFilters lowercase tags tag query
      = tags.contains tag := by
    intro tags tag
    rw [matchesTagTimelineFilters, cands, plain.all, plain.none]
    simp
  rw [tagTimelineContains, cands, filters, plain.onlyMedia]
  by_cases blank : normalizeHashtag lowercase hashtag = ""
  · rw [if_pos blank, blank]
    refine iff_of_false (by simp) fun ⟨_, _, tagged⟩ => ?_
    exact (StatusContent.isExtracted tagged).ne_empty rfl
  · rw [if_neg blank]
    simp only [Option.getD_none, Bool.not_false, Bool.true_or, Bool.and_true, Bool.and_eq_true,
      List.contains_iff_mem]
    constructor
    · rintro ⟨⟨included, listed⟩, tagged⟩
      rw [listedByTags, Bool.and_eq_true, decide_eq_true_eq] at listed
      exact ⟨included, listed.1, tagged⟩
    · rintro ⟨included, isPublic, tagged⟩
      refine ⟨⟨included, ?_⟩, tagged⟩
      have again := normalizeHashtag_of_isExtracted lowers (StatusContent.isExtracted tagged)
      rw [listedByTags, Bool.and_eq_true, decide_eq_true_eq, List.any_eq_true]
      refine ⟨isPublic, _, (status.indexed _).mpr tagged, ?_⟩
      rw [List.contains_iff_mem, normalizeUniqueTags, mem_pushMissing, List.mem_filter,
        List.map_singleton, again, List.mem_singleton]
      exact Or.inr ⟨rfl, by simpa using blank⟩

end Cfwdon.Timelines
