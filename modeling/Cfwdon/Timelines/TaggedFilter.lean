import Cfwdon.Library.UrlHosts
import Cfwdon.Timelines.TagTimeline

/-!
# The tag filter of account statuses

The statuses of an account can be asked for by a tag.  The filter looks for the tag behind a
hash sign in the text, and not among the hashtags of the text: a longer hashtag that begins
with the tag is found as well, and so is a hash sign inside a word.
-/

namespace Cfwdon.Timelines

open Library Search Statuses

/-- The tag that `status_contains_tag` looks for. -/
def normalizedTag (tag : String) : String :=
  toAsciiLowercase (trimStartMatches (trim tag) "#")

def statusContainsTag (text tag : String) : Bool :=
  if normalizedTag tag = "" then true
  else occursIn ('#' :: (normalizedTag tag).toList) (toAsciiLowercase text).toList

theorem occursIn_iff {pat text : List Char} : occursIn pat text = true ↔ pat <:+: text := by
  induction text with
  | nil => rw [occursIn, List.isEmpty_iff, List.infix_nil]
  | cons c rest ih =>
    rw [occursIn, Bool.or_eq_true, ih, List.isPrefixOf_iff_prefix, List.infix_cons_iff]

variable {text tag : String} {c : Char} {prev : Option Char}

theorem containsTag_iff (named : normalizedTag tag ≠ "") :
    statusContainsTag text tag = true
      ↔ '#' :: (normalizedTag tag).toList <:+: text.toList.map Char.toLower := by
  rw [statusContainsTag, if_neg named, occursIn_iff, toList_lowercase]

/-! ## Hashtags that stand alone -/

@[simp]
theorem isHashtagChar_toLower (c : Char) : isHashtagCharacter c.toLower = isHashtagCharacter c := by
  rcases toLower_cases c with own | ⟨n, below, above, rfl⟩
  · rw [own]
  · have both : ∀ n < 91, 65 ≤ n →
        isHashtagCharacter (Char.ofNat n).toLower = isHashtagCharacter (Char.ofNat n) := by
      decide
    exact both n below above

theorem toLower_eq_hash : c.toLower = '#' ↔ c = '#' := by
  constructor
  · exact fun eq => eq_of_toLower_eq eq (by decide)
  · rintro rfl
    decide

/-- No character of a hashtag. -/
def isBoundary (c : Char) : Bool :=
  !isHashtagCharacter c

/-- A word stands behind a hash sign in the text, with no character of a hashtag before the
hash sign, nor after the word. -/
def StandsAlone (previous : Option Char) (text word : List Char) : Prop :=
  ∃ before after, text = before ++ '#' :: (word ++ after)
    ∧ (before.getLast?.or previous).all isBoundary = true ∧ after.head?.all isBoundary = true

/-- A word is all that is taken of a text exactly if it begins the text and goes on no
further. -/
theorem takeWhile_eq_iff {word text : List Char} :
    text.takeWhile isHashtagCharacter = word
      ↔ (∀ c ∈ word, isHashtagCharacter c = true)
        ∧ ∃ post, text = word ++ post ∧ post.head?.all isBoundary = true := by
  constructor
  · rintro rfl
    refine ⟨fun c mem => List.mem_takeWhile_imp mem, text.dropWhile isHashtagCharacter,
      List.takeWhile_append_dropWhile.symm, ?_⟩
    have first := List.head?_dropWhile_not isHashtagCharacter text
    cases head : (text.dropWhile isHashtagCharacter).head? with
    | none => rfl
    | some c =>
      rw [head] at first
      rwa [Option.all_some, isBoundary, Bool.not_eq_true']
  · rintro ⟨each, post, rfl, stops⟩
    rw [List.takeWhile_append_of_pos each]
    cases post with
    | nil => rw [List.takeWhile_nil, List.append_nil]
    | cons c post =>
      rw [List.head?_cons, Option.all_some, isBoundary, Bool.not_eq_true'] at stops
      rw [List.takeWhile_cons, stops]
      exact List.append_nil word

theorem standsAlone_cons_iff {text word : List Char}
    (each : ∀ d ∈ word, isHashtagCharacter d = true) :
    StandsAlone prev (c :: text) word
      ↔ (c = '#' ∧ prev.all isBoundary = true ∧ text.takeWhile isHashtagCharacter = word)
        ∨ StandsAlone (some c) text word := by
  rw [takeWhile_eq_iff]
  constructor
  · rintro ⟨pre, post, parts, start, stops⟩
    cases pre with
    | nil =>
      obtain ⟨rfl, rfl⟩ := List.cons.inj parts
      exact Or.inl ⟨rfl, start, each, post, rfl, stops⟩
    | cons d pre =>
      obtain ⟨rfl, rfl⟩ := List.cons.inj parts
      refine Or.inr ⟨pre, post, rfl, ?_, stops⟩
      rw [List.getLast?_cons] at start
      cases last : pre.getLast? with
      | none | some e => rwa [last] at start
  · rintro (⟨rfl, start, -, post, rfl, stops⟩ | ⟨pre, post, rfl, start, stops⟩)
    · exact ⟨[], post, rfl, start, stops⟩
    · refine ⟨c :: pre, post, rfl, ?_, stops⟩
      rw [List.getLast?_cons]
      cases last : pre.getLast? with
      | none | some e => rwa [last] at start

/-- **The hashtags of a text** are the words behind a hash sign that stand alone, up to
case. -/
theorem mem_hashtagsAfter_iff {text : List Char} {tag : String} :
    tag ∈ hashtagsAfter prev text
      ↔ tag ≠ "" ∧ (∀ c ∈ tag.toList, isHashtagCharacter c = true)
        ∧ StandsAlone (prev.map Char.toLower) (text.map Char.toLower) tag.toList := by
  induction text generalizing prev with
  | nil =>
    rw [hashtagsAfter]
    constructor
    · intro mem
      cases mem
    · rintro ⟨-, -, pre, post, parts, -⟩
      rw [List.map_nil] at parts
      exact absurd parts.symm (List.append_ne_nil_of_right_ne_nil _ (List.cons_ne_nil _ _))
  | cons c rest ih =>
    have folded : (rest.map Char.toLower).takeWhile isHashtagCharacter
        = (toAsciiLowercase (String.ofList (rest.takeWhile isHashtagCharacter))).toList := by
      rw [toList_lowercase, String.toList_ofList, List.takeWhile_map]
      congr 2
      funext d
      exact isHashtagChar_toLower d
    have start : (prev.map Char.toLower).all isBoundary
        = prev.all fun d => !isHashtagCharacter d := by
      cases prev with
      | none => rfl
      | some d => simp [isBoundary]
    have ne : rest.takeWhile isHashtagCharacter ≠ []
        ↔ toAsciiLowercase (String.ofList (rest.takeWhile isHashtagCharacter)) ≠ "" := by
      rw [ne_eq, ne_eq, ← String.toList_inj, toList_lowercase, String.toList_ofList]
      exact not_congr List.map_eq_nil_iff.symm
    have here : tag ∈ hashtagsAfter prev (c :: rest)
        ↔ (c = '#' ∧ (prev.map Char.toLower).all isBoundary = true ∧ tag ≠ ""
            ∧ (rest.map Char.toLower).takeWhile isHashtagCharacter = tag.toList)
          ∨ tag ∈ hashtagsAfter (some c) rest := by
      rw [hashtagsAfter, start, folded, String.toList_inj]
      split_ifs with starts
      · rw [List.mem_cons]
        refine or_congr_left ⟨?_, fun got => got.2.2.2.symm⟩
        rintro rfl
        exact ⟨starts.1, starts.2.1, ne.mp starts.2.2, rfl⟩
      · refine (or_iff_right ?_).symm
        rintro ⟨isHash, free, named, rfl⟩
        exact starts ⟨isHash, free, ne.mpr named⟩
    rw [here, ih, List.map_cons, Option.map_some]
    constructor
    · rintro (⟨isHash, free, named, taken⟩ | ⟨named, each, further⟩)
      · have each := (takeWhile_eq_iff.mp taken).1
        exact ⟨named, each, (standsAlone_cons_iff each).mpr
          (Or.inl ⟨toLower_eq_hash.mpr isHash, free, taken⟩)⟩
      · exact ⟨named, each, (standsAlone_cons_iff each).mpr (Or.inr further)⟩
    · rintro ⟨named, each, alone⟩
      rcases (standsAlone_cons_iff each).mp alone with ⟨isHash, free, taken⟩ | further
      · exact Or.inl ⟨toLower_eq_hash.mp isHash, free, named, taken⟩
      · exact Or.inr ⟨named, each, further⟩

theorem mem_extractHashtags_iff :
    tag ∈ extractHashtagsFromText text
      ↔ tag ≠ "" ∧ (∀ c ∈ tag.toList, isHashtagCharacter c = true)
        ∧ StandsAlone none (text.toList.map Char.toLower) tag.toList := by
  rw [extractHashtagsFromText, mem_pushMissing, mem_hashtagsAfter_iff]
  exact or_iff_right List.not_mem_nil

/-! ## The filter and the hashtags -/

theorem normalizedTag_of_forall {tag : String}
    (each : ∀ c ∈ tag.toList, isHashtagCharacter c = true) :
    normalizedTag tag = toAsciiLowercase tag := by
  have noBlank : ∀ c ∈ tag.toList, isWhitespace c = false := by
    intro c mem
    by_contra white
    rw [Bool.not_eq_false] at white
    have none := (not_isHashtagChar_of_isWhitespace white).1
    rw [each c mem] at none
    cases none
  have noHash : "#".toList.isPrefixOf tag.toList = false := by
    cases chars : tag.toList with
    | nil => rfl
    | cons c rest =>
      have first := each c (chars ▸ List.mem_cons_self)
      refine Bool.eq_false_iff.mpr fun starts => ?_
      obtain ⟨eq, -⟩ := List.cons_prefix_cons.mp (List.isPrefixOf_iff_prefix.mp starts)
      rw [← eq] at first
      exact absurd first (by decide)
  rw [normalizedTag, trim, trimMatches_of_forall noBlank, trimStartMatches_of_not_isPrefix noHash]

theorem normalizedTag_of_mem
    (mem : toAsciiLowercase tag ∈ extractHashtagsFromText text) :
    normalizedTag tag = toAsciiLowercase tag := by
  obtain ⟨-, each, -⟩ := mem_extractHashtags_iff.mp mem
  refine normalizedTag_of_forall fun c inside => ?_
  have lowered := each c.toLower (toList_lowercase tag ▸ List.mem_map.mpr ⟨c, inside, rfl⟩)
  rwa [isHashtagChar_toLower] at lowered

/-- A tag that stands anywhere in the text behind a hash sign also stands alone in it, and
is of characters of hashtags. -/
def AloneIfAnywhere (text word : List Char) : Prop :=
  '#' :: word <:+: text → (∀ c ∈ word, isHashtagCharacter c = true) ∧ StandsAlone none text word

def FindsHashtag (text tag name : String) : Prop :=
  statusContainsTag text tag = true ↔ name ∈ extractHashtagsFromText text

theorem findsHashtag_normalizedTag_iff (text tag : String) :
    FindsHashtag text tag (normalizedTag tag)
      ↔ normalizedTag tag ≠ ""
        ∧ AloneIfAnywhere (text.toList.map Char.toLower) (normalizedTag tag).toList := by
  rw [FindsHashtag, mem_extractHashtags_iff]
  by_cases named : normalizedTag tag = ""
  · rw [statusContainsTag, if_pos named]
    exact ⟨fun eq => absurd named (eq.mp rfl).1, fun both => absurd named both.1⟩
  · rw [containsTag_iff named]
    constructor
    · exact fun eq => ⟨named, fun stands => (eq.mp stands).2⟩
    · rintro ⟨-, alone⟩
      refine ⟨fun stands => ⟨named, alone stands⟩, ?_⟩
      rintro ⟨-, -, pre, post, parts, -⟩
      exact ⟨pre, post, by rw [parts, List.append_assoc, List.cons_append]⟩

/-- **When the tag filter finds the hashtags of a text**: if the tag is not empty, and
stands alone somewhere in the text if it stands anywhere; and for the tag as it was given,
if it then has no blanks and hash signs around it. -/
theorem status_contains_tag_iff (text tag : String) :
    (FindsHashtag text tag (normalizedTag tag)
      ↔ normalizedTag tag ≠ ""
        ∧ AloneIfAnywhere (text.toList.map Char.toLower) (normalizedTag tag).toList)
    ∧ (FindsHashtag text tag (toAsciiLowercase tag)
      ↔ normalizedTag tag ≠ ""
        ∧ AloneIfAnywhere (text.toList.map Char.toLower) (normalizedTag tag).toList
        ∧ ('#' :: (normalizedTag tag).toList <:+: text.toList.map Char.toLower →
          toAsciiLowercase tag = normalizedTag tag)) := by
  refine ⟨findsHashtag_normalizedTag_iff text tag, ?_⟩
  have norm := findsHashtag_normalizedTag_iff text tag
  rw [← and_assoc, ← norm, FindsHashtag, FindsHashtag]
  constructor
  · intro eq
    have named : normalizedTag tag ≠ "" := by
      intro empty
      have mem := eq.mp (if_pos empty)
      rw [normalizedTag_of_mem mem] at empty
      exact (mem_extractHashtags_iff.mp mem).1 empty
    have sameTag : '#' :: (normalizedTag tag).toList <:+: text.toList.map Char.toLower →
        toAsciiLowercase tag = normalizedTag tag := fun stands =>
      (normalizedTag_of_mem (eq.mp ((containsTag_iff named).mpr stands))).symm
    refine ⟨?_, sameTag⟩
    constructor
    · intro contains
      rw [← sameTag ((containsTag_iff named).mp contains)]
      exact eq.mp contains
    · intro mem
      rw [containsTag_iff named]
      exact isInfix_of_mem_extractHashtags mem
  · rintro ⟨eq, sameTag⟩
    constructor
    · intro contains
      have mem := eq.mp contains
      rw [sameTag (isInfix_of_mem_extractHashtags mem)]
      exact mem
    · intro mem
      refine eq.mpr ?_
      rw [normalizedTag_of_mem mem]
      exact mem

/-- A text about `#rustlang` is found by the tag `rust`, which is none of its hashtags. -/
theorem longer_hashtag_is_found :
    statusContainsTag "All about #rustlang" "rust" = true
      ∧ extractHashtagsFromText "All about #rustlang" = ["rustlang"]
      ∧ ¬ FindsHashtag "All about #rustlang" "rust" (normalizedTag "rust")
      ∧ ¬ FindsHashtag "All about #rustlang" "rust" (toAsciiLowercase "rust") := by
  have contains : statusContainsTag "All about #rustlang" "rust" = true := by decide +kernel
  have tags : extractHashtagsFromText "All about #rustlang" = ["rustlang"] := by
    decide +kernel
  refine ⟨contains, tags, fun eq => ?_, fun eq => ?_⟩
  · exact absurd (tags ▸ eq.mp contains) (by decide +kernel)
  · exact absurd (tags ▸ eq.mp contains) (by decide +kernel)

end Cfwdon.Timelines
