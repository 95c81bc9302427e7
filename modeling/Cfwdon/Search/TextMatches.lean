import Cfwdon.Library.Lists
import Cfwdon.Search.Parsing

/-!
# What a status search matches

A plain term is looked for in the text and the spoiler after both are folded: quotes are
one character, letters are lower case and without accents.  A term with a hash sign is
compared with the hashtags of the two texts.

The lower case of a character is a parameter, since it comes from the Unicode tables.
-/

namespace Cfwdon.Search

open Library

def isHashtagCharacter (c : Char) : Bool :=
  c.isAlphanum || c == '_'

/-- The hashtags of a text, by the character before it.  The characters of a hashtag hold
no hash sign, so reading on in one finds nothing. -/
def hashtagsAfter : Option Char → List Char → List String
  | _, [] => []
  | previous, c :: rest =>
    let tag := rest.takeWhile isHashtagCharacter
    if c = '#' ∧ previous.all (fun c => !isHashtagCharacter c) = true ∧ tag ≠ [] then
      toAsciiLowercase (String.ofList tag) :: hashtagsAfter (some c) rest
    else hashtagsAfter (some c) rest

def extractHashtagsFromText (text : String) : List String :=
  pushMissing [] (hashtagsAfter none text.toList)

theorem isInfix_of_mem_hashtagsAfter {prev : Option Char} {text : List Char} {tag : String}
    (mem : tag ∈ hashtagsAfter prev text) :
    '#' :: tag.toList <:+: text.map Char.toLower := by
  induction text generalizing prev with
  | nil => cases mem
  | cons c rest ih =>
    have later : tag ∈ hashtagsAfter (some c) rest →
        '#' :: tag.toList <:+: (c :: rest).map Char.toLower := fun got =>
      (ih got).trans (List.suffix_cons ..).isInfix
    rw [hashtagsAfter] at mem
    split_ifs at mem with starts
    · obtain ⟨rfl, -, -⟩ := starts
      rcases List.mem_cons.mp mem with rfl | got
      · rw [toList_lowercase, String.toList_ofList]
        refine List.IsPrefix.isInfix (List.cons_prefix_cons.mpr ⟨rfl, ?_⟩)
        exact (List.takeWhile_prefix _).map _
      · exact later got
    · exact later mem

/-- **A hashtag stands in its text**, up to case. -/
theorem isInfix_of_mem_extractHashtags {text tag : String}
    (mem : tag ∈ extractHashtagsFromText text) :
    '#' :: tag.toList <:+: text.toList.map Char.toLower := by
  rcases mem_pushMissing.mp mem with none | got
  · cases none
  · exact isInfix_of_mem_hashtagsAfter got

/-! ## Folded text -/

section Folding

variable (lowercase : Char → List Char)

def searchMatchFolds : List (String × String) :=
  [("àáâãäåāăąǎ", "a"), ("æ", "ae"), ("çćĉċč", "c"), ("ďđ", "d"), ("èéêëēĕėęě", "e"),
    ("ƒ", "f"), ("ĝğġģ", "g"), ("ĥħ", "h"), ("ìíîïĩīĭįı", "i"), ("ĵ", "j"), ("ķ", "k"),
    ("ĺļľŀł", "l"), ("ñńņň", "n"), ("òóôõöøōŏő", "o"), ("œ", "oe"), ("ŕŗř", "r"),
    ("śŝşš", "s"), ("ß", "ss"), ("ţťŧ", "t"), ("ùúûüũūŭůűų", "u"), ("ŵ", "w"), ("ýÿŷ", "y"),
    ("źżž", "z")]

def foldSearchMatchCharacter (c : Char) : Option String :=
  (searchMatchFolds.find? fun (letters, _) => letters.toList.contains c).map (·.2)

def foldedCharacters (c : Char) : List Char :=
  (lowercase c).flatMap fun lower =>
    (foldSearchMatchCharacter lower).elim [lower] String.toList

def normalizeSearchMatchText (value : String) : String :=
  String.ofList ((trim (normalizeSearchQueryInput value)).toList.flatMap
    (foldedCharacters lowercase))

/-! ## Matching -/

def statusSearchTermMatches (term content spoilerText : String) : Bool :=
  let term := trim term
  if term = "" then false
  else
    match stripPrefix term "#" with
    | some hashtag =>
      let hashtag := toAsciiLowercase (trim hashtag)
      if hashtag = "" then false
      else (extractHashtagsFromText content).contains hashtag
        || (extractHashtagsFromText spoilerText).contains hashtag
    | none =>
      let term := (normalizeSearchMatchText lowercase term).toList
      occursIn term (normalizeSearchMatchText lowercase content).toList
        || occursIn term (normalizeSearchMatchText lowercase spoilerText).toList

/-- Whether a flag is as expected, if anything is. -/
def asExpected (expected : Option Bool) (actual : Bool) : Bool :=
  expected.all (· == actual)

def statusMatchesSearchSyntax (parsed : ParsedStatusSearchQuery) (content spoilerText : String)
    (inReplyTo sensitive isBoost isQuote : Bool) (language : Option String) : Bool :=
  !parsed.unsatisfiable
    && parsed.includedTextTerms.all
      (fun term => statusSearchTermMatches lowercase term content spoilerText)
    && !parsed.excludedTextTerms.any
      (fun term => statusSearchTermMatches lowercase term content spoilerText)
    && asExpected parsed.isReply inReplyTo
    && asExpected parsed.isSensitive sensitive
    && asExpected parsed.isBoost isBoost
    && asExpected parsed.isQuote isQuote
    && parsed.language.all
      (fun expected => language.bind normalizeStatusSearchLanguage == some expected)
    && parsed.notLanguage.all
      (fun excluded => language.bind normalizeStatusSearchLanguage != some excluded)

variable {lowercase} {term content spoilerText : String}

end Folding

example : extractHashtagsFromText "Hello #Rust #rust and a#b #fediverse_test"
    = ["rust", "fediverse_test"] := by
  decide +kernel

end Cfwdon.Search
