import Cfwdon.Search.TextMatches
import Cfwdon.Statuses.Content

/-!
# The hashtags of a rendered status

The hashtags of a status are read from its text, and for the hashtag channels also from the
paragraphs that it is rendered to, once the tags are stripped.  Rendering escapes five
characters and turns line breaks into tags; stripping takes the tags away and leaves the
entities.

The entity of an apostrophe holds a hash sign and a number, so it reads as the hashtag `39`.
-/

namespace Cfwdon.Statuses

open Library Search

def extractHashtagsFromHtml (html : String) : List String :=
  extractHashtagsFromText (stripHtmlTags html)

/-! ## What is left of the rendered text -/

def escapedCharacter (c : Char) : List Char :=
  if c = '&' then "&amp;".toList
  else if c = '<' then "&lt;".toList
  else if c = '>' then "&gt;".toList
  else if c = '"' then "&quot;".toList
  else if c = '\'' then "&#39;".toList
  else [c]

def escapable : List Char := ['&', '<', '>', '"', '\'']

variable {c : Char} {paragraph : List Char}

theorem escaped_of_notMem (plain : c ∉ escapable) : escapedCharacter c = [c] := by
  simp only [escapable, List.mem_cons, List.not_mem_nil, or_false, not_or] at plain
  obtain ⟨notAmpersand, notLess, notGreater, notQuote, notApostrophe⟩ := plain
  rw [escapedCharacter, if_neg notAmpersand, if_neg notLess, if_neg notGreater,
    if_neg notQuote, if_neg notApostrophe]

theorem toList_escapeHtml (value : String) :
    (escapeHtml value).toList = value.toList.flatMap escapedCharacter := by
  have singles : "&".toList = ['&'] ∧ "<".toList = ['<'] ∧ ">".toList = ['>']
      ∧ "\"".toList = ['"'] ∧ "'".toList = ['\''] := by decide
  obtain ⟨ampersand, less, greater, quote, apostrophe⟩ := singles
  simp only [escapeHtml, replaceEach, List.foldl_cons, List.foldl_nil]
  rw [toList_replaceAll apostrophe, toList_replaceAll quote, toList_replaceAll greater,
    toList_replaceAll less, toList_replaceAll ampersand]
  simp only [List.flatMap_assoc]
  refine congrArg (fun escape => value.toList.flatMap escape) (funext fun c => ?_)
  by_cases special : c ∈ escapable
  · simp only [escapable, List.mem_cons, List.not_mem_nil, or_false] at special
    rcases special with rfl | rfl | rfl | rfl | rfl <;> rfl
  · rw [escaped_of_notMem special]
    simp only [escapable, List.mem_cons, List.not_mem_nil, or_false, not_or] at special
    simp only [special, if_false, List.flatMap_cons, List.flatMap_nil, List.append_nil]

/-- An entity: an ampersand, a name without brackets and line breaks, and a semicolon. -/
structure IsEntity (chars name : List Char) : Prop where
  spelled : chars = '&' :: (name ++ [';'])
  plain : ∀ c ∈ name, c ≠ '<' ∧ c ≠ '>' ∧ c ≠ '\n'

/-- A character is left alone or replaced by an entity, which stands for no character of a
hashtag and, but for the apostrophe, has no hash sign. -/
theorem escaped_cases (c : Char) :
    (escapedCharacter c = [c] ∧ c ≠ '<' ∧ c ≠ '>' ∧ c ≠ '\'')
      ∨ ∃ name, IsEntity (escapedCharacter c) name ∧ isHashtagCharacter c = false
        ∧ c ≠ '\n' ∧ c ≠ '#' ∧ ('#' ∈ name ↔ c = '\'') := by
  by_cases special : c ∈ escapable
  · right
    simp only [escapable, List.mem_cons, List.not_mem_nil, or_false] at special
    rcases special with rfl | rfl | rfl | rfl | rfl
    · exact ⟨"amp".toList, ⟨rfl, forall_mem_of_all (by decide)⟩, by decide⟩
    · exact ⟨"lt".toList, ⟨rfl, forall_mem_of_all (by decide)⟩, by decide⟩
    · exact ⟨"gt".toList, ⟨rfl, forall_mem_of_all (by decide)⟩, by decide⟩
    · exact ⟨"quot".toList, ⟨rfl, forall_mem_of_all (by decide)⟩, by decide⟩
    · exact ⟨"#39".toList, ⟨rfl, forall_mem_of_all (by decide)⟩, by decide⟩
  · left
    refine ⟨escaped_of_notMem special, ?_, ?_, ?_⟩ <;> rintro rfl
    · exact special (by decide)
    · exact special (by decide)
    · exact special (by decide)

theorem noBrackets_of_mem_escaped {c d : Char} (mem : d ∈ escapedCharacter c) :
    d ≠ '<' ∧ d ≠ '>' := by
  rcases escaped_cases c with ⟨alone, notLess, notGreater, _⟩ | ⟨name, entity, _⟩
  · rw [alone, List.mem_singleton] at mem
    rw [mem]
    exact ⟨notLess, notGreater⟩
  · rw [entity.spelled] at mem
    rcases List.mem_cons.mp mem with rfl | within
    · decide
    · rcases List.mem_append.mp within with named | last
      · exact ⟨(entity.plain d named).1, (entity.plain d named).2.1⟩
      · rw [List.mem_singleton.mp last]
        decide

def isNoBreak (c : Char) : Bool := c ≠ '\n'

theorem filter_escaped (chars : List Char) :
    (chars.flatMap escapedCharacter).filter isNoBreak
      = (chars.filter isNoBreak).flatMap escapedCharacter := by
  induction chars with
  | nil => rfl
  | cons c rest ih =>
    rw [List.flatMap_cons, List.filter_append, ih, List.filter_cons]
    rcases escaped_cases c with ⟨alone, _⟩ | ⟨name, entity, _, noBreak, _⟩
    · rw [alone, List.filter_singleton]
      by_cases kept : isNoBreak c = true
      · rw [kept, if_pos rfl, List.flatMap_cons, alone]
        rfl
      · rw [if_neg kept, Bool.eq_false_iff.mpr kept]
        rfl
    · have whole : (escapedCharacter c).filter isNoBreak = escapedCharacter c := by
        rw [List.filter_eq_self, entity.spelled]
        intro d mem
        rcases List.mem_cons.mp mem with rfl | within
        · rfl
        · rcases List.mem_append.mp within with named | last
          · simpa [isNoBreak] using (entity.plain d named).2.2
          · rw [List.mem_singleton.mp last]
            rfl
      rw [whole, if_pos (by simpa [isNoBreak] using noBreak), List.flatMap_cons]

/-! ## Stripping the tags -/

/-- Characters that are stripped to others, whatever follows. -/
def StrippedTo (chars kept : List Char) : Prop :=
  ∀ rest, dropTags false (chars ++ rest) = kept ++ dropTags false rest

namespace StrippedTo

theorem nil : StrippedTo [] [] := fun _ => rfl

theorem append {first second firstKept secondKept : List Char}
    (pre : StrippedTo first firstKept) (behind : StrippedTo second secondKept) :
    StrippedTo (first ++ second) (firstKept ++ secondKept) := by
  intro rest
  rw [List.append_assoc, pre, behind, List.append_assoc]

theorem flatMap {α : Type} {pieces : List α} {wrote kept : α → List Char}
    (stripped : ∀ piece ∈ pieces, StrippedTo (wrote piece) (kept piece)) :
    StrippedTo (pieces.flatMap wrote) (pieces.flatMap kept) := by
  induction pieces with
  | nil => exact nil
  | cons piece rest ih =>
    rw [List.forall_mem_cons] at stripped
    rw [List.flatMap_cons, List.flatMap_cons]
    exact stripped.1.append (ih stripped.2)

theorem singleton (plain : c ≠ '<' ∧ c ≠ '>') : StrippedTo [c] [c] := by
  intro rest
  simp [dropTags, plain.1, plain.2]

end StrippedTo

def breakTag : List Char := ['<', 'b', 'r', ' ', '/', '>']

theorem strippedTo_paragraph
    (plain : ∀ c ∈ paragraph, c ≠ '<' ∧ c ≠ '>') :
    StrippedTo (paragraph.flatMap fun c => if c = '\n' then breakTag else [c])
      (paragraph.filter isNoBreak) := by
  have kept : paragraph.filter isNoBreak
      = paragraph.flatMap fun c => if c = '\n' then [] else [c] := by
    rw [← List.filterMap_eq_filter, List.filterMap_eq_flatMap_toList]
    refine congrArg (fun kept => paragraph.flatMap kept) (funext fun c => ?_)
    by_cases isBreak : c = '\n' <;> simp [isNoBreak, isBreak, Option.guard]
  rw [kept]
  refine StrippedTo.flatMap fun c mem => ?_
  by_cases isBreak : c = '\n'
  · rw [if_pos isBreak, if_pos isBreak]
    exact fun _ => rfl
  · rw [if_neg isBreak, if_neg isBreak]
    exact StrippedTo.singleton (plain c mem)

def paragraphs (escaped : String) : List (List Char) :=
  splitOccurrences ['\n', '\n'] 0 escaped.toList

def writtenParagraph (paragraph : List Char) : List Char :=
  ['<', 'p', '>'] ++ (paragraph.flatMap fun c => if c = '\n' then breakTag else [c])
    ++ ['<', '/', 'p', '>']

variable (text : String) (shown broken : Bool)

theorem toList_rendered :
    (renderStatusHtml text).toList
      = (paragraphs (escapeHtml (trim text))).flatMap writtenParagraph := by
  have some : splitOn (escapeHtml (trim text)) "\n\n" ≠ [] := by
    simpa [splitOn] using occurrences_ne_nil _ _ 0
  have lineBreak : "\n".toList = ['\n'] := by decide
  have breaks : "\n\n".toList = ['\n', '\n'] := by decide
  have tags : "<p>".toList = ['<', 'p', '>'] ∧ "</p>".toList = ['<', '/', 'p', '>']
      ∧ "<br />".toList = breakTag := by decide
  rw [renderStatusHtml]
  simp only [List.isEmpty_iff, List.map_eq_nil_iff, some, if_false]
  have each : ∀ paragraph : List Char,
      ("<p>" ++ replaceAll (String.ofList paragraph) "\n" "<br />" ++ "</p>").toList
        = writtenParagraph paragraph := by
    intro paragraph
    rw [String.toList_append, String.toList_append, toList_replaceAll lineBreak,
      tags.1, tags.2.1, tags.2.2, String.toList_ofList, writtenParagraph]
  rw [toList_joinWith_empty, splitOn, breaks, List.map_map, List.flatMap_map, paragraphs]
  simp only [Function.comp_apply, each]

theorem strippedTo_writtenParagraph
    (plain : ∀ c ∈ paragraph, c ≠ '<' ∧ c ≠ '>') :
    StrippedTo (writtenParagraph paragraph) (paragraph.filter isNoBreak) := by
  have opens : StrippedTo ['<', 'p', '>'] [] := fun _ => rfl
  have closes : StrippedTo ['<', '/', 'p', '>'] [] := fun _ => rfl
  have whole := (opens.append (strippedTo_paragraph plain)).append closes
  rwa [List.nil_append, List.append_nil] at whole

/-- **What is left of a rendered text**: the trimmed text without its line breaks, escaped. -/
theorem toList_stripHtmlTags_rendered :
    (stripHtmlTags (renderStatusHtml text)).toList
      = ((trim text).toList.filter isNoBreak).flatMap escapedCharacter := by
  have plain : ∀ c ∈ (escapeHtml (trim text)).toList, c ≠ '<' ∧ c ≠ '>' := by
    intro c mem
    rw [toList_escapeHtml] at mem
    obtain ⟨d, _, escaped⟩ := List.mem_flatMap.mp mem
    exact noBrackets_of_mem_escaped escaped
  have inside : ∀ paragraph ∈ paragraphs (escapeHtml (trim text)),
      ∀ c ∈ paragraph, c ≠ '<' ∧ c ≠ '>' := by
    intro paragraph mem c isChar
    have among : c ∈ (paragraphs (escapeHtml (trim text))).flatten :=
      List.mem_flatten.mpr ⟨paragraph, mem, isChar⟩
    have pieces := flatten_occurrences_sublist ['\n', '\n'] 0 (escapeHtml (trim text)).toList
    exact plain c (pieces.subset among)
  have stripped := (StrippedTo.flatMap fun paragraph mem =>
    strippedTo_writtenParagraph (inside paragraph mem)) []
  have breaks : ∀ c ∈ ['\n', '\n'], isNoBreak c = false := forall_mem_of_all (by decide)
  rw [List.append_nil, dropTags, List.append_nil] at stripped
  rw [stripHtmlTags, String.toList_ofList, toList_rendered, stripped, ← filter_escaped,
    ← toList_escapeHtml, ← filter_flatten_occurrences (List.cons_ne_nil _ _) breaks 0 _ (by simp),
    List.filter_flatten, ← List.flatMap_def]
  rfl

/-! ## What the hash signs name -/

/-- What a hash sign names, behind a character of a word or not. -/
def hashReading (joined : Bool) (rest : List Char) : Option String :=
  let tag := rest.takeWhile isHashtagCharacter
  if joined = false ∧ tag ≠ [] then some (toAsciiLowercase (String.ofList tag)) else none

/-- What each hash sign of a text names. -/
def hashReadings : Bool → List Char → List (Option String)
  | _, [] => []
  | joined, c :: rest =>
    if c = '#' then hashReading joined rest :: hashReadings false rest
    else hashReadings (isHashtagCharacter c) rest

theorem hashtagsAfter_eq (prev : Option Char) (text : List Char) :
    hashtagsAfter prev text = (hashReadings (prev.any isHashtagCharacter) text).filterMap id := by
  induction text generalizing prev with
  | nil => rfl
  | cons c rest ih =>
    have loose : prev.all (fun c => !isHashtagCharacter c) = true
        ↔ prev.any isHashtagCharacter = false := by
      cases prev <;> simp
    rw [hashtagsAfter, hashReadings, ih]
    by_cases isHash : c = '#'
    · rw [if_pos isHash, isHash]
      have noWord : (some '#').any isHashtagCharacter = false := by decide
      rw [noWord, hashReading]
      by_cases named : prev.any isHashtagCharacter = false
          ∧ rest.takeWhile isHashtagCharacter ≠ []
      · rw [if_pos ⟨rfl, loose.mpr named.1, named.2⟩, if_pos named]
        rfl
      · rw [if_neg fun names => named ⟨loose.mp names.2.1, names.2.2⟩, if_neg named]
        rfl
    · rw [if_neg fun names => isHash names.1, if_neg isHash, Option.any_some]

theorem hashtags_eq :
    extractHashtagsFromText text
      = pushMissing [] ((hashReadings false text.toList).filterMap id) := by
  rw [extractHashtagsFromText, hashtagsAfter_eq]
  rfl

theorem length_hashReadings (joined : Bool) (text : List Char) :
    (hashReadings joined text).length = text.count '#' := by
  induction text generalizing joined with
  | nil => rfl
  | cons c rest ih =>
    rw [hashReadings, List.count_cons]
    by_cases isHash : c = '#'
    · rw [if_pos isHash, List.length_cons, ih, isHash]
      rfl
    · rw [if_neg isHash, ih, if_neg (by simpa using isHash), Nat.add_zero]

variable {chars : List Char}

/-- Characters without a hash sign only say whether the next one stands behind a word. -/
theorem hashReadings_append (noHash : '#' ∉ chars) (last : Char)
    (isLast : chars.getLast? = some last) (joined : Bool) (rest : List Char) :
    hashReadings joined (chars ++ rest) = hashReadings (isHashtagCharacter last) rest := by
  induction chars generalizing joined with
  | nil => cases isLast
  | cons c later ih =>
    obtain ⟨notHash, noneLater⟩ := not_or.mp fun mem => noHash (List.mem_cons.mpr mem)
    rw [List.cons_append, hashReadings, if_neg (Ne.symm notHash)]
    cases later with
    | nil =>
      rw [List.getLast?_singleton, Option.some.injEq] at isLast
      rw [isLast, List.nil_append]
    | cons d rest' =>
      rw [List.getLast?_cons_cons] at isLast
      exact ih noneLater isLast _

/-! ## Ends and entities -/

theorem not_isHashtagChar_of_isWhitespace (white : isWhitespace c = true) :
    isHashtagCharacter c = false ∧ c ≠ '#' := by
  have both := @of_isWhitespace (fun c => !isHashtagCharacter c && c != '#') c white (by decide)
  simpa using both

theorem hashReadings_append_of_forall {ends : List Char}
    (idle : ∀ c ∈ ends, isHashtagCharacter c = false ∧ c ≠ '#') (joined : Bool)
    (text : List Char) : hashReadings joined (text ++ ends) = hashReadings joined text := by
  have noTag : ends.takeWhile isHashtagCharacter = [] := by
    cases ends with
    | nil => rfl
    | cons c rest => rw [List.takeWhile_cons, (idle c List.mem_cons_self).1]; rfl
  have sameTag : ∀ rest : List Char,
      (rest ++ ends).takeWhile isHashtagCharacter = rest.takeWhile isHashtagCharacter := by
    intro rest
    rw [List.takeWhile_append, noTag, List.append_nil]
    split_ifs with whole
    · exact ((List.takeWhile_prefix _).eq_of_length whole).symm
    · rfl
  induction text generalizing joined with
  | nil =>
    have noHash : ends.count '#' = 0 :=
      List.count_eq_zero.mpr fun mem => (idle _ mem).2 rfl
    rw [List.nil_append]
    exact List.eq_nil_of_length_eq_zero ((length_hashReadings joined ends).trans noHash)
  | cons c rest ih =>
    rw [List.cons_append, hashReadings, hashReadings, ih, ih, hashReading, hashReading, sameTag]

theorem hashReadings_trim :
    hashReadings false text.toList = hashReadings false (trim text).toList := by
  obtain ⟨front, back, parts, pre, behind⟩ := exists_ends_trimMatches isWhitespace text
  rw [parts, hashReadings_append_of_forall fun c mem =>
    not_isHashtagChar_of_isWhitespace (behind c mem)]
  cases last : front.getLast? with
  | none => rw [List.getLast?_eq_none_iff.mp last, List.nil_append, trim]
  | some c =>
    have noHash : '#' ∉ front := fun mem =>
      (not_isHashtagChar_of_isWhitespace (pre _ mem)).2 rfl
    have white := pre c (List.mem_of_getLast? last)
    rw [hashReadings_append noHash c last, (not_isHashtagChar_of_isWhitespace white).1, trim]

theorem takeWhile_escaped (chars : List Char) :
    (chars.flatMap escapedCharacter).takeWhile isHashtagCharacter
      = chars.takeWhile isHashtagCharacter := by
  induction chars with
  | nil => rfl
  | cons c rest ih =>
    rw [List.flatMap_cons, List.takeWhile_cons]
    rcases escaped_cases c with ⟨alone, _⟩ | ⟨name, entity, noWord, _⟩
    · rw [alone, List.singleton_append, List.takeWhile_cons, ih]
    · have ampersand : isHashtagCharacter '&' = false := by decide
      rw [entity.spelled, noWord, List.cons_append, List.takeWhile_cons, ampersand]
      rfl

/-- **Without apostrophes, escaping changes nothing** that a hash sign names. -/
theorem hashReadings_escaped (noApostrophe : '\'' ∉ chars) (joined : Bool) :
    hashReadings joined (chars.flatMap escapedCharacter) = hashReadings joined chars := by
  induction chars generalizing joined with
  | nil => rfl
  | cons c rest ih =>
    obtain ⟨other, noneLater⟩ :=
      not_or.mp fun mem => noApostrophe (List.mem_cons.mpr mem)
    rw [List.flatMap_cons, hashReadings]
    rcases escaped_cases c with ⟨alone, _⟩ | ⟨name, entity, noWord, _, noHash, named⟩
    · rw [alone, List.singleton_append, hashReadings, ih noneLater,
        ih noneLater, hashReading, hashReading, takeWhile_escaped]
    · have noHashSign : '#' ∉ '&' :: (name ++ [';']) := by
        intro mem
        rcases List.mem_cons.mp mem with eq | within
        · exact absurd eq (by decide)
        · rcases List.mem_append.mp within with inName | last
          · exact other (named.mp inName).symm
          · exact absurd (List.mem_singleton.mp last) (by decide)
      have semicolon : isHashtagCharacter ';' = false := by decide
      have isLast : ('&' :: (name ++ [';'])).getLast? = some ';' := by
        rw [← List.cons_append, List.getLast?_concat]
      rw [entity.spelled, hashReadings_append noHashSign ';' isLast, if_neg noHash, noWord,
        semicolon, ih noneLater]

/-! ## Line breaks -/

/-- Characters that begin with line breaks and go on with a character of a word. -/
def wordFollowsBreaks (chars : List Char) : Bool :=
  chars.head? = some '\n' && (chars.dropWhile fun c => !isNoBreak c).head?.any isHashtagCharacter

/-- A hash sign is read the same without the line breaks around it.  Behind a word, seen
past the line breaks, it must be so at once or name nothing; elsewhere its characters must
not go on behind a line break. -/
def breaksHarmlessAt (shown broken : Bool) (rest : List Char) : Bool :=
  if shown then !broken || (rest.takeWhile isHashtagCharacter).isEmpty
  else !wordFollowsBreaks (rest.dropWhile isHashtagCharacter)

/-- No line break changes what a hash sign names.  The flags say whether the last character
that is no line break belongs to a word, and whether a line break came after it. -/
def lineBreaksHarmless : Bool → Bool → List Char → Bool
  | _, _, [] => true
  | shown, broken, c :: rest =>
    if c = '#' then breaksHarmlessAt shown broken rest && lineBreaksHarmless false false rest
    else if c = '\n' then lineBreaksHarmless shown true rest
    else lineBreaksHarmless (isHashtagCharacter c) false rest

theorem head?_filter_isNoBreak (chars : List Char) :
    (chars.filter isNoBreak).head? = (chars.dropWhile fun c => !isNoBreak c).head? := by
  induction chars with
  | nil => rfl
  | cons c rest ih =>
    rw [List.filter_cons, List.dropWhile_cons]
    cases kept : isNoBreak c <;> simp [ih]

/-- The characters of a word start a list exactly if its first character is one. -/
theorem takeWhile_eq_nil_iff_head :
    chars.takeWhile isHashtagCharacter = [] ↔ chars.head?.any isHashtagCharacter = false := by
  cases chars with
  | nil => simp
  | cons c rest =>
    rw [List.takeWhile_cons, List.head?_cons, Option.any_some]
    cases isHashtagCharacter c <;> simp

theorem takeWhile_filter_isNoBreak (chars : List Char) :
    (chars.filter isNoBreak).takeWhile isHashtagCharacter
      = chars.takeWhile isHashtagCharacter
        ++ ((chars.dropWhile isHashtagCharacter).filter isNoBreak).takeWhile
          isHashtagCharacter := by
  induction chars with
  | nil => rfl
  | cons c rest ih =>
    rw [List.filter_cons, List.takeWhile_cons, List.dropWhile_cons]
    by_cases word : isHashtagCharacter c = true
    · have kept : isNoBreak c = true := by
        have noWord : isHashtagCharacter '\n' = false := by decide
        refine decide_eq_true fun isBreak => ?_
        rw [isBreak, noWord] at word
        cases word
      rw [if_pos kept, if_pos word, if_pos word, List.takeWhile_cons, if_pos word,
        ih, List.cons_append]
    · rw [if_neg word, if_neg word, List.nil_append, List.filter_cons]

/-- Behind the characters of a word, a word goes on exactly if it follows line breaks. -/
theorem takeWhile_filter_dropWhile_eq_nil_iff :
    ((chars.dropWhile isHashtagCharacter).filter isNoBreak).takeWhile isHashtagCharacter = []
      ↔ wordFollowsBreaks (chars.dropWhile isHashtagCharacter) = false := by
  rw [takeWhile_eq_nil_iff_head, head?_filter_isNoBreak, wordFollowsBreaks]
  cases left : chars.dropWhile isHashtagCharacter with
  | nil => simp
  | cons c rest =>
    have noWord : isHashtagCharacter c = false := by
      have first := List.head?_dropWhile_not isHashtagCharacter chars
      rw [left] at first
      simpa using first
    by_cases isBreak : c = '\n'
    · simp [isBreak]
    · have kept : isNoBreak c = true := decide_eq_true isBreak
      simp [kept, noWord, isBreak]

theorem hashReading_eq_iff_of_append {first second : List Char} {more : List Char}
    (goesOn : first.takeWhile isHashtagCharacter = second.takeWhile isHashtagCharacter ++ more) :
    hashReading false first = hashReading false second ↔ more = [] := by
  constructor
  · intro eq
    by_contra some
    have longer : second.takeWhile isHashtagCharacter ++ more ≠ [] := by simp [some]
    rw [hashReading, hashReading, goesOn, if_pos ⟨rfl, longer⟩] at eq
    split_ifs at eq with named
    have lengths := congrArg (fun tag : String => tag.toList.length) (Option.some.inj eq)
    simp only [toList_lowercase, String.toList_ofList, List.length_map,
      List.length_append] at lengths
    have pos := List.length_pos_iff.mpr some
    omega
  · intro nothing
    rw [nothing, List.append_nil] at goesOn
    rw [hashReading, hashReading, goesOn]

/-- **One hash sign** names the same without the line breaks exactly if they are harmless
there. -/
theorem hashReading_filter_iff (rest : List Char) :
    hashReading shown (rest.filter isNoBreak) = hashReading (shown && !broken) rest
      ↔ breaksHarmlessAt shown broken rest = true := by
  cases shown with
  | true =>
    have nothing : hashReading true (rest.filter isNoBreak) = none := by simp [hashReading]
    rw [nothing, Bool.true_and, breaksHarmlessAt, if_pos rfl]
    cases broken <;> simp [hashReading]
  | false =>
    rw [Bool.false_and, hashReading_eq_iff_of_append (takeWhile_filter_isNoBreak rest),
      takeWhile_filter_dropWhile_eq_nil_iff, breaksHarmlessAt]
    simp

/-- **All hash signs** name the same without the line breaks exactly if they are harmless. -/
theorem hashReadings_filter_iff (text : List Char) :
    hashReadings shown (text.filter isNoBreak) = hashReadings (shown && !broken) text
      ↔ lineBreaksHarmless shown broken text = true := by
  induction text generalizing shown broken with
  | nil => simp [hashReadings, lineBreaksHarmless]
  | cons c rest ih =>
    rw [hashReadings, lineBreaksHarmless]
    by_cases isHash : c = '#'
    · have kept : (c :: rest).filter isNoBreak = '#' :: rest.filter isNoBreak := by
        rw [isHash]
        rfl
      rw [kept, hashReadings, if_pos isHash, if_pos rfl, if_pos isHash, List.cons_eq_cons,
        Bool.and_eq_true, hashReading_filter_iff, ← ih]
      rfl
    · by_cases isBreak : c = '\n'
      · have dropped : (c :: rest).filter isNoBreak = rest.filter isNoBreak := by
          rw [isBreak]
          rfl
        have noWord : isHashtagCharacter c = (shown && !true) := by
          rw [isBreak, Bool.not_true, Bool.and_false]
          decide
        rw [dropped, if_neg isHash, if_neg isHash, if_pos isBreak, noWord, ih]
      · have kept : (c :: rest).filter isNoBreak = c :: rest.filter isNoBreak :=
          List.filter_cons_of_pos (decide_eq_true isBreak)
        have eq := ih (isHashtagCharacter c) false
        rw [Bool.not_false, Bool.and_true] at eq
        rw [kept, hashReadings, if_neg isHash, if_neg isHash, if_neg isHash, if_neg isBreak, eq]

/-! ## The theorem -/

/-- The text has no apostrophe between its ends, and no line break of it changes what a
hash sign names. -/
def Clean (text : String) : Prop :=
  '\'' ∉ (trim text).toList ∧ lineBreaksHarmless false false (trim text).toList = true

instance (text : String) : Decidable (Clean text) := inferInstanceAs (Decidable (_ ∧ _))

/-- What is left of a rendered text without apostrophes reads like the trimmed text without
its line breaks. -/
theorem hashReadings_rendered {text : String} (noApostrophe : '\'' ∉ (trim text).toList) :
    hashReadings false (stripHtmlTags (renderStatusHtml text)).toList
      = hashReadings false ((trim text).toList.filter isNoBreak) := by
  rw [toList_stripHtmlTags_rendered]
  exact hashReadings_escaped (fun mem => noApostrophe (List.mem_of_mem_filter mem)) false

theorem count_escapedCharacter (c : Char) :
    (escapedCharacter c).count '#' = [c].count '#' + [c].count '\'' := by
  by_cases special : c ∈ escapable
  · simp only [escapable, List.mem_cons, List.not_mem_nil, or_false] at special
    rcases special with rfl | rfl | rfl | rfl | rfl <;> decide
  · have other : c ≠ '\'' := fun eq => special (eq ▸ by decide)
    rw [escaped_of_notMem special, List.count_singleton (a := '\''),
      if_neg (by simpa using other), Nat.add_zero]

theorem count_escaped (chars : List Char) :
    (chars.flatMap escapedCharacter).count '#' = chars.count '#' + chars.count '\'' := by
  induction chars with
  | nil => rfl
  | cons c rest ih =>
    have first : ∀ d : Char, (c :: rest).count d = [c].count d + rest.count d := by
      intro d
      rw [← List.count_append, List.singleton_append]
    rw [List.flatMap_cons, List.count_append, ih, count_escapedCharacter, first, first]
    omega

theorem hashReading_mem_hashReadings (front : List Char) (c : Char) (rest : List Char)
    (joined : Bool) :
    hashReading (isHashtagCharacter c) rest ∈ hashReadings joined (front ++ c :: '#' :: rest) := by
  induction front generalizing joined with
  | nil =>
    have noWord : isHashtagCharacter '#' = false := by decide
    rw [List.nil_append, hashReadings, hashReadings, hashReadings, if_pos rfl, if_pos rfl]
    by_cases isHash : c = '#'
    · rw [if_pos isHash, isHash, noWord]
      exact List.mem_cons_of_mem _ List.mem_cons_self
    · rw [if_neg isHash]
      exact List.mem_cons_self
  | cons d front ih =>
    rw [List.cons_append, hashReadings]
    split_ifs
    · exact List.mem_cons_of_mem _ (ih false)
    · exact ih _

/-- **The entity of an apostrophe reads as a hashtag.** -/
theorem mem_hashReadings_of_apostrophe (apostrophe : '\'' ∈ chars) (joined : Bool) :
    some "39" ∈ hashReadings joined (chars.flatMap escapedCharacter) := by
  obtain ⟨front, back, rfl⟩ := List.append_of_mem apostrophe
  have entity : escapedCharacter '\'' = ['&', '#', '3', '9', ';'] := by decide
  have named : ∀ rest, hashReading (isHashtagCharacter '&') ('3' :: '9' :: ';' :: rest)
      = some "39" := by
    intro rest
    have tag : ('3' :: '9' :: ';' :: rest).takeWhile isHashtagCharacter = ['3', '9'] := rfl
    have lowered : toAsciiLowercase (String.ofList ['3', '9']) = "39" := by decide
    have noWord : isHashtagCharacter '&' = false := by decide
    rw [hashReading, tag, lowered, if_pos ⟨noWord, List.cons_ne_nil _ _⟩]
  have got := hashReading_mem_hashReadings (front.flatMap escapedCharacter) '&'
    ('3' :: '9' :: ';' :: back.flatMap escapedCharacter) joined
  rw [named] at got
  rwa [List.flatMap_append, List.flatMap_cons, entity]

/-- **The readings are the same exactly for clean texts.** -/
theorem hashReadings_rendered_iff :
    hashReadings false (stripHtmlTags (renderStatusHtml text)).toList
        = hashReadings false text.toList ↔ Clean text := by
  rw [hashReadings_trim text, Clean]
  by_cases apostrophe : '\'' ∈ (trim text).toList
  · refine iff_of_false (fun eq => ?_) fun clean => clean.1 apostrophe
    have lengths := congrArg List.length eq
    have kept : '\'' ∈ (trim text).toList.filter isNoBreak :=
      List.mem_filter.mpr ⟨apostrophe, by decide⟩
    have pos := List.count_pos_iff.mpr kept
    have hashSigns : ((trim text).toList.filter isNoBreak).count '#'
        = (trim text).toList.count '#' := List.count_filter (by decide)
    rw [length_hashReadings, length_hashReadings, toList_stripHtmlTags_rendered,
      count_escaped, hashSigns] at lengths
    omega
  · have compared := hashReadings_filter_iff false false (trim text).toList
    rw [hashReadings_rendered apostrophe]
    exact compared.trans (and_iff_right apostrophe).symm

/-- **The hashtags of a rendered status.**  What the hash signs of the rendered text name
is what those of the text name exactly if the text is clean, and then the hashtags are the
same.  A text with an apostrophe gets the hashtag `39`, whether or not it has it. -/
theorem rendered_hashtags_of_clean (text : String) :
    (hashReadings false (stripHtmlTags (renderStatusHtml text)).toList
        = hashReadings false text.toList ↔ Clean text)
      ∧ (Clean text →
        extractHashtagsFromHtml (renderStatusHtml text) = extractHashtagsFromText text)
      ∧ ('\'' ∈ (trim text).toList → "39" ∉ extractHashtagsFromText text →
        extractHashtagsFromHtml (renderStatusHtml text) ≠ extractHashtagsFromText text) := by
  refine ⟨hashReadings_rendered_iff text, fun clean => ?_, fun apostrophe unnamed eq => ?_⟩
  · rw [extractHashtagsFromHtml, hashtags_eq, hashtags_eq,
      (hashReadings_rendered_iff text).mpr clean]
  · apply unnamed
    have kept : '\'' ∈ (trim text).toList.filter isNoBreak :=
      List.mem_filter.mpr ⟨apostrophe, by decide⟩
    have read := mem_hashReadings_of_apostrophe kept false
    rw [← toList_stripHtmlTags_rendered] at read
    rw [← eq, extractHashtagsFromHtml, hashtags_eq, mem_pushMissing]
    exact Or.inr (List.mem_filterMap.mpr ⟨_, read, rfl⟩)

/-- A clean text and one with an apostrophe. -/
theorem rendered_hashtags_of_clean_hello :
    extractHashtagsFromHtml (renderStatusHtml "Hello #Rust!\n\n#lean & more")
        = extractHashtagsFromText "Hello #Rust!\n\n#lean & more"
      ∧ extractHashtagsFromHtml (renderStatusHtml "it's #Rust")
        ≠ extractHashtagsFromText "it's #Rust" :=
  ⟨(rendered_hashtags_of_clean "Hello #Rust!\n\n#lean & more").2.1 (by decide +kernel),
    (rendered_hashtags_of_clean "it's #Rust").2.2 (by decide +kernel) (by decide +kernel)⟩

/-- **Rendering adds and loses hashtags**: an apostrophe adds one, a line break takes the
hashtag behind a word away, and glues the word behind a hashtag to it. -/
theorem rendered_hashtags_differ :
    extractHashtagsFromHtml (renderStatusHtml "it's") = ["39"]
      ∧ extractHashtagsFromText "it's" = []
      ∧ extractHashtagsFromHtml (renderStatusHtml "hi\n#rust") = []
      ∧ extractHashtagsFromText "hi\n#rust" = ["rust"]
      ∧ extractHashtagsFromHtml (renderStatusHtml "#rust\nhi") = ["rusthi"]
      ∧ extractHashtagsFromText "#rust\nhi" = ["rust"] := by
  decide +kernel

end Cfwdon.Statuses
