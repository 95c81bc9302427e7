import Cfwdon.Library.Matches
import Cfwdon.Library.Text

/-!
# Whole words in filters

A keyword of a filter may ask for whole words: an occurrence counts if no letter, digit or
underscore is next to it.  The search goes on after each occurrence that does not count, so
it does not see the occurrences that overlap one it has turned down.
-/

namespace Cfwdon.Filters

open Library

/-- `char::is_alphanumeric`, or an underscore. -/
def isWordChar (isAlphanumeric : Char → Bool) (c : Char) : Bool :=
  isAlphanumeric c || c == '_'

variable (isAlphanumeric : Char → Bool)

/-- No character of a word is next to an occurrence. -/
def standsFree (before after : List Char) : Bool :=
  before.getLast?.all (fun c => !isWordChar isAlphanumeric c)
    && after.head?.all fun c => !isWordChar isAlphanumeric c

/-- The loop of `phrase_matches_text`, which has come to `rest` after `seen`.  It ends, as
every occurrence leaves less of the text. -/
def searchWholeWord (phrase : List Char) (nonempty : phrase ≠ []) (seen rest : List Char) :
    Bool :=
  match _found : splitAtFirst phrase rest with
  | none => false
  | some (skipped, after) =>
    if standsFree isAlphanumeric (seen ++ skipped) after then true
    else searchWholeWord phrase nonempty (seen ++ skipped ++ phrase) after
termination_by rest.length
decreasing_by exact length_after_lt nonempty _found

def phraseMatchesText (text phrase : String) (wholeWord : Bool) : Bool :=
  if nonempty : phrase.toList = [] then false
  else if wholeWord then searchWholeWord isAlphanumeric phrase.toList nonempty [] text.toList
  else occursIn phrase.toList text.toList

/-- A keyword of a filter against a status, as `filtered_status` compares them. -/
def keywordMatches (text spoilerText keyword : String) (wholeWord : Bool) : Bool :=
  phraseMatchesText isAlphanumeric (toAsciiLowercase (text ++ "\n" ++ spoilerText))
    (toAsciiLowercase (trim keyword)) wholeWord

/-- An occurrence of the phrase in the text has no character of a word next to it. -/
def OccursFree (text phrase : List Char) : Prop :=
  ∃ before after, text = before ++ phrase ++ after ∧ standsFree isAlphanumeric before after = true

/-- The whole-word filter says for a text whether the phrase occurs as a whole word. -/
def FindsWholeWords (text phrase : String) : Prop :=
  phraseMatchesText isAlphanumeric text phrase true = true
    ↔ OccursFree isAlphanumeric text.toList phrase.toList

variable {isAlphanumeric}

/-! ## The search -/

/-- **The search finds an occurrence exactly if one that it sees stands free.** -/
theorem searchWholeWord_iff {phrase seen rest : List Char} (ne : phrase ≠ []) :
    searchWholeWord isAlphanumeric phrase ne seen rest = true
      ↔ ∃ pre post, Match phrase seen rest pre post
        ∧ standsFree isAlphanumeric pre post = true := by
  induction size : rest.length using Nat.strongRecOn generalizing seen rest with
  | ind size ih =>
    rw [searchWholeWord]
    split
    next none =>
      constructor
      · intro never
        cases never
      · rintro ⟨pre, post, got, -⟩
        cases got with
        | here got | later got _ => rw [none] at got; cases got
    next skipped post got =>
      split_ifs with free
      · exact ⟨fun _ => ⟨_, _, Match.here got, free⟩, fun _ => rfl⟩
      · rw [ih _ (size ▸ length_after_lt ne got) rfl]
        constructor
        · rintro ⟨pre', post', more, free'⟩
          exact ⟨pre', post', Match.later got more, free'⟩
        · rintro ⟨pre', post', more, free'⟩
          cases more with
          | here got' =>
            rw [got] at got'
            cases got'
            exact absurd free' free
          | later got' more =>
            rw [got] at got'
            cases got'
            exact ⟨pre', post', more, free'⟩

theorem phraseMatchesText_iff {text phrase : String} (ne : phrase.toList ≠ []) :
    phraseMatchesText isAlphanumeric text phrase true = true
      ↔ ∃ pre post, Match phrase.toList [] text.toList pre post
        ∧ standsFree isAlphanumeric pre post = true := by
  rw [phraseMatchesText, dif_neg ne, if_pos rfl, searchWholeWord_iff]

/-- **The filter finds the whole words of a text** exactly if the phrase is not empty, and
stands free at an occurrence that the search sees if it does anywhere; or it is empty, and
no place of the text is free. -/
theorem wholeWord_iff (isAlphanumeric : Char → Bool) (text phrase : String) :
    FindsWholeWords isAlphanumeric text phrase
      ↔ if phrase.toList = [] then ¬ OccursFree isAlphanumeric text.toList []
        else OccursFree isAlphanumeric text.toList phrase.toList →
          ∃ pre post, Match phrase.toList [] text.toList pre post
            ∧ standsFree isAlphanumeric pre post = true := by
  rw [FindsWholeWords]
  split_ifs with empty
  · rw [phraseMatchesText, dif_pos empty, empty]
    simp only [Bool.false_eq_true, false_iff]
  · rw [phraseMatchesText_iff empty]
    refine ⟨fun eq => eq.mpr, fun got => ⟨?_, got⟩⟩
    rintro ⟨pre, post, seen, free⟩
    exact ⟨pre, post, seen.occurs, free⟩

/-! ## Phrases -/

variable (isAlphanumeric)

/-- An end of the phrase that is also its beginning comes after a character that is not of
a word. -/
def FreeBorder (phrase : List Char) : Prop :=
  ∃ shift, 0 < shift ∧ shift < phrase.length ∧ phrase.drop shift <+: phrase
    ∧ (phrase.take shift).getLast?.all (fun c => !isWordChar isAlphanumeric c) = true

variable {isAlphanumeric}

/-- Without such an end, an occurrence that stands free overlaps none that is seen before
it. -/
theorem found_of_no_freeBorder {text phrase : List Char} (ne : phrase ≠ [])
    (none : ¬ FreeBorder isAlphanumeric phrase) (occurs : OccursFree isAlphanumeric text phrase) :
    ∃ pre after, Match phrase [] text pre after ∧ standsFree isAlphanumeric pre after = true := by
  obtain ⟨pre, after, here, free⟩ := occurs
  have whole : [] ++ text = pre ++ phrase ++ after := here
  rcases match_or_overlap ne whole (Nat.zero_le _) with
    seen | ⟨pre', post', seen, prior, overlap⟩
  · exact ⟨pre, after, seen, free⟩
  · have eq : pre' ++ phrase ++ post' = pre ++ phrase ++ after :=
      seen.occurs.symm.trans here
    obtain ⟨shift, pos, inside, border, before_eq⟩ :=
      exists_border_of_overlap eq prior overlap
    refine absurd ⟨shift, pos, inside, border, ?_⟩ none
    have cut : phrase.take shift ≠ [] := by
      rw [ne_eq, List.take_eq_nil_iff, not_or]
      exact ⟨pos.ne', ne⟩
    rw [standsFree, Bool.and_eq_true, before_eq, List.getLast?_append,
      List.getLast?_eq_getLast_of_ne_nil cut, Option.some_or] at free
    rw [List.getLast?_eq_getLast_of_ne_nil cut]
    exact free.1

theorem exists_other_wordChar (letter : isAlphanumeric 'a' = true) (phrase : List Char) :
    ∃ c, isWordChar isAlphanumeric c = true ∧ phrase.head? ≠ some c := by
  by_cases start : phrase.head? = some 'a'
  · refine ⟨'_', by rw [isWordChar, beq_self_eq_true, Bool.or_true], ?_⟩
    rw [start]
    decide
  · exact ⟨'a', by rw [isWordChar, letter, Bool.true_or], start⟩

theorem not_found_of_border {phrase : List Char} {shift : Nat} {c : Char}
    (word : isWordChar isAlphanumeric c = true) (other : phrase.head? ≠ some c)
    (inside : shift < phrase.length) (border : phrase.drop shift <+: phrase) :
    ¬ ∃ pre post, Match phrase [] (c :: (phrase.take shift ++ phrase)) pre post
      ∧ standsFree isAlphanumeric pre post = true := by
  have ne : phrase ≠ [] := List.ne_nil_of_length_pos (Nat.zero_lt_of_lt inside)
  obtain ⟨left, split⟩ := border
  have text_eq : c :: (phrase.take shift ++ phrase) = [c] ++ phrase ++ left := by
    nth_rewrite 2 [← split]
    rw [← List.append_assoc, List.take_append_drop]
    rfl
  rintro ⟨pre, post, got, free⟩
  -- the first occurrence is the one behind the character
  have first {skipped post' : List Char}
      (here : splitAtFirst phrase (c :: (phrase.take shift ++ phrase)) = some (skipped, post')) :
      skipped = [c] ∧ post'.length = shift := by
    obtain ⟨occurs, least⟩ := splitAtFirst_eq_some here
    have short := least _ _ text_eq
    have skipped_eq : skipped = [c] := by
      cases skipped with
      | nil =>
        obtain ⟨d, phrase', rfl⟩ := List.exists_cons_of_ne_nil ne
        rw [List.nil_append, List.cons_append] at occurs
        rw [List.cons.inj occurs |>.1] at other
        exact absurd rfl other
      | cons d skipped =>
        rw [List.cons_append, List.cons_append] at occurs
        rw [List.length_cons, List.length_singleton] at short
        have none : skipped = [] := List.eq_nil_of_length_eq_zero (by omega)
        rw [← (List.cons.inj occurs).1, none]
    refine ⟨skipped_eq, ?_⟩
    have sizes := congrArg List.length occurs
    rw [skipped_eq, List.length_cons, List.length_append, List.length_append, List.length_append,
      List.length_take, List.length_singleton] at sizes
    omega
  cases got with
  | here here =>
    obtain ⟨rfl, -⟩ := first here
    rw [standsFree, Bool.and_eq_true] at free
    have spared := free.1
    rw [List.nil_append, List.getLast?_singleton, Option.all_some, word] at spared
    cases spared
  | @later _ _ _ remaining _ _ here more =>
    obtain ⟨-, size⟩ := first here
    -- what is left is shorter than the phrase
    have again : ∃ split, splitAtFirst phrase remaining = some split := by
      cases more with
      | here got | later got _ => exact ⟨_, got⟩
    obtain ⟨⟨skipped, rest⟩, again⟩ := again
    have sizes := congrArg List.length (splitAtFirst_eq_some again).1
    rw [List.length_append, List.length_append] at sizes
    omega

/-- **For a phrase, the whole words of every text are found** exactly if the phrase is not
empty, and no end of it that is also its beginning comes after a character that is not of a
word. -/
theorem always_found_iff (letter : isAlphanumeric 'a' = true) (phrase : String) :
    (∀ text, FindsWholeWords isAlphanumeric text phrase)
      ↔ phrase.toList ≠ [] ∧ ¬ FreeBorder isAlphanumeric phrase.toList := by
  constructor
  · intro always
    have ne : phrase.toList ≠ [] := by
      intro empty
      have never := (wholeWord_iff isAlphanumeric "" phrase).mp (always "")
      rw [if_pos empty] at never
      exact never ⟨[], [], rfl, rfl⟩
    refine ⟨ne, ?_⟩
    rintro ⟨shift, pos, inside, border, spared⟩
    obtain ⟨c, word, other⟩ := exists_other_wordChar letter phrase.toList
    have got := (wholeWord_iff isAlphanumeric
      (String.ofList (c :: (phrase.toList.take shift ++ phrase.toList))) phrase).mp (always _)
    rw [if_neg ne, String.toList_ofList] at got
    refine not_found_of_border word other inside border (got ?_)
    refine ⟨c :: phrase.toList.take shift, [], by rw [List.append_nil]; rfl, ?_⟩
    have cut : phrase.toList.take shift ≠ [] := by
      rw [ne_eq, List.take_eq_nil_iff, not_or]
      exact ⟨pos.ne', ne⟩
    rw [standsFree, Bool.and_eq_true, List.getLast?_cons]
    rw [List.getLast?_eq_getLast_of_ne_nil cut, Option.getD_some] at *
    exact ⟨spared, rfl⟩
  · rintro ⟨ne, none⟩ text
    rw [wholeWord_iff, if_neg ne]
    exact found_of_no_freeBorder ne none

/-- **Where the filter finds the whole words of a text**, for a text and for all texts. -/
theorem whole_words_iff (letter : isAlphanumeric 'a' = true) (phrase : String) :
    (∀ text, FindsWholeWords isAlphanumeric text phrase
      ↔ if phrase.toList = [] then ¬ OccursFree isAlphanumeric text.toList []
        else OccursFree isAlphanumeric text.toList phrase.toList →
          ∃ before after, Match phrase.toList [] text.toList before after
            ∧ standsFree isAlphanumeric before after = true)
    ∧ ((∀ text, FindsWholeWords isAlphanumeric text phrase)
      ↔ phrase.toList ≠ [] ∧ ¬ FreeBorder isAlphanumeric phrase.toList) :=
  ⟨fun text => wholeWord_iff isAlphanumeric text phrase, always_found_iff letter phrase⟩

/-- With the letters and digits of ASCII, a word is found where it stands free, and not
where it is part of another. -/
theorem whole_words_world : FindsWholeWords Char.isAlphanum "worlds of the world" "world" := by
  refine (whole_words_iff (by decide) "world").2.mpr ⟨by decide, ?_⟩ _
  rintro ⟨shift, pos, inside, border, -⟩
  have cases_of : shift = 1 ∨ shift = 2 ∨ shift = 3 ∨ shift = 4 := by
    have size : "world".toList.length = 5 := by decide
    omega
  obtain rfl | rfl | rfl | rfl := cases_of
  · exact absurd border (by decide)
  · exact absurd border (by decide)
  · exact absurd border (by decide)
  · exact absurd border (by decide)

/-- In `xa-a-a` the phrase `a-a` stands free at the end, and the search turns down the
occurrence before it and goes on behind both. -/
theorem end_of_text_is_not_found :
    phraseMatchesText Char.isAlphanum "xa-a-a" "a-a" true = false
      ∧ OccursFree Char.isAlphanum "xa-a-a".toList "a-a".toList
      ∧ ¬ FindsWholeWords Char.isAlphanum "xa-a-a" "a-a" := by
  have free : OccursFree Char.isAlphanum "xa-a-a".toList "a-a".toList :=
    ⟨"xa-".toList, [], by decide, by decide⟩
  have none : ¬ phraseMatchesText Char.isAlphanum "xa-a-a" "a-a" true = true := by
    rw [phraseMatchesText_iff (by decide)]
    exact @not_found_of_border _ "a-a".toList 2 'x' (by decide) (by decide) (by decide) (by decide)
  exact ⟨Bool.eq_false_iff.mpr none, free, fun eq => none (eq.mpr free)⟩

end Cfwdon.Filters
