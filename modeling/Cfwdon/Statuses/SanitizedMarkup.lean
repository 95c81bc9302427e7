import Cfwdon.Library.References
import Cfwdon.Statuses.RenderedHashtags

/-!
# Sanitized markup

The markup of a remote status is stripped of its tags, its entities are decoded, and the
text is escaped and put into paragraphs again.  Whatever the entities decoded to, every
bracket of the result belongs to a tag that was put there, and every other special
character is an entity.
-/

namespace Cfwdon.Statuses

open Library

/-- The tags `<p>`, `</p>` and `<br />`. -/
def renderedTags : List (List Char) :=
  [['<', 'p', '>'], ['<', '/', 'p', '>'], ['<', 'b', 'r', ' ', '/', '>']]

/-- The entities `&amp;`, `&lt;`, `&gt;`, `&quot;` and `&#39;`. -/
def renderedEntities : List (List Char) :=
  escapable.map escapedCharacter

/-- A token of rendered markup. -/
inductive IsToken : List Char → Prop where
  | tag {token : List Char} (member : token ∈ renderedTags) : IsToken token
  | entity {token : List Char} (member : token ∈ renderedEntities) : IsToken token
  | plain {c : Char} (plain : c ∉ escapable) : IsToken [c]

/-- Markup made of tokens. -/
def IsMarkup (chars : List Char) : Prop :=
  ∃ tokens : List (List Char), chars = tokens.flatten ∧ ∀ token ∈ tokens, IsToken token

variable {chars : List Char} {c : Char} {text : String} {replacements : List (String × String)}

namespace IsMarkup

theorem token (isToken : IsToken chars) : IsMarkup chars :=
  ⟨[chars], List.flatten_singleton.symm, fun _ mem => List.mem_singleton.mp mem ▸ isToken⟩

theorem append {first second : List Char} (pre : IsMarkup first) (behind : IsMarkup second) :
    IsMarkup (first ++ second) := by
  obtain ⟨front, rfl, frontTokens⟩ := pre
  obtain ⟨back, rfl, backTokens⟩ := behind
  refine ⟨front ++ back, List.flatten_append.symm, fun token mem => ?_⟩
  exact (List.mem_append.mp mem).elim (frontTokens token) (backTokens token)

theorem flatMap {α : Type} {pieces : List α} {wrote : α → List Char}
    (each : ∀ piece ∈ pieces, IsMarkup (wrote piece)) : IsMarkup (pieces.flatMap wrote) := by
  induction pieces with
  | nil => exact ⟨[], rfl, fun _ none => absurd none List.not_mem_nil⟩
  | cons piece rest ih =>
    rw [List.forall_mem_cons] at each
    rw [List.flatMap_cons]
    exact each.1.append (ih each.2)

end IsMarkup

theorem isToken_escaped (c : Char) : IsToken (escapedCharacter c) := by
  by_cases special : c ∈ escapable
  · exact .entity (List.mem_map.mpr ⟨c, special, rfl⟩)
  · rw [escaped_of_notMem special]
    exact .plain special

/-! ## Paragraphs of the text -/

theorem lineBreak_notMem_escaped (noBreak : c ≠ '\n') : '\n' ∉ escapedCharacter c := by
  rcases escaped_cases c with ⟨alone, -⟩ | ⟨name, entity, -⟩
  · rw [alone, List.mem_singleton]
    exact noBreak.symm
  · rw [entity.spelled, List.mem_cons, List.mem_append, List.mem_singleton]
    rintro (first | named | last)
    · exact absurd first (by decide)
    · exact (entity.plain _ named).2.2 rfl
    · exact absurd last (by decide)

theorem escaped_ne_nil (c : Char) : escapedCharacter c ≠ [] := by
  rcases escaped_cases c with ⟨alone, -⟩ | ⟨name, entity, -⟩
  · rw [alone]
    exact List.cons_ne_nil _ _
  · rw [entity.spelled]
    exact List.cons_ne_nil _ _

/-- An escaped text begins with a line break only if the text does. -/
theorem head?_escaped (starts : chars.head? ≠ some '\n') :
    (chars.flatMap escapedCharacter).head? ≠ some '\n' := by
  cases chars with
  | nil => exact starts
  | cons c rest =>
    have noBreak : c ≠ '\n' := fun eq => starts (congrArg some eq)
    obtain ⟨d, others, first⟩ := List.exists_cons_of_ne_nil (escaped_ne_nil c)
    rw [List.flatMap_cons, first]
    intro eq
    have inside : '\n' ∈ escapedCharacter c := by
      rw [first, ← Option.some.inj eq]
      exact List.mem_cons_self
    exact lineBreak_notMem_escaped noBreak inside

/-- **The paragraphs of an escaped text** are the paragraphs of the text, escaped. -/
theorem occurrences_escaped (chars : List Char) :
    splitOccurrences ['\n', '\n'] 0 (chars.flatMap escapedCharacter)
      = (splitOccurrences ['\n', '\n'] 0 chars).map (·.flatMap escapedCharacter) := by
  induction size : chars.length using Nat.strongRecOn generalizing chars with
  | ind size ih =>
    have shorter : ∀ rest : List Char, rest.length < chars.length →
        splitOccurrences ['\n', '\n'] 0 (rest.flatMap escapedCharacter)
          = (splitOccurrences ['\n', '\n'] 0 rest).map (·.flatMap escapedCharacter) :=
      fun rest less => ih _ (size ▸ less) rest rfl
    have break_eq : escapedCharacter '\n' = ['\n'] := by decide
    cases chars with
    | nil => rfl
    | cons c rest =>
      have through : splitOccurrences ['\n', '\n'] 0 (rest.flatMap escapedCharacter)
          = (splitOccurrences ['\n', '\n'] 0 rest).map (·.flatMap escapedCharacter) :=
        shorter rest (Nat.lt_succ_self _)
      -- the first character goes to the first paragraph on both sides
      have joined : ((splitOccurrences ['\n', '\n'] 0 rest).map
            (·.flatMap escapedCharacter)).modifyHead (escapedCharacter c ++ ·)
          = ((splitOccurrences ['\n', '\n'] 0 rest).modifyHead (c :: ·)).map
            (·.flatMap escapedCharacter) := by
        obtain ⟨piece, pieces, got⟩ :=
          List.exists_cons_of_ne_nil (occurrences_ne_nil ['\n', '\n'] rest 0)
        rw [got]
        rfl
      rw [List.flatMap_cons]
      by_cases isBreak : c = '\n'
      · subst isBreak
        by_cases again : rest.head? = some '\n'
        · obtain ⟨rest, rfl⟩ := List.head?_eq_some_iff.mp again
          have both := @occurrences_append_pattern ['\n', '\n'] (List.cons_ne_nil _ _)
          rw [List.flatMap_cons, break_eq, ← List.append_assoc]
          refine (both (rest.flatMap escapedCharacter)).trans ?_
          rw [shorter rest (by rw [List.length_cons, List.length_cons]; omega)]
          exact congrArg (List.map (·.flatMap escapedCharacter)) (both rest).symm
        · have noPattern : ∀ others : List Char, others.head? ≠ some '\n' →
              ¬ ['\n', '\n'] <+: '\n' :: others := by
            rintro others single ⟨tail, eq⟩
            rw [← (List.cons.inj eq).2] at single
            exact single rfl
          rw [occurrences_cons_of_not_isPrefix (noPattern rest again), ← joined,
            ← through, break_eq]
          exact occurrences_cons_of_not_isPrefix (noPattern _ (head?_escaped again))
      · rw [occurrences_append_of_forall (lineBreak_notMem_escaped isBreak), through,
          joined, occurrences_cons_of_not_isPrefix]
        exact fun starts => isBreak (List.cons_prefix_cons.mp starts).1.symm

/-- **A rendered text is made of tokens.** -/
theorem isMarkup_renderStatusHtml (text : String) : IsMarkup (renderStatusHtml text).toList := by
  rw [toList_rendered, paragraphs, toList_escapeHtml, occurrences_escaped, List.flatMap_map]
  refine IsMarkup.flatMap fun paragraph _ => ?_
  rw [writtenParagraph, List.flatMap_assoc]
  refine ((IsMarkup.token (.tag (by decide))).append (IsMarkup.flatMap fun c _ => ?_)).append
    (IsMarkup.token (.tag (by decide)))
  by_cases isBreak : c = '\n'
  · subst isBreak
    exact IsMarkup.token (.tag (by decide))
  · have kept : ((escapedCharacter c).flatMap fun d => if d = '\n' then breakTag else [d])
        = escapedCharacter c := by
      rw [List.flatMap_congr (g := fun d => [d]), List.flatMap_singleton']
      intro d mem
      have noBreak : d ≠ '\n' := by
        rintro rfl
        exact lineBreak_notMem_escaped isBreak mem
      exact if_neg noBreak
    rw [kept]
    exact IsMarkup.token (isToken_escaped c)

/-! ## Places of a text -/

/-- The character between two parts of a text belongs to one of the tokens. -/
def BelongsTo (tokens : List (List Char)) (before : List Char) (c : Char)
    (after : List Char) : Prop :=
  ∃ front inner rest back, inner ++ c :: rest ∈ tokens ∧ before = front ++ inner
    ∧ after = rest ++ back

/-- The brackets of a text belong to tags, and the other special characters to entities. -/
structure SafeMarkup (text : String) : Prop where
  brackets : ∀ before c after, text.toList = before ++ c :: after → c = '<' ∨ c = '>' →
    BelongsTo renderedTags before c after
  ampersands : ∀ before after, text.toList = before ++ '&' :: after →
    BelongsTo renderedEntities before '&' after
  quotes : '"' ∉ text.toList ∧ '\'' ∉ text.toList

theorem IsMarkup.exists_token {pre post : List Char}
    (isMarkup : IsMarkup (pre ++ c :: post)) :
    ∃ front inner rest back, IsToken (inner ++ c :: rest) ∧ pre = front ++ inner
      ∧ post = rest ++ back := by
  obtain ⟨tokens, parts, each⟩ := isMarkup
  induction tokens generalizing pre with
  | nil =>
    rw [List.flatten_nil] at parts
    exact absurd parts (List.append_ne_nil_of_right_ne_nil _ (List.cons_ne_nil _ _))
  | cons token tokens ih =>
    rw [List.forall_mem_cons] at each
    rw [List.flatten_cons] at parts
    rcases List.append_eq_append_iff.mp parts with ⟨more, rfl, eq⟩ | ⟨more, rfl, eq⟩
    · cases more with
      | nil =>
        rw [List.nil_append] at eq
        obtain ⟨front, inner, rest, back, isToken, beforeParts, rfl⟩ :=
          @ih [] eq each.2
        rw [eq_comm, List.append_eq_nil_iff] at beforeParts
        obtain ⟨rfl, rfl⟩ := beforeParts
        exact ⟨pre, [], rest, back, isToken, (List.append_nil _).symm, rfl⟩
      | cons d rest =>
        obtain ⟨rfl, rfl⟩ := List.cons.inj eq
        exact ⟨[], pre, rest, tokens.flatten, each.1, rfl, rfl⟩
    · obtain ⟨front, inner, rest, back, isToken, rfl, rfl⟩ :=
        ih eq.symm each.2
      exact ⟨token ++ front, inner, rest, back, isToken, (List.append_assoc ..).symm, rfl⟩

theorem IsToken.of_mem {token : List Char} (isToken : IsToken token)
    (mem : c ∈ token) (special : c ∈ escapable) :
    ((c = '<' ∨ c = '>') ∧ token ∈ renderedTags) ∨ (c = '&' ∧ token ∈ renderedEntities) := by
  cases isToken with
  | tag isTag =>
    have brackets : ∀ c ∈ renderedTags.flatten, c ∈ escapable → c = '<' ∨ c = '>' :=
      forall_mem_of_all (by decide)
    exact Or.inl ⟨brackets c (List.mem_flatten.mpr ⟨token, isTag, mem⟩) special, isTag⟩
  | entity isEntity =>
    have ampersands : ∀ c ∈ renderedEntities.flatten, c ∈ escapable → c = '&' :=
      forall_mem_of_all (by decide)
    exact Or.inr ⟨ampersands c (List.mem_flatten.mpr ⟨token, isEntity, mem⟩) special, isEntity⟩
  | plain plain => exact absurd (List.mem_singleton.mp mem ▸ special) plain

theorem IsMarkup.safeMarkup (isMarkup : IsMarkup text.toList) :
    SafeMarkup text := by
  have place : ∀ pre c post, text.toList = pre ++ c :: post → c ∈ escapable →
      ((c = '<' ∨ c = '>') ∧ BelongsTo renderedTags pre c post)
        ∨ (c = '&' ∧ BelongsTo renderedEntities pre c post) := by
    intro pre c post parts special
    rw [parts] at isMarkup
    obtain ⟨front, inner, rest, back, isToken, beforeParts, afterParts⟩ :=
      isMarkup.exists_token
    have inside : c ∈ inner ++ c :: rest := List.mem_append_right _ List.mem_cons_self
    refine (isToken.of_mem inside special).imp (fun got => ?_) (fun got => ?_)
    · exact ⟨got.1, front, inner, rest, back, got.2, beforeParts, afterParts⟩
    · exact ⟨got.1, front, inner, rest, back, got.2, beforeParts, afterParts⟩
  have quote : ∀ c ∈ escapable, c ≠ '<' ∧ c ≠ '>' ∧ c ≠ '&' → c ∉ text.toList := by
    rintro c special ⟨notLess, notGreater, notAmpersand⟩ mem
    obtain ⟨pre, post, parts⟩ := List.append_of_mem mem
    rcases place pre c post parts special with ⟨bracket, -⟩ | ⟨ampersand, -⟩
    · exact bracket.elim notLess notGreater
    · exact notAmpersand ampersand
  constructor
  · rintro pre c post parts (rfl | rfl)
    · rcases place pre _ post parts (by decide) with ⟨-, belongs⟩ | ⟨eq, -⟩
      · exact belongs
      · exact absurd eq (by decide)
    · rcases place pre _ post parts (by decide) with ⟨-, belongs⟩ | ⟨eq, -⟩
      · exact belongs
      · exact absurd eq (by decide)
  · intro pre post parts
    rcases place pre _ post parts (by decide) with ⟨eq, -⟩ | ⟨-, belongs⟩
    · exact absurd eq (by decide)
    · exact belongs
  · exact ⟨quote '"' (by decide) (by decide), quote '\'' (by decide) (by decide)⟩

/-! ## Decoding -/

/-- A piece of a text, with the replacements made one after the other. -/
def decodedPiece (replacements : List (String × String)) (piece : List Char) : List Char :=
  replacements.foldl (fun piece (pattern, replacement) =>
    if piece = pattern.toList then replacement.toList else piece) piece

def DecodesReferences (replacements : List (String × String)) : Prop :=
  ∀ replacement ∈ replacements, IsReference '&' ';' replacement.1.toList
    ∧ IsPiece '&' ';' replacement.2.toList

theorem toList_replaceEach
    (decodes : DecodesReferences replacements)
    {wrote : Char → List Char} (isText : text.toList = chars.flatMap wrote)
    (each : ∀ c, IsPiece '&' ';' (wrote c)) :
    (replaceEach replacements text).toList
        = chars.flatMap (fun c => decodedPiece replacements (wrote c))
      ∧ ∀ c, IsPiece '&' ';' (decodedPiece replacements (wrote c)) := by
  induction replacements generalizing text wrote with
  | nil => exact ⟨isText, each⟩
  | cons replacement replacements ih =>
    obtain ⟨pat, other⟩ := replacement
    obtain ⟨first, later⟩ := List.forall_mem_cons.mp decodes
    refine ih later (toList_replaceAll_flatten (by decide) isText each first.1) fun c => ?_
    dsimp only
    split_ifs
    · exact first.2
    · exact each c

theorem decodedPiece_singleton
    (decodes : DecodesReferences replacements) (c : Char) :
    decodedPiece replacements [c] = [c] := by
  induction replacements with
  | nil => rfl
  | cons replacement replacements ih =>
    obtain ⟨first, later⟩ := List.forall_mem_cons.mp decodes
    obtain ⟨name, -, -, spelled⟩ := first.1
    have other : [c] ≠ replacement.1.toList := by
      rw [spelled]
      intro eq
      have lengths := congrArg List.length eq
      rw [List.length_cons, List.length_cons, List.length_append] at lengths
      simp at lengths
    have kept : (if [c] = replacement.1.toList then replacement.2.toList else [c]) = [c] :=
      if_neg other
    have step : decodedPiece (replacement :: replacements) [c]
        = decodedPiece replacements
          (if [c] = replacement.1.toList then replacement.2.toList else [c]) := rfl
    rw [step, kept, ih later]

/-- The replacements of `decode_basic_html_entities` but the last. -/
def basicEntities : List (String × String) :=
  [("&nbsp;", " "), ("&#39;", "'"), ("&#x27;", "'"), ("&quot;", "\""), ("&lt;", "<"), ("&gt;", ">")]

theorem decodesReferences_basicEntities : DecodesReferences basicEntities := by
  intro replacement mem
  simp only [basicEntities, List.mem_cons, List.not_mem_nil, or_false] at mem
  rcases mem with rfl | rfl | rfl | rfl | rfl | rfl
  · exact ⟨⟨"nbsp".toList, by decide⟩, Or.inl ⟨' ', by decide⟩⟩
  · exact ⟨⟨"#39".toList, by decide⟩, Or.inl ⟨'\'', by decide⟩⟩
  · exact ⟨⟨"#x27".toList, by decide⟩, Or.inl ⟨'\'', by decide⟩⟩
  · exact ⟨⟨"quot".toList, by decide⟩, Or.inl ⟨'"', by decide⟩⟩
  · exact ⟨⟨"lt".toList, by decide⟩, Or.inl ⟨'<', by decide⟩⟩
  · exact ⟨⟨"gt".toList, by decide⟩, Or.inl ⟨'>', by decide⟩⟩

theorem isReference_amp : IsReference '&' ';' "&amp;".toList :=
  ⟨"amp".toList, by decide⟩

theorem isPiece_escaped (c : Char) : IsPiece '&' ';' (escapedCharacter c) := by
  by_cases special : c ∈ escapable
  · right
    simp only [escapable, List.mem_cons, List.not_mem_nil, or_false] at special
    rcases special with rfl | rfl | rfl | rfl | rfl
    · exact ⟨"amp".toList, by decide⟩
    · exact ⟨"lt".toList, by decide⟩
    · exact ⟨"gt".toList, by decide⟩
    · exact ⟨"quot".toList, by decide⟩
    · exact ⟨"#39".toList, by decide⟩
  · rw [escaped_of_notMem special]
    exact Or.inl ⟨c, fun eq => special (eq ▸ by decide), rfl⟩

theorem decoded_escaped (c : Char) :
    (if decodedPiece basicEntities (escapedCharacter c) = "&amp;".toList then "&".toList
      else decodedPiece basicEntities (escapedCharacter c)) = [c] := by
  by_cases special : c ∈ escapable
  · have each : ∀ c ∈ escapable,
        (if decodedPiece basicEntities (escapedCharacter c) = "&amp;".toList then "&".toList
          else decodedPiece basicEntities (escapedCharacter c)) = [c] :=
      forall_mem_of_all (by decide)
    exact each c special
  · have long : [c] ≠ "&amp;".toList := by
      intro eq
      have length : "&amp;".toList.length = 5 := by decide
      rw [← eq, List.length_singleton] at length
      cases length
    rw [escaped_of_notMem special,
      decodedPiece_singleton decodesReferences_basicEntities, if_neg long]

/-- **Decoding an escaped text** gives the text back: the ampersands come first when
escaping and last when decoding. -/
theorem decodeBasicHtmlEntities_escapeHtml (text : String) :
    decodeBasicHtmlEntities (escapeHtml text) = text := by
  have steps : decodeBasicHtmlEntities (escapeHtml text)
      = replaceAll (replaceEach basicEntities (escapeHtml text)) "&amp;" "&" := rfl
  obtain ⟨decoded, pieces⟩ := toList_replaceEach decodesReferences_basicEntities
    (toList_escapeHtml text) isPiece_escaped
  rw [steps, ← String.toList_inj,
    toList_replaceAll_flatten (by decide) decoded pieces isReference_amp]
  rw [List.flatMap_congr fun c _ => decoded_escaped c]
  exact List.flatMap_singleton' _

/-- **Sanitized markup is safe**, and escaping loses nothing. -/
theorem sanitized_markup :
    (∀ html, SafeMarkup (sanitizeRemoteStatusHtml html))
      ∧ ∀ text, decodeBasicHtmlEntities (escapeHtml text) = text :=
  ⟨fun _ => (isMarkup_renderStatusHtml _).safeMarkup, decodeBasicHtmlEntities_escapeHtml⟩

end Cfwdon.Statuses
