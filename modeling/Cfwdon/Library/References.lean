import Cfwdon.Library.Text

/-!
# Replacing the references of a text

A text may be written in pieces: single characters, and references such as `&name;`, whose
names hold neither the opening nor the closing character.  Replacing one reference then
touches no other piece.
-/

namespace Cfwdon.Library

variable {pattern : List Char}

theorem occurrences_skip (passed rest : List Char) :
    splitOccurrences pattern passed.length (passed ++ rest) = splitOccurrences pattern 0 rest := by
  induction passed with
  | nil => rfl
  | cons c passed ih =>
    rw [List.length_cons, List.cons_append, splitOccurrences]
    exact ih

theorem occurrences_append_pattern (ne : pattern ≠ []) (rest : List Char) :
    splitOccurrences pattern 0 (pattern ++ rest) = [] :: splitOccurrences pattern 0 rest := by
  obtain ⟨c, others, rfl⟩ := List.exists_cons_of_ne_nil ne
  have starts : (c :: others).isPrefixOf (c :: (others ++ rest)) = true :=
    List.isPrefixOf_iff_prefix.mpr (List.prefix_append (c :: others) rest)
  rw [List.cons_append, splitOccurrences, if_pos starts, List.length_cons, Nat.add_sub_cancel,
    occurrences_skip]

variable {rest : List Char} {c : Char} {others chars : List Char} {pieces : List (List Char)}

theorem occurrences_cons_of_not_isPrefix
    (other : ¬ pattern <+: c :: rest) :
    splitOccurrences pattern 0 (c :: rest)
      = (splitOccurrences pattern 0 rest).modifyHead (c :: ·) := by
  rw [splitOccurrences, if_neg (mt List.isPrefixOf_iff_prefix.mp other)]
  obtain ⟨piece, pieces, got⟩ :=
    List.exists_cons_of_ne_nil (occurrences_ne_nil pattern rest 0)
  rw [got]
  rfl

theorem occurrences_append_of_forall {opening : Char}
    (absent : opening ∉ chars) (rest : List Char) :
    splitOccurrences (opening :: others) 0 (chars ++ rest)
      = (splitOccurrences (opening :: others) 0 rest).modifyHead (chars ++ ·) := by
  induction chars with
  | nil =>
    obtain ⟨piece, pieces, got⟩ :=
      List.exists_cons_of_ne_nil (occurrences_ne_nil (opening :: others) rest 0)
    rw [List.nil_append, got]
    rfl
  | cons c chars ih =>
    rw [List.mem_cons, not_or] at absent
    have other : ¬ opening :: others <+: c :: (chars ++ rest) := fun starts =>
      absent.1 (List.cons_prefix_cons.mp starts).1
    rw [List.cons_append, occurrences_cons_of_not_isPrefix other, ih absent.2]
    obtain ⟨piece, pieces, got⟩ :=
      List.exists_cons_of_ne_nil (occurrences_ne_nil (opening :: others) rest 0)
    rw [got]
    rfl

/-! ## Replacing -/

def replaced (pattern other chars : List Char) : List Char :=
  ((splitOccurrences pattern 0 chars).intersperse other).flatten

theorem toList_replaceAll_eq (text pattern replacement : String) :
    (replaceAll text pattern replacement).toList
      = replaced pattern.toList replacement.toList text.toList := by
  rw [replaceAll, joinWith, splitOn, String.toList_ofList, List.map_map, replaced]
  congr 2
  simp [Function.comp_def]

variable {other : List Char}

theorem replaced_append_pattern (ne : pattern ≠ []) (rest : List Char) :
    replaced pattern other (pattern ++ rest) = other ++ replaced pattern other rest := by
  rw [replaced, replaced, occurrences_append_pattern ne]
  obtain ⟨piece, pieces, got⟩ :=
    List.exists_cons_of_ne_nil (occurrences_ne_nil pattern rest 0)
  rw [got, List.intersperse_cons_cons]
  simp only [List.flatten_cons, List.nil_append]

theorem flatten_intersperse_modifyHead (some : pieces ≠ [])
    (front : List Char) :
    ((pieces.modifyHead (front ++ ·)).intersperse other).flatten
      = front ++ (pieces.intersperse other).flatten := by
  obtain ⟨piece, pieces, rfl⟩ := List.exists_cons_of_ne_nil some
  cases pieces with
  | nil => simp only [List.modifyHead_cons, List.intersperse_singleton, List.flatten_cons,
      List.flatten_nil, List.append_assoc]
  | cons next pieces =>
    simp only [List.modifyHead_cons, List.intersperse_cons_cons, List.flatten_cons,
      List.append_assoc]

theorem replaced_cons_of_not_isPrefix
    (notHere : ¬ pattern <+: c :: rest) :
    replaced pattern other (c :: rest) = c :: replaced pattern other rest := by
  rw [replaced, occurrences_cons_of_not_isPrefix notHere]
  exact flatten_intersperse_modifyHead (occurrences_ne_nil pattern rest 0) [c]

theorem replaced_append_of_forall {opening : Char}
    (absent : opening ∉ chars) (rest : List Char) :
    replaced (opening :: others) other (chars ++ rest)
      = chars ++ replaced (opening :: others) other rest := by
  rw [replaced, occurrences_append_of_forall absent]
  exact flatten_intersperse_modifyHead (occurrences_ne_nil _ rest 0) chars

/-! ## References -/

variable {opening closing : Char}

def IsReference (opening closing : Char) (chars : List Char) : Prop :=
  ∃ name, opening ∉ name ∧ closing ∉ name ∧ chars = opening :: (name ++ [closing])

/-- A piece of a text: a character that opens no reference, or a reference. -/
def IsPiece (opening closing : Char) (chars : List Char) : Prop :=
  (∃ c, c ≠ opening ∧ chars = [c]) ∨ IsReference opening closing chars

theorem name_eq_of_isPrefix {name name' rest : List Char} (noClosing : closing ∉ name)
    (noClosing' : closing ∉ name') (starts : name ++ [closing] <+: name' ++ closing :: rest) :
    name = name' := by
  obtain ⟨tail, eq⟩ := starts
  rw [List.append_assoc, List.singleton_append] at eq
  rw [← (@split_at_first closing name tail noClosing).1, eq, (split_at_first noClosing').1]

/-- **Replacing a reference** replaces the pieces that are it, and no others. -/
theorem replaced_flatten (different : opening ≠ closing) {ref : List Char}
    (isReference : IsReference opening closing ref)
    (each : ∀ piece ∈ pieces, IsPiece opening closing piece) :
    replaced ref other pieces.flatten
      = pieces.flatMap fun piece => if piece = ref then other else piece := by
  obtain ⟨name, noOpening, noClosing, rfl⟩ := isReference
  induction pieces with
  | nil => rfl
  | cons piece pieces ih =>
    rw [List.forall_mem_cons] at each
    rw [List.flatten_cons, List.flatMap_cons, ← ih each.2]
    split_ifs with here
    · rw [here, replaced_append_pattern (List.cons_ne_nil _ _)]
    · rcases each.1 with ⟨c, plain, rfl⟩ | ⟨name', noOpening', noClosing', rfl⟩
      · exact replaced_append_of_forall (by simpa using plain.symm) _
      · have elsewhere : ¬ opening :: (name ++ [closing])
            <+: opening :: (name' ++ [closing] ++ pieces.flatten) := by
          intro starts
          have closed := (List.cons_prefix_cons.mp starts).2
          rw [List.append_assoc, List.singleton_append] at closed
          exact here (by rw [name_eq_of_isPrefix noClosing noClosing' closed])
        have rest : opening ∉ name' ++ [closing] := by
          rw [List.mem_append, List.mem_singleton, not_or]
          exact ⟨noOpening', different⟩
        rw [List.cons_append, replaced_cons_of_not_isPrefix elsewhere,
          replaced_append_of_forall rest]
        rfl

/-- **Replacing a reference in a text that is written character by character.** -/
theorem toList_replaceAll_flatten (different : opening ≠ closing)
    {text pattern replacement : String} {chars : List Char} {wrote : Char → List Char}
    (isText : text.toList = chars.flatMap wrote)
    (each : ∀ c, IsPiece opening closing (wrote c))
    (isReference : IsReference opening closing pattern.toList) :
    (replaceAll text pattern replacement).toList
      = chars.flatMap fun c =>
          if wrote c = pattern.toList then replacement.toList else wrote c := by
  have pieces : ∀ piece ∈ chars.map wrote, IsPiece opening closing piece := by
    intro piece mem
    obtain ⟨c, -, rfl⟩ := List.mem_map.mp mem
    exact each c
  rw [toList_replaceAll_eq, isText, List.flatMap_def, replaced_flatten different isReference pieces,
    List.flatMap_map]

end Cfwdon.Library
