import Mathlib.Data.List.TakeWhile

/-!
# Text operations of the standard library

Strings are handled through their characters, so every operation evaluates.
-/

namespace Cfwdon.Library

/-- The Unicode property `White_Space`. -/
def isWhitespace (c : Char) : Bool :=
  let n := c.toNat
  (9 ≤ n && n ≤ 13) || n == 32 || n == 0x85 || n == 0xA0 || n == 0x1680
    || (0x2000 ≤ n && n ≤ 0x200A) || n == 0x2028 || n == 0x2029 || n == 0x202F
    || n == 0x205F || n == 0x3000

theorem forall_mem_of_all {α : Type*} {holds : α → Prop} [DecidablePred holds] {list : List α}
    (each : list.all (fun member => decide (holds member)) = true) :
    ∀ member ∈ list, holds member :=
  fun member inside => of_decide_eq_true (List.all_eq_true.mp each member inside)

def whitespaceCodes : List Nat :=
  [9, 10, 11, 12, 13, 32, 0x85, 0xA0, 0x1680, 0x2000, 0x2001, 0x2002, 0x2003, 0x2004, 0x2005,
    0x2006, 0x2007, 0x2008, 0x2009, 0x200A, 0x2028, 0x2029, 0x202F, 0x205F, 0x3000]

theorem of_isWhitespace {holds : Char → Bool} {c : Char} (white : isWhitespace c = true)
    (each : whitespaceCodes.all (fun code => holds (Char.ofNat code)) = true) :
    holds c = true := by
  have listed : c.toNat ∈ whitespaceCodes := by
    simp only [isWhitespace, Bool.or_eq_true, Bool.and_eq_true, decide_eq_true_eq,
      beq_iff_eq] at white
    simp only [whitespaceCodes, List.mem_cons, List.not_mem_nil, or_false]
    omega
  have got := List.all_eq_true.mp each _ listed
  rwa [Char.ofNat_toNat] at got

/-- Drop the characters at both ends that meet the predicate. -/
def trimMatches (drop : Char → Bool) (text : String) : String :=
  String.ofList ((text.toList.dropWhile drop).reverse.dropWhile drop).reverse

/-- Drop leading and trailing whitespace. -/
def trim (text : String) : String :=
  trimMatches isWhitespace text

variable {drop : Char → Bool} {c : Char} {text : String} {chars : List Char} {sep : Char}

theorem mem_dropWhile {text : List Char} (mem : c ∈ text)
    (kept : drop c = false) : c ∈ text.dropWhile drop := by
  induction text with
  | nil => cases mem
  | cons d rest ih =>
    rw [List.dropWhile_cons]
    split_ifs with dropped
    · rcases List.mem_cons.mp mem with rfl | later
      · rw [kept] at dropped
        cases dropped
      · exact ih later
    · exact mem

theorem mem_trimMatches
    (mem : c ∈ text.toList) (kept : drop c = false) :
    c ∈ (trimMatches drop text).toList := by
  simp only [trimMatches, String.toList_ofList, List.mem_reverse]
  exact mem_dropWhile (List.mem_reverse.mpr (mem_dropWhile mem kept)) kept

theorem mem_of_mem_trimMatches (mem : c ∈ (trimMatches drop text).toList) : c ∈ text.toList := by
  simp only [trimMatches, String.toList_ofList, List.mem_reverse] at mem
  have inner := (List.dropWhile_sublist _).subset mem
  exact (List.dropWhile_sublist _).subset (List.mem_reverse.mp inner)

theorem trimMatches_of_forall
    (kept : ∀ c ∈ text.toList, drop c = false) : trimMatches drop text = text := by
  have untouched : ∀ {chars : List Char}, (∀ c ∈ chars, drop c = false) →
      chars.dropWhile drop = chars := by
    intro chars allKept
    cases chars with
    | nil => rfl
    | cons c rest => rw [List.dropWhile_cons, allKept c (List.mem_cons_self ..)]; rfl
  rw [trimMatches, untouched kept, untouched fun c mem => kept c (List.mem_reverse.mp mem),
    List.reverse_reverse, String.ofList_toList]

/-- What is left after dropping from the front starts with a character that is kept,
and so does every prefix of it. -/
theorem dropWhile_of_isPrefix {chars kept : List Char}
    (starts : kept <+: chars.dropWhile drop) : kept.dropWhile drop = kept := by
  cases kept with
  | nil => rfl
  | cons c rest =>
    obtain ⟨tail, eq⟩ := starts
    have head : (chars.dropWhile drop).head? = some c := by rw [← eq]; rfl
    have stays : drop c = false := by
      have first := List.head?_dropWhile_not drop chars
      rw [head] at first
      simpa using first
    rw [List.dropWhile_cons, stays]
    rfl

theorem trimMatches_trimMatches (drop : Char → Bool) (text : String) :
    trimMatches drop (trimMatches drop text) = trimMatches drop text := by
  have back : (((text.toList.dropWhile drop).reverse.dropWhile drop).reverse)
      <+: text.toList.dropWhile drop := by
    rw [← List.reverse_suffix, List.reverse_reverse]
    exact List.dropWhile_suffix drop
  have front := dropWhile_of_isPrefix back
  have again := dropWhile_of_isPrefix
    (List.prefix_refl ((text.toList.dropWhile drop).reverse.dropWhile drop))
  rw [trimMatches, trimMatches, String.toList_ofList, front, List.reverse_reverse, again]

theorem trim_trim (text : String) : trim (trim text) = trim text :=
  trimMatches_trimMatches isWhitespace text

/-- Nothing is dropped from the front exactly if the first character stays. -/
theorem dropWhile_eq_self_iff_head :
    chars.dropWhile drop = chars ↔ ∀ c, chars.head? = some c → drop c = false := by
  cases chars with
  | nil => simp
  | cons first rest =>
    rw [List.dropWhile_cons]
    split_ifs with dropped
    · constructor
      · intro eq
        have shorter := (List.dropWhile_sublist (l := rest) drop).length_le
        rw [eq, List.length_cons] at shorter
        omega
      · intro kept
        rw [kept first rfl] at dropped
        cases dropped
    · simpa using dropped

theorem trimMatches_sublist (drop : Char → Bool) (text : String) :
    (trimMatches drop text).toList.Sublist text.toList := by
  have inner := (List.dropWhile_sublist (l := (text.toList.dropWhile drop).reverse) drop).reverse
  rw [List.reverse_reverse] at inner
  rw [trimMatches, String.toList_ofList]
  exact inner.trans (List.dropWhile_sublist drop)

theorem exists_ends_trimMatches (drop : Char → Bool) (text : String) :
    ∃ front back, text.toList = front ++ (trimMatches drop text).toList ++ back
      ∧ (∀ c ∈ front, drop c = true) ∧ ∀ c ∈ back, drop c = true := by
  have whole := @List.takeWhile_append_dropWhile _ drop text.toList
  have inner := @List.takeWhile_append_dropWhile _ drop (text.toList.dropWhile drop).reverse
  have turned := congrArg List.reverse inner
  rw [List.reverse_append, List.reverse_reverse] at turned
  refine ⟨text.toList.takeWhile drop,
    ((text.toList.dropWhile drop).reverse.takeWhile drop).reverse, ?_, ?_, ?_⟩
  · rw [trimMatches, String.toList_ofList, List.append_assoc, turned, whole]
  · exact fun c mem => List.mem_takeWhile_imp mem
  · exact fun c mem => List.mem_takeWhile_imp (List.mem_reverse.mp mem)

theorem trimMatches_of_length
    (eq : (trimMatches drop text).toList.length = text.toList.length) :
    trimMatches drop text = text :=
  String.toList_inj.mp ((trimMatches_sublist drop text).eq_of_length eq)

/-- A text is left alone exactly if the characters at its ends stay. -/
theorem trimMatches_eq_self_iff :
    trimMatches drop text = text
      ↔ (∀ c, text.toList.head? = some c → drop c = false)
        ∧ ∀ c, text.toList.getLast? = some c → drop c = false := by
  rw [← dropWhile_eq_self_iff_head, ← List.head?_reverse, ← dropWhile_eq_self_iff_head,
    ← String.toList_inj, trimMatches, String.toList_ofList]
  constructor
  · intro eq
    have front : text.toList.dropWhile drop = text.toList := by
      apply (List.dropWhile_sublist drop).eq_of_length
      have outer := (List.dropWhile_sublist (l := text.toList) drop).length_le
      have inner := (List.dropWhile_sublist
        (l := (text.toList.dropWhile drop).reverse) drop).length_le
      have lengths := congrArg List.length eq
      rw [List.length_reverse] at inner lengths
      omega
    refine ⟨front, ?_⟩
    rw [front] at eq
    rw [← List.reverse_inj, eq, List.reverse_reverse]
  · rintro ⟨front, back⟩
    rw [front, back, List.reverse_reverse]

/-- Drop a pattern from the front as often as it stands there, at most `fuel`
times. -/
def dropPrefixes (pattern : List Char) : Nat → List Char → List Char
  | 0, text => text
  | fuel + 1, text =>
    if pattern.isPrefixOf text then dropPrefixes pattern fuel (text.drop pattern.length)
    else text

/-- `trim_start_matches`, for a pattern that is not empty. -/
def trimStartMatches (text pattern : String) : String :=
  String.ofList (dropPrefixes pattern.toList text.length text.toList)

theorem trimStartMatches_of_not_isPrefix {text pat : String}
    (other : pat.toList.isPrefixOf text.toList = false) :
    trimStartMatches text pat = text := by
  have kept : ∀ fuel, dropPrefixes pat.toList fuel text.toList = text.toList := by
    intro fuel
    cases fuel with
    | zero => rfl
    | succ fuel => rw [dropPrefixes, if_neg (Bool.eq_false_iff.mp other)]
  rw [trimStartMatches, kept, String.ofList_toList]

/-- `trim_end_matches`, for a character. -/
def trimEndMatches (text : String) (drop : Char) : String :=
  String.ofList ((text.toList.reverse.dropWhile (· == drop)).reverse)

def stripPrefix (text start : String) : Option String :=
  if start.toList.isPrefixOf text.toList then
    some (String.ofList (text.toList.drop start.length))
  else none

theorem toList_of_stripPrefix {text start rest : String}
    (stripped : stripPrefix text start = some rest) :
    text.toList = start.toList ++ rest.toList := by
  rw [stripPrefix] at stripped
  by_cases starts : start.toList.isPrefixOf text.toList = true
  · obtain ⟨post, eq⟩ := List.isPrefixOf_iff_prefix.mp starts
    rw [if_pos starts, ← eq, ← String.length_toList, List.drop_left, Option.some.injEq] at stripped
    rw [← eq, ← stripped, String.toList_ofList]
  · rw [if_neg starts] at stripped
    cases stripped

theorem stripPrefix_append (start rest : String) : stripPrefix (start ++ rest) start = some rest := by
  have starts : start.toList.isPrefixOf (start ++ rest).toList = true := by
    rw [String.toList_append]
    exact List.isPrefixOf_iff_prefix.mpr (List.prefix_append _ _)
  rw [stripPrefix, if_pos starts, String.toList_append, ← String.length_toList, List.drop_left,
    String.ofList_toList]

/-- The two sides of the last occurrence of a character. -/
def rsplitOnce (text : String) (separator : Char) : Option (String × String) :=
  match text.toList.reverse.dropWhile (· != separator) with
  | [] => none
  | _ :: before =>
    some (String.ofList before.reverse,
      String.ofList (text.toList.reverse.takeWhile (· != separator)).reverse)

theorem rsplitOnce_cases (text : String) (separator : Char) :
    (rsplitOnce text separator = none ∧ separator ∉ text.toList)
      ∨ ∃ pre post, rsplitOnce text separator = some (pre, post)
        ∧ text.toList = pre.toList ++ separator :: post.toList
        ∧ separator ∉ post.toList := by
  have whole := @List.takeWhile_append_dropWhile _ (· != separator) text.toList.reverse
  have later : separator ∉ text.toList.reverse.takeWhile (· != separator) := fun mem => by
    simpa using List.mem_takeWhile_imp mem
  unfold rsplitOnce
  cases got : text.toList.reverse.dropWhile (· != separator) with
  | nil =>
    refine Or.inl ⟨rfl, fun mem => later ?_⟩
    rw [got, List.append_nil] at whole
    rw [whole]
    exact List.mem_reverse.mpr mem
  | cons c pre =>
    have eq : c = separator := by
      have first := List.head?_dropWhile_not (· != separator) text.toList.reverse
      rw [got] at first
      simpa using first
    refine Or.inr ⟨_, _, rfl, ?_, ?_⟩
    · rw [got, eq] at whole
      have parts := congrArg List.reverse whole
      rw [List.reverse_append, List.reverse_cons, List.reverse_reverse, List.append_assoc] at parts
      rw [String.toList_ofList, String.toList_ofList]
      exact parts.symm
    · rw [String.toList_ofList]
      exact fun mem => later (List.mem_reverse.mp mem)

/-- The two sides of the first occurrence of a character. -/
def splitOnce (text : String) (separator : Char) : Option (String × String) :=
  match text.toList.dropWhile (· != separator) with
  | [] => none
  | _ :: after =>
    some (String.ofList (text.toList.takeWhile (· != separator)), String.ofList after)

/-- What stands before the first occurrence of a character, or all of the text. -/
def splitFirst (text : String) (separator : Char) : String :=
  String.ofList (text.toList.takeWhile (· != separator))

theorem split_at_first {sep : Char} {first rest : List Char}
    (absent : sep ∉ first) :
    (first ++ sep :: rest).takeWhile (· != sep) = first
      ∧ (first ++ sep :: rest).dropWhile (· != sep) = sep :: rest := by
  have passed : ∀ c ∈ first, (c != sep) = true := by
    intro c mem
    simpa using fun same : c = sep => absent (same ▸ mem)
  constructor
  · rw [List.takeWhile_append_of_pos passed]
    simp
  · rw [List.dropWhile_append_of_pos passed]
    simp

/-- What stands before a separator that the first part does not hold is the first
part. -/
theorem splitFirst_append {first rest : String}
    (absent : sep ∉ first.toList) :
    splitFirst (first ++ String.ofList (sep :: rest.toList)) sep = first := by
  rw [splitFirst, String.toList_append, String.toList_ofList, (split_at_first absent).1,
    String.ofList_toList]

theorem splitOnce_of_toList {text first rest : String}
    (parts : text.toList = first.toList ++ sep :: rest.toList)
    (absent : sep ∉ first.toList) : splitOnce text sep = some (first, rest) := by
  obtain ⟨pre, post⟩ := split_at_first absent
  rw [splitOnce, parts, post, pre]
  simp only [String.ofList_toList]

theorem splitOnce_eq_none (absent : sep ∉ text.toList) : splitOnce text sep = none := by
  have nothing : text.toList.dropWhile (· != sep) = [] := by
    rw [List.dropWhile_eq_nil_iff]
    intro c mem
    simpa using fun same : c = sep => absent (same ▸ mem)
  rw [splitOnce, nothing]

theorem exists_splitOnce_of_mem
    (mem : sep ∈ text.toList) :
    ∃ first rest, splitOnce text sep = some (first, rest) := by
  cases tail : text.toList.dropWhile (· != sep) with
  | nil =>
    have all := List.dropWhile_eq_nil_iff.mp tail sep mem
    simp at all
  | cons c rest => exact ⟨_, _, by rw [splitOnce, tail]⟩

theorem mem_of_splitOnce {text pre post : String} {sep c : Char}
    (split : splitOnce text sep = some (pre, post)) (mem : c ∈ post.toList) :
    c ∈ text.toList := by
  rw [splitOnce] at split
  cases rest : text.toList.dropWhile (· != sep) with
  | nil => rw [rest] at split; cases split
  | cons first tail =>
    rw [rest] at split
    cases split
    rw [String.toList_ofList] at mem
    have later : c ∈ text.toList.dropWhile (· != sep) := by
      rw [rest]
      exact List.mem_cons_of_mem first mem
    exact (List.dropWhile_sublist _).subset later

/-- Map `A` to `Z` to lower case and leave every other character alone. -/
def toAsciiLowercase (text : String) : String :=
  String.ofList (text.toList.map Char.toLower)

theorem toList_lowercase (text : String) :
    (toAsciiLowercase text).toList = text.toList.map Char.toLower :=
  String.toList_ofList

def endsWith (text suffix : String) : Bool :=
  suffix.toList.reverse.isPrefixOf text.toList.reverse

/-- Drop the occurrences of a pattern, from the left and without overlap.  The
counter is what is left of the occurrence being dropped. -/
def dropOccurrences (pattern : List Char) : Nat → List Char → List Char
  | _, [] => []
  | left + 1, _ :: rest => dropOccurrences pattern left rest
  | 0, c :: rest =>
    if pattern.isPrefixOf (c :: rest) then dropOccurrences pattern (pattern.length - 1) rest
    else c :: dropOccurrences pattern 0 rest

/-- `REPLACE(text, pattern, '')`, for a pattern that is not empty. -/
def removeAll (text pattern : String) : String :=
  String.ofList (dropOccurrences pattern.toList 0 text.toList)

/-- The pieces between the occurrences of a pattern, from the left and without
overlap.  The counter is what is left of the occurrence being passed. -/
def splitOccurrences (pattern : List Char) : Nat → List Char → List (List Char)
  | _, [] => [[]]
  | left + 1, _ :: rest => splitOccurrences pattern left rest
  | 0, c :: rest =>
    if pattern.isPrefixOf (c :: rest) then
      [] :: splitOccurrences pattern (pattern.length - 1) rest
    else
      match splitOccurrences pattern 0 rest with
      | piece :: pieces => (c :: piece) :: pieces
      | [] => [[c]]

theorem occurrences_ne_nil (pat chars : List Char) (left : Nat) :
    splitOccurrences pat left chars ≠ [] := by
  induction chars generalizing left with
  | nil => cases left <;> simp [splitOccurrences]
  | cons c rest ih =>
    cases left with
    | succ left => exact ih left
    | zero =>
      rw [splitOccurrences]
      split_ifs
      · simp
      · split <;> simp

theorem occurrences_append (sep : Char) (front back : List Char) :
    splitOccurrences [sep] 0 (front ++ sep :: back)
      = splitOccurrences [sep] 0 front ++ splitOccurrences [sep] 0 back := by
  induction front with
  | nil => simp [splitOccurrences]
  | cons c rest ih =>
    rw [List.cons_append, splitOccurrences, splitOccurrences, List.isPrefixOf_cons_cons,
      List.isPrefixOf_cons_cons]
    simp only [List.isPrefixOf_nil_left, Bool.and_true]
    by_cases here : sep = c
    · subst here
      simp [ih]
    · have other : (sep == c) = false := by simpa using here
      rw [other, ih]
      obtain ⟨piece, pieces, got⟩ :=
        List.exists_cons_of_ne_nil (occurrences_ne_nil [sep] rest 0)
      simp [got]

theorem occurrences_of_notMem
    (absent : sep ∉ chars) : splitOccurrences [sep] 0 chars = [chars] := by
  induction chars with
  | nil => rfl
  | cons c rest ih =>
    obtain ⟨other, later⟩ := not_or.mp fun mem => absent (List.mem_cons.mpr mem)
    simp [splitOccurrences, other, ih later]

theorem notMem_of_mem_occurrences {chars piece : List Char}
    (mem : piece ∈ splitOccurrences [sep] 0 chars) : sep ∉ piece := by
  induction chars generalizing piece with
  | nil =>
    rw [splitOccurrences, List.mem_singleton] at mem
    simp [mem]
  | cons c rest ih =>
    rw [splitOccurrences, List.isPrefixOf_cons_cons] at mem
    simp only [List.isPrefixOf_nil_left, Bool.and_true] at mem
    by_cases here : sep = c
    · subst here
      simp only [beq_self_eq_true, if_true, List.mem_cons, List.length_singleton,
        Nat.sub_self] at mem
      rcases mem with rfl | later
      · simp
      · exact ih later
    · have other : (sep == c) = false := by simpa using here
      obtain ⟨first, pieces, got⟩ :=
        List.exists_cons_of_ne_nil (occurrences_ne_nil [sep] rest 0)
      rw [got] at mem ih
      simp only [other, Bool.false_eq_true, if_false, List.mem_cons] at mem
      rcases mem with rfl | later
      · exact List.not_mem_cons_of_ne_of_not_mem here (ih (List.mem_cons_self ..))
      · exact ih (List.mem_cons_of_mem _ later)

/-- `split`, for a pattern that is not empty. -/
def splitOn (text pattern : String) : List String :=
  (splitOccurrences pattern.toList 0 text.toList).map String.ofList

/-- `join`. -/
def joinWith (pieces : List String) (separator : String) : String :=
  String.ofList ((pieces.map String.toList).intersperse separator.toList).flatten

theorem joinWith_singleton (piece sep : String) : joinWith [piece] sep = piece := by
  simp [joinWith]

theorem joinWith_cons_cons (first second separator : String) (rest : List String) :
    joinWith (first :: second :: rest) separator
      = first ++ separator ++ joinWith (second :: rest) separator := by
  rw [← String.toList_inj]
  simp [joinWith]

/-- `replace`, for a pattern that is not empty. -/
def replaceAll (text pattern replacement : String) : String :=
  joinWith (splitOn text pattern) replacement

theorem flatten_intersperse_occurrences (separator : Char) (other chars : List Char) :
    ((splitOccurrences [separator] 0 chars).intersperse other).flatten
      = chars.flatMap fun c => if c = separator then other else [c] := by
  induction chars with
  | nil => simp [splitOccurrences]
  | cons c rest ih =>
    obtain ⟨piece, pieces, got⟩ :=
      List.exists_cons_of_ne_nil (occurrences_ne_nil [separator] rest 0)
    rw [splitOccurrences, List.isPrefixOf_cons_cons, List.flatMap_cons, ← ih, got]
    simp only [List.isPrefixOf_nil_left, Bool.and_true, List.length_singleton, Nat.sub_self]
    by_cases here : separator = c
    · subst here
      rw [got]
      simp
    · have noMatch : (separator == c) = false := by simpa using here
      have others : c ≠ separator := fun eq => here eq.symm
      cases pieces <;> simp [noMatch, others]

/-- **Replacing a character** replaces it everywhere. -/
theorem toList_replaceAll {text pat replacement : String}
    (single : pat.toList = [c]) :
    (replaceAll text pat replacement).toList
      = text.toList.flatMap fun d => if d = c then replacement.toList else [d] := by
  rw [replaceAll, joinWith, splitOn, single, String.toList_ofList, List.map_map,
    ← flatten_intersperse_occurrences]
  congr 2
  simp [Function.comp_def]

theorem flatten_occurrences_sublist (pat : List Char) (left : Nat) (chars : List Char) :
    (splitOccurrences pat left chars).flatten.Sublist chars := by
  induction chars generalizing left with
  | nil => cases left <;> simp [splitOccurrences]
  | cons c rest ih =>
    cases left with
    | succ left => exact (ih left).cons c
    | zero =>
      rw [splitOccurrences]
      split_ifs
      · exact (ih _).cons c
      · have later := ih 0
        obtain ⟨piece, pieces, got⟩ :=
          List.exists_cons_of_ne_nil (occurrences_ne_nil pat rest 0)
        rw [got] at later ⊢
        exact later.cons_cons c

theorem toList_joinWith_empty (pieces : List String) :
    (joinWith pieces "").toList = pieces.flatMap String.toList := by
  induction pieces with
  | nil => rfl
  | cons piece rest ih =>
    cases rest with
    | nil => simp [joinWith_singleton]
    | cons next rest =>
      rw [joinWith_cons_cons, String.toList_append, ih]
      simp

theorem filter_flatten_occurrences {keep : Char → Bool} {pat : List Char}
    (ne : pat ≠ []) (dropped : ∀ c ∈ pat, keep c = false) (left : Nat)
    (chars : List Char)
    (passed : ∀ c ∈ chars.take left, keep c = false) :
    (splitOccurrences pat left chars).flatten.filter keep = chars.filter keep := by
  induction chars generalizing left with
  | nil => cases left <;> simp [splitOccurrences]
  | cons c rest ih =>
    cases left with
    | succ left =>
      rw [List.take_succ_cons, List.forall_mem_cons] at passed
      rw [splitOccurrences, ih left passed.2, List.filter_cons_of_neg]
      simp [passed.1]
    | zero =>
      rw [splitOccurrences]
      split_ifs with here
      · obtain ⟨first, others, rfl⟩ := List.exists_cons_of_ne_nil ne
        rw [List.isPrefixOf_cons_cons, Bool.and_eq_true, beq_iff_eq] at here
        obtain ⟨rfl, begins⟩ := here
        obtain ⟨tail, rfl⟩ := List.isPrefixOf_iff_prefix.mp begins
        rw [List.forall_mem_cons] at dropped
        have later := ih others.length (by simpa using dropped.2)
        rw [List.flatten_cons, List.nil_append, List.length_cons, Nat.add_sub_cancel, later,
          List.filter_cons_of_neg (by simp [dropped.1])]
      · have later := ih 0 (by simp)
        obtain ⟨piece, pieces, got⟩ :=
          List.exists_cons_of_ne_nil (occurrences_ne_nil pat rest 0)
        rw [got] at later ⊢
        rw [List.flatten_cons, List.cons_append, ← List.flatten_cons, List.filter_cons,
          List.filter_cons, later]

/-- The pieces between whitespace characters, empty ones included. -/
def piecesOfWhitespace : List Char → List (List Char)
  | [] => [[]]
  | c :: rest =>
    if isWhitespace c then [] :: piecesOfWhitespace rest
    else
      match piecesOfWhitespace rest with
      | piece :: pieces => (c :: piece) :: pieces
      | [] => [[c]]

def splitWhitespace (text : String) : List String :=
  ((piecesOfWhitespace text.toList).filter fun piece => !piece.isEmpty).map String.ofList

def startsWith (text start : String) : Bool :=
  start.toList.isPrefixOf text.toList

def occursIn (pattern : List Char) : List Char → Bool
  | [] => pattern.isEmpty
  | c :: rest => pattern.isPrefixOf (c :: rest) || occursIn pattern rest

/-- Whether a text occurs in another, up to the case of ASCII letters:
`text LIKE '%part%'`, for a part without wildcards. -/
def likeContains (text part : String) : Bool :=
  occursIn (part.toList.map Char.toLower) (text.toList.map Char.toLower)

end Cfwdon.Library
