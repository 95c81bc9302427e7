import Cfwdon.Search.StatusRows

/-!
# What the search queries find

The clauses for the patterns are numbered from two on.  That is right if an author was
bound first, or if there is no clause.  Without an author the patterns are bound from one
on, so each clause denotes the next binding: another pattern, the cursor, or the limit.

Where the numbers are right, a query finds the statuses that have one of its terms in a
searched column as it was typed, up to the case of ASCII letters.  The matcher that comes
after it also finds folded letters, and for remote statuses it reads the text and not the
markup, so it would accept statuses that the query does not find.
-/

namespace Cfwdon.Search

open Library Timelines

def SearchStatement.Denotes (statement : SearchStatement) (placeholder : Placeholder) : Prop :=
  (denotes statement.bindings placeholder.slot).map Binding.role = some placeholder.role

instance (statement : SearchStatement) (placeholder : Placeholder) :
    Decidable (statement.Denotes placeholder) :=
  inferInstanceAs (Decidable (_ = _))

/-- Every number in the text of the query denotes what it is meant for. -/
def SearchStatement.Numbered (statement : SearchStatement) : Prop :=
  ∀ placeholder ∈ statement.placeholders, statement.Denotes placeholder

/-- The term, trimmed and read as a pattern, matches a stretch of the text. -/
def TermOccurs (term text : String) : Prop :=
  ∃ stretch, stretch <:+: text.toList ∧ likeMatches (trim term).toList stretch = true

namespace SearchTable

variable {Row : Type} (table : SearchTable Row)

def entry (row : Row) : HomeTimelineCandidateRow :=
  ⟨.localSource, table.id row, table.timestamp row⟩

/-- The row is by the author that is asked for, if any, and inside the cursor. -/
def Asked (request : SearchRowsRequest) (row : Row) : Prop :=
  (∀ author ∈ request.author, table.author row = author)
    ∧ request.cursor.admits (table.entry row) = true

/-- One of the terms stands in a searched column. -/
def HasTerm (queries : List String) (row : Row) : Prop :=
  ∃ query ∈ queries, trim query ≠ "" ∧ ∃ column ∈ table.columns, TermOccurs query (column row)

end SearchTable

/-! ## Bindings -/

variable {placeholder : Placeholder} {timestampRole idRole : BindingRole}
  {slots : Option (Placeholder × Placeholder)} {Role : Type*} {offset : Nat}

variable (bindings : List Binding)

section Bindings

def boundHalves (timestampRole idRole : BindingRole) (timestamp id : Option String) :
    List BindingRole :=
  match timestamp, id with
  | some _, some _ => [timestampRole, idRole]
  | _, _ => []

namespace SearchRowsRequest

variable (request : SearchRowsRequest)

/-- What is bound before the cursor. -/
def leadingRoles : List BindingRole :=
  request.author.toList.map (fun _ => .author)
    ++ (List.range request.boundPatterns.length).map .pattern

def maxRoles : List BindingRole :=
  boundHalves .maxTimestamp .maxId request.cursor.maxTimestamp request.cursor.maxId

def minRoles : List BindingRole :=
  boundHalves .minTimestamp .minId request.cursor.minTimestamp request.cursor.minId

def boundRoles : List BindingRole :=
  request.leadingRoles ++ request.maxRoles ++ request.minRoles ++ [.limit]

def boundValue : BindingRole → D1Type
  | .author => .text (request.author.getD "")
  | .pattern offset => .text (request.boundPatterns.getD offset "")
  | .maxTimestamp => .text (request.cursor.maxTimestamp.getD "")
  | .maxId => .text (request.cursor.maxId.getD "")
  | .minTimestamp => .text (request.cursor.minTimestamp.getD "")
  | .minId => .text (request.cursor.minId.getD "")
  | .limit => .integer (Int.bmod request.limit (2 ^ 32))

def bindingFor (role : BindingRole) : Binding := ⟨role, request.boundValue role⟩

end SearchRowsRequest

variable {request : SearchRowsRequest}

theorem leadingBindings_eq :
    request.author.toList.map (fun author => ⟨.author, .text author⟩)
        ++ searchPatternBindings request.boundPatterns
      = request.leadingRoles.map request.bindingFor := by
  rw [SearchRowsRequest.leadingRoles, List.map_append, List.map_map, List.map_map]
  congr 1
  · cases got : request.author with
    | none => rfl
    | some author =>
      simp [SearchRowsRequest.bindingFor, SearchRowsRequest.boundValue, got]
  · apply List.ext_getElem
    · simp [searchPatternBindings]
    · intro offset bound _
      rw [searchPatternBindings, List.length_mapIdx] at bound
      simp [searchPatternBindings, SearchRowsRequest.bindingFor, SearchRowsRequest.boundValue,
        List.getElem?_eq_getElem bound]

theorem boundHalves_cases (timestampRole idRole : BindingRole) (stamp id : Option String) :
    boundHalves timestampRole idRole stamp id = []
      ∨ boundHalves timestampRole idRole stamp id = [timestampRole, idRole] := by
  unfold boundHalves
  split <;> simp

theorem appendBound_bindings {stamp id : Option String}
    {value : BindingRole → D1Type}
    (ofTimestamp : ∀ text, stamp = some text → value timestampRole = .text text)
    (ofId : ∀ text, id = some text → value idRole = .text text) :
    (appendBound timestampRole idRole bindings stamp id).1
      = bindings ++ (boundHalves timestampRole idRole stamp id).map
        fun role => ⟨role, value role⟩ := by
  cases stamp with
  | none => simp [boundHalves, appendBound]
  | some timestampText =>
    cases id with
    | none => simp [boundHalves, appendBound]
    | some idText => simp [boundHalves, appendBound, ofTimestamp _ rfl, ofId _ rfl]

theorem appendBound_slots (timestampRole idRole : BindingRole) (bindings : List Binding)
    (stamp id : Option String) :
    (appendBound timestampRole idRole bindings stamp id).2
      = if boundHalves timestampRole idRole stamp id = [] then none
        else some (⟨timestampRole, bindings.length + 1⟩, ⟨idRole, bindings.length + 2⟩) := by
  cases stamp with
  | none => rfl
  | some timestampText =>
    cases id with
    | none => rfl
    | some idText => simp [boundHalves, appendBound]

theorem appendMax_eq :
    (appendBound .maxTimestamp .maxId bindings request.cursor.maxTimestamp request.cursor.maxId).1
      = bindings ++ request.maxRoles.map request.bindingFor := by
  apply appendBound_bindings
  · intro text got
    simp [SearchRowsRequest.boundValue, got]
  · intro text got
    simp [SearchRowsRequest.boundValue, got]

theorem appendMin_eq :
    (appendBound .minTimestamp .minId bindings request.cursor.minTimestamp request.cursor.minId).1
      = bindings ++ request.minRoles.map request.bindingFor := by
  apply appendBound_bindings
  · intro text got
    simp [SearchRowsRequest.boundValue, got]
  · intro text got
    simp [SearchRowsRequest.boundValue, got]

/-- **The bindings of a query** are its roles in order, each with its value. -/
theorem bindings_statement :
    request.statement.bindings = request.boundRoles.map request.bindingFor := by
  show (appendBound _ _ (appendBound _ _ _ _ _).1 _ _).1 ++ _ = _
  rw [appendMin_eq, appendMax_eq, leadingBindings_eq]
  simp [SearchRowsRequest.boundRoles, SearchRowsRequest.bindingFor, SearchRowsRequest.boundValue]

theorem denotes_map {First Second : Type*} (change : First → Second) (xs : List First)
    (slot : Nat) : denotes (xs.map change) slot = (denotes xs slot).map change := by
  cases slot with
  | zero => rfl
  | succ slot => exact List.getElem?_map ..

theorem denotes_iff :
    request.statement.Denotes placeholder
      ↔ denotes request.boundRoles placeholder.slot = some placeholder.role := by
  rw [SearchStatement.Denotes, bindings_statement, denotes_map, Option.map_map]
  have role : Binding.role ∘ request.bindingFor = id := rfl
  rw [role, Option.map_id, id]

theorem textAt_of_denotes
    (right : request.statement.Denotes placeholder) :
    request.statement.textAt placeholder = some (request.boundValue placeholder.role).asText := by
  rw [SearchStatement.textAt, bindings_statement, denotes_map, denotes_iff.mp right]
  rfl

end Bindings

/-! ## Numbers -/

section Numbers

variable {request : SearchRowsRequest}

theorem statement_author :
    request.statement.author = request.author.map fun _ => ⟨.author, 1⟩ := rfl

theorem statement_clauses :
    request.statement.clauses = searchLikeClauses 2 request.boundPatterns.length := rfl

theorem length_leadingBindings :
    (request.author.toList.map (fun author => (⟨.author, .text author⟩ : Binding))
        ++ searchPatternBindings request.boundPatterns).length
      = request.leadingRoles.length := by
  rw [leadingBindings_eq, List.length_map]

theorem statement_maxSlots :
    request.statement.cursor.maxSlots
      = if request.maxRoles = [] then none
        else some (⟨.maxTimestamp, request.leadingRoles.length + 1⟩,
          ⟨.maxId, request.leadingRoles.length + 2⟩) := by
  show (appendBound _ _ _ _ _).2 = _
  rw [appendBound_slots, length_leadingBindings]
  rfl

theorem statement_minSlots :
    request.statement.cursor.minSlots
      = if request.minRoles = [] then none
        else some (⟨.minTimestamp, (request.leadingRoles ++ request.maxRoles).length + 1⟩,
          ⟨.minId, (request.leadingRoles ++ request.maxRoles).length + 2⟩) := by
  show (appendBound _ _ (appendBound _ _ _ _ _).1 _ _).2 = _
  rw [appendMax_eq, leadingBindings_eq, ← List.map_append, appendBound_slots, List.length_map]
  rfl

theorem statement_limit : request.statement.limit = ⟨.limit, request.boundRoles.length⟩ := by
  show (⟨.limit, request.statement.bindings.length⟩ : Placeholder) = _
  rw [bindings_statement, List.length_map]

theorem maxRoles_cases : request.maxRoles = [] ∨ request.maxRoles = [.maxTimestamp, .maxId] :=
  boundHalves_cases ..

theorem minRoles_cases : request.minRoles = [] ∨ request.minRoles = [.minTimestamp, .minId] :=
  boundHalves_cases ..

theorem denotes_next (prior later : List Role) (role : Role) :
    denotes (prior ++ role :: later) (prior.length + 1) = some role :=
  denotes_shift prior (role :: later) 0

theorem denotes_second (prior later : List Role) (role next : Role) :
    denotes (prior ++ role :: next :: later) (prior.length + 2) = some next :=
  denotes_shift prior (role :: next :: later) 1

theorem denotes_of_slots {prior roles later : List BindingRole}
    (halves : roles = [] ∨ roles = [timestampRole, idRole])
    (numbered : slots = if roles = [] then none
      else some (⟨timestampRole, prior.length + 1⟩, ⟨idRole, prior.length + 2⟩))
    (mem : placeholder ∈ slots.toList.flatMap fun slots => [slots.1, slots.2]) :
    denotes (prior ++ roles ++ later) placeholder.slot = some placeholder.role := by
  rcases halves with rfl | rfl
  · simp [numbered] at mem
  · simp only [numbered, List.cons_ne_nil, if_false, Option.toList_some, List.flatMap_cons,
      List.flatMap_nil, List.append_nil, List.mem_cons, List.not_mem_nil, or_false] at mem
    rw [List.append_assoc]
    rcases mem with rfl | rfl
    · exact denotes_next _ _ _
    · exact denotes_second _ _ _ _

theorem denotes_of_notMem_clauses
    (mem : placeholder ∈ request.statement.placeholders)
    (other : placeholder ∉ request.statement.clauses) :
    request.statement.Denotes placeholder := by
  rw [denotes_iff]
  simp only [SearchStatement.placeholders, List.mem_append, List.mem_singleton] at mem
  rcases mem with (((author | clause) | maximum) | minimum) | limit
  · rw [statement_author] at author
    cases got : request.author with
    | none => simp [got] at author
    | some text =>
      simp only [got, Option.map_some, Option.toList_some, List.mem_singleton] at author
      rw [author]
      simp [SearchRowsRequest.boundRoles, SearchRowsRequest.leadingRoles, got, denotes]
  · exact absurd clause other
  · rw [SearchRowsRequest.boundRoles, List.append_assoc _ request.minRoles]
    exact denotes_of_slots maxRoles_cases statement_maxSlots maximum
  · rw [SearchRowsRequest.boundRoles]
    exact denotes_of_slots minRoles_cases statement_minSlots minimum
  · rw [limit, statement_limit, SearchRowsRequest.boundRoles, List.length_append]
    exact denotes_next _ _ _

theorem mem_clauses :
    placeholder ∈ request.statement.clauses
      ↔ ∃ offset < request.boundPatterns.length, placeholder = ⟨.pattern offset, 2 + offset⟩ := by
  rw [statement_clauses, searchLikeClauses, List.mem_map]
  simp only [List.mem_range, eq_comm]

theorem denotes_clause (author : request.author.isSome = true)
    (bound : offset < request.boundPatterns.length) :
    denotes request.boundRoles (2 + offset) = some (.pattern offset) := by
  obtain ⟨text, got⟩ := Option.isSome_iff_exists.mp author
  have first : request.boundRoles = [.author]
      ++ ((List.range request.boundPatterns.length).map .pattern
        ++ (request.maxRoles ++ request.minRoles ++ [.limit])) := by
    simp [SearchRowsRequest.boundRoles, SearchRowsRequest.leadingRoles, got]
  have within : offset + 1 ≤ ((List.range request.boundPatterns.length).map
      BindingRole.pattern).length := by
    rw [List.length_map, List.length_range]
    exact bound
  have num : 2 + offset = [BindingRole.author].length + (offset + 1) := by
    rw [List.length_singleton]
    omega
  rw [first, num, denotes_shift, denotes_append _ within]
  simp [denotes, bound]

theorem not_denotes_first_clause (author : request.author = none)
    (bound : 0 < request.boundPatterns.length) :
    denotes request.boundRoles 2 ≠ some (.pattern 0) := by
  obtain ⟨count, length⟩ := Nat.exists_eq_succ_of_ne_zero bound.ne'
  let later : List BindingRole := (List.range count).map (fun offset => .pattern (offset + 1))
    ++ (request.maxRoles ++ request.minRoles ++ [.limit])
  have first : request.boundRoles = .pattern 0 :: later := by
    simp [later, SearchRowsRequest.boundRoles, SearchRowsRequest.leadingRoles, author, length,
      List.range_succ_eq_map, Function.comp_def]
  rw [first]
  intro second
  have mem : BindingRole.pattern 0 ∈ later := List.mem_of_getElem? second
  simp only [later, List.mem_append, List.mem_map, List.mem_range, List.mem_singleton,
    BindingRole.pattern.injEq, reduceCtorEq, or_false] at mem
  rcases mem with ⟨offset, -, wrong⟩ | maximum | minimum
  · omega
  · rcases @maxRoles_cases request with none | both <;> simp_all
  · rcases @minRoles_cases request with none | both <;> simp_all

/-- **When every number denotes what it is meant for**: after an author, or without
patterns. -/
theorem numbered_iff :
    request.statement.Numbered ↔ request.author.isSome = true ∨ request.boundPatterns = [] := by
  constructor
  · intro right
    by_contra neither
    obtain ⟨noAuthor, patterns⟩ := not_or.mp neither
    have bound := List.length_pos_iff.mpr patterns
    have mem : (⟨.pattern 0, 2⟩ : Placeholder) ∈ request.statement.clauses :=
      mem_clauses.mpr ⟨0, bound, rfl⟩
    have listed : (⟨.pattern 0, 2⟩ : Placeholder) ∈ request.statement.placeholders := by
      simp [SearchStatement.placeholders, mem]
    exact not_denotes_first_clause (Option.not_isSome_iff_eq_none.mp noAuthor) bound
      (denotes_iff.mp (right _ listed))
  · intro either placeholder mem
    by_cases clause : placeholder ∈ request.statement.clauses
    · obtain ⟨offset, bound, rfl⟩ := mem_clauses.mp clause
      rcases either with author | none
      · exact denotes_iff.mpr (denotes_clause author bound)
      · simp [none] at bound
    · exact denotes_of_notMem_clauses mem clause

end Numbers

/-! ## Patterns -/

section Patterns

variable {request : SearchRowsRequest}

theorem lowercase_eq_empty {text : String} : toAsciiLowercase text = "" ↔ text = "" := by
  rw [← String.toList_inj, toList_lowercase, ← @String.toList_inj text]
  exact List.map_eq_nil_iff

theorem toList_searchPattern (query : String) :
    (searchPattern query).toList = ('%' :: ((trim query).toList ++ ['%'])).map Char.toLower := by
  rw [searchPattern, String.toList_append, String.toList_append, toList_lowercase,
    List.map_cons, List.map_append]
  rfl

/-- **A search pattern** finds the texts its term occurs in. -/
theorem likeMatches_searchPattern {query text : String} :
    likeMatches (searchPattern query).toList (toAsciiLowercase text).toList = true
      ↔ TermOccurs query text := by
  rw [toList_searchPattern, toList_lowercase, likeMatches_map_toLower, likeMatches_enclosed]
  rfl

theorem searchPattern_ne_everything {query : String} : searchPattern query ≠ "%" := by
  intro eq
  have lengths := congrArg (fun text => text.toList.length) eq
  simp [toList_searchPattern] at lengths

theorem mem_boundPatterns {pattern : String} :
    pattern ∈ request.boundPatterns
      ↔ ∃ query ∈ request.queries, trim query ≠ "" ∧ searchPattern query = pattern := by
  let usable := pushMissing [] ((request.queries.filter fun query =>
    toAsciiLowercase (trim query) ≠ "").map searchPattern)
  have members : pattern ∈ usable
      ↔ ∃ query ∈ request.queries, trim query ≠ "" ∧ searchPattern query = pattern := by
    rw [mem_pushMissing, List.mem_map]
    simp [lowercase_eq_empty, and_assoc]
  rw [← members]
  have bound : request.boundPatterns = usable := by
    rw [SearchRowsRequest.boundPatterns, normalizedSearchPatterns]
    change (if searchPatternsMatchEverything (if usable.isEmpty then ["%"] else usable) then []
      else if usable.isEmpty then ["%"] else usable) = usable
    by_cases empty : usable.isEmpty = true
    · rw [if_pos empty]
      exact (List.isEmpty_iff.mp empty).symm
    · rw [if_neg empty, if_neg]
      intro everything
      have listed : "%" ∈ usable := by
        rw [eq_of_beq everything]
        exact List.mem_singleton_self _
      rcases mem_pushMissing.mp listed with none | got
      · cases none
      · obtain ⟨query, -, eq⟩ := List.mem_map.mp got
        exact searchPattern_ne_everything eq
  rw [bound]

/-- Nothing is bound exactly if every term is blank. -/
theorem boundPatterns_eq_nil :
    request.boundPatterns = [] ↔ ∀ query ∈ request.queries, trim query = "" := by
  rw [List.eq_nil_iff_forall_not_mem]
  constructor
  · intro none query asked
    by_contra notBlank
    exact none _ (mem_boundPatterns.mpr ⟨query, asked, notBlank, rfl⟩)
  · intro blank pat mem
    obtain ⟨query, asked, notBlank, -⟩ := mem_boundPatterns.mp mem
    exact notBlank (blank query asked)

end Patterns

/-! ## What is selected -/

section Selected

variable {request : SearchRowsRequest} {Row : Type} {table : SearchTable Row}

/-- A bound that is only there with both of its halves. -/
def boundAdmits (holds : String → String → Bool) (timestamp id : Option String) : Bool :=
  match timestamp, id with
  | some timestamp, some id => holds timestamp id
  | _, _ => true

theorem boundHolds_eq {holds : String → String → Bool} {stamp id : Option String}
    {first second : Nat}
    (numbered : slots = if boundHalves timestampRole idRole stamp id = [] then none
      else some (⟨timestampRole, first⟩, ⟨idRole, second⟩))
    (right : ∀ pair ∈ slots, request.statement.Denotes pair.1 ∧ request.statement.Denotes pair.2)
    (timestampValue : request.boundValue timestampRole = .text (stamp.getD ""))
    (idValue : request.boundValue idRole = .text (id.getD "")) :
    (slots.all fun pair => (request.statement.textAt pair.1).any fun timestampText =>
        (request.statement.textAt pair.2).any fun idText => holds timestampText idText)
      = boundAdmits holds stamp id := by
  cases stamp with
  | none => rw [numbered]; rfl
  | some timestampText =>
    cases id with
    | none => rw [numbered]; rfl
    | some idText =>
      rw [boundHalves, if_neg (List.cons_ne_nil _ _)] at numbered
      obtain ⟨timestampRight, idRight⟩ := right _ numbered
      rw [numbered, Option.all_some, textAt_of_denotes timestampRight,
        textAt_of_denotes idRight, timestampValue, idValue]
      rfl

section Clauses

variable {row : Row}

theorem authorHolds_iff (right : request.statement.Numbered) :
    (request.statement.author.all fun placeholder =>
        (request.statement.textAt placeholder).any fun author => table.author row == author) = true
      ↔ ∀ author ∈ request.author, table.author row = author := by
  have numbered : ∀ placeholder ∈ request.statement.author,
      request.statement.Denotes placeholder := fun placeholder mem =>
    right placeholder (by simp [SearchStatement.placeholders, Option.mem_def.mp mem])
  rw [statement_author] at numbered ⊢
  cases got : request.author with
  | none => simp
  | some text =>
    rw [got] at numbered
    rw [Option.map_some, Option.all_some, textAt_of_denotes (numbered _ rfl)]
    simp [SearchRowsRequest.boundValue, got, D1Type.asText]

theorem clauseHolds_iff (right : request.statement.Numbered)
    (bound : offset < request.boundPatterns.length) :
    request.statement.clauseHolds table row ⟨.pattern offset, 2 + offset⟩ = true
      ↔ ∃ column ∈ table.columns, likeMatches (request.boundPatterns[offset]).toList
          (toAsciiLowercase (column row)).toList = true := by
  have listed : (⟨.pattern offset, 2 + offset⟩ : Placeholder) ∈ request.statement.placeholders := by
    simp [SearchStatement.placeholders, mem_clauses, bound]
  rw [SearchStatement.clauseHolds, textAt_of_denotes (right _ listed)]
  simp [SearchRowsRequest.boundValue, D1Type.asText, bound]

theorem clausesHold_iff (right : request.statement.Numbered) :
    request.statement.clauses.any (request.statement.clauseHolds table row) = true
      ↔ table.HasTerm request.queries row := by
  rw [List.any_eq_true]
  constructor
  · rintro ⟨placeholder, mem, holds⟩
    obtain ⟨offset, bound, rfl⟩ := mem_clauses.mp mem
    obtain ⟨column, searched, hit⟩ := (clauseHolds_iff right bound).mp holds
    obtain ⟨query, asked, notBlank, eq⟩ := mem_boundPatterns.mp (List.getElem_mem bound)
    rw [← eq] at hit
    exact ⟨query, asked, notBlank, column, searched, likeMatches_searchPattern.mp hit⟩
  · rintro ⟨query, asked, notBlank, column, searched, occurs⟩
    obtain ⟨offset, bound, eq⟩ :=
      List.getElem_of_mem (mem_boundPatterns.mpr ⟨query, asked, notBlank, rfl⟩)
    refine ⟨_, mem_clauses.mpr ⟨offset, bound, rfl⟩, (clauseHolds_iff right bound).mpr ?_⟩
    refine ⟨column, searched, ?_⟩
    rw [eq]
    exact likeMatches_searchPattern.mpr occurs

theorem denotes_of_role
    (mem : placeholder ∈ request.statement.placeholders)
    (other : ∀ offset, placeholder.role ≠ .pattern offset) :
    request.statement.Denotes placeholder := by
  refine denotes_of_notMem_clauses mem fun clause => ?_
  obtain ⟨offset, -, rfl⟩ := mem_clauses.mp clause
  exact other offset rfl

/-- **The cursor** is read as it was passed, in every query. -/
theorem cursorHolds_eq :
    request.statement.cursorHolds table row = request.cursor.admits (table.entry row) := by
  have right {slots : Option (Placeholder × Placeholder)} {roles : List BindingRole}
      {timestampRole idRole : BindingRole} {prior : Nat}
      (numbered : slots = if roles = [] then none
        else some (⟨timestampRole, prior + 1⟩, ⟨idRole, prior + 2⟩))
      (among : ∀ pair ∈ slots, pair.1 ∈ request.statement.placeholders
        ∧ pair.2 ∈ request.statement.placeholders)
      (others : ∀ offset, timestampRole ≠ .pattern offset ∧ idRole ≠ .pattern offset) :
      ∀ pair ∈ slots, request.statement.Denotes pair.1 ∧ request.statement.Denotes pair.2 := by
    intro pair mem
    have listed := among pair mem
    rw [numbered] at mem
    split_ifs at mem
    · cases mem
    obtain rfl := Option.some.inj mem
    exact ⟨denotes_of_role listed.1 fun offset => (others offset).1,
      denotes_of_role listed.2 fun offset => (others offset).2⟩
  have maxRight := right (@statement_maxSlots request)
    (fun pair mem => by simp [SearchStatement.placeholders, Option.mem_def.mp mem])
    fun offset => ⟨by simp, by simp⟩
  have minRight := right (@statement_minSlots request)
    (fun pair mem => by simp [SearchStatement.placeholders, Option.mem_def.mp mem])
    fun offset => ⟨by simp, by simp⟩
  unfold SearchStatement.cursorHolds ResolvedTimelineCursor.admits
  rw [boundHolds_eq statement_maxSlots maxRight rfl rfl,
    boundHolds_eq statement_minSlots minRight rfl rfl]
  rfl

end Clauses

theorem mem_selectedRows_iff (right : request.statement.Numbered) {rows : List Row} {row : Row} :
    row ∈ request.statement.selectedRows table rows
      ↔ row ∈ rows ∧ table.Asked request row
        ∧ ((∀ query ∈ request.queries, trim query = "") ∨ table.HasTerm request.queries row) := by
  have noClause : request.statement.clauses.isEmpty = true
      ↔ ∀ query ∈ request.queries, trim query = "" := by
    rw [← boundPatterns_eq_nil, statement_clauses, searchLikeClauses]
    simp
  rw [SearchStatement.selectedRows, List.mem_filter, SearchStatement.selects,
    SearchStatement.matchesText, Bool.and_eq_true, Bool.and_eq_true, Bool.or_eq_true,
    authorHolds_iff right, noClause, clausesHold_iff right, cursorHolds_eq, SearchTable.Asked]
  tauto

end Selected

/-! ## The matches of a search -/

section Contract

variable {Row : Type} {lowercase : Char → List Char} {parsed : ParsedStatusSearchQuery}
  {table : SearchTable Row}

/-- The arguments that a search passes. -/
def searchRequest (parsed : ParsedStatusSearchQuery) (limit : Nat) (author : Option String)
    (cursor : ResolvedTimelineCursor) : SearchRowsRequest :=
  ⟨statusSearchQueryTerms parsed, limit, author, cursor⟩

/-- The texts of the row satisfy all included terms. -/
def SearchTable.MatchesTerms (table : SearchTable Row) (lowercase : Char → List Char)
    (parsed : ParsedStatusSearchQuery) (row : Row) : Prop :=
  ∀ term ∈ parsed.includedTextTerms,
    statusSearchTermMatches lowercase term (table.content row) (table.spoilerText row) = true

/-- Every number of the query denotes what it is meant for, and apart from the limit the
query selects every status that is asked for and satisfies all included terms. -/
def SearchRowsContract (lowercase : Char → List Char) (table : SearchTable Row)
    (parsed : ParsedStatusSearchQuery) (request : SearchRowsRequest) (rows : List Row) : Prop :=
  request.statement.Numbered
    ∧ ∀ row ∈ rows, table.Asked request row → table.MatchesTerms lowercase parsed row →
      row ∈ request.statement.selectedRows table rows

theorem trim_of_mem_statusSearchQueryTerms {term : String}
    (mem : term ∈ statusSearchQueryTerms parsed) : trim term = term ∧ term ≠ "" := by
  have included : term ∈ (parsed.includedTextTerms.map trim).filter (· ≠ "") →
      trim term = term ∧ term ≠ "" := by
    intro got
    obtain ⟨mapped, notBlank⟩ := List.mem_filter.mp got
    obtain ⟨original, -, rfl⟩ := List.mem_map.mp mapped
    exact ⟨trim_trim original, of_decide_eq_true notBlank⟩
  unfold statusSearchQueryTerms at mem
  dsimp only at mem
  split_ifs at mem with noTerm blank query
  · cases mem
  · rw [List.mem_singleton.mp mem]
    exact ⟨trim_trim _, blank⟩
  · rcases List.mem_append.mp mem with got | whole
    · exact included got
    · rw [List.mem_singleton.mp whole]
      exact ⟨trim_trim _, query.1⟩
  · exact included mem

/-- **When a search finds what it matches**: it has an author or no terms, and every status
it would match has one of the terms, as typed, in a searched column. -/
theorem searchRowsContract_iff {limit : Nat} {author : Option String}
    {cursor : ResolvedTimelineCursor} {rows : List Row} :
    SearchRowsContract lowercase table parsed (searchRequest parsed limit author cursor) rows
      ↔ (author.isSome = true ∨ statusSearchQueryTerms parsed = [])
        ∧ ∀ row ∈ rows, table.Asked (searchRequest parsed limit author cursor) row →
          table.MatchesTerms lowercase parsed row →
          statusSearchQueryTerms parsed = []
            ∨ table.HasTerm (statusSearchQueryTerms parsed) row := by
  have blank : (∀ query ∈ statusSearchQueryTerms parsed, trim query = "")
      ↔ statusSearchQueryTerms parsed = [] := by
    rw [List.eq_nil_iff_forall_not_mem]
    refine forall₂_congr fun query mem => iff_of_false ?_ not_false
    obtain ⟨trimmed, notBlank⟩ := trim_of_mem_statusSearchQueryTerms mem
    rwa [trimmed]
  have numbered : (searchRequest parsed limit author cursor).statement.Numbered
      ↔ author.isSome = true ∨ statusSearchQueryTerms parsed = [] := by
    rw [numbered_iff, boundPatterns_eq_nil, ← blank]
    rfl
  rw [SearchRowsContract, numbered]
  refine and_congr_right fun right => ?_
  refine forall₂_congr fun row mem => forall₂_congr fun asked hit => ?_
  rw [mem_selectedRows_iff (numbered.mpr right), ← blank]
  exact ⟨fun selected => selected.2.2, fun got => ⟨mem, asked, got⟩⟩

def wordSearch (word : String) : ParsedStatusSearchQuery :=
  { textQuery := word, includedTextTerms := [word] }

def publicStatus (text : String) : LocalStatus :=
  ⟨"1", "alice", text, "", .publicPost, false, none, none, none, none, "2026-01-01T00:00:00.000Z"⟩

end Contract

end Cfwdon.Search
