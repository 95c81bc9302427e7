import Cfwdon.Accounts.Handles

/-!
# The mentions of a text

A mention is `@user` or `@user@domain`, behind no character of a username.  The scanner goes
on behind each mention that it has read, and so it passes over no other one.
-/

namespace Cfwdon.Accounts

open Library

def isNoUsernameChar (c : Char) : Bool :=
  !isUsernameChar c

def isNoDomainChar (c : Char) : Bool :=
  !isDomainChar c

/-- The mention that begins a text behind its `@`, with the host for a mention without a
domain. -/
def handleAt (host : String) (rest : List Char) : AccountHandle :=
  match rest.dropWhile isUsernameChar with
  | '@' :: tail =>
    if (tail.takeWhile isDomainChar).isEmpty then
      ⟨toAsciiLowercase (String.ofList (rest.takeWhile isUsernameChar)), some host⟩
    else accountHandle (rest.takeWhile isUsernameChar) (tail.takeWhile isDomainChar)
  | _ => ⟨toAsciiLowercase (String.ofList (rest.takeWhile isUsernameChar)), some host⟩

variable {host : String} {rest : List Char} {text : List Char} {fuel : Nat} {handle : AccountHandle}
  {prev : Option Char}

theorem handleAt_of_noAt
    (noAt : ∀ tail, rest.dropWhile isUsernameChar = '@' :: tail → False) :
    handleAt host rest
      = ⟨toAsciiLowercase (String.ofList (rest.takeWhile isUsernameChar)), some host⟩ := by
  rw [handleAt]
  split
  next tail isAt => exact (noAt tail isAt).elim
  next => rfl

/-- A mention begins here, behind no character of a username. -/
def beginsMention (previous : Option Char) (c : Char) (rest : List Char) : Bool :=
  c == '@' && previous.all isNoUsernameChar && !(rest.takeWhile isUsernameChar).isEmpty

/-- The mentions of a text, read from each of its places. -/
def handlesFrom (host : String) : Option Char → List Char → List AccountHandle
  | _, [] => []
  | previous, c :: rest =>
    if beginsMention previous c rest = true then
      handleAt host rest :: handlesFrom host (some c) rest
    else handlesFrom host (some c) rest

theorem handlesFrom_append {host : String} {run : List Char} (noAt : '@' ∉ run)
    (prev : Option Char) (rest : List Char) :
    handlesFrom host prev (run ++ rest) = handlesFrom host (run.getLast?.or prev) rest := by
  induction run generalizing prev with
  | nil => rfl
  | cons c run ih =>
    rw [List.mem_cons, not_or] at noAt
    have notHere : ¬ beginsMention prev c (run ++ rest) = true := by
      rw [beginsMention, beq_false_of_ne (Ne.symm noAt.1)]
      exact Bool.false_ne_true
    rw [List.cons_append, handlesFrom, if_neg notHere, ih noAt.2]
    cases run with
    | nil => rfl
    | cons d run => rw [List.getLast?_cons_cons, List.getLast?_cons, Option.some_or,
        Option.some_or]

theorem at_notMem_takeWhile {allowed : Char → Bool} (other : allowed '@' = false)
    (chars : List Char) : '@' ∉ chars.takeWhile allowed := by
  intro mem
  have allowedAt := List.mem_takeWhile_imp mem
  rw [other] at allowedAt
  cases allowedAt

/-- No mention begins at the `@` before a domain. -/
theorem handlesFrom_at {user : List Char} (named : user ≠ [])
    (each : ∀ c ∈ user, isUsernameChar c = true) (tail : List Char) :
    handlesFrom host user.getLast? ('@' :: tail) = handlesFrom host (some '@') tail := by
  have joined : user.getLast?.all isNoUsernameChar = false := by
    rw [List.getLast?_eq_getLast_of_ne_nil named, Option.all_some, isNoUsernameChar,
      each _ (List.getLast_mem named)]
    rfl
  have notHere : ¬ beginsMention user.getLast? '@' tail = true := by
    rw [beginsMention, joined, Bool.and_false, Bool.false_and]
    exact Bool.false_ne_true
  rw [handlesFrom, if_neg notHere]

/-- The scanner skips a character exactly if no mention begins there. -/
theorem skips_eq (prev : Option Char) (c : Char) (rest : List Char) :
    (decide (c ≠ '@') || prev.any isUsernameChar
        || (rest.takeWhile isUsernameChar).isEmpty) = !beginsMention prev c rest := by
  rw [beginsMention]
  generalize (rest.takeWhile isUsernameChar).isEmpty = empty
  by_cases eq : c = '@'
  · cases prev <;> cases empty <;> simp [isNoUsernameChar, eq]
  · cases prev <;> cases empty <;> simp [eq]

theorem handlesFrom_run {isNameChar : Char → Bool}
    (noAt : isNameChar '@' = false) (c : Char) (named : rest.takeWhile isNameChar ≠ []) :
    handlesFrom host (some c) rest
      = handlesFrom host (rest.takeWhile isNameChar).getLast? (rest.dropWhile isNameChar) := by
  have behind := @handlesFrom_append host _ (at_notMem_takeWhile noAt rest) (some c)
    (rest.dropWhile isNameChar)
  rw [List.takeWhile_append_dropWhile] at behind
  rw [behind, List.getLast?_eq_getLast_of_ne_nil named, Option.some_or]

/-- **The scanner reads the mentions from each place of the text.** -/
theorem scanHandles_eq (host : String)
    (enough : text.length ≤ fuel) (prev : Option Char) :
    scanHandles host fuel prev text = handlesFrom host prev text := by
  induction fuel generalizing text prev with
  | zero =>
    have empty : text = [] := List.eq_nil_of_length_eq_zero (Nat.le_zero.mp enough)
    rw [empty]
    rfl
  | succ fuel ih =>
    cases text with
    | nil => rfl
    | cons c rest =>
      have shorter : rest.length ≤ fuel := Nat.le_of_succ_le_succ enough
      have afterShorter : (rest.dropWhile isUsernameChar).length ≤ fuel :=
        (List.dropWhile_sublist _).length_le.trans shorter
      rw [scanHandles, handlesFrom]
      simp only [skips_eq]
      by_cases here : beginsMention prev c rest = true
      · have named : rest.takeWhile isUsernameChar ≠ [] := by
          rw [beginsMention, Bool.and_eq_true, Bool.not_eq_true', List.isEmpty_eq_false_iff]
            at here
          exact here.2
        have each : ∀ c ∈ rest.takeWhile isUsernameChar, isUsernameChar c = true :=
          fun c mem => List.mem_takeWhile_imp mem
        have further := ih afterShorter (rest.takeWhile isUsernameChar).getLast?
        rw [here, if_pos rfl, Bool.not_true, if_neg Bool.false_ne_true,
          handlesFrom_run (by decide) c named]
        split
        next tail after =>
          rw [handleAt]
          rw [after] at further afterShorter ⊢
          by_cases noDomain : (tail.takeWhile isDomainChar).isEmpty = true
          · simp only [noDomain, if_true, further]
          · have domain : tail.takeWhile isDomainChar ≠ [] :=
              fun empty => noDomain (List.isEmpty_iff.mpr empty)
            have tailShorter : (tail.dropWhile isDomainChar).length ≤ fuel :=
              (List.dropWhile_sublist _).length_le.trans ((Nat.le_succ _).trans afterShorter)
            simp only [noDomain, Bool.false_eq_true, if_false]
            rw [ih tailShorter, handlesFrom_at named each,
              handlesFrom_run (by decide) '@' domain]
        next after => rw [further, handleAt_of_noAt after]
      · rw [Bool.not_eq_true] at here
        rw [here, Bool.not_false, if_pos rfl, if_neg Bool.false_ne_true, ih shorter]

/-! ## Places of mentions -/

def Mentions (host : String) (previous : Option Char) (text : List Char)
    (handle : AccountHandle) : Prop :=
  ∃ before rest, text = before ++ '@' :: rest
    ∧ (before.getLast?.or previous).all isNoUsernameChar = true
    ∧ rest.takeWhile isUsernameChar ≠ [] ∧ handle = handleAt host rest

theorem mentions_cons_iff {c : Char}
    :
    Mentions host prev (c :: rest) handle
      ↔ (beginsMention prev c rest = true ∧ handle = handleAt host rest)
        ∨ Mentions host (some c) rest handle := by
  have begins : beginsMention prev c rest = true
      ↔ (c = '@' ∧ prev.all isNoUsernameChar = true) ∧ rest.takeWhile isUsernameChar ≠ [] := by
    rw [beginsMention, Bool.and_eq_true, Bool.and_eq_true, beq_iff_eq, Bool.not_eq_true',
      List.isEmpty_eq_false_iff]
  rw [begins]
  constructor
  · rintro ⟨pre, post, parts, free, named, eq⟩
    cases pre with
    | nil =>
      obtain ⟨rfl, rfl⟩ := List.cons.inj parts
      exact Or.inl ⟨⟨⟨rfl, free⟩, named⟩, eq⟩
    | cons d pre =>
      obtain ⟨rfl, rfl⟩ := List.cons.inj parts
      refine Or.inr ⟨pre, post, rfl, ?_, named, eq⟩
      rw [List.getLast?_cons] at free
      cases last : pre.getLast? with
      | none | some e => rwa [last] at free
  · rintro (⟨⟨⟨rfl, free⟩, named⟩, eq⟩ | ⟨pre, post, rfl, free, named, eq⟩)
    · exact ⟨[], rest, rfl, free, named, eq⟩
    · refine ⟨c :: pre, post, rfl, ?_, named, eq⟩
      rw [List.getLast?_cons]
      cases last : pre.getLast? with
      | none | some e => rwa [last] at free

/-- **What the scanner reads**: the mentions of the text. -/
theorem mem_handlesFrom_iff
    :
    handle ∈ handlesFrom host prev text ↔ Mentions host prev text handle := by
  induction text generalizing prev with
  | nil =>
    rw [handlesFrom]
    refine iff_of_false List.not_mem_nil ?_
    rintro ⟨pre, rest, parts, -⟩
    exact absurd parts.symm (List.append_ne_nil_of_right_ne_nil _ (List.cons_ne_nil _ _))
  | cons c rest ih =>
    rw [handlesFrom, mentions_cons_iff, ← ih]
    by_cases here : beginsMention prev c rest = true
    · rw [if_pos here, List.mem_cons, and_iff_right here]
    · rw [if_neg here]
      exact (or_iff_right fun got => here got.1).symm

theorem mem_scanHandles_iff
    (enough : text.length ≤ fuel) :
    handle ∈ scanHandles host fuel none text ↔ Mentions host none text handle := by
  rw [scanHandles_eq host enough, mem_handlesFrom_iff]

/-! ## Repeated mentions -/

def handleKey (handle : AccountHandle) : String :=
  handle.username ++ "@" ++ handle.domain.getD ""

/-- Where no two handles have one key, only repeated ones are dropped. -/
theorem mem_distinctHandles_iff {handles : List AccountHandle} {seen : List String}
    (apart : ∀ first ∈ handles, ∀ second ∈ handles, handleKey first = handleKey second →
      first = second) :
    handle ∈ distinctHandles handles seen ↔ handle ∈ handles ∧ handleKey handle ∉ seen := by
  induction handles generalizing seen with
  | nil =>
    rw [distinctHandles]
    exact iff_of_false List.not_mem_nil fun got => absurd got.1 List.not_mem_nil
  | cons first rest ih =>
    have restApart := fun one (oneIn : one ∈ rest) two (twoIn : two ∈ rest) =>
      apart one (List.mem_cons_of_mem _ oneIn) two (List.mem_cons_of_mem _ twoIn)
    have key : first.username ++ "@" ++ first.domain.getD "" = handleKey first := rfl
    rw [distinctHandles]
    simp only [key]
    split_ifs with old
    · rw [ih restApart, List.mem_cons]
      refine ⟨fun got => ⟨Or.inr got.1, got.2⟩, ?_⟩
      rintro ⟨rfl | later, new⟩
      · exact absurd old new
      · exact ⟨later, new⟩
    · rw [List.mem_cons, ih restApart, List.mem_cons, List.mem_cons, not_or]
      constructor
      · rintro (rfl | ⟨later, -, new⟩)
        · exact ⟨Or.inl rfl, old⟩
        · exact ⟨Or.inr later, new⟩
      · rintro ⟨rfl | later, new⟩
        · exact Or.inl rfl
        · by_cases eq : handleKey handle = handleKey first
          · exact Or.inl (apart handle (List.mem_cons_of_mem _ later) first
              List.mem_cons_self eq)
          · exact Or.inr ⟨later, eq, new⟩

/-- A username has no `@`, in lower case either. -/
theorem at_notMem_username :
    '@' ∉ (toAsciiLowercase (String.ofList (rest.takeWhile isUsernameChar))).toList := by
  rw [toList_lowercase, String.toList_ofList]
  intro mem
  obtain ⟨c, inside, lower⟩ := List.mem_map.mp mem
  rw [eq_of_toLower_eq lower (by decide)] at inside
  exact at_notMem_takeWhile (by decide) rest inside

/-- A handle that is read has a username without `@`, and a domain. -/
theorem handleAt_parts (host : String) (rest : List Char) :
    '@' ∉ (handleAt host rest).username.toList ∧ (handleAt host rest).domain.isSome = true := by
  rw [handleAt]
  split
  · split_ifs
    · exact ⟨at_notMem_username, rfl⟩
    · exact ⟨at_notMem_username, rfl⟩
  · exact ⟨at_notMem_username, rfl⟩

theorem eq_of_handleKey {first second : AccountHandle}
    (firstParts : '@' ∉ first.username.toList ∧ first.domain.isSome = true)
    (secondParts : '@' ∉ second.username.toList ∧ second.domain.isSome = true)
    (eq : handleKey first = handleKey second) : first = second := by
  obtain ⟨firstDomain, firstSome⟩ := Option.isSome_iff_exists.mp firstParts.2
  obtain ⟨secondDomain, secondSome⟩ := Option.isSome_iff_exists.mp secondParts.2
  have letters := congrArg String.toList eq
  have at_eq : "@".toList = ['@'] := by decide
  simp only [handleKey, String.toList_append, at_eq, firstSome, secondSome, Option.getD_some,
    List.append_assoc, List.singleton_append] at letters
  have users := (split_at_first firstParts.1).1.symm.trans
    ((congrArg (List.takeWhile (· != '@')) letters).trans (split_at_first secondParts.1).1)
  rw [users, List.append_cancel_left_eq, List.cons.injEq] at letters
  cases first with
  | mk username domain =>
    cases second with
    | mk username' domain' =>
      cases firstSome
      cases secondSome
      obtain rfl : username = username' := String.toList_inj.mp users
      rw [String.toList_inj.mp letters.2]

/-- **The mentions of a text are extracted**, and nothing else is. -/
theorem mem_extractAccountHandlesFromText_iff {text domain : String}
    :
    handle ∈ extractAccountHandlesFromText text domain
      ↔ Mentions (instanceHost domain) none text.toList handle := by
  have enough : text.toList.length ≤ text.length := le_of_eq String.length_toList
  rw [extractAccountHandlesFromText, mem_distinctHandles_iff, mem_scanHandles_iff enough]
  · exact and_iff_left List.not_mem_nil
  · intro first firstRead second secondRead eq
    obtain ⟨_, firstRest, -, -, -, rfl⟩ := (mem_scanHandles_iff enough).mp firstRead
    obtain ⟨_, secondRest, -, -, -, rfl⟩ := (mem_scanHandles_iff enough).mp secondRead
    exact eq_of_handleKey (handleAt_parts _ _) (handleAt_parts _ _) eq

/-! ## Mentions in sentences -/

/-- `@user` stands in a text behind no character of a username. -/
structure NameStands (text user rest : List Char) : Prop where
  place : ∃ before, text = before ++ '@' :: (user ++ rest)
    ∧ before.getLast?.all isNoUsernameChar = true
  user_ne : user ≠ []
  user_chars : ∀ c ∈ user, isUsernameChar c = true

/-- `@user@domain` stands in a text behind no character of a username. -/
structure HandleStands (text user domain rest : List Char) : Prop where
  name : NameStands text user ('@' :: (domain ++ rest))
  domain_ne : domain ≠ []
  domain_chars : ∀ c ∈ domain, isDomainChar c = true

theorem takeWhile_append_stop {may : Char → Bool} {run rest : List Char}
    (each : ∀ c ∈ run, may c = true) (stop : rest.head?.all (fun c => !may c) = true) :
    (run ++ rest).takeWhile may = run ∧ (run ++ rest).dropWhile may = rest := by
  rw [List.takeWhile_append_of_pos each, List.dropWhile_append_of_pos each]
  cases rest with
  | nil => exact ⟨List.append_nil run, rfl⟩
  | cons c rest =>
    rw [List.head?_cons, Option.all_some, Bool.not_eq_true'] at stop
    rw [List.takeWhile_cons, List.dropWhile_cons, stop]
    exact ⟨List.append_nil run, rfl⟩

/-- **A handle is extracted** where its domain ends. -/
theorem mem_of_handleStands {text instanceDomain : String} {user domain rest : List Char}
    (stands : HandleStands text.toList user domain rest)
    (stop : rest.head?.all isNoDomainChar = true) :
    accountHandle user domain ∈ extractAccountHandlesFromText text instanceDomain := by
  obtain ⟨⟨⟨pre, parts, free⟩, named, userChars⟩, domainNamed, domainChars⟩ := stands
  obtain ⟨userRun, afterUser⟩ :=
    @takeWhile_append_stop isUsernameChar user ('@' :: (domain ++ rest)) userChars (by rfl)
  obtain ⟨domainRun, -⟩ := takeWhile_append_stop domainChars stop
  refine mem_extractAccountHandlesFromText_iff.mpr
    ⟨pre, _, parts, by rw [Option.or_none]; exact free, by rwa [userRun], ?_⟩
  have here : ¬ ((domain ++ rest).takeWhile isDomainChar).isEmpty = true := by
    rw [domainRun, List.isEmpty_iff]
    exact domainNamed
  rw [handleAt, afterUser, userRun]
  refine Eq.symm ((if_neg here).trans ?_)
  rw [domainRun]

/-- The mentions of a text are read: with a domain before a comma or a closing bracket that
ends a word, and none that does not stand in the text. -/
structure ReadsMentions (text instanceDomain : String) : Prop where
  read : ∀ user domain p after, HandleStands text.toList user domain (p :: after) →
    p = ',' ∨ p = ')' → after.head?.all isWhitespace = true →
    accountHandle user domain ∈ extractAccountHandlesFromText text instanceDomain
  stands : ∀ handle ∈ extractAccountHandlesFromText text instanceDomain,
    (∃ user domain rest, HandleStands text.toList user domain rest
      ∧ handle = accountHandle user domain)
    ∨ ∃ user rest, NameStands text.toList user rest
      ∧ rest.head?.all isNoUsernameChar = true
      ∧ (∀ tail, rest = '@' :: tail → tail.head?.all isNoDomainChar = true)
      ∧ handle = ⟨toAsciiLowercase (String.ofList user), some (instanceHost instanceDomain)⟩

theorem head?_dropWhile_stop (may : Char → Bool) (chars : List Char) :
    (chars.dropWhile may).head?.all (fun c => !may c) = true := by
  have first := List.head?_dropWhile_not may chars
  cases head : (chars.dropWhile may).head? with
  | none => rfl
  | some c =>
    rw [head] at first
    rwa [Option.all_some, Bool.not_eq_true']

theorem mentions_of_sentences (text instanceDomain : String) :
    ReadsMentions text instanceDomain where
  read user domain p after stands punctuation _ := by
    refine mem_of_handleStands stands ?_
    rcases punctuation with rfl | rfl
    · rfl
    · rfl
  stands handle read := by
    obtain ⟨pre, rest, parts, free, named, rfl⟩ :=
      mem_extractAccountHandlesFromText_iff.mp read
    rw [Option.or_none] at free
    have whole := @List.takeWhile_append_dropWhile _ isUsernameChar rest
    have name : NameStands text.toList (rest.takeWhile isUsernameChar)
        (rest.dropWhile isUsernameChar) :=
      ⟨⟨pre, by rw [whole, parts], free⟩, named, fun c mem => List.mem_takeWhile_imp mem⟩
    have stop := head?_dropWhile_stop isUsernameChar rest
    rw [handleAt]
    split
    next tail after =>
      rw [after] at name stop
      have domainWhole := @List.takeWhile_append_dropWhile _ isDomainChar tail
      split_ifs with noDomain
      · refine Or.inr ⟨_, _, name, stop, fun other eq => ?_, rfl⟩
        obtain ⟨-, rfl⟩ := List.cons.inj eq
        have domainStop := head?_dropWhile_stop isDomainChar tail
        rw [List.isEmpty_iff.mp noDomain, List.nil_append] at domainWhole
        rwa [domainWhole] at domainStop
      · refine Or.inl ⟨_, _, tail.dropWhile isDomainChar, ⟨?_, ?_, ?_⟩, rfl⟩
        · rwa [domainWhole]
        · exact fun empty => noDomain (List.isEmpty_iff.mpr empty)
        · exact fun c mem => List.mem_takeWhile_imp mem
    next after =>
      exact Or.inr ⟨_, _, name, stop, fun tail eq => absurd eq (after tail), rfl⟩

/-! ## Other mentions -/

/-- A handle stands before punctuation that ends a word. -/
def SentenceHandle (text user domain : List Char) : Prop :=
  ∃ p after, p ∈ ['.', ',', '-', ')'] ∧ after.head?.all isWhitespace = true
    ∧ HandleStands text user domain (p :: after)

/-- The handles before punctuation are what is extracted. -/
def ReadsSentenceHandles (text instanceDomain : String) : Prop :=
  (∀ user domain, SentenceHandle text.toList user domain →
    accountHandle user domain ∈ extractAccountHandlesFromText text instanceDomain)
  ∧ ∀ handle ∈ extractAccountHandlesFromText text instanceDomain,
    ∃ user domain, SentenceHandle text.toList user domain ∧ handle = accountHandle user domain

/-- A handle before punctuation is shorter than its text. -/
theorem length_of_sentenceHandle {text user domain : List Char}
    (sentence : SentenceHandle text user domain) :
    user.length + domain.length + 3 ≤ text.length := by
  obtain ⟨p, post, -, -, ⟨⟨pre, parts, -⟩, -, -⟩, -, -⟩ := sentence
  rw [parts]
  simp only [List.length_append, List.length_cons]
  omega

theorem not_sentenceHandle_of_length {username host : String}
    (long : text.length < username.length + host.length + 3) :
    ¬ ∃ user domain, SentenceHandle text user domain
      ∧ (⟨username, some host⟩ : AccountHandle) = accountHandle user domain := by
  rintro ⟨user, domain, sentence, eq⟩
  have bound := length_of_sentenceHandle sentence
  rw [accountHandle, AccountHandle.mk.injEq, Option.some.injEq] at eq
  have userLength := congrArg String.length eq.1
  have domainLength := congrArg String.length eq.2
  rw [← @String.length_toList (toAsciiLowercase _), toList_lowercase, List.length_map,
    String.toList_ofList] at userLength domainLength
  omega

/-- Mentions without a domain and without punctuation are extracted as well, and a full stop
is taken for a part of the domain. -/
theorem other_mentions_are_read :
    ¬ ReadsSentenceHandles "hi @alice" "local.example"
      ∧ ¬ ReadsSentenceHandles "@bob@x.example" "local.example"
      ∧ extractAccountHandlesFromText "@bob@x.example." "local.example"
        = [⟨"bob", some "x.example."⟩]
      ∧ ¬ ReadsSentenceHandles "@bob@x.example." "local.example" := by
  have alice : (⟨"alice", some "local.example"⟩ : AccountHandle)
      ∈ extractAccountHandlesFromText "hi @alice" "local.example" := by decide +kernel
  have bob : (⟨"bob", some "x.example"⟩ : AccountHandle)
      ∈ extractAccountHandlesFromText "@bob@x.example" "local.example" := by decide +kernel
  have stopped : extractAccountHandlesFromText "@bob@x.example." "local.example"
      = [⟨"bob", some "x.example."⟩] := by decide +kernel
  refine ⟨fun reads => ?_, fun reads => ?_, stopped, fun reads => ?_⟩
  · exact not_sentenceHandle_of_length (by decide +kernel) (reads.2 _ alice)
  · exact not_sentenceHandle_of_length (by decide +kernel) (reads.2 _ bob)
  · have pre : SentenceHandle "@bob@x.example.".toList "bob".toList "x.example".toList :=
      ⟨'.', [], by decide, rfl, ⟨⟨[], by decide, rfl⟩, by decide, forall_mem_of_all (by decide)⟩,
        by decide, forall_mem_of_all (by decide)⟩
    have read := reads.1 _ _ pre
    rw [stopped] at read
    exact absurd read (by decide +kernel)

end Cfwdon.Accounts
