import Cfwdon.Search.DateBounds

/-!
# Who finds a status by a search

A local status is only found by viewers who may see it.  For a remote status the collector asks
whether it is public or in the library of the viewer: favourited, bookmarked or reblogged by the
viewer, or with a text that mentions the name of the viewer.  A name without a host counts as
one of this instance, though its author may mean somebody else.  Whether the viewer may see the
status is not asked.
-/

namespace Cfwdon.Search

open Library Statuses Timelines

variable (env : SearchEnvironment) (store : SearchStore)

/-- The viewer may see the status. -/
def SearchPlan.Candidate.Viewable (viewer : LocalAccount) : SearchPlan.Candidate → Prop
  | .ofLocal status =>
    ∃ owner ∈ store.findAccountById status.accountId,
      store.canViewLocalStatus status viewer owner = true
  | .ofRemote status => store.canViewRemoteStatus status viewer = true

def Finds (search : StatusSearch) (candidate : SearchPlan.Candidate) : Prop :=
  ∃ parsed ∈ parseStatusSearchQuery env.times search.query,
    ∃ plan ∈ searchPlan env store search parsed,
      plan.Matches env store search.viewer (searchStatusQueryLimit search.limit search.offset
        (!plan.terms.isEmpty)) candidate
      ∧ plan.admitsDates candidate = true

/-- The viewer may see the remote statuses in the own library. -/
def LibraryViewable (viewer : LocalAccount) : Prop :=
  ∀ status ∈ store.remoteStatuses,
    store.remoteStatusIsInSearchLibrary env viewer status = true →
      store.canViewRemoteStatus status viewer = true

variable {env store} {search : StatusSearch} {plan : SearchPlan} {viewer : LocalAccount}

/-! ## What is found -/

theorem finds_of_shown {got : List SearchPlan.Candidate}
    (searched : searchStatusesForV2 env store search = some got)
    {candidate : SearchPlan.Candidate} (shown : candidate ∈ got) :
    Finds env store search candidate := by
  unfold searchStatusesForV2 at searched
  obtain ⟨parsed, parse, eq⟩ := Option.map_eq_some_iff.mp searched
  subst eq
  cases planned : searchPlan env store search parsed with
  | none =>
    rw [planned] at shown
    cases shown
  | some plan =>
    rw [planned] at shown
    exact ⟨parsed, parse, plan, planned, mem_page shown⟩

/-- **The local statuses that pass** may be seen by the viewer. -/
theorem localStatusPasses_viewable {status : LocalStatus}
    (passes : plan.localStatusPasses env store viewer status = true) :
    (SearchPlan.Candidate.ofLocal status).Viewable store viewer := by
  obtain ⟨owner, known, holds⟩ := (Option.any_eq_true _ _).mp passes
  simp only [Bool.and_eq_true] at holds
  exact ⟨owner, known, holds.1.1.1.2⟩

variable {status : Remote.RemoteStatus}

theorem public_or_library_of_passes
    (passes : plan.remoteStatusPasses env store viewer status = true) :
    isPublicActivitypubVisibility status.visibility = true
      ∨ store.remoteStatusIsInSearchLibrary env viewer status = true := by
  unfold SearchPlan.remoteStatusPasses statusIsSearchableByScope at passes
  simp only [Bool.and_eq_true, Bool.or_eq_true] at passes
  exact passes.1.1.2.1.imp_right And.right

theorem canView_of_public
    (isPublic : isPublicActivitypubVisibility status.visibility = true) :
    store.canViewRemoteStatus status viewer = true := by
  rw [SearchStore.canViewRemoteStatus, isPublic]
  rfl

/-- Where the library may be seen, everything that is found may be seen. -/
theorem viewable_of_finds (library : LibraryViewable env store search.viewer)
    {cand : SearchPlan.Candidate} (finds : Finds env store search cand) :
    cand.Viewable store search.viewer := by
  obtain ⟨parsed, -, plan, -, hit, -⟩ := finds
  cases cand with
  | ofLocal status => exact localStatusPasses_viewable hit.2.2.2
  | ofRemote status =>
    rcases public_or_library_of_passes hit.2.2.2 with isPublic | inLibrary
    · exact canView_of_public isPublic
    · exact library status hit.1 inLibrary

/-! ## The library -/

def librarySearch (viewer : LocalAccount) : StatusSearch :=
  ⟨viewer, "in:library", 40, 0, none, none, none⟩

def libraryQuery : ParsedStatusSearchQuery := { inLibrary := some true }

/-- What is searched then: both tables, without bounds. -/
def libraryPlan : SearchPlan where
  parsed := libraryQuery
  author := none
  excludedAuthor := none
  cursor := .unbounded

theorem parse_library (times : SearchTimes) :
    parseStatusSearchQuery times "in:library" = some libraryQuery := by
  have tokens : tokenizeStatusSearchQuery "in:library" = ["in:library"] := by decide +kernel
  have split : splitStatusSearchNegation "in:library" = (false, "in:library") := by
    decide +kernel
  have keyword : keywordToken "in:library" = some (.inScope, "library") := by decide +kernel
  have merged : mergeStatusSearchInFilter {} "library" false = libraryQuery := by decide +kernel
  have noTerms : setStatusSearchTextTerms libraryQuery [] = libraryQuery := by decide +kernel
  have read : readSearchToken times ({}, []) "in:library" = some (libraryQuery, []) := by
    unfold readSearchToken
    rw [split]
    dsimp only
    rw [keyword]
    dsimp only
    rw [applyStatusSearchPrefixedFilter, merged]
    rfl
  unfold parseStatusSearchQuery
  rw [tokens, List.foldlM_cons, read]
  simp only [Option.bind_eq_bind, Option.bind_some, List.foldlM_nil, Option.pure_def,
    Option.map_some, noTerms]

theorem plan_library :
    searchPlan env store (librarySearch viewer) libraryQuery = some libraryPlan := by
  rfl

/-- **A search of the library finds** every remote status in it. -/
theorem finds_library (held : status ∈ store.remoteStatuses)
    (inLibrary : store.remoteStatusIsInSearchLibrary env viewer status = true) :
    Finds env store (librarySearch viewer) (.ofRemote status) := by
  refine ⟨libraryQuery, parse_library env.times, libraryPlan, plan_library,
    ⟨held, rfl, ?_, ?_⟩, rfl⟩
  · have noPatterns (queryLimit : Nat) :
        (libraryPlan.remoteRequest queryLimit).boundPatterns = [] := by
      have none_ : (libraryPlan.remoteRequest 0).boundPatterns = [] := by decide +kernel
      exact none_
    unfold SearchStatement.matchesText
    rw [statement_clauses, noPatterns]
    rfl
  · have inScope : statusIsSearchableByScope libraryQuery
        (isPublicActivitypubVisibility status.visibility) true = true := by
      cases isPublicActivitypubVisibility status.visibility <;> rfl
    have expects : (isPublicActivitypubVisibility status.visibility
        && libraryPlan.parsed.inLibrary == none) = false := Bool.and_false _
    unfold SearchPlan.remoteStatusPasses
    dsimp only
    rw [expects, Bool.not_false, Bool.true_and]
    simp only [librarySearch, inLibrary]
    rw [show libraryPlan.parsed = libraryQuery from rfl, inScope]
    rfl

/-- **A viewer who searches is shown only what the viewer may see**: of the local statuses in
every case, and of the remote ones exactly if the viewer may see those in the own library.  The
library is what the viewer has favourited, bookmarked or reblogged, and what mentions the name
of the viewer. -/
theorem search_viewable_iff (env : SearchEnvironment) (store : SearchStore)
    (viewer : LocalAccount) :
    (∀ search : StatusSearch, ∀ found ∈ searchStatusesForV2 env store search, ∀ status,
      .ofLocal status ∈ found → (SearchPlan.Candidate.ofLocal status).Viewable store search.viewer)
    ∧ ((∀ search : StatusSearch, search.viewer = viewer → ∀ candidate,
          Finds env store search candidate → candidate.Viewable store viewer)
        ↔ LibraryViewable env store viewer)
    ∧ (LibraryViewable env store viewer →
        ∀ search : StatusSearch, search.viewer = viewer →
          ∀ found ∈ searchStatusesForV2 env store search, ∀ candidate ∈ found,
            candidate.Viewable store viewer) := by
  refine ⟨fun search found searched status shown => ?_,
    ⟨fun viewable status held inLibrary => ?_, fun library search eq candidate finds => ?_⟩,
    fun library search eq found searched candidate shown => ?_⟩
  · obtain ⟨parsed, -, plan, -, hit, -⟩ := finds_of_shown searched shown
    exact localStatusPasses_viewable hit.2.2.2
  · exact viewable (librarySearch viewer) rfl _ (finds_library held inLibrary)
  · subst eq
    exact viewable_of_finds library finds
  · subst eq
    exact viewable_of_finds library (finds_of_shown searched shown)

/-! ## A namesake -/

def alice : LocalAccount := ⟨"alice", "alice"⟩

/-- A direct status to somebody who is called alice at another host. -/
def directToNamesake : Remote.RemoteStatus where
  id := "1"
  actorUri := "https://remote.example/users/carol"
  objectUri := "https://remote.example/notes/1"
  url := none
  inReplyToUri := none
  boostOfUri := none
  quoteOfUri := none
  contentHtml := "<p>hello @alice</p>"
  textContent := "hello @alice"
  spoilerText := ""
  visibility := .direct
  sensitive := false
  language := none
  quoteState := .accepted
  publishedAt := "2026-01-01T00:00:00Z"
  rawObjectJson := ""
  editedAt := none
  inReplyToId := none

/-- Alice finds the direct status to her namesake. -/
theorem search_finds_direct_to_namesake :
    ¬ ∀ found ∈ searchStatusesForV2 plainEnvironment (storeOf [] [directToNamesake])
        (librarySearch alice), ∀ candidate ∈ found,
          candidate.Viewable (storeOf [] [directToNamesake]) alice := by
  intro viewable
  have shown : (searchStatusesForV2 plainEnvironment (storeOf [] [directToNamesake])
      (librarySearch alice)).any (.ofRemote directToNamesake ∈ ·) = true := by
    decide +kernel
  obtain ⟨found, searched, mem⟩ := (Option.any_eq_true _ _).mp shown
  have seen : (storeOf [] [directToNamesake]).canViewRemoteStatus directToNamesake alice = true :=
    viewable found searched _ (of_decide_eq_true mem)
  exact absurd seen (by decide +kernel)

end Cfwdon.Search
