import Cfwdon.Collections.Inbox
import Cfwdon.Library.Run

/-!
# Who may touch a collection

The collection under a URI and its items should be touched only by actors of the host of
the URI, and a collection should stay with the actor it belongs to.

`Remove`, and an `Add` of an item, are taken only from the actor the stored collection
belongs to.  But an `Add` or `Update` of a collection writes under the `id` of an object
that only has to say it is attributed to the sender: the id is compared neither with the
host of the sender nor with the actor the stored row belongs to.  Besides, the actors
whose handle the sender takes over go with their collections.
-/

namespace Cfwdon.Collections

open Library Remote Federation

def SameHost (uri uri' : String) : Prop :=
  ∃ host, remoteHttpAuthority uri = some host ∧ remoteHttpAuthority uri' = some host

/-- **Only its host touches a collection**: if the row under a URI or one of its items is
created, changed or deleted, the sender is of the host of the URI; and a row that stays
belongs to the actor it belonged to. -/
structure OnlyItsHostTouches (before : Store) (event : CollectionActivity) (after : Store) :
    Prop where
  byItsHost : ∀ uri, ¬ Store.Untouched uri before after → SameHost event.sender.actorUri uri
  neverTakenOver : ∀ uri row row', before.collections.find uri = some row →
    after.collections.find uri = some row' → row'.actorUri = row.actorUri

/-- Each collection belongs to an actor of the host of its URI. -/
def RowsOnTheirHosts (store : Store) : Prop :=
  ∀ row ∈ store.collections.rows, SameHost row.actorUri row.uri

/-- The condition on an activity: the collection it stores is of the host of the sender and
not stored for another actor, and so is the host of every collection that goes with an
actor whose handle the sender takes over. -/
structure KeepsToItsHost (store : Store) (event : CollectionActivity) : Prop where
  ofHost : ∀ draft, event.draft = some draft → SameHost event.sender.actorUri draft.uri
  ofActor : ∀ draft row, event.draft = some draft →
    store.collections.find draft.uri = some row → row.actorUri = event.sender.actorUri
  ofHandle : event.storesActor = true → ∀ row ∈ store.collections.rows,
    store.losesActor event.sender row = true → SameHost event.sender.actorUri row.uri

variable {site : Site} {event : CollectionActivity} {store : Store} {uri : String}
  {row : RemoteCollectionRow}

/-! ## What an activity touches -/

/-- **What an activity cannot touch**: a collection it does not store, that does not go with
an actor, and that does not belong to its sender. -/
theorem untouched_receive (notDraft : ∀ draft, event.draft = some draft → draft.uri ≠ uri)
    (notLost : event.storesActor = true → ∀ row ∈ store.collections.rows, row.uri = uri →
      store.losesActor event.sender row = false)
    (notOwn : ∀ row ∈ store.collections.rows, row.uri = uri →
      row.actorUri ≠ event.sender.actorUri) :
    Store.Untouched uri store (receive site event store) := by
  have effect := effect_receive site event store
  generalize receive site event store = after at effect ⊢
  cases effect with
  | nothing => exact .refl uri store
  | actor held => exact Store.untouched_upsertActor (notLost held)
  | collection object held reads =>
    apply (Store.untouched_upsertActor (notLost held)).trans
    cases read : remoteCollectionDraftFromObject event.sender object with
    | none =>
      rw [upsertFromObject_of_none read]
      exact .refl uri _
    | some draft => exact untouched_upsertFromObject read (notDraft draft (reads.trans read))
  | item object collection held _ got owned =>
    apply (Store.untouched_upsertActor (notLost held)).trans
    apply untouched_upsertItem
    intro sameId
    have mem := Table.mem_of_find (Store.find_of_find_upsertActor got).1
    have sameUri := restId_injective (collection.idOfUri.symm.trans sameId)
    exact notOwn collection mem sameUri owned
  | deleteCollection collUri =>
    apply Store.untouched_deleteCollections
    intro row mem sameUri
    rw [Bool.and_eq_false_iff]
    exact Or.inl (beq_eq_false_iff_ne.mpr (notOwn row mem sameUri))
  | deleteItems object collection _ _ got owned =>
    apply Store.untouched_deleteItems
    · intro sameId
      have sameUri := restId_injective (collection.idOfUri.symm.trans sameId)
      exact notOwn collection (Table.mem_of_find got) sameUri owned
    · intro item deleted
      rw [Bool.and_eq_true] at deleted
      exact beq_iff_eq.mp deleted.1

theorem find_receive_of_draft (site : Site) (store : Store) {draft : RemoteCollectionDraft}
    (reads : event.draft = some draft) :
    (receive site event store).collections.find draft.uri = some draft.toRemoteCollectionRow := by
  have effect := effect_receive site event store
  generalize receive site event store = after at effect ⊢
  cases effect with
  | collection object held readFrom =>
    have read := readFrom.symm.trans reads
    rw [collections_upsertFromObject read, find_upsertDraft, if_pos rfl]
  | nothing _ noDraft | actor _ noDraft | item _ _ _ noDraft | deleteCollection _ _ noDraft
  | deleteItems _ _ _ noDraft => cases noDraft.symm.trans reads

theorem find_of_find_receive (notDraft : ∀ draft, event.draft = some draft → draft.uri ≠ uri)
    (got : (receive site event store).collections.find uri = some row) :
    store.collections.find uri = some row
      ∧ (event.storesActor = true → store.losesActor event.sender row = false) := by
  have ofStored (noActor : event.storesActor = false)
      (held : store.collections.find uri = some row) :
      store.collections.find uri = some row
        ∧ (event.storesActor = true → store.losesActor event.sender row = false) := by
    refine ⟨held, fun storesActor => ?_⟩
    rw [noActor] at storesActor
    cases storesActor
  have ofActor (kept : (store.upsertRemoteActor event.sender).collections.find uri = some row) :
      store.collections.find uri = some row
        ∧ (event.storesActor = true → store.losesActor event.sender row = false) := by
    obtain ⟨held, spared⟩ := Store.find_of_find_upsertActor kept
    exact ⟨held, fun _ => spared⟩
  have effect := effect_receive site event store
  generalize receive site event store = after at effect got
  cases effect with
  | nothing noActor | deleteItems _ _ noActor => exact ofStored noActor got
  | actor => exact ofActor got
  | collection object held reads =>
    cases read : remoteCollectionDraftFromObject event.sender object with
    | none =>
      rw [upsertFromObject_of_none read] at got
      exact ofActor got
    | some draft =>
      rw [collections_upsertFromObject read, find_upsertDraft,
        if_neg (notDraft draft (reads.trans read))] at got
      exact ofActor got
  | item =>
    rw [collections_upsertItem] at got
    exact ofActor got
  | deleteCollection collUri noActor =>
    exact ofStored noActor (Table.find_of_find_deleteWhere got).1

theorem actorUri_of_draft {draft : RemoteCollectionDraft} (reads : event.draft = some draft) :
    draft.actorUri = event.sender.actorUri := by
  unfold CollectionActivity.draft at reads
  split_ifs at reads
  obtain ⟨object, _, read⟩ := Option.bind_eq_some_iff.mp reads
  exact (draft_of_sender read).1

theorem touched_of_losesActor (storesActor : event.storesActor = true)
    (mem : row ∈ store.collections.rows)
    (loses : store.losesActor event.sender row = true) :
    ¬ Store.Untouched row.uri store (receive site event store) := by
  intro untouched
  have got := untouched.collection.trans (Table.find_of_mem mem)
  by_cases offered : ∃ draft, event.draft = some draft ∧ draft.uri = row.uri
  · -- the row would be the one the sender stores, but it belongs to another actor
    obtain ⟨draft, reads, sameUri⟩ := offered
    have wrote := find_receive_of_draft site store reads
    rw [sameUri, got] at wrote
    obtain rfl := Option.some.inj wrote
    exact Store.actorUri_ne_of_losesActor loses (actorUri_of_draft reads)
  · have notDraft : ∀ draft, event.draft = some draft → draft.uri ≠ row.uri :=
      fun draft reads sameUri => offered ⟨draft, reads, sameUri⟩
    have spared := (find_of_find_receive notDraft got).2 storesActor
    rw [spared] at loses
    cases loses

/-! ## One activity -/

theorem keepsToItsHost_of_law (onHosts : RowsOnTheirHosts store)
    (law : OnlyItsHostTouches store event (receive site event store)) :
    KeepsToItsHost store event := by
  have ofActor : ∀ draft row, event.draft = some draft →
      store.collections.find draft.uri = some row → row.actorUri = event.sender.actorUri := by
    intro draft row reads got
    have kept := law.neverTakenOver draft.uri row _ got (find_receive_of_draft site store reads)
    exact kept.symm.trans (actorUri_of_draft reads)
  refine ⟨?_, ofActor, ?_⟩
  · intro draft reads
    cases got : store.collections.find draft.uri with
    | none =>
      apply law.byItsHost
      intro untouched
      have wrote := find_receive_of_draft site store reads
      rw [untouched.collection, got] at wrote
      cases wrote
    | some row =>
      have onHost := onHosts row (Table.mem_of_find got)
      rw [ofActor draft row reads got] at onHost
      exact Table.key_of_find got ▸ onHost
  · intro storesActor row mem loses
    exact law.byItsHost row.uri (touched_of_losesActor storesActor mem loses)

theorem law_of_keepsToItsHost (onHosts : RowsOnTheirHosts store)
    (keeps : KeepsToItsHost store event) :
    OnlyItsHostTouches store event (receive site event store) := by
  constructor
  · intro uri touched
    by_contra foreign
    apply touched
    apply untouched_receive
    · rintro draft reads rfl
      exact foreign (keeps.ofHost draft reads)
    · rintro storesActor row mem rfl
      rw [← Bool.not_eq_true]
      exact fun loses => foreign (keeps.ofHandle storesActor row mem loses)
    · rintro row mem rfl own
      exact foreign (own ▸ onHosts row mem)
  · intro uri row row' pre post
    by_cases offered : ∃ draft, event.draft = some draft ∧ draft.uri = uri
    · obtain ⟨draft, reads, rfl⟩ := offered
      rw [find_receive_of_draft site store reads] at post
      obtain rfl := Option.some.inj post
      exact (actorUri_of_draft reads).trans (keeps.ofActor draft row reads pre).symm
    · have notDraft : ∀ draft, event.draft = some draft → draft.uri ≠ uri :=
        fun draft reads sameUri => offered ⟨draft, reads, sameUri⟩
      have held := (find_of_find_receive notDraft post).1
      rw [pre] at held
      rw [Option.some.inj held]

/-- **One activity keeps the law exactly under the condition.** -/
theorem onlyItsHostTouches_iff (onHosts : RowsOnTheirHosts store) :
    OnlyItsHostTouches store event (receive site event store) ↔ KeepsToItsHost store event :=
  ⟨keepsToItsHost_of_law onHosts, law_of_keepsToItsHost onHosts⟩

theorem rowsOnTheirHosts_receive (onHosts : RowsOnTheirHosts store)
    (law : OnlyItsHostTouches store event (receive site event store)) :
    RowsOnTheirHosts (receive site event store) := by
  intro row mem
  have got := Table.find_of_mem mem
  by_cases offered : ∃ draft, event.draft = some draft ∧ draft.uri = row.uri
  · obtain ⟨draft, reads, sameUri⟩ := offered
    have wrote := find_receive_of_draft site store reads
    rw [sameUri, got] at wrote
    obtain rfl := Option.some.inj wrote
    have ofHost := (keepsToItsHost_of_law onHosts law).ofHost draft reads
    rw [← actorUri_of_draft reads] at ofHost
    exact ofHost
  · have notDraft : ∀ draft, event.draft = some draft → draft.uri ≠ row.uri :=
      fun draft reads sameUri => offered ⟨draft, reads, sameUri⟩
    exact onHosts row (Table.mem_of_find (find_of_find_receive notDraft got).1)

def Receives (site : Site) (before : Store) (event : CollectionActivity) (after : Store) : Prop :=
  receive site event before = after

/-- **Collections are kept to their hosts** throughout a run exactly if its activities meet
the condition, and then each collection belongs to an actor of its host. -/
theorem collections_kept_to_their_hosts_iff {start finish : Store}
    {trace : List (Transition Store CollectionActivity)}
    (run : Run (Receives site) start trace finish) (onHosts : RowsOnTheirHosts start) :
    (Throughout OnlyItsHostTouches trace ↔ Along KeepsToItsHost trace)
      ∧ (Along KeepsToItsHost trace → RowsOnTheirHosts finish) := by
  apply run.throughout_iff_along_from_good onHosts
  · rintro pre event post onHosts rfl
    exact onlyItsHostTouches_iff onHosts
  · rintro pre event post onHosts rfl law
    exact rowsOnTheirHosts_receive onHosts law

/-! ## A collection of another host -/

/-- The parser of URLs that are written back as they came. -/
def plainUrl (url : String) : Option String :=
  if startsWith url "https://" && trim url == url then some url else none

theorem plainUrl_trim {url parsed : String} (named : plainUrl url = some parsed) :
    plainUrl (trim parsed) = some parsed := by
  unfold plainUrl at named
  split_ifs at named with plain
  cases named
  rw [Bool.and_eq_true, beq_iff_eq] at plain
  rw [plain.2, plainUrl, if_pos (by simp [plain.1, plain.2])]

/-- An instance that meets such URLs, with the answers of the other servers. -/
def plainSite (respond : Nat → String → Remote.Response) : Site where
  parseUrl := plainUrl
  reparse := plainUrl_trim
  joinUrl _ _ := none
  hostOf := remoteHttpAuthority
  lastSegment url := (splitOn url "/").getLast?
  allows _ _ := true
  respond
  pastDeadline _ := false
  instanceDomain := "social.example"
  pathSegments url := some ((splitOn url "/").drop 3)

/-- An actor with a handle of its own. -/
def actorAt (host username : String) : RemoteActorProfile where
  actorUri := "https://" ++ host ++ "/users/" ++ username
  username
  domain := host
  inboxUri := "https://" ++ host ++ "/inbox"
  sharedInboxUri := none
  publicKeyId := "https://" ++ host ++ "/users/" ++ username ++ "#main-key"
  publicKeyPem := "PEM"

/-- An `Update` of a collection that is attributed to its sender. -/
def updateOf (sender : RemoteActorProfile) (collectionUri : String) : CollectionActivity where
  kind := .update
  activity := .object [("type", .string "Update"), ("object", .object [
    ("type", .string "FeaturedCollection"), ("id", .string collectionUri),
    ("attributedTo", .string sender.actorUri), ("name", .string "Art")])]
  sender
  now := 0

/-- An instance that reaches no other server. -/
def alone : Site := plainSite fun _ _ => .failed

def aliceCollection : String := "https://good.example/users/alice/collections/1"

def publishing : CollectionActivity := updateOf (actorAt "good.example" "alice") aliceCollection

def stealing : CollectionActivity := updateOf (actorAt "evil.example" "mallory") aliceCollection

/-- The store with the collection of Alice. -/
def published : Store := receive alone publishing Store.empty

theorem rowsOnTheirHosts_empty : RowsOnTheirHosts Store.empty := by
  rintro row ⟨⟩

theorem keepsToItsHost_publishing : KeepsToItsHost Store.empty publishing := by
  constructor
  · intro draft reads
    have named : publishing.draft.map (fun draft => draft.uri) = some aliceCollection := by
      decide +kernel
    rw [reads, Option.map_some, Option.some.injEq] at named
    rw [named]
    exact ⟨"good.example", by decide +kernel, by decide +kernel⟩
  · intro draft row _ got
    cases got
  · rintro _ row ⟨⟩

theorem run_publishing :
    Run (Receives alone) Store.empty [⟨Store.empty, publishing, published⟩] published :=
  Run.start.snoc rfl

/-- The law and the condition in the run in which Alice publishes her collection. -/
theorem published_kept_to_its_host :
    Throughout OnlyItsHostTouches [⟨Store.empty, publishing, published⟩]
      ∧ RowsOnTheirHosts published := by
  have met : Along KeepsToItsHost [⟨Store.empty, publishing, published⟩] := by
    intro move mem
    obtain rfl := List.mem_singleton.mp mem
    exact keepsToItsHost_publishing
  have both := collections_kept_to_their_hosts_iff run_publishing rowsOnTheirHosts_empty
  exact ⟨both.1.mpr met, both.2 met⟩

/-- **An update by Mallory takes over the collection of Alice.** -/
theorem foreign_update_takes_collection :
    ¬ ∀ (site : Site) (start finish : Store) (trace : List (Transition Store CollectionActivity)),
      Run (Receives site) start trace finish → RowsOnTheirHosts start →
      Throughout OnlyItsHostTouches trace := by
  intro law
  have run : Run (Receives alone) Store.empty ([⟨Store.empty, publishing, published⟩]
      ++ [⟨published, stealing, receive alone stealing published⟩])
      (receive alone stealing published) := run_publishing.snoc rfl
  have stolen := law alone _ _ _ run rowsOnTheirHosts_empty _ (List.mem_append_right _
    (List.mem_singleton.mpr rfl))
  have pre : (published.collections.find aliceCollection).map
      (fun row => row.actorUri) = some "https://good.example/users/alice" := by decide +kernel
  have post : ((receive alone stealing published).collections.find
      aliceCollection).map (fun row => row.actorUri) = some "https://evil.example/users/mallory" := by
    decide +kernel
  obtain ⟨row, got, ofAlice⟩ := Option.map_eq_some_iff.mp pre
  obtain ⟨row', got', ofMallory⟩ := Option.map_eq_some_iff.mp post
  have kept := stolen.neverTakenOver aliceCollection row row' got got'
  rw [ofAlice, ofMallory] at kept
  exact absurd kept (by decide)

end Cfwdon.Collections
