import Cfwdon.Collections.LocalItems
import Cfwdon.Library.Integers
import Cfwdon.Library.Slices
import Mathlib.Data.Prod.Lex
import Mathlib.Data.String.Basic

/-!
# The collections that feature an account

Local and remote collections are listed together, newest first.  For a page both tables are read up
to its end, the rows are merged and sorted again, and the page is cut out of them.  The links lead
to the offsets one page further and one page back.
-/

namespace Cfwdon.Collections

open Library

structure ListedCollection where
  id : String
  createdAt : String
deriving DecidableEq

/-- The columns of an item that a collection is listed for. -/
structure FeaturingItem where
  collectionId : String
  target : String
  state : FeatureState

def FeaturingItem.key (item : FeaturingItem) : String × String := (item.collectionId, item.target)

/-- Collections and their items, local or remote ones.  A database of 10 GB has no more rows. -/
structure FeaturingTables where
  collections : Table ListedCollection ListedCollection.id
  items : Table FeaturingItem FeaturingItem.key
  few : collections.rows.length ≤ 2147483647

/-- The collections joined with the item that features the account, which is unique. -/
def FeaturingTables.featuring (tables : FeaturingTables) (target : String) :
    List ListedCollection :=
  tables.collections.rows.filter fun collection =>
    (tables.items.find (collection.id, target)).any fun item =>
      item.state == .accepted || item.state == .pending

abbrev NewestFirst := Stringᵒᵈ ×ₗ Stringᵒᵈ

def ListedCollection.place (collection : ListedCollection) : NewestFirst :=
  toLex (OrderDual.toDual collection.createdAt, OrderDual.toDual collection.id)

/-- `ORDER BY created_at DESC, id DESC LIMIT`, of `i32::try_from(limit).unwrap_or(i32::MAX)`. -/
def FeaturingTables.newest (tables : FeaturingTables) (target : String) (limit : Nat) :
    List ListedCollection :=
  ((tables.featuring target).insertionSort fun row other => row.place ≤ other.place).take
    (min limit 2147483647)

inductive InCollectionPageEntry where
  | «local» (row : ListedCollection)
  | remote (row : ListedCollection)
deriving DecidableEq

namespace InCollectionPageEntry

def sortKey : InCollectionPageEntry → NewestFirst
  | .local row | .remote row => row.place

def isRemote : InCollectionPageEntry → Bool
  | .local _ => false
  | .remote _ => true

/-- The order of the list: of two collections with one date and one id the local one is first. -/
def place (entry : InCollectionPageEntry) : NewestFirst ×ₗ Bool :=
  toLex (entry.sortKey, entry.isRemote)

end InCollectionPageEntry

open InCollectionPageEntry

def sortInCollectionPageEntries (entries : List InCollectionPageEntry) :
    List InCollectionPageEntry :=
  entries.insertionSort fun entry other => entry.sortKey ≤ other.sortKey

/-! ## Links -/

def parseU32 (text : String) : Option Nat :=
  ((digitsValue (if text.toList.head? = some '+' then text.toList.tail else text.toList)).filter
    fun value => decide (value ≤ 4294967295)).map Int.toNat

def isPaging (name : String) : Bool := name == "limit" || name == "offset"

/-- A field of a query: absent, or given once. -/
def queryField (name : String) (pairs : List (String × String)) : Option (Option Nat) :=
  match pairs.filter fun pair => pair.1 == name with
  | [] => some none
  | [(_, value)] => (parseU32 value).map some
  | _ => none

/-- `CollectionsQuery`, read of the pairs of a URL. -/
def collectionsQuery (pairs : List (String × String)) : Option Nat × Option Nat :=
  ((queryField "limit" pairs).bind fun limit =>
    (queryField "offset" pairs).map fun offset => (limit, offset)).getD (none, none)

def buildCollectionOffsetLink (pairs : List (String × String)) (limit offset : Nat) :
    List (String × String) :=
  (pairs.filter fun pair => !isPaging pair.1)
    ++ [("limit", toString limit), ("offset", toString offset)]

/-! ## Pages -/

structure InCollectionPage where
  entries : List InCollectionPageEntry
  next : Option (List (String × String))
  prev : Option (List (String × String))

/-- The account, by its id and by its URI, and the tables. -/
structure InCollections where
  accountId : String
  actorUri : String
  «local» : FeaturingTables
  remote : FeaturingTables

namespace InCollections

variable (site : InCollections)

def totalCount : Nat :=
  (site.local.featuring site.accountId).length + (site.remote.featuring site.actorUri).length

def pageEntries (limit offset : Nat) : List InCollectionPageEntry :=
  let pageWindow := min (offset + limit) 4294967295
  let entries := sortInCollectionPageEntries
    ((site.local.newest site.accountId pageWindow).map InCollectionPageEntry.local
      ++ (site.remote.newest site.actorUri pageWindow).map InCollectionPageEntry.remote)
  (entries.drop offset).take limit

/-- A page, with the links of `build_collection_offset_link_header_for_url`. -/
def page (pairs : List (String × String)) (limit offset : Nat) : InCollectionPage :=
  let entries := site.pageEntries limit offset
  { entries
    next :=
      if offset + entries.length < site.totalCount then
        some (buildCollectionOffsetLink pairs limit (min (offset + limit) 4294967295))
      else none
    prev :=
      if 0 < offset then some (buildCollectionOffsetLink pairs limit (offset - limit)) else none }

/-- `alpha_account_in_collections_response`. -/
def response (pairs : List (String × String)) : InCollectionPage :=
  site.page pairs (max 1 (min ((collectionsQuery pairs).1.getD 40) 80))
    ((collectionsQuery pairs).2.getD 0)

/-- A walk along the next links. -/
def walk : Nat → List (String × String) → Option (List InCollectionPage)
  | 0, _ => none
  | rounds + 1, pairs =>
    (site.response pairs).next.elim (some [site.response pairs]) fun link =>
      (walk rounds link).map (site.response pairs :: ·)

/-- All collections that feature the account, newest first. -/
def merged : List InCollectionPageEntry :=
  ((site.local.featuring site.accountId).map InCollectionPageEntry.local
    ++ (site.remote.featuring site.actorUri).map InCollectionPageEntry.remote).insertionSort
      fun entry other => entry.place ≤ other.place

end InCollections

/-! ## Reading links back -/

variable {n : Nat} {row : ListedCollection}

theorem parseU32_toString (fits : n ≤ 4294967295) : parseU32 (toString n) = some n := by
  have plain : (toString n).toList.head? ≠ some '+' := by
    intro starts
    have digit := isDigit_of_mem_repr (List.mem_of_mem_head? starts)
    revert digit
    decide
  have small : (n : Int) ≤ 4294967295 := by omega
  rw [parseU32, if_neg plain, show toString n = n.repr from rfl, digitsValue_repr,
    Option.filter_some, if_pos (decide_eq_true small)]
  rfl

theorem collectionsQuery_link (pairs : List (String × String)) {limit offset : Nat}
    (small : limit ≤ 4294967295) (fits : offset ≤ 4294967295) :
    collectionsQuery (buildCollectionOffsetLink pairs limit offset)
      = (some limit, some offset) := by
  have others : ∀ name, isPaging name = true →
      (pairs.filter fun pair => !isPaging pair.1).filter (fun pair => pair.1 == name) = [] := by
    intro name paging
    rw [List.filter_filter, List.filter_eq_nil_iff]
    intro pair mem both
    simp only [Bool.and_eq_true, beq_iff_eq] at both
    rw [both.1, paging] at both
    cases both.2
  have limits : queryField "limit" (buildCollectionOffsetLink pairs limit offset)
      = some (some limit) := by
    rw [queryField, buildCollectionOffsetLink, List.filter_append, others "limit" rfl]
    exact congrArg (Option.map some) (parseU32_toString small)
  have offsets : queryField "offset" (buildCollectionOffsetLink pairs limit offset)
      = some (some offset) := by
    rw [queryField, buildCollectionOffsetLink, List.filter_append, others "offset" rfl]
    exact congrArg (Option.map some) (parseU32_toString fits)
  rw [collectionsQuery, limits, offsets]
  rfl

theorem link_link (pairs : List (String × String)) (limit offset other later : Nat) :
    buildCollectionOffsetLink (buildCollectionOffsetLink pairs limit offset) other later
      = buildCollectionOffsetLink pairs other later := by
  simp [buildCollectionOffsetLink, List.filter_append, List.filter_filter, isPaging]

/-! ## Windows -/

theorem ListedCollection.place_injective : Function.Injective ListedCollection.place := by
  intro row other eq
  have dates := congrArg (fun place => OrderDual.ofDual (ofLex place).1) eq
  have ids := congrArg (fun place => OrderDual.ofDual (ofLex place).2) eq
  cases row
  cases other
  exact congr (congrArg ListedCollection.mk ids) dates

section Windows

variable (tables : FeaturingTables) (target : String)

theorem nodup_featuring : (tables.featuring target).Nodup :=
  tables.collections.keysDistinct.of_map.filter _

theorem length_featuring : (tables.featuring target).length ≤ 2147483647 :=
  (List.length_filter_le _ _).trans tables.few

theorem newest_eq (n : Nat) : tables.newest target (min n 4294967295)
    = ((tables.featuring target).insertionSort
        fun row other => row.place ≤ other.place).take n := by
  have length := length_featuring tables target
  rw [FeaturingTables.newest]
  by_cases small : n ≤ 2147483647
  · rw [Nat.min_eq_left (show n ≤ 4294967295 by omega), Nat.min_eq_left small]
  · rw [List.take_of_length_le, List.take_of_length_le] <;> rw [List.length_insertionSort] <;> omega

theorem mem_newest_iff :
    row ∈ tables.newest target (min n 4294967295) ↔ row ∈ tables.featuring target
      ∧ (tables.featuring target).countP (fun other => decide (other.place < row.place)) < n := by
  rw [newest_eq, mem_take_iff (List.pairwise_insertionSort _ _) fun other _ eq =>
      ListedCollection.place_injective eq,
    List.mem_insertionSort, (List.perm_insertionSort _ _).countP_eq]

end Windows

namespace InCollections

variable {site : InCollections}

theorem place_injective : Function.Injective InCollectionPageEntry.place := by
  intro entry other eq
  have kinds := congrArg (fun place => (ofLex place).2) eq
  have rows := congrArg (fun place => (ofLex place).1) eq
  cases entry with
  | «local» row =>
    cases other with
    | «local» other => exact congrArg _ (ListedCollection.place_injective rows)
    | remote other => cases kinds
  | remote row =>
    cases other with
    | «local» other => cases kinds
    | remote other => exact congrArg _ (ListedCollection.place_injective rows)

theorem nodup_entries {locals remotes : List ListedCollection} (nodup : locals.Nodup)
    (others : remotes.Nodup) : (locals.map InCollectionPageEntry.local
      ++ remotes.map InCollectionPageEntry.remote).Nodup := by
  refine List.nodup_append'.mpr ⟨nodup.map fun row other eq => by cases eq; rfl,
    others.map fun row other eq => by cases eq; rfl, ?_⟩
  intro entry isLocal isRemote
  obtain ⟨row, _, rfl⟩ := List.mem_map.mp isLocal
  obtain ⟨other, _, eq⟩ := List.mem_map.mp isRemote
  cases eq

theorem sorted_of_nodup {entries : List InCollectionPageEntry} (distinct : entries.Nodup) :
    (entries.insertionSort fun entry other => entry.place ≤ other.place).Pairwise
      fun entry other => entry.place < other.place := by
  have sorted := List.pairwise_insertionSort
    (fun entry other : InCollectionPageEntry => entry.place ≤ other.place) entries
  have nodup := (List.perm_insertionSort
    (fun entry other : InCollectionPageEntry => entry.place ≤ other.place) entries).nodup_iff.mpr
    distinct
  exact (sorted.and nodup).imp fun both => lt_of_le_of_ne both.1 (place_injective.ne both.2)

/-- The sort of the rows keeps local ones before remote ones. -/
theorem sortInCollectionPageEntries_eq (locals remotes : List ListedCollection) :
    sortInCollectionPageEntries (locals.map InCollectionPageEntry.local
        ++ remotes.map InCollectionPageEntry.remote)
      = (locals.map InCollectionPageEntry.local
        ++ remotes.map InCollectionPageEntry.remote).insertionSort
          fun entry other => entry.place ≤ other.place := by
  apply insertionSort_eq_of_ties
  · exact fun entry other less => Prod.Lex.toLex_le_toLex.mpr (.inl less)
  · have tie : ∀ entry other : InCollectionPageEntry, entry.isRemote ≤ other.isRemote →
        entry.sortKey = other.sortKey → entry.place ≤ other.place :=
      fun entry other le eq => Prod.Lex.toLex_le_toLex.mpr (.inr ⟨eq, le⟩)
    refine List.pairwise_append.mpr ⟨?_, ?_, ?_⟩
    · exact List.pairwise_map.mpr (List.pairwise_of_forall fun _ _ => tie _ _ le_rfl)
    · exact List.pairwise_map.mpr (List.pairwise_of_forall fun _ _ => tie _ _ le_rfl)
    · intro entry isLocal other _
      obtain ⟨row, _, rfl⟩ := List.mem_map.mp isLocal
      exact tie _ _ (Bool.false_le _)
  · intro entry other le
    rcases Prod.Lex.toLex_le_toLex.mp le with less | ⟨eq, -⟩
    · exact le_of_lt less
    · exact le_of_eq eq

theorem sorted_merged : site.merged.Pairwise fun entry other => entry.place < other.place :=
  sorted_of_nodup (nodup_entries (nodup_featuring _ _) (nodup_featuring _ _))

theorem countP_merged (holds : InCollectionPageEntry → Bool) : site.merged.countP holds
    = (site.local.featuring site.accountId).countP (fun row => holds (.local row))
      + (site.remote.featuring site.actorUri).countP (fun row => holds (.remote row)) := by
  rw [merged, (List.perm_insertionSort _ _).countP_eq, List.countP_append, List.countP_map,
    List.countP_map]
  rfl

theorem length_merged : site.merged.length = site.totalCount := by
  rw [merged, List.length_insertionSort, List.length_append, List.length_map, List.length_map]
  rfl

theorem mem_merged_local :
    .local row ∈ site.merged ↔ row ∈ site.local.featuring site.accountId := by
  simp [merged]

theorem mem_merged_remote :
    .remote row ∈ site.merged ↔ row ∈ site.remote.featuring site.actorUri := by
  simp [merged]

/-- Rows of one table are placed as in the merged list. -/
theorem place_lt_iff {row other : ListedCollection}
    {wrap : ListedCollection → InCollectionPageEntry} (wraps : wrap = .local ∨ wrap = .remote) :
    (wrap other).place < (wrap row).place ↔ other.place < row.place := by
  rcases wraps with rfl | rfl <;>
    exact Prod.Lex.toLex_lt_toLex.trans (or_iff_left fun both => lt_irrefl _ both.2)

/-- **A page is cut out of the merged list.** -/
theorem pageEntries_eq (limit offset : Nat) :
    site.pageEntries limit offset = (site.merged.drop offset).take limit := by
  have nodup : ∀ (tables : FeaturingTables) (target : String),
      (tables.newest target (min (offset + limit) 4294967295)).Nodup := by
    intro tables target
    rw [newest_eq]
    exact ((List.perm_insertionSort _ _).nodup_iff.mpr (nodup_featuring tables target)).sublist
      (List.take_sublist _ _)
  have within : ∀ (tables : FeaturingTables) (target : String) (row : ListedCollection),
      row ∈ tables.newest target (min (offset + limit) 4294967295) →
        row ∈ tables.featuring target :=
    fun tables target row mem => ((mem_newest_iff tables target).mp mem).1
  have starts := @take_eq_of_drawn _ _ _ _ _ place_injective _ site.merged (offset + limit)
    sorted_merged
    (sorted_of_nodup (nodup_entries (nodup site.local site.accountId)
      (nodup site.remote site.actorUri)))
    (by
      intro entry mem
      rw [List.mem_insertionSort, List.mem_append, List.mem_map, List.mem_map] at mem
      rcases mem with ⟨row, mem, rfl⟩ | ⟨row, mem, rfl⟩
      · exact mem_merged_local.mpr (within _ _ row mem)
      · exact mem_merged_remote.mpr (within _ _ row mem))
    (by
      intro entry mem pre
      rw [placeIn, countP_merged] at pre
      rw [List.mem_insertionSort, List.mem_append, List.mem_map, List.mem_map]
      cases entry with
      | «local» row =>
        simp only [place_lt_iff (.inl rfl)] at pre
        exact .inl ⟨row, (mem_newest_iff _ _).mpr
          ⟨mem_merged_local.mp mem, Nat.lt_of_le_of_lt (Nat.le_add_right ..) pre⟩, rfl⟩
      | remote row =>
        simp only [place_lt_iff (.inr rfl)] at pre
        exact .inr ⟨row, (mem_newest_iff _ _).mpr
          ⟨mem_merged_remote.mp mem, Nat.lt_of_le_of_lt (Nat.le_add_left ..) pre⟩, rfl⟩)
  have cut : ∀ entries : List InCollectionPageEntry,
      (entries.drop offset).take limit = (entries.take (offset + limit)).drop offset := by
    intro entries
    rw [List.drop_take, Nat.add_sub_cancel_left]
  rw [pageEntries, sortInCollectionPageEntries_eq, cut, starts, cut]

/-! ## Walks -/

variable {pairs : List (String × String)} {limit offset : Nat}

theorem response_link (pos : 0 < limit) (few : limit ≤ 80) (fits : offset ≤ 4294967295) :
    site.response (buildCollectionOffsetLink pairs limit offset)
      = site.page pairs limit offset := by
  rw [response, collectionsQuery_link pairs (by omega) fits, Option.getD_some, Option.getD_some,
    Nat.min_eq_left few, Nat.max_eq_right pos, page, page]
  simp only [link_link]

/-- What a walk has still to visit, and the links back. -/
theorem walk_from (pos : 0 < limit) (few : limit ≤ 80) {start : List (String × String)}
    {left : Nat} (reads : site.response start = site.page pairs limit offset)
    (enough : site.totalCount ≤ offset + left) :
    ∃ rounds later, site.walk rounds start = some (site.page pairs limit offset :: later)
      ∧ (site.page pairs limit offset :: later).flatMap InCollectionPage.entries
        = site.merged.drop offset
      ∧ (site.page pairs limit offset :: later).IsChain fun page next =>
        ∃ link, next.prev = some link ∧ site.response link = page := by
  induction left using Nat.strongRecOn generalizing offset start with
  | ind left ih =>
    have few_rows : site.totalCount ≤ 4294967294 :=
      Nat.add_le_add (length_featuring _ _) (length_featuring _ _)
    have entries : (site.page pairs limit offset).entries = (site.merged.drop offset).take limit :=
      pageEntries_eq limit offset
    have length : (site.pageEntries limit offset).length
        = min limit (site.totalCount - offset) := by
      rw [pageEntries_eq, List.length_take, List.length_drop, length_merged]
    by_cases last : offset + (site.pageEntries limit offset).length < site.totalCount
    · have full : limit < site.totalCount - offset := by
        rw [length] at last
        omega
      have next : (site.page pairs limit offset).next
          = some (buildCollectionOffsetLink pairs limit (offset + limit)) := by
        rw [page, if_pos last, Nat.min_eq_left (by omega)]
      obtain ⟨rounds, later, walked, visited, back⟩ :=
        ih (left - limit) (by omega)
          (@response_link site pairs limit (offset + limit) pos few (by omega)) (by omega)
      refine ⟨rounds + 1, _, ?_, ?_, List.isChain_cons_cons.mpr ⟨?_, back⟩⟩
      · rw [walk, reads, next, Option.elim_some, walked]
        rfl
      · rw [List.flatMap_cons, visited, entries, ← List.drop_drop, List.take_append_drop]
      · refine ⟨buildCollectionOffsetLink pairs limit offset, ?_, response_link pos few (by omega)⟩
        have later : 0 < offset + limit := by omega
        rw [page, Nat.add_sub_cancel]
        exact if_pos later
    · have next : (site.page pairs limit offset).next = none := by
        rw [page, if_neg last]
      refine ⟨1, [], ?_, ?_, List.IsChain.singleton _⟩
      · rw [walk, reads, next]
        rfl
      · rw [List.flatMap_singleton, entries, List.take_of_length_le]
        rw [List.length_drop, length_merged]
        omega

/-- **The walk along the next links from the offset 0 ends, its pages are the merged list of all
collections that feature the account, newest first and each once, and each page leads back to the
one before it.** -/
theorem in_collections_walk (site : InCollections) (pairs : List (String × String))
    (begins : (collectionsQuery pairs).2.getD 0 = 0) :
    (∃ rounds pages, site.walk rounds pairs = some pages
      ∧ pages.flatMap InCollectionPage.entries = site.merged
      ∧ pages.IsChain fun page next => ∃ link, next.prev = some link ∧ site.response link = page)
    ∧ site.merged.Nodup ∧ (site.merged.Pairwise fun entry other => entry.sortKey ≤ other.sortKey)
    ∧ (∀ row, .local row ∈ site.merged ↔ row ∈ site.local.featuring site.accountId)
    ∧ ∀ row, .remote row ∈ site.merged ↔ row ∈ site.remote.featuring site.actorUri := by
  have reads : site.response pairs
      = site.page pairs (max 1 (min ((collectionsQuery pairs).1.getD 40) 80)) 0 := by
    rw [response, begins]
  obtain ⟨rounds, later, walked, visited, back⟩ :=
    walk_from (by omega) (by omega) reads (Nat.le_add_left site.totalCount 0)
  refine ⟨⟨rounds, _, walked, visited, back⟩, sorted_merged.imp fun less => ?_,
    sorted_merged.imp fun less => ?_, fun _ => mem_merged_local, fun _ => mem_merged_remote⟩
  · rintro rfl
    exact lt_irrefl _ less
  · rcases Prod.Lex.toLex_lt_toLex.mp less with prior | ⟨eq, -⟩
    · exact le_of_lt prior
    · exact le_of_eq eq

/-- A local collection that features alice and two remote ones. -/
def aliceFeatured : InCollections where
  accountId := "alice"
  actorUri := "https://a.example/users/alice"
  «local» :=
    { collections := ⟨[⟨"1", "2026-01-02 00:00:00"⟩], List.nodup_singleton _⟩
      items := ⟨[⟨"1", "alice", .accepted⟩], List.nodup_singleton _⟩
      few := by decide }
  remote :=
    { collections := ⟨[⟨"r_1", "2026-01-01 00:00:00"⟩, ⟨"r_2", "2026-01-02 00:00:00"⟩], by decide⟩
      items := ⟨[⟨"r_1", "https://a.example/users/alice", .pending⟩,
        ⟨"r_2", "https://a.example/users/alice", .accepted⟩], by decide⟩
      few := by decide }

theorem in_collections_walk_alice : ∃ rounds pages,
    aliceFeatured.walk rounds [("limit", "1")] = some pages
      ∧ pages.flatMap InCollectionPage.entries = aliceFeatured.merged := by
  obtain ⟨⟨rounds, pages, walked, visited, _⟩, _⟩ :=
    in_collections_walk aliceFeatured [("limit", "1")] (by decide)
  exact ⟨rounds, pages, walked, visited⟩

end InCollections

end Cfwdon.Collections
