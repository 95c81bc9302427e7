import Cfwdon.Library.Counters
import Cfwdon.Library.Run
import Cfwdon.Media.Attachments

/-!
# The media of a status stay

A media row is to be deleted, with its object, only while no status refers to it, and no
request is to take a row from the status that it is attached to.  The statements that
attach rows see to their part by themselves: they look at the rows again in the same
`UPDATE`.  A deletion looks at its row once, and deletes by id and by key afterwards.

The invariant says of each running request that the rows it is going to delete are loose,
and of the keys that are left to delete that no row has them.
-/

namespace Cfwdon.Media

open Library

/-- A step keeps what is attached: the row of an attached media and its object are there
afterwards, and the row is not attached to another status. -/
def KeepsAttached (before after : MediaState) : Prop :=
  ∀ row ∈ before.store.media.rows, ∀ statusId, row.statusId = some statusId →
    row.objectKey ∈ after.store.objects
      ∧ ∃ row' ∈ after.store.media.rows, row'.id = row.id ∧ row'.objectKey = row.objectKey
        ∧ (row'.statusId = none ∨ row'.statusId = some statusId)

/-- Each attached row has its object. -/
def AttachedStored (s : MediaState) : Prop :=
  ∀ row ∈ s.store.media.rows, row.statusId.isSome → row.objectKey ∈ s.store.objects

/-- A running request is going to delete the row of this id. -/
def MediaState.Held (s : MediaState) (mediaId : String) : Prop :=
  ∃ task ∈ s.tasks, ∃ orphan ∈ task.held, orphan.id = mediaId

def MediaState.AttachesNoneHeld (s : MediaState) (after : MediaTable) : Prop :=
  ∀ row ∈ s.store.media.rows, row.statusId = none → s.Held row.id →
    ∀ row' ∈ after.rows, row'.id = row.id → row'.statusId = none

/-- **No step falls between a read and its deletion.**  A statement attaches no row that a
running deletion or prune is going to delete; and a deletion through the API does not break
off once its object is deleted, unless the row is gone. -/
def Undisturbed (s : MediaState) : MediaEvent → Prop
  | .acts (.attaches statusId media) .proceeds =>
    s.AttachesNoneHeld (rowsAfter s.store.media (attachMedia statusId media s.store.media))
  | .acts (.replaces statusId media) .proceeds =>
    s.AttachesNoneHeld (rowsAfter s.store.media (replaceStatusMedia statusId media s.store.media))
  | .acts (.deletesObject media) (.bucketFails gone) =>
    gone = true → ∀ row ∈ s.store.media.rows, row.id ≠ media.id
  | .acts (.deletesRow media) .fails => ∀ row ∈ s.store.media.rows, row.id ≠ media.id
  | _ => True

/-! ## The guarded statements -/

variable {table : MediaTable}

theorem isFree_of_freeCount {edited : Option String} {media : List MediaAttachmentRow}
    (all : freeCount edited (requestedMedia media) table = media.length)
    {row : MediaAttachmentRow} (held : row ∈ table.rows)
    (requested : row.id ∈ requestedMedia media) : isFree edited row = true := by
  have enough : (requestedMedia media).length
      ≤ (table.rows.filter fun row =>
          decide (row.id ∈ requestedMedia media) && isFree edited row).length := by
    rw [requestedMedia, List.length_map, ← all]
    exact Nat.le_refl _
  exact holds_of_length_filter table.keysDistinct enough held requested

/-- What an attaching statement may make of a row: it stays, with its key, and leaves or
keeps its status if it has one. -/
structure Reattached (row row' : MediaAttachmentRow) : Prop where
  id : row'.id = row.id
  objectKey : row'.objectKey = row.objectKey
  statusId : ∀ statusId, row.statusId = some statusId →
    row'.statusId = none ∨ row'.statusId = some statusId

theorem Reattached.refl (row : MediaAttachmentRow) : Reattached row row :=
  ⟨rfl, rfl, fun _ attached => Or.inr attached⟩

/-- The statements that attach rows act row by row. -/
def ReattachesRows (table after : MediaTable) : Prop :=
  ∃ change : MediaAttachmentRow → MediaAttachmentRow,
    after.rows = table.rows.map change ∧ ∀ row ∈ table.rows, Reattached row (change row)

theorem ReattachesRows.refl (table : MediaTable) : ReattachesRows table table :=
  ⟨id, (List.map_id _).symm, fun row _ => Reattached.refl row⟩

theorem ReattachesRows.of_update {update : Update MediaAttachmentRow MediaAttachmentRow.id}
    (sets : ∀ row ∈ table.rows, update.guard row = true → Reattached row (update.set row)) :
    ReattachesRows table (update.run table) := by
  refine ⟨update.onRow, rfl, fun row held => ?_⟩
  rcases update.onRow_cases row with ⟨met, changed⟩ | eq
  · rw [changed]
    exact sets row held met
  · rw [eq]
    exact Reattached.refl row

/-- **A new status takes loose rows only.** -/
theorem attachMedia_reattaches (statusId : String) (media : List MediaAttachmentRow)
    (table : MediaTable) :
    ReattachesRows table (rowsAfter table (attachMedia statusId media table)) := by
  unfold attachMedia
  split_ifs
  · exact ReattachesRows.refl table
  · refine ReattachesRows.of_update fun row held met => ⟨rfl, rfl, fun former attached => ?_⟩
    simp [attachStatement, attached] at met
  · exact ReattachesRows.refl table

/-- **An edit takes loose rows and lets its own go.** -/
theorem replaceMedia_reattaches (statusId : String) (media : List MediaAttachmentRow)
    (table : MediaTable) :
    ReattachesRows table (rowsAfter table (replaceStatusMedia statusId media table)) := by
  unfold replaceStatusMedia
  split_ifs
  · exact ReattachesRows.of_update fun row held met => ⟨rfl, rfl, fun _ _ => Or.inl rfl⟩
  · refine ReattachesRows.of_update fun row held met => ⟨rfl, rfl, fun former attached => ?_⟩
    simp only [replaceStatement, Bool.and_eq_true, Bool.or_eq_true, decide_eq_true_eq] at met ⊢
    obtain ⟨_, all⟩ := met
    by_cases requested : row.id ∈ requestedMedia media
    · have free := isFree_of_freeCount all held requested
      rw [isFree, attached, Option.isNone_some, Bool.false_or, decide_eq_true_eq] at free
      rw [if_pos requested, free]
      exact Or.inr rfl
    · rw [if_neg requested]
      exact Or.inl rfl
  · exact ReattachesRows.refl table

/-! ## The invariant -/

/-- The row that is going to be deleted is loose, if it is there, and no other row has its
key. -/
def HeldLoose (table : MediaTable) (orphan : OrphanMediaRow) : Prop :=
  ∀ row ∈ table.rows, row.id = orphan.id ∨ row.objectKey = orphan.objectKey →
    row.toOrphan = orphan ∧ row.statusId = none

def NoRow (table : MediaTable) (objectKey : String) : Prop :=
  ∀ row ∈ table.rows, row.objectKey ≠ objectKey

/-- What a running request relies on. -/
structure TaskSound (table : MediaTable) (task : MediaTask) : Prop where
  held : ∀ orphan ∈ task.held, HeldLoose table orphan
  left : ∀ objectKey ∈ task.left, NoRow table objectKey

/-- **The invariant.**  Keys are unique; no row has a queued key; the requests hold loose
rows; and each row has its object, but for one that is about to be deleted. -/
structure Sound (s : MediaState) : Prop where
  keys : ∀ row ∈ s.store.media.rows, ∀ other ∈ s.store.media.rows,
    row.objectKey = other.objectKey → row.id = other.id
  queued : ∀ row ∈ s.store.queue.rows, NoRow s.store.media row.objectKey
  tasks : ∀ task ∈ s.tasks, TaskSound s.store.media task
  stored : ∀ row ∈ s.store.media.rows, row.objectKey ∈ s.store.objects
    ∨ ∃ media, .deletesRow media ∈ s.tasks ∧ media.id = row.id

theorem TaskSound.idle {task : MediaTask} (holds : task.held = [])
    (leaves : task.left = []) : TaskSound table task where
  held orphan member := by
    rw [holds] at member
    cases member
  left objectKey member := by
    rw [leaves] at member
    cases member

theorem Sound.heldLoose {s : MediaState} (sound : Sound s) {row : MediaAttachmentRow}
    (held : row ∈ s.store.media.rows) (loose : row.statusId = none) :
    HeldLoose s.store.media row.toOrphan := by
  intro other mem eq
  have sameId : other.id = row.id := eq.elim id fun key => sound.keys other mem row held key
  obtain rfl := Table.eq_of_key_eq mem held sameId
  exact ⟨rfl, loose⟩

theorem Sound.loose_of_held {s : MediaState} (sound : Sound s) {row : MediaAttachmentRow}
    (stored : row ∈ s.store.media.rows) (held : s.Held row.id) : row.statusId = none := by
  obtain ⟨task, runs, orphan, mem, eq⟩ := held
  exact ((sound.tasks task runs).held orphan mem row stored (Or.inl eq.symm)).2

/-- **Attached rows have their objects.** -/
theorem Sound.attachedStored {s : MediaState} (sound : Sound s) : AttachedStored s := by
  intro row held attached
  rcases sound.stored row held with there | ⟨media, runs, eq⟩
  · exact there
  · have loose := sound.loose_of_held held ⟨_, runs, media.toOrphan, List.mem_singleton_self _, eq⟩
    rw [loose] at attached
    cases attached

theorem Sound.start : Sound .start where
  keys row member := by cases member
  queued row member := by cases member
  tasks task member := by cases member
  stored row member := by cases member

/-! ## What a step of the rows keeps -/

/-- Where the rows after a step come from: from rows of their ids and keys, and a row that
was loose and held is loose. -/
def ComesFrom (s : MediaState) (after : MediaTable) : Prop :=
  ∀ row' ∈ after.rows, ∃ row ∈ s.store.media.rows, row'.id = row.id
    ∧ row'.objectKey = row.objectKey
    ∧ (row.statusId = none → s.Held row.id → row'.statusId = none)

theorem ComesFrom.refl (s : MediaState) : ComesFrom s s.store.media :=
  fun row held => ⟨row, held, rfl, rfl, fun loose _ => loose⟩

theorem ComesFrom.deleteWhere (s : MediaState) (guard : MediaAttachmentRow → Bool) :
    ComesFrom s (s.store.media.deleteWhere guard) :=
  fun row kept => ⟨row, List.mem_of_mem_filter kept, rfl, rfl, fun loose _ => loose⟩

theorem ComesFrom.of_reattaches {s : MediaState} {after : MediaTable}
    (reattaches : ReattachesRows s.store.media after) (spares : s.AttachesNoneHeld after) :
    ComesFrom s after := by
  obtain ⟨change, rows, changes⟩ := reattaches
  intro row' mem
  have mapped := mem
  rw [rows] at mapped
  obtain ⟨row, stored, rfl⟩ := List.mem_map.mp mapped
  have changed := changes row stored
  exact ⟨row, stored, changed.id, changed.objectKey, fun loose held =>
    spares row stored loose held _ mem changed.id⟩

section Moves

variable {s : MediaState} {moved : MediaTable}

theorem NoRow.after {objectKey : String} (none : NoRow s.store.media objectKey)
    (comes : ComesFrom s moved) : NoRow moved objectKey := by
  intro row' mem
  obtain ⟨row, held, _, key, _⟩ := comes row' mem
  rw [key]
  exact none row held

theorem HeldLoose.after {orphan : OrphanMediaRow} (loose : HeldLoose s.store.media orphan)
    (held : s.Held orphan.id) (comes : ComesFrom s moved) : HeldLoose moved orphan := by
  intro row' mem eq
  obtain ⟨row, stored, id, key, keepsLoose⟩ := comes row' mem
  rw [id, key] at eq
  obtain ⟨isOrphan, isLoose⟩ := loose row stored eq
  constructor
  · rw [← isOrphan, MediaAttachmentRow.toOrphan, MediaAttachmentRow.toOrphan, id, key]
  · refine keepsLoose isLoose ?_
    have sameId : row.id = orphan.id := congrArg OrphanMediaRow.id isOrphan
    rw [sameId]
    exact held

theorem TaskSound.after {task : MediaTask} (sound : TaskSound s.store.media task)
    (runs : task ∈ s.tasks) (comes : ComesFrom s moved) : TaskSound moved task where
  held orphan member :=
    (sound.held orphan member).after ⟨task, runs, orphan, member, rfl⟩ comes
  left objectKey member := (sound.left objectKey member).after comes

variable {earlier later : List MediaTask} {task : MediaTask} {next : Option MediaTask}
  {store : MediaStore}

/-- **One request goes on**: the rows come from the rows before, what is queued has no row,
the request goes on soundly, and the objects of the rows stay, but for a row that it deletes
next. -/
theorem Sound.acts (sound : Sound s) (runs : s.tasks = earlier ++ task :: later)
    (comes : ComesFrom s store.media)
    (queued : ∀ row ∈ store.queue.rows, row ∈ s.store.queue.rows
      ∨ NoRow s.store.media row.objectKey)
    (goesOn : ∀ nextTask ∈ next, TaskSound store.media nextTask)
    (objects : ∀ row ∈ store.media.rows, row.objectKey ∈ s.store.objects →
      row.objectKey ∈ store.objects ∨ ∃ media, next = some (.deletesRow media) ∧ media.id = row.id)
    (done : ∀ media, task = .deletesRow media → ∀ row ∈ store.media.rows, row.id ≠ media.id) :
    Sound ⟨store, earlier ++ next.toList ++ later⟩ where
  keys := by
    intro row' mem other' otherMem eq
    obtain ⟨row, stored, id, key, _⟩ := comes row' mem
    obtain ⟨other, otherHeld, otherId, otherKey, _⟩ := comes other' otherMem
    rw [key, otherKey] at eq
    rw [id, otherId]
    exact sound.keys row stored other otherHeld eq
  queued := by
    intro row mem
    rcases queued row mem with former | noRow
    · exact (sound.queued row former).after comes
    · exact noRow.after comes
  tasks := by
    intro other mem
    have among : other ∈ next.toList ∨ other ∈ s.tasks := by
      rw [runs]
      rcases List.mem_append.mp mem with front | post
      · rcases List.mem_append.mp front with pre | new
        · exact Or.inr (List.mem_append_left _ pre)
        · exact Or.inl new
      · exact Or.inr (List.mem_append_right _ (List.mem_cons_of_mem _ post))
    rcases among with new | former
    · exact goesOn other (Option.mem_toList.mp new)
    · exact (sound.tasks other former).after former comes
  stored := by
    intro row' mem
    obtain ⟨row, stored, id, key, _⟩ := comes row' mem
    rcases sound.stored row stored with there | ⟨media, deleting, eq⟩
    · rw [← key] at there
      refine (objects row' mem there).imp_right ?_
      rintro ⟨media, rfl, eq⟩
      exact ⟨media, by simp, eq⟩
    · rw [← id] at eq
      rw [runs] at deleting
      right
      refine ⟨media, ?_, eq⟩
      rcases List.mem_append.mp deleting with pre | here
      · exact List.mem_append_left _ (List.mem_append_left _ pre)
      · rcases List.mem_cons.mp here with isTask | post
        · exact absurd eq.symm (done media isTask.symm row' mem)
        · exact List.mem_append_right _ post

theorem Sound.reads (sound : Sound s) (runs : s.tasks = earlier ++ task :: later)
    (goesOn : ∀ nextTask ∈ next, TaskSound s.store.media nextTask)
    (done : ∀ media, task = .deletesRow media → ∀ row ∈ s.store.media.rows, row.id ≠ media.id) :
    Sound ⟨s.store, earlier ++ next.toList ++ later⟩ :=
  sound.acts runs (ComesFrom.refl s) (fun _ mem => Or.inl mem) goesOn
    (fun _ _ there => Or.inl there) done

theorem Sound.deletesObject (sound : Sound s) (runs : s.tasks = earlier ++ task :: later)
    {objectKey : String} {gone : Bool}
    (goesOn : ∀ nextTask ∈ next, TaskSound s.store.media nextTask)
    (spares : gone = true → ∀ row ∈ s.store.media.rows, row.objectKey = objectKey →
      ∃ media, next = some (.deletesRow media) ∧ media.id = row.id)
    (done : ∀ media, task ≠ .deletesRow media) :
    Sound ⟨s.store.deleteR2ObjectFailing objectKey gone, earlier ++ next.toList ++ later⟩ := by
  have rows : (s.store.deleteR2ObjectFailing objectKey gone).media = s.store.media := by
    cases gone <;> rfl
  have queue : (s.store.deleteR2ObjectFailing objectKey gone).queue = s.store.queue := by
    cases gone <;> rfl
  refine sound.acts runs ?_ ?_ ?_ ?_ ?_
  · rw [rows]
    exact ComesFrom.refl s
  · rw [queue]
    exact fun _ mem => Or.inl mem
  · rw [rows]
    exact goesOn
  · rw [rows]
    intro row mem there
    cases gone with
    | false => exact Or.inl there
    | true =>
      by_cases eq : row.objectKey = objectKey
      · exact Or.inr (spares rfl row mem eq)
      · exact Or.inl (List.mem_filter.mpr ⟨there, by simpa using eq⟩)
  · intro media eq
    exact absurd eq (done media)

theorem Sound.deletesRow (sound : Sound s) (runs : s.tasks = earlier ++ task :: later)
    {mediaId : String}
    (goesOn : ∀ nextTask ∈ next,
      TaskSound (s.store.deleteMediaAttachmentRow mediaId).media nextTask)
    (done : ∀ media, task = .deletesRow media → media.id = mediaId) :
    Sound ⟨s.store.deleteMediaAttachmentRow mediaId, earlier ++ next.toList ++ later⟩ := by
  refine sound.acts runs (ComesFrom.deleteWhere s _) (fun _ mem => Or.inl mem) goesOn
    (fun _ _ there => Or.inl there) ?_
  intro media eq row kept
  rw [done media eq]
  simpa using List.of_mem_filter kept

end Moves

theorem queued_of_mem_queueMediaDeletion {store : MediaStore} {objectKey : String}
    {row : QueuedMediaDeletionRow}
    (mem : row ∈ (store.queueMediaDeletion objectKey).queue.rows) :
    row.objectKey = objectKey ∨ ∃ former ∈ store.queue.rows, former.objectKey = row.objectKey := by
  unfold MediaStore.queueMediaDeletion Table.upsert at mem
  split_ifs at mem with here
  · obtain ⟨former, held, rfl⟩ := List.mem_map.mp mem
    exact Or.inr ⟨former, held, (Update.key_onRow _ former).symm⟩
  · have got := Table.find_of_mem mem
    rcases Table.find_orIgnore _ _ got with held | ⟨_, isNew⟩
    · exact Or.inr ⟨row, Table.mem_of_find held, rfl⟩
    · exact Or.inl (congrArg QueuedMediaDeletionRow.objectKey isNew)

section Steps

variable {s : MediaState} {earlier later : List MediaTask} {task : MediaTask}
  {next : Option MediaTask} {store : MediaStore} {act : MediaAct}

theorem Sound.queues (sound : Sound s) (runs : s.tasks = earlier ++ task :: later)
    {objectKey : String} (noRow : NoRow s.store.media objectKey)
    (goesOn : ∀ nextTask ∈ next, TaskSound s.store.media nextTask)
    (done : ∀ media, task ≠ .deletesRow media) :
    Sound ⟨s.store.queueMediaDeletion objectKey, earlier ++ next.toList ++ later⟩ := by
  refine sound.acts runs (ComesFrom.refl s) ?_ goesOn (fun _ _ there => Or.inl there)
    fun media eq => absurd eq (done media)
  intro row mem
  right
  rcases queued_of_mem_queueMediaDeletion mem with eq | ⟨former, queued, eq⟩
  · rw [eq]
    exact noRow
  · rw [← eq]
    exact sound.queued former queued

theorem of_checkDeletion {accountId mediaId : String} {media : MediaAttachmentRow}
    (may : store.checkDeletion accountId mediaId = .ok media) :
    media ∈ store.media.rows ∧ media.statusId = none := by
  unfold MediaStore.checkDeletion at may
  cases got : store.media.find mediaId with
  | none => simp [got] at may
  | some row =>
    simp only [got] at may
    split_ifs at may with own attached
    obtain rfl := Except.ok.inj may
    exact ⟨Table.mem_of_find got, by simpa using attached⟩

theorem TaskSound.leaves (holds : task.held = [])
    (left : ∀ objectKey ∈ task.left, NoRow table objectKey) : TaskSound table task where
  held orphan member := by
    rw [holds] at member
    cases member
  left := left

theorem TaskSound.holds (leaves : task.left = [])
    (held : ∀ orphan ∈ task.held, HeldLoose table orphan) : TaskSound table task where
  held := held
  left objectKey member := by
    rw [leaves] at member
    cases member

theorem Sound.works (sound : Sound s) (runs : s.tasks = earlier ++ task :: later)
    (calm : Undisturbed s (.acts task act)) (works : Works s.store task act store next) :
    Sound ⟨store, earlier ++ next.toList ++ later⟩ := by
  have relies : TaskSound s.store.media task :=
    sound.tasks task (runs ▸ List.mem_append_right _ List.mem_cons_self)
  have ends {table : MediaTable} :
      ∀ nextTask ∈ (none : Option MediaTask), TaskSound table nextTask := by
    intro nextTask mem
    cases mem
  have idles {nextTask : MediaTask} (holds : nextTask.held = []) (leaves : nextTask.left = []) :
      ∀ other ∈ some nextTask, TaskSound s.store.media other := by
    rintro other ⟨⟩
    exact TaskSound.idle holds leaves
  cases works with
  | skips again | updatesStatus isEdit | queueDone =>
    exact sound.reads runs (idles rfl rfl) fun _ eq => by cases eq
  | resolves unseen got | insertsStatus statusId isNew =>
    exact sound.reads runs (idles rfl rfl) fun _ eq => by cases eq
  | refuses unseen refused | dismisses refused | orphansDone =>
    exact sound.reads runs ends fun _ eq => by cases eq
  | attaches =>
    exact sound.acts runs (ComesFrom.of_reattaches (attachMedia_reattaches ..) calm)
      (fun _ mem => Or.inl mem) ends (fun _ _ there => Or.inl there)
      fun _ eq => by cases eq
  | replaces =>
    exact sound.acts runs
      (ComesFrom.of_reattaches (replaceMedia_reattaches ..) calm)
      (fun _ mem => Or.inl mem) ends (fun _ _ there => Or.inl there)
      fun _ eq => by cases eq
  | checks may =>
    obtain ⟨stored, loose⟩ := of_checkDeletion may
    refine sound.reads runs ?_ fun _ eq => by cases eq
    rintro other ⟨⟩
    refine TaskSound.holds rfl fun orphan mem => ?_
    rw [List.mem_singleton.mp mem]
    exact sound.heldLoose stored loose
  | @deletesObject media =>
    have loose := relies.held media.toOrphan (List.mem_singleton_self _)
    refine @Sound.deletesObject _ _ _ _ _ sound runs media.objectKey true ?_ ?_ (by simp)
    · rintro other ⟨⟩
      exact TaskSound.holds rfl relies.held
    · intro _ row stored eq
      have isMedia := (loose row stored (Or.inr eq)).1
      exact ⟨media, rfl, (congrArg OrphanMediaRow.id isMedia).symm⟩
  | @keepsObject media gone =>
    have loose := relies.held media.toOrphan (List.mem_singleton_self _)
    refine sound.deletesObject runs ends ?_ (by simp)
    intro isGone row stored eq
    have isMedia := (loose row stored (Or.inr eq)).1
    exact absurd (congrArg OrphanMediaRow.id isMedia) (calm isGone row stored)
  | deletesRow =>
    refine sound.deletesRow runs ends ?_
    rintro media ⟨⟩
    rfl
  | listsQueue sel =>
    refine sound.reads runs ?_ fun _ eq => by cases eq
    rintro other ⟨⟩
    refine TaskSound.leaves rfl fun objectKey mem => ?_
    obtain ⟨row, chosen, rfl⟩ := List.mem_map.mp mem
    exact sound.queued row (sel.subset row chosen)
  | @deletesQueued row queued =>
    have noRow := relies.left row.objectKey List.mem_cons_self
    refine @Sound.deletesObject _ _ _ _ _ sound runs row.objectKey true ?_ ?_ (by simp)
    · rintro other ⟨⟩
      exact TaskSound.leaves rfl fun objectKey mem =>
        relies.left objectKey (List.mem_cons_of_mem _ mem)
    · intro _ other stored eq
      exact absurd eq (noRow other stored)
  | @keepsQueued row queued gone =>
    have noRow := relies.left row.objectKey List.mem_cons_self
    refine sound.deletesObject runs ?_ ?_ (by simp)
    · rintro other ⟨⟩
      exact TaskSound.leaves rfl relies.left
    · intro _ other stored eq
      exact absurd eq (noRow other stored)
  | dequeues =>
    refine sound.acts runs (ComesFrom.refl s)
      (fun _ mem => Or.inl (List.mem_of_mem_filter mem)) ?_
      (fun _ _ there => Or.inl there) fun _ eq => by cases eq
    rintro other ⟨⟩
    exact TaskSound.leaves rfl relies.left
  | @requeues objectKey queued =>
    refine sound.queues runs (relies.left objectKey List.mem_cons_self) ?_ (by simp)
    rintro other ⟨⟩
    exact TaskSound.leaves rfl fun key mem => relies.left key (List.mem_cons_of_mem _ mem)
  | listsOrphans sel =>
    refine sound.reads runs ?_ fun _ eq => by cases eq
    rintro other ⟨⟩
    refine TaskSound.holds rfl fun orphan mem => ?_
    obtain ⟨row, chosen, rfl⟩ := List.mem_map.mp mem
    have selected := List.mem_filter.mp (sel.subset row chosen)
    simp only [MediaStore.isOrphan, Bool.and_eq_true, Option.isNone_iff_eq_none] at selected
    exact sound.heldLoose selected.1 selected.2.1
  | @deletesOrphan orphan orphans =>
    refine sound.deletesRow runs ?_ fun _ eq => by cases eq
    rintro other ⟨⟩
    refine ⟨fun held mem row kept => ?_, fun objectKey mem row kept => ?_⟩
    · exact relies.held held (List.mem_cons_of_mem _ mem) row (List.mem_of_mem_filter kept)
    · rw [List.mem_singleton.mp mem]
      intro eq
      have isOrphan := (relies.held orphan List.mem_cons_self row
        (List.mem_of_mem_filter kept) (Or.inr eq)).1
      have others := List.of_mem_filter kept
      simp [← isOrphan, MediaAttachmentRow.toOrphan] at others
  | @deletesOrphanObject orphan orphans =>
    have noRow := relies.left orphan.objectKey (List.mem_singleton_self _)
    refine @Sound.deletesObject _ _ _ _ _ sound runs orphan.objectKey true ?_ ?_ (by simp)
    · rintro other ⟨⟩
      exact TaskSound.holds rfl relies.held
    · intro _ other stored eq
      exact absurd eq (noRow other stored)
  | @keepsOrphanObject orphan orphans gone =>
    have noRow := relies.left orphan.objectKey (List.mem_singleton_self _)
    refine sound.deletesObject runs ?_ ?_ (by simp)
    · rintro other ⟨⟩
      exact ⟨relies.held, relies.left⟩
    · intro _ other stored eq
      exact absurd eq (noRow other stored)
  | @queuesOrphan orphan orphans =>
    refine sound.queues runs (relies.left orphan.objectKey (List.mem_singleton_self _)) ?_
      (by simp)
    rintro other ⟨⟩
    exact TaskSound.holds rfl relies.held
  | fails =>
    refine sound.reads runs ends ?_
    rintro media rfl
    exact calm

theorem Works.rows (works : Works s.store task act store next) :
    ReattachesRows s.store.media store.media
      ∨ ∃ orphan ∈ task.held,
          store.media = s.store.media.deleteWhere fun row => decide (row.id = orphan.id) := by
  have keeps {objectKey : String} {gone : Bool} :
      ReattachesRows s.store.media (s.store.deleteR2ObjectFailing objectKey gone).media := by
    cases gone <;> exact ReattachesRows.refl _
  cases works with
  | attaches => exact Or.inl (attachMedia_reattaches ..)
  | replaces => exact Or.inl (replaceMedia_reattaches ..)
  | @deletesRow media => exact Or.inr ⟨media.toOrphan, List.mem_singleton_self _, rfl⟩
  | @deletesOrphan orphan orphans => exact Or.inr ⟨orphan, List.mem_cons_self, rfl⟩
  | keepsObject gone | keepsQueued gone | keepsOrphanObject gone => exact Or.inl keeps
  | _ => exact Or.inl (ReattachesRows.refl _)

theorem Works.objects (works : Works s.store task act store next) {objectKey : String}
    (there : objectKey ∈ s.store.objects) :
    objectKey ∈ store.objects ∨ (∃ orphan ∈ task.held, orphan.objectKey = objectKey)
      ∨ objectKey ∈ task.left := by
  have deletes {deleted : String} : objectKey ∈ (s.store.deleteR2Object deleted).objects
      ∨ deleted = objectKey := by
    by_cases eq : objectKey = deleted
    · exact Or.inr eq.symm
    · exact Or.inl (List.mem_filter.mpr ⟨there, by simpa using eq⟩)
  have deletesFailing {deleted : String} {gone : Bool} :
      objectKey ∈ (s.store.deleteR2ObjectFailing deleted gone).objects ∨ deleted = objectKey := by
    cases gone with
    | false => exact Or.inl there
    | true => exact deletes
  cases works with
  | @deletesObject media =>
    exact deletes.imp_right fun eq => Or.inl ⟨_, List.mem_singleton_self _, eq⟩
  | @keepsObject media gone =>
    exact deletesFailing.imp_right fun eq => Or.inl ⟨_, List.mem_singleton_self _, eq⟩
  | @deletesQueued row queued =>
    exact deletes.imp_right fun eq => Or.inr (List.mem_cons.mpr (Or.inl eq.symm))
  | @keepsQueued row queued gone =>
    exact deletesFailing.imp_right fun eq => Or.inr (List.mem_cons.mpr (Or.inl eq.symm))
  | @deletesOrphanObject orphan orphans =>
    exact deletes.imp_right fun eq => Or.inr (List.mem_singleton.mpr eq.symm)
  | @keepsOrphanObject orphan orphans gone =>
    exact deletesFailing.imp_right fun eq => Or.inr (List.mem_singleton.mpr eq.symm)
  | _ => exact Or.inl there

/-- **Every step of a request keeps what is attached**: what it deletes is of loose rows. -/
theorem Sound.keepsAttached (sound : Sound s) (runs : s.tasks = earlier ++ task :: later)
    (works : Works s.store task act store next) (tasks : List MediaTask) :
    KeepsAttached s ⟨store, tasks⟩ := by
  have relies : TaskSound s.store.media task :=
    sound.tasks task (runs ▸ List.mem_append_right _ List.mem_cons_self)
  intro row held statusId attached
  have notHeld : ∀ orphan ∈ task.held,
      ¬(row.id = orphan.id ∨ row.objectKey = orphan.objectKey) := by
    intro orphan mem eq
    have loose := (relies.held orphan mem row held eq).2
    rw [attached] at loose
    cases loose
  constructor
  · have there := sound.attachedStored row held (by rw [attached]; rfl)
    rcases works.objects there with kept | ⟨orphan, mem, eq⟩ | left
    · exact kept
    · exact absurd (Or.inr eq.symm) (notHeld orphan mem)
    · exact absurd rfl (relies.left _ left row held)
  · rcases works.rows with ⟨change, rows, changes⟩ | ⟨orphan, mem, rows⟩
    · have changed := changes row held
      refine ⟨change row, ?_, changed.id, changed.objectKey, changed.statusId _ attached⟩
      rw [rows]
      exact List.mem_map_of_mem held
    · refine ⟨row, ?_, rfl, rfl, Or.inr attached⟩
      rw [rows]
      have other : row.id ≠ orphan.id := fun eq => notHeld orphan mem (Or.inl eq)
      exact List.mem_filter.mpr ⟨held, by simpa using other⟩

end Steps

/-! ## Runs -/

variable {s s' : MediaState} {ev : MediaEvent}

/-- A step that leaves the rows and only adds objects keeps what is attached. -/
theorem Sound.keepsAttached_of_subset (sound : Sound s)
    (rows : s.store.media.rows ⊆ s'.store.media.rows)
    (objects : s.store.objects ⊆ s'.store.objects) : KeepsAttached s s' := by
  intro row held statusId attached
  have there := sound.attachedStored row held (by rw [attached]; rfl)
  exact ⟨objects there, row, rows held, rfl, rfl, Or.inr attached⟩

theorem rows_uploads {s : MediaState} {row : MediaAttachmentRow} (fresh : s.Fresh row) :
    (s.store.media.insert row).rows = s.store.media.rows ++ [row] := by
  refine Change.rows_insert (Table.find_eq_none.mpr fun other mem => ?_)
  exact (fresh.stored other mem).1

theorem Sound.uploads {s : MediaState} (sound : Sound s) {row : MediaAttachmentRow}
    (fresh : s.Fresh row) :
    Sound { s with
      store := { s.store with
        media := s.store.media.insert row, objects := s.store.objects ++ [row.objectKey] } } := by
  have rows := rows_uploads fresh
  have cases' {other : MediaAttachmentRow} (mem : other ∈ (s.store.media.insert row).rows) :
      other ∈ s.store.media.rows ∨ other = row := by
    rw [rows] at mem
    exact (List.mem_append.mp mem).imp_right List.mem_singleton.mp
  have noRow {objectKey : String} (former : NoRow s.store.media objectKey)
      (other : row.objectKey ≠ objectKey) : NoRow (s.store.media.insert row) objectKey := by
    intro held mem
    rcases cases' mem with pre | rfl
    · exact former held pre
    · exact other
  constructor
  · intro one oneMember other otherMem eq
    rcases cases' oneMember with oneBefore | rfl <;> rcases cases' otherMem with pre | rfl
    · exact sound.keys one oneBefore other pre eq
    · exact absurd eq (fresh.stored one oneBefore).2
    · exact absurd eq.symm (fresh.stored other pre).2
    · rfl
  · intro queued mem
    exact noRow (sound.queued queued mem) (fresh.queued queued mem).symm
  · intro task runs
    have relies := sound.tasks task runs
    refine ⟨fun orphan mem other held eq => ?_, fun objectKey mem => ?_⟩
    · rcases cases' held with pre | rfl
      · exact relies.held orphan mem other pre eq
      · obtain ⟨otherId, otherKey⟩ := fresh.held task runs orphan mem
        exact eq.elim (fun isId => absurd isId.symm otherId) fun isKey =>
          absurd isKey.symm otherKey
    · refine noRow (relies.left objectKey mem) ?_
      rintro rfl
      exact fresh.left task runs mem
  · intro other mem
    rcases cases' mem with pre | rfl
    · exact (sound.stored other pre).imp_left (List.mem_append_left _)
    · exact Or.inl (List.mem_append_right _ (List.mem_singleton_self _))

theorem Sound.starts {s : MediaState} (sound : Sound s) {task : MediaTask}
    (first : task.Starts) : Sound { s with tasks := s.tasks ++ [task] } where
  keys := sound.keys
  queued := sound.queued
  tasks := by
    intro other mem
    rcases List.mem_append.mp mem with former | new
    · exact sound.tasks other former
    · rw [List.mem_singleton.mp new]
      cases first <;> exact TaskSound.idle rfl rfl
  stored := by
    intro row mem
    refine (sound.stored row mem).imp_right ?_
    rintro ⟨media, deleting, eq⟩
    exact ⟨media, List.mem_append_left _ deleting, eq⟩

/-- **The invariant is kept** by every undisturbed step. -/
theorem Sound.after (sound : Sound s)
    (calm : Undisturbed s ev) (taken : MediaStep s ev s') : Sound s' := by
  cases taken with
  | uploads fresh loose => exact sound.uploads fresh
  | passes => exact ⟨sound.keys, sound.queued, sound.tasks, sound.stored⟩
  | starts first => exact sound.starts first
  | acts runs works => exact sound.works runs calm works

theorem Sound.keeps (sound : Sound s) (taken : MediaStep s ev s') : KeepsAttached s s' := by
  cases taken with
  | uploads fresh loose =>
    refine sound.keepsAttached_of_subset ?_ (List.subset_append_left _ _)
    exact rows_uploads fresh ▸ List.subset_append_left _ _
  | passes | starts first =>
    exact sound.keepsAttached_of_subset (List.Subset.refl _) (List.Subset.refl _)
  | acts runs works => exact sound.keepsAttached runs works _

/-- **The media of a status stay.**  In every run of creations, edits, deletions and prunes
in which no row is attached between a read and its deletion, each step keeps the rows, the
objects and the statuses of attached media, and each attached row has its object. -/
theorem attached_media_kept {trace : List (Transition MediaState MediaEvent)} {s : MediaState}
    (run : Run MediaStep .start trace s) (undisturbed : Along Undisturbed trace) :
    Throughout (fun before _ after => KeepsAttached before after) trace ∧ AttachedStored s := by
  have keepsSound : ∀ {before event after}, Sound before → Undisturbed before event →
      MediaStep before event after → Sound after := fun sound undisturbed taken =>
    sound.after undisturbed taken
  constructor
  · exact run.forall_transitions Sound.start keepsSound
      (fun sound _ taken => sound.keeps taken) undisturbed
  · exact (run.invariant Sound.start keepsSound undisturbed).attachedStored

/-! ## One upload of a day ago -/

def bobsPicture : MediaAttachmentRow := ⟨"m", "bob", none, "media/bob/image/m", 0⟩

def bobsTable : MediaTable := Table.empty.insert bobsPicture

/-- The table once the status `s` has attached the picture. -/
def attachedTable : MediaTable := rowsAfter bobsTable (attachMedia "s" [bobsPicture] bobsTable)

/-- The store a day later, with the rows and the objects. -/
def bobsStoreWith (table : MediaTable) (objects : List String) : MediaStore :=
  ⟨table, objects, Table.empty, 86400⟩

theorem mem_attachedTable : { bobsPicture with statusId := some "s" } ∈ attachedTable.rows := by
  decide

theorem MediaStep.last {store store' : MediaStore} {tasks : List MediaTask} {task : MediaTask}
    {act : MediaAct} {next : Option MediaTask} (works : Works store task act store' next) :
    MediaStep ⟨store, tasks ++ [task]⟩ (.acts task act) ⟨store', tasks ++ next.toList⟩ := by
  have taken := @MediaStep.acts ⟨store, tasks ++ [task]⟩ tasks [] task act store' next rfl works
  rwa [List.append_nil] at taken

theorem MediaStep.ends {store store' : MediaStore} {tasks : List MediaTask} {task : MediaTask}
    {act : MediaAct} (works : Works store task act store' none) :
    MediaStep ⟨store, tasks ++ [task]⟩ (.acts task act) ⟨store', tasks⟩ := by
  have taken := @MediaStep.last _ _ tasks _ _ _ works
  rwa [Option.toList_none, List.append_nil] at taken

/-- The only request goes on. -/
theorem MediaStep.only {store store' : MediaStore} {task : MediaTask} {act : MediaAct}
    {next : Option MediaTask} (works : Works store task act store' next) :
    MediaStep ⟨store, [task]⟩ (.acts task act) ⟨store', next.toList⟩ :=
  @MediaStep.last _ _ [] _ _ _ works

theorem exists_run_uploaded :
    ∃ trace, Run MediaStep .start trace ⟨bobsStoreWith bobsTable [bobsPicture.objectKey], []⟩
      ∧ Along Undisturbed trace := by
  have fresh : MediaState.start.Fresh bobsPicture := by
    constructor <;> intro other mem <;> cases mem
  have uploaded := Run.start.snoc (MediaStep.uploads fresh rfl)
  have aDayLater := uploaded.snoc (@MediaStep.passes _ 86400)
  exact ⟨_, aDayLater, Along.snoc_iff.mpr ⟨Along.snoc_iff.mpr ⟨Along.nil, trivial⟩, trivial⟩⟩

section Creation

variable {trace : List (Transition MediaState MediaEvent)} {objects : List String}
  {tasks : List MediaTask}

theorem exists_run_attached
    (run : Run MediaStep .start trace ⟨bobsStoreWith bobsTable objects, tasks⟩) :
    ∃ longer, Run MediaStep .start longer ⟨bobsStoreWith attachedTable objects, tasks⟩
      ∧ (Along Undisturbed trace → (∀ task ∈ tasks, task.held = []) →
        Along Undisturbed longer) := by
  have started := run.snoc (MediaStep.starts (.create "bob" ["m"]))
  have got : MediaRequest.resolve ⟨"bob", none⟩ bobsTable "m" = .ok bobsPicture := rfl
  have unseen : "m" ∉ ([] : List String) := List.not_mem_nil
  have resolves := started.snoc (MediaStep.last (.resolves unseen got))
  have inserts := resolves.snoc (MediaStep.last (.insertsStatus "s" rfl))
  have attaches := inserts.snoc (MediaStep.ends .attaches)
  refine ⟨_, attaches, fun earlier idle => ?_⟩
  refine Along.snoc_iff.mpr ⟨Along.snoc_iff.mpr ⟨Along.snoc_iff.mpr
    ⟨Along.snoc_iff.mpr ⟨earlier, trivial⟩, trivial⟩, trivial⟩, ?_⟩
  rintro row stored loose ⟨task, runs, orphan, held, _⟩
  rcases List.mem_append.mp runs with other | itself
  · rw [idle task other] at held
    cases held
  · rw [List.mem_singleton.mp itself] at held
    cases held

theorem not_attachedStored (gone : bobsPicture.objectKey ∉ objects) :
    ¬AttachedStored ⟨bobsStoreWith attachedTable objects, tasks⟩ := by
  intro held
  exact gone (held { bobsPicture with statusId := some "s" } mem_attachedTable rfl)

end Creation

/-- A creation, and then a deletion that is refused. -/
theorem attached_media_kept_of_refused :
    ∃ trace s, Run MediaStep .start trace s
      ∧ Throughout (fun before _ after => KeepsAttached before after) trace ∧ AttachedStored s := by
  obtain ⟨_, uploaded, quiet⟩ := exists_run_uploaded
  obtain ⟨_, attached, still⟩ := exists_run_attached uploaded
  have calm := still quiet (fun task mem => by cases mem)
  have started := attached.snoc (MediaStep.starts (.delete "bob" "m"))
  have refused : (bobsStoreWith attachedTable [bobsPicture.objectKey]).checkDeletion "bob" "m"
      = .error (422, "media is already attached") := rfl
  have dismissed := started.snoc (MediaStep.only (.dismisses refused))
  refine ⟨_, _, dismissed, attached_media_kept dismissed ?_⟩
  exact Along.snoc_iff.mpr ⟨Along.snoc_iff.mpr ⟨calm, trivial⟩, trivial⟩

/-- **A deletion takes the media of a new status.**  A deletion has read the picture before
the status attaches it, and deletes its object; a prune has listed the picture before, and
deletes its row; and a deletion that breaks off after the object leaves the row to be
attached. -/
theorem media_of_new_status_is_deleted :
    (∃ trace s, Run MediaStep .start trace s ∧ ¬AttachedStored s
      ∧ ∃ task ∈ s.tasks, task = .deletesRow bobsPicture)
    ∧ (∃ trace s, Run MediaStep .start trace s
      ∧ ¬Throughout (fun before _ after => KeepsAttached before after) trace)
    ∧ ∃ trace s, Run MediaStep .start trace s ∧ s.tasks = [] ∧ ¬AttachedStored s := by
  obtain ⟨_, uploaded, _⟩ := exists_run_uploaded
  have checked : (bobsStoreWith bobsTable [bobsPicture.objectKey]).checkDeletion "bob" "m"
      = .ok bobsPicture := rfl
  have reads := (uploaded.snoc (MediaStep.starts (.delete "bob" "m"))).snoc
    (MediaStep.only (.checks checked))
  refine ⟨?_, ?_, ?_⟩
  · obtain ⟨_, attached, _⟩ := exists_run_attached reads
    have deleted := attached.snoc (MediaStep.only .deletesObject)
    exact ⟨_, _, deleted, not_attachedStored (by decide), _, List.mem_singleton_self _, rfl⟩
  · have listed := ((uploaded.snoc (MediaStep.starts .prune)).snoc
      (MediaStep.only (.listsQueue Selection.nil))).snoc (MediaStep.only .queueDone)
    have lists := listed.snoc (MediaStep.only (.listsOrphans (Selection.singleton (by decide))))
    obtain ⟨_, attached, _⟩ := exists_run_attached lists
    have deleted := attached.snoc (MediaStep.only .deletesOrphan)
    refine ⟨_, _, deleted, fun kept => ?_⟩
    obtain ⟨_, row, held, _⟩ := (Throughout.snoc_iff.mp kept).2
      { bobsPicture with statusId := some "s" } mem_attachedTable "s" rfl
    have noRow : ∀ objects, ((bobsStoreWith attachedTable objects).deleteMediaAttachmentRow
        bobsPicture.id).media.rows = [] := fun _ => rfl
    exact List.not_mem_nil (noRow _ ▸ held)
  · have broken := (reads.snoc (MediaStep.only .deletesObject)).snoc (MediaStep.only .fails)
    obtain ⟨_, attached, _⟩ := exists_run_attached broken
    exact ⟨_, _, attached, rfl, not_attachedStored (by decide)⟩

end Cfwdon.Media
