import Cfwdon.Library.Attempt
import Cfwdon.Search.TextMatches
import Cfwdon.Statuses.EditHistory

/-!
# Edits that fail

An edit stores the snapshot first, then the row, the hashtags, the mentions, the media and
the poll of the status, and last it changes its media.  What it asks for is checked on the way,
and an edit that fails is not undone.
-/

namespace Cfwdon.Statuses

open Library Notifications Search

structure MentionRow where
  mentionKey : String
  accountId : Option String
  actorUri : Option String
  username : String
  acct : String
  url : String

/-- A status with its rows in `status_hashtags` and `status_mentions`. -/
structure EditedRows extends EditedStatus where
  hashtags : List String
  mentions : Table MentionRow MentionRow.mentionKey

/-- The places of an edit at which the database may fail.  Of the reads before the snapshot,
`readStatus` is the first that fails. -/
inductive EditStatement where
  | readStatus | insertSnapshot | updateStatus | readHashtags | writeHashtags | readMentions
  | writeMentions | requireStatus | replaceMedia | deletePollOptions | deletePoll | insertPoll
  | readMedia | updateMedia (index : Nat) | requireMedia (index : Nat) | enqueueUpdate

inductive EditFailure where
  | failed (statement : EditStatement)
  | refused (message : String)

/-- What the database answers, and what `parse_media_focus` says of a trimmed text. -/
structure EditWorld where
  fails : EditStatement → Bool
  mentionsOf : String → List MentionRow
  stillEditable : AttachedMedia → Bool
  focusError : String → Option String

/-- A step behind the snapshot: a statement, which keeps the snapshots, or a check that failed. -/
inductive EditStep where
  | run (statement : EditStatement) (write : EditedRows → EditedRows)
      (keeps : ∀ s, (write s).ownEdits = s.ownEdits)
  | refuse (message : String)

section Steps

variable (world : EditWorld)

def EditStep.execute : EditStep → EditedRows → Option EditedRows
  | .run statement write _, s => if world.fails statement then none else some (write s)
  | .refuse _, _ => none

def EditStep.failure : EditStep → Option EditFailure
  | .run statement _ _ => if world.fails statement then some (.failed statement) else none
  | .refuse message => some (.refused message)

variable (rfc3339 : Rfc3339) (input : UpdateLocalStatusInput) (revisionAt : IsoTime)
variable (editId pollId : String) (s : EditedRows)

def EditedRows.change (change : EditedStatus → EditedStatus) (s : EditedRows) :
    EditedRows :=
  { s with toEditedStatus := change s.toEditedStatus }

def replaceLocalStatusHashtags : List EditStep :=
  let next := extractHashtagsFromText input.nextText
  if s.hashtags ⊆ next ∧ next ⊆ s.hashtags then []
  else
    [.run .writeHashtags (fun s => { s with
      hashtags := s.hashtags.filter (· ∈ next) ++ next.filter (· ∉ s.hashtags) }) fun _ => rfl]

def replaceLocalStatusMentions : List EditStep :=
  [.run .readMentions id fun _ => rfl,
    .run .writeMentions (fun s => { s with
      mentions := (world.mentionsOf input.nextText).foldl
        (fun stored row => stored.insertOrReplace row) Table.empty }) fun _ => rfl]

def replaceStatusMedia : List EditStep :=
  match input.requestedMedia with
  | none => []
  | some media =>
    if media.isEmpty || media.all world.stillEditable then
      [.run .replaceMedia (fun s => { s with media }) fun _ => rfl]
    else [.run .replaceMedia id fun _ => rfl,
      .refuse "one or more media attachments are no longer editable"]

def replaceStatusPoll : List EditStep :=
  match input.nextPoll with
  | none => []
  | some draft =>
    [.run .deletePollOptions (fun s => { s with
        poll := s.poll.map fun poll => { poll with draft := { poll.draft with options := [] } } })
        fun _ => rfl,
      .run .deletePoll (fun s => { s with poll := none }) fun _ => rfl,
      .run .insertPoll (fun s => { s with poll := some ⟨pollId, draft, revisionAt.text⟩ })
        fun _ => rfl]

/-- A turn of the loop over `media_attributes`. -/
def attributeSteps (attached : List AttachedMedia) (wanted : StatusMediaAttribute) (index : Nat) :
    List EditStep :=
  match attributeTarget attached index wanted with
  | none => []
  | some targetId =>
    match attached.find? fun media => media.id == targetId with
    | none => [.refuse s!"unknown media attachment in media_attributes: {targetId}"]
    | some media =>
      match applyMediaUpdate (fun focus => (world.focusError focus).isNone) wanted media with
      | none => [.refuse (((wanted.focus.map trim).bind world.focusError).getD "")]
      | some updated =>
        [.run (.updateMedia index) (fun s => { s with
            media := s.media.map fun stored =>
              if stored.id = updated.id then updated else stored }) fun _ => rfl,
          .run (.requireMedia index) id fun _ => rfl]

def mediaAttributeSteps : List EditStep :=
  match input.mediaAttributes with
  | none => []
  | some attributes =>
    let attached := findMediaAttachmentsByStatusId (input.requestedMedia.getD s.media)
    .run .readMedia id (fun _ => rfl) ::
      attributes.zipIdx.flatMap fun (wanted, index) => attributeSteps world attached wanted index

/-- What follows the snapshot, up to the `Update` that is sent. -/
def editSteps : List EditStep :=
  [.run .updateStatus (fun s => s.change (updateLocalStatus input revisionAt)) fun _ => rfl,
    .run .readHashtags id fun _ => rfl]
  ++ replaceLocalStatusHashtags input s ++ replaceLocalStatusMentions world input
  ++ [.run .requireStatus id fun _ => rfl] ++ replaceStatusMedia world input
  ++ replaceStatusPoll input revisionAt pollId ++ mediaAttributeSteps world input s
  ++ [.run .enqueueUpdate id fun _ => rfl]

/-- `apply_local_status_update`, up to the `Update` that is sent: the status, and the failure
if there is one. -/
def EditedRows.applyLocalStatusUpdate : EditedRows × Option EditFailure :=
  if world.fails .readStatus then (s, some (.failed .readStatus))
  else if (s.edits.find editId).isSome ∨ world.fails .insertSnapshot then
    (s, some (.failed .insertSnapshot))
  else
    let steps := editSteps world input revisionAt pollId s
    (executeAll (EditStep.execute world) steps (s.change (insertStatusEditSnapshot editId
      (previousSnapshot rfc3339 revisionAt s.toEditedStatus) revisionAt.text)),
      steps.findSome? (EditStep.failure world))

end Steps

/-! ## What should hold of a failed edit -/

structure Unchanged (before after : EditedRows) : Prop where
  text : after.text = before.text
  spoilerText : after.spoilerText = before.spoilerText
  language : after.language = before.language
  hashtags : after.hashtags = before.hashtags
  mentions : after.mentions = before.mentions
  media : after.media = before.media
  poll : after.poll = before.poll
  edits : after.ownEdits = before.ownEdits

/-- The edit fails before its snapshot is stored. -/
def FailsAtOnce (world : EditWorld) (editId : String) (s : EditedRows) : Prop :=
  world.fails .readStatus = true ∨ (s.edits.find editId).isSome = true
    ∨ world.fails .insertSnapshot = true

/-- What an edit asks for is there, and no statement of it fails. -/
@[mk_iff]
structure GoesThrough (world : EditWorld) (input : UpdateLocalStatusInput) (s : EditedRows) :
    Prop where
  always : ∀ statement ∈ [EditStatement.updateStatus, .readHashtags, .readMentions, .writeMentions,
    .requireStatus, .enqueueUpdate], world.fails statement = false
  hashtags : ¬ (s.hashtags ⊆ extractHashtagsFromText input.nextText
      ∧ extractHashtagsFromText input.nextText ⊆ s.hashtags) →
    world.fails .writeHashtags = false
  media : ∀ media ∈ input.requestedMedia, world.fails .replaceMedia = false
    ∧ (media = [] ∨ ∀ row ∈ media, world.stillEditable row = true)
  poll : input.nextPoll.isSome = true → ∀ statement ∈ [EditStatement.deletePollOptions,
    .deletePoll, .insertPoll], world.fails statement = false
  attributes : ∀ attributes ∈ input.mediaAttributes, world.fails .readMedia = false
    ∧ ∀ wanted index, (wanted, index) ∈ attributes.zipIdx →
      ∀ targetId ∈ attributeTarget
          (findMediaAttachmentsByStatusId (input.requestedMedia.getD s.media)) index wanted,
        ∃ row ∈ (findMediaAttachmentsByStatusId (input.requestedMedia.getD s.media)).find?
            fun media => media.id == targetId,
          (∀ focus ∈ (wanted.focus.map trim).filter (· ≠ ""), world.focusError focus = none)
            ∧ world.fails (.updateMedia index) = false
            ∧ world.fails (.requireMedia index) = false

/-! ## Steps of an edit -/

section Failures

variable {world : EditWorld} {rfc3339 : Rfc3339} {input : UpdateLocalStatusInput}
  {revisionAt : IsoTime} {editId pollId : String} {s : EditedRows}

theorem ownEdits_executeAll {steps : List EditStep} :
    (executeAll (EditStep.execute world) steps s).ownEdits = s.ownEdits := by
  induction steps generalizing s with
  | nil => rfl
  | cons step rest ih =>
    cases executed : step.execute world s with
    | none => rw [executeAll_cons_of_none executed]
    | some next =>
      rw [executeAll_cons_of_some executed, ih]
      cases step with
      | run stmt write keeps =>
        rw [EditStep.execute] at executed
        split_ifs at executed
        rw [← Option.some.inj executed, keeps]
      | refuse msg => cases executed

theorem failure_attributeSteps_iff {attached : List AttachedMedia} {wanted : StatusMediaAttribute}
    {index : Nat} :
    (∀ step ∈ attributeSteps world attached wanted index, step.failure world = none)
      ↔ ∀ targetId ∈ attributeTarget attached index wanted,
          ∃ row ∈ attached.find? fun media => media.id == targetId,
            (∀ focus ∈ (wanted.focus.map trim).filter (· ≠ ""), world.focusError focus = none)
              ∧ world.fails (.updateMedia index) = false
              ∧ world.fails (.requireMedia index) = false := by
  unfold attributeSteps
  cases attributeTarget attached index wanted with
  | none => simp
  | some targetId =>
    dsimp only
    simp only [Option.mem_def, Option.some.injEq, forall_eq']
    cases attached.find? fun media => media.id == targetId with
    | none => simp [EditStep.failure]
    | some media =>
      dsimp only
      unfold applyMediaUpdate
      cases (wanted.focus.map trim).filter (· ≠ "") with
      | none => simp [EditStep.failure]
      | some text =>
        cases error : world.focusError text with
        | none | some msg => simp [error, EditStep.failure]

theorem failure_replaceMedia_iff :
    (∀ step ∈ replaceStatusMedia world input, step.failure world = none)
      ↔ ∀ media ∈ input.requestedMedia, world.fails .replaceMedia = false
          ∧ (media = [] ∨ ∀ row ∈ media, world.stillEditable row = true) := by
  unfold replaceStatusMedia
  cases input.requestedMedia with
  | none => simp
  | some media =>
    dsimp only
    split_ifs with editable
    · simpa [EditStep.failure] using fun _ => editable
    · simpa [EditStep.failure] using fun _ => editable

theorem failure_editSteps_iff :
    (∀ step ∈ editSteps world input revisionAt pollId s, step.failure world = none)
      ↔ GoesThrough world input s := by
  have hashtags : (∀ step ∈ replaceLocalStatusHashtags input s, step.failure world = none)
      ↔ (¬ (s.hashtags ⊆ extractHashtagsFromText input.nextText
          ∧ extractHashtagsFromText input.nextText ⊆ s.hashtags) →
        world.fails .writeHashtags = false) := by
    unfold replaceLocalStatusHashtags
    dsimp only
    split_ifs with eq <;> simp [eq, EditStep.failure]
  have poll : (∀ step ∈ replaceStatusPoll input revisionAt pollId, step.failure world = none)
      ↔ (input.nextPoll.isSome = true → ∀ stmt ∈ [EditStatement.deletePollOptions,
        .deletePoll, .insertPoll], world.fails stmt = false) := by
    unfold replaceStatusPoll
    cases input.nextPoll with
    | none | some draft => simp [EditStep.failure]
  have attributes : (∀ step ∈ mediaAttributeSteps world input s, step.failure world = none)
      ↔ ∀ attributes ∈ input.mediaAttributes, world.fails .readMedia = false
        ∧ ∀ wanted index, (wanted, index) ∈ attributes.zipIdx → ∀ step ∈ attributeSteps world
          (findMediaAttachmentsByStatusId (input.requestedMedia.getD s.media)) wanted index,
            step.failure world = none := by
    unfold mediaAttributeSteps
    cases input.mediaAttributes with
    | none => simp
    | some attributes =>
      simp only [List.forall_mem_cons, EditStep.failure, ite_eq_right_iff, reduceCtorEq,
        imp_false, Bool.not_eq_true, List.mem_flatMap, Option.mem_def, Option.some.injEq, forall_eq']
      refine and_congr_right fun _ => ⟨fun each wanted index among step mem =>
        each step ⟨(wanted, index), among, mem⟩, ?_⟩
      rintro each step ⟨⟨wanted, index⟩, among, mem⟩
      exact each wanted index among step mem
  rw [goesThrough_iff, editSteps]
  simp only [List.forall_mem_append, List.forall_mem_cons, List.not_mem_nil, IsEmpty.forall_iff,
    implies_true, and_true, hashtags, failure_replaceMedia_iff, poll, attributes,
    failure_attributeSteps_iff, replaceLocalStatusMentions]
  simp only [EditStep.failure, ite_eq_right_iff, reduceCtorEq, imp_false, Bool.not_eq_true]
  constructor
  · rintro ⟨⟨⟨⟨⟨⟨⟨⟨row, read⟩, tagged⟩, handles, mentioned⟩, got⟩, media⟩, polled⟩, changed⟩, sent⟩
    exact ⟨⟨row, read, handles, mentioned, got, sent⟩, tagged, media, polled, changed⟩
  · rintro ⟨⟨row, read, handles, mentioned, got, sent⟩, tagged, media, polled, changed⟩
    exact ⟨⟨⟨⟨⟨⟨⟨⟨row, read⟩, tagged⟩, handles, mentioned⟩, got⟩, media⟩, polled⟩, changed⟩, sent⟩

theorem applyUpdate_of_failsAtOnce (early : FailsAtOnce world editId s) :
    (s.applyLocalStatusUpdate world rfc3339 input revisionAt editId pollId).1 = s := by
  unfold EditedRows.applyLocalStatusUpdate
  split_ifs with read insert
  · rfl
  · rfl
  · exact absurd (early.resolve_left read) insert

theorem applyUpdate_of_snapshot (late : ¬ FailsAtOnce world editId s) :
    (s.applyLocalStatusUpdate world rfc3339 input revisionAt editId pollId).1.ownEdits ≠ s.ownEdits
      ∧ ((s.applyLocalStatusUpdate world rfc3339 input revisionAt editId pollId).2 = none
        ↔ GoesThrough world input s) := by
  rw [FailsAtOnce, not_or] at late
  have new : (s.edits.find editId).isSome = false :=
    Bool.eq_false_iff.mpr fun used => late.2 (Or.inl used)
  rw [EditedRows.applyLocalStatusUpdate, if_neg late.1, if_neg late.2]
  constructor
  · simp [ownEdits_executeAll, EditedRows.change, ownEdits_insertSnapshot new]
  · rw [List.findSome?_eq_none_iff, failure_editSteps_iff]

/-- **A failed edit changes nothing exactly if it fails before its snapshot is stored.** -/
theorem failed_edit_changes_nothing_iff (world : EditWorld) (rfc3339 : Rfc3339)
    (input : UpdateLocalStatusInput) (revisionAt : IsoTime) (editId pollId : String)
    (s : EditedRows) :
    (∀ failure ∈ (s.applyLocalStatusUpdate world rfc3339 input revisionAt editId pollId).2,
      Unchanged s (s.applyLocalStatusUpdate world rfc3339 input revisionAt editId pollId).1)
      ↔ FailsAtOnce world editId s ∨ GoesThrough world input s := by
  by_cases early : FailsAtOnce world editId s
  · rw [applyUpdate_of_failsAtOnce early]
    exact iff_of_true (fun _ _ => ⟨rfl, rfl, rfl, rfl, rfl, rfl, rfl, rfl⟩) (Or.inl early)
  · obtain ⟨held, answers⟩ := applyUpdate_of_snapshot early
    rw [or_iff_right early, ← answers]
    constructor
    · intro kept
      by_contra failed
      obtain ⟨failure, isFailure⟩ := Option.ne_none_iff_exists'.mp failed
      exact held (kept failure isFailure).edits
    · intro ans failure isFailure
      rw [ans] at isFailure
      cases isFailure

end Failures

/-- A status whose media is asked to have a focus that is no pair of numbers. -/
def noonWithMedia : EditedRows :=
  { createdAtNoon with
    media := [⟨"media-1", "2026-05-01T12:00:00.000Z", "", none⟩]
    hashtags := []
    mentions := Table.empty }

def badFocus : UpdateLocalStatusInput :=
  ⟨"two", "", false, none, none, none, some [⟨none, none, some "up,0"⟩]⟩

def calmWorld : EditWorld :=
  ⟨fun _ => false, fun _ => [], fun _ => true,
    fun focus => if focus = "up,0" then some "focus x must be a number" else none⟩

/-- **An edit with an invalid focus fails and leaves its text.** -/
theorem bad_focus_changes_text :
    ¬ ∀ failure ∈ (noonWithMedia.applyLocalStatusUpdate calmWorld unaskedRfc3339 badFocus oneOClock
        "edit-1" "poll-1").2,
      Unchanged noonWithMedia (noonWithMedia.applyLocalStatusUpdate calmWorld unaskedRfc3339
        badFocus oneOClock "edit-1" "poll-1").1 := by
  intro kept
  have fails : (noonWithMedia.applyLocalStatusUpdate calmWorld unaskedRfc3339 badFocus oneOClock
      "edit-1" "poll-1").2.isSome = true := by decide +kernel
  obtain ⟨failure, isFailure⟩ := Option.isSome_iff_exists.mp fails
  have changed : (noonWithMedia.applyLocalStatusUpdate calmWorld unaskedRfc3339 badFocus oneOClock
      "edit-1" "poll-1").1.text ≠ noonWithMedia.text := by decide +kernel
  exact changed (kept failure isFailure).text

end Cfwdon.Statuses
