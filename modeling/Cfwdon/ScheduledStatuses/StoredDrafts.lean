import Cfwdon.Library.Lists
import Cfwdon.Library.SqlTexts
import Cfwdon.Statuses.Content

/-!
# Drafts of scheduled statuses

A scheduled status keeps its draft in columns of its own, and reading the row validates the
draft again, without the quote.  The draft that is read is the one that was scheduled.
-/

namespace Cfwdon.ScheduledStatuses

open Library Statuses

/-! ## Drafts -/

structure PollDraft where
  options : List String
  expiresInSeconds : Nat
  multiple : Bool
  hideTotals : Bool

inductive QuoteApprovalPolicy where
  | everyone
  | followers
  | nobody

inductive StatusDraftError where
  | emptyPayload
  | tooManyMedia
  | pollWithMedia
  | quoteWithMediaOrPoll

/-- The fields of a draft, validated or not. -/
structure ComposingStatus where
  text : String
  visibility : Visibility
  spoilerText : String
  sensitive : Bool
  language : Option String
  quoteApprovalPolicy : Option QuoteApprovalPolicy
  inReplyToId : Option String
  mediaIds : List String
  poll : Option PollDraft

def ComposingStatus.trimmed (self : ComposingStatus) : ComposingStatus :=
  { self with
    text := trim self.text
    spoilerText := trim self.spoilerText
    language := (self.language.map fun value => toAsciiLowercase (trim value)).filter (· ≠ "")
    inReplyToId := (self.inReplyToId.map trim).filter (· ≠ "")
    mediaIds := (self.mediaIds.map trim).filter (· ≠ "") }

def ComposingStatus.validate (self : ComposingStatus) (quotedStatusId : Option String) :
    Except StatusDraftError ComposingStatus :=
  let draft := self.trimmed
  if draft.text = "" ∧ draft.mediaIds = [] ∧ draft.poll.isNone then .error .emptyPayload
  else if 4 < draft.mediaIds.length then .error .tooManyMedia
  else if draft.poll.isSome ∧ draft.mediaIds ≠ [] then .error .pollWithMedia
  else if quotedStatusId.isSome ∧ (draft.poll.isSome ∨ draft.mediaIds ≠ []) then
    .error .quoteWithMediaOrPoll
  else .ok draft

/-! ## Columns -/

def visibilityAsStr : Visibility → String
  | .publicPost => "public"
  | .unlisted => "unlisted"
  | .followersOnly => "private"
  | .direct => "direct"

def parseVisibility (value : String) : Option Visibility :=
  match toAsciiLowercase (trim value) with
  | "public" => some .publicPost
  | "unlisted" => some .unlisted
  | "private" => some .followersOnly
  | "direct" => some .direct
  | _ => none

def QuoteApprovalPolicy.asStr : QuoteApprovalPolicy → String
  | .everyone => "public"
  | .followers => "followers"
  | .nobody => "nobody"

def QuoteApprovalPolicy.parse (value : String) : Option QuoteApprovalPolicy :=
  match toAsciiLowercase (trim value) with
  | "public" => some .everyone
  | "followers" => some .followers
  | "nobody" => some .nobody
  | _ => none

/-- The columns of `scheduled_statuses` for the draft. -/
structure ScheduledRow where
  textContent : String
  visibility : String
  spoilerText : String
  sensitive : Int
  language : Option String
  quoteApprovalPolicy : Option String
  inReplyToId : Option String
  mediaIdsJson : String
  pollJson : Option String

/-- `serde_json` on the two columns that hold JSON. -/
structure DraftJson where
  mediaIdsToString : List String → String
  mediaIdsFromStr : String → Option (List String)
  pollToString : PollDraft → String
  pollFromStr : String → Option PollDraft

/-- What is written of the draft is read. -/
structure DraftJson.Keeps (json : DraftJson) (draft : ComposingStatus) : Prop where
  mediaIds : json.mediaIdsFromStr (json.mediaIdsToString draft.mediaIds) = some draft.mediaIds
  poll : ∀ poll, draft.poll = some poll → json.pollFromStr (json.pollToString poll) = some poll

/-- What `insert_scheduled_status` binds of the draft. -/
def insertScheduledStatus (json : DraftJson) (draft : ComposingStatus) : ScheduledRow where
  textContent := draft.text
  visibility := visibilityAsStr draft.visibility
  spoilerText := draft.spoilerText
  sensitive := if draft.sensitive then 1 else 0
  language := draft.language
  quoteApprovalPolicy := draft.quoteApprovalPolicy.map QuoteApprovalPolicy.asStr
  inReplyToId := draft.inReplyToId
  mediaIdsJson := json.mediaIdsToString draft.mediaIds
  pollJson := draft.poll.map json.pollToString

def ScheduledRow.composing (row : ScheduledRow) (json : DraftJson) (visibility : Visibility) :
    ComposingStatus where
  text := row.textContent
  visibility := visibility
  spoilerText := row.spoilerText
  sensitive := row.sensitive != 0
  language := row.language
  quoteApprovalPolicy := row.quoteApprovalPolicy.bind QuoteApprovalPolicy.parse
  inReplyToId := row.inReplyToId
  mediaIds := (json.mediaIdsFromStr row.mediaIdsJson).getD []
  poll := row.pollJson.bind json.pollFromStr

/-- `scheduled_status_draft_from_value`; the texts of its errors are left out. -/
def scheduledStatusDraftFromValue (json : DraftJson) (row : ScheduledRow) :
    Option ComposingStatus :=
  (parseVisibility row.visibility).bind fun visibility =>
    ((row.composing json visibility).validate none).toOption

/-! ## Reading back -/

theorem parseVisibility_asStr (visibility : Visibility) :
    parseVisibility (visibilityAsStr visibility) = some visibility := by
  cases visibility <;> decide +kernel

theorem QuoteApprovalPolicy.parse_asStr (policy : QuoteApprovalPolicy) :
    parse policy.asStr = some policy := by
  cases policy <;> rfl

theorem trim_lowercase_trim (text : String) :
    trim (toAsciiLowercase (trim text)) = toAsciiLowercase (trim text) := by
  obtain ⟨front, back⟩ := trimMatches_eq_self_iff.mp (trim_trim text)
  refine trimMatches_eq_self_iff.mpr ⟨?_, ?_⟩
  · intro c first
    rw [toList_lowercase, List.head?_map] at first
    obtain ⟨own, head, rfl⟩ := Option.map_eq_some_iff.mp first
    exact isWhitespace_toLower (front own head)
  · intro c last
    rw [toList_lowercase, List.getLast?_map] at last
    obtain ⟨own, tail, rfl⟩ := Option.map_eq_some_iff.mp last
    exact isWhitespace_toLower (back own tail)

theorem ComposingStatus.trimmed_trimmed (self : ComposingStatus) :
    self.trimmed.trimmed = self.trimmed := by
  have language : ∀ text, toAsciiLowercase (trim (toAsciiLowercase (trim text)))
      = toAsciiLowercase (trim text) := by
    intro text
    rw [trim_lowercase_trim, lowercase_lowercase]
  rw [trimmed, trimmed]
  simp only [trim_trim, normalized_list (f := trim) trim_trim,
    normalized_option (f := trim) trim_trim,
    normalized_option (f := fun value => toAsciiLowercase (trim value)) language]

/-- **A validated draft** passes validation again, without the quote, and is not changed. -/
theorem ComposingStatus.validate_validated {raw draft : ComposingStatus}
    {quotedStatusId : Option String} (ok : raw.validate quotedStatusId = .ok draft) :
    draft.validate none = .ok draft := by
  simp only [validate] at ok
  split_ifs at ok with empty many poll quote
  cases ok
  rw [validate, raw.trimmed_trimmed]
  simp only [if_neg empty, if_neg many, if_neg poll]
  rfl

variable {json : DraftJson} {draft : ComposingStatus}

theorem composing_insert (keeps : json.Keeps draft) :
    (insertScheduledStatus json draft).composing json draft.visibility = draft := by
  obtain ⟨text, visibility, spoiler, sensitive, language, policy, reply, media, poll⟩ := draft
  rw [ScheduledRow.composing, insertScheduledStatus]
  congr 1
  · cases sensitive <;> rfl
  · cases policy with
    | none => rfl
    | some policy => rw [Option.map_some, Option.bind_some, policy.parse_asStr]
  · exact congrArg (Option.getD · []) keeps.mediaIds
  · cases poll with
    | none => rfl
    | some poll => exact keeps.poll poll rfl

/-- **A scheduled draft is read back** exactly as validation left it, whatever it quotes. -/
theorem scheduled_draft_read_back (keeps : json.Keeps draft) {raw : ComposingStatus}
    {quotedStatusId : Option String} (ok : raw.validate quotedStatusId = .ok draft) :
    scheduledStatusDraftFromValue json (insertScheduledStatus json draft) = some draft := by
  have parsed : parseVisibility (insertScheduledStatus json draft).visibility
      = some draft.visibility := parseVisibility_asStr draft.visibility
  rw [scheduledStatusDraftFromValue, parsed, Option.bind_some, composing_insert keeps,
    ComposingStatus.validate_validated ok]
  rfl

def quotingDraft : ComposingStatus where
  text := "look"
  visibility := .publicPost
  spoilerText := ""
  sensitive := false
  language := some "en"
  quoteApprovalPolicy := some .followers
  inReplyToId := none
  mediaIds := []
  poll := none

/-- A quote, written with blanks around its text and its language. -/
theorem quoting_draft_read_back :
    let json : DraftJson := ⟨fun _ => "[]", fun _ => some [], fun _ => "", fun _ => none⟩
    scheduledStatusDraftFromValue json (insertScheduledStatus json quotingDraft)
      = some quotingDraft := by
  intro json
  have ok : ComposingStatus.validate
      { quotingDraft with text := " look ", language := some " EN", mediaIds := [" "] }
      (some "9") = .ok quotingDraft := by
    rfl
  have keeps : json.Keeps quotingDraft := ⟨rfl, by rintro poll ⟨⟩⟩
  exact scheduled_draft_read_back keeps ok

end Cfwdon.ScheduledStatuses
