import Cfwdon.Streaming.Fanout
import Cfwdon.Timelines.TagTimeline

/-!
# Hashtag channels and the hashtag timeline

A client that is subscribed to a hashtag channel is to get the statuses that the timeline of
the hashtag shows.  The tag of a subscription is trimmed; the tag of the timeline is also
taken out of its hash signs and folded.  The statuses are published under the hashtags of
their text and, local ones too, of their markup; the timeline reads local statuses by their
text only.
-/

namespace Cfwdon.Streaming

open Library Search Statuses Timelines

def statusHashtagTags (text contentHtml : String) : List String :=
  pushMissing (extractHashtagsFromText text) (extractHashtagsFromHtml contentHtml)

/-- `remote_status_hashtag_tags`, with the tags of the index. -/
def remoteStatusHashtagTags (contentHtml : String) (stored : List String) : List String :=
  pushMissing (extractHashtagsFromHtml contentHtml) stored

def publishedTags (status : IndexedStatus) : List String :=
  match status.content with
  | .local text => statusHashtagTags text (renderStatusHtml text)
  | .remote contentHtml => remoteStatusHashtagTags contentHtml status.index

/-- `HASHTAG_STREAMS` and `REMOTE_HASHTAG_STREAMS`. -/
def hashtagStreams : StatusContent → List String
  | .local _ => ["hashtag", "hashtag:local"]
  | .remote _ => ["hashtag"]

structure ArrivalOf (status : IndexedStatus) (arrival : StatusArrival) : Prop where
  visibility : arrival.visibility = status.visibility
  tags : arrival.tags = publishedTags status
  origin : match status.content with
    | .local _ => ∃ author document, arrival.origin = .local author document
    | .remote _ => arrival.origin = .remote

def Delivered (arrival : StatusArrival) (subscription : StreamSubscription) : Prop :=
  ∃ event ∈ arrival.published,
    event.hub = streamHubChannelIdName subscription.stream subscription.tag
      ∧ subscription.matchesEvent event.stream event.tag event.list = true

/-- The query of the timeline that stands beside a channel. -/
def tagTimelineQueryOf (stream : String) : TagTimelineQuery where
  onlyMedia := none
  localOnly := if stream = "hashtag:local" then some true else none
  remoteOnly := none
  any := none
  all := none
  none := none

/-! ## What is delivered -/

variable {stream : String}

theorem requiresTag_iff :
    streamingChannelRequiresTag stream = true ↔ stream = "hashtag" ∨ stream = "hashtag:local" := by
  simp [streamingChannelRequiresTag]

section Deliveries

variable {status : IndexedStatus} {arrival : StatusArrival} {event : StreamHubEvent}

theorem other_channels (tagged : streamingChannelRequiresTag event.stream = true) :
    (∀ accountId name payload, event ≠ userStreamHubEvent accountId name payload)
      ∧ (∀ hasMedia name payload,
        event ∉ publicTimelineEvents (publicTimelineStreams hasMedia) name payload
          ∧ event ∉ publicTimelineEvents (remotePublicTimelineStreams hasMedia) name payload)
      ∧ ∀ lists name payload, event ∉ listTimelineEvents lists name payload := by
  have notTagged : ∀ stream ∈ ["user", "list", "public", "public:local", "public:media",
      "public:local:media", "public:remote", "public:remote:media"],
      event.stream ≠ stream := by
    intro stream listed eq
    have untagged : ∀ stream ∈ ["user", "list", "public", "public:local", "public:media",
        "public:local:media", "public:remote", "public:remote:media"],
        streamingChannelRequiresTag stream = false := by decide
    rw [eq, untagged stream listed] at tagged
    cases tagged
  refine ⟨?_, fun hasMedia name payload => ⟨fun mem => ?_, fun mem => ?_⟩, ?_⟩
  · rintro accountId name payload rfl
    exact notTagged "user" (by simp) rfl
  · obtain ⟨listed, _⟩ := mem_publicTimelineEvents mem
    refine notTagged event.stream ?_ rfl
    cases hasMedia <;> simp [publicTimelineStreams] at listed ⊢ <;> tauto
  · obtain ⟨listed, _⟩ := mem_publicTimelineEvents mem
    refine notTagged event.stream ?_ rfl
    cases hasMedia <;> simp [remotePublicTimelineStreams] at listed ⊢ <;> tauto
  · intro lists name payload mem
    exact notTagged "list" (by simp) (mem_listTimelineEvents mem).1

/-- **The events of a public status on hashtag channels** are those of its tags. -/
theorem mem_published_iff (published : ArrivalOf status arrival)
    (isPublic : status.visibility = .publicPost)
    (tagged : streamingChannelRequiresTag event.stream = true) :
    event ∈ arrival.published
      ↔ event ∈ hashtagTimelineEvents (hashtagStreams status.content) (publishedTags status)
        "update" arrival.document.text := by
  obtain ⟨vis, tags, origin⟩ := published
  obtain ⟨notUser, notPublic, notList⟩ := other_channels tagged
  rw [isPublic] at vis
  cases content : status.content with
  | «local» text =>
    rw [content] at origin
    obtain ⟨author, doc, eq⟩ := origin
    have notFollower : event ∉ (arrival.followers.filter (· != author)).map
        (userStreamHubEvent · "update" arrival.document.text) := by
      intro mem
      obtain ⟨follower, _, eq⟩ := List.mem_map.mp mem
      exact notUser _ _ _ eq.symm
    rw [StatusArrival.published, eq]
    simp [publishLocalStatusCreateStreamFanout, vis,
      visibilityReachesFollowerHomeTimelines, notUser, notPublic, notList, notFollower, tags,
      hashtagStreams]
  | remote contentHtml =>
    rw [content] at origin
    have notFollower : event ∉ arrival.followers.map
        (userStreamHubEvent · "update" arrival.document.text) := by
      intro mem
      obtain ⟨follower, _, eq⟩ := List.mem_map.mp mem
      exact notUser _ _ _ eq.symm
    rw [StatusArrival.published, origin]
    simp [publishRemoteStatusCreateStreamFanout, vis,
      visibilityReachesFollowerHomeTimelines, notPublic, notList, notFollower, tags,
      hashtagStreams]

theorem isExtracted_of_mem_publishedTags {tag : String} (mem : tag ∈ publishedTags status) :
    IsExtracted tag := by
  have fromHtml {contentHtml : String} (got : tag ∈ extractHashtagsFromHtml contentHtml) :
      IsExtracted tag := @StatusContent.isExtracted _ (.remote contentHtml) got
  unfold publishedTags at mem
  cases content : status.content with
  | «local» text =>
    rw [content] at mem
    rcases mem_pushMissing.mp mem with inText | inHtml
    · exact @StatusContent.isExtracted _ (.local text) inText
    · exact fromHtml inHtml
  | remote contentHtml =>
    rw [content] at mem
    rcases mem_pushMissing.mp mem with inHtml | held
    · exact fromHtml inHtml
    · exact StatusContent.isExtracted ((status.indexed tag).mp held)

theorem startsWith_of_requiresTag
    (tagged : streamingChannelRequiresTag stream = true) : startsWith stream "hashtag" = true := by
  rcases requiresTag_iff.mp tagged with rfl | rfl <;> decide

/-- **The hub delivers what is published under the trimmed tag.** -/
theorem delivered_iff (published : ArrivalOf status arrival)
    (isPublic : status.visibility = .publicPost)
    (tagged : streamingChannelRequiresTag stream = true) (hashtag : String)
    (list : Option String) :
    Delivered arrival (.new stream (some hashtag) list)
      ↔ stream ∈ hashtagStreams status.content ∧ trim hashtag ∈ publishedTags status := by
  have starts := startsWith_of_requiresTag tagged
  constructor
  · rintro ⟨event, mem, _, hit⟩
    have sameStream : stream = event.stream := StreamSubscription.stream_of_matchesEvent hit
    rw [mem_published_iff published isPublic (sameStream ▸ tagged)] at mem
    obtain ⟨tag, isTag, made⟩ := List.mem_flatMap.mp mem
    obtain ⟨other, listed, rfl⟩ := List.mem_map.mp made
    dsimp only at sameStream hit
    subst sameStream
    refine ⟨listed, ?_⟩
    simp only [StreamSubscription.matchesEvent, StreamSubscription.new, bne_self_eq_false,
      Bool.false_eq_true, if_false, starts, if_true, beq_iff_eq] at hit
    have trimmedTag := (Option.filter_eq_some_iff.mp hit).1
    obtain ⟨text, trimmed, kept⟩ := Option.map_eq_some_iff.mp trimmedTag
    rw [Option.some.inj trimmed, kept]
    exact isTag
  · rintro ⟨listed, isTag⟩
    have kept : nonblank (some hashtag) = some (trim hashtag) := by
      simp [nonblank, (isExtracted_of_mem_publishedTags isTag).ne_empty]
    refine ⟨⟨streamHubChannelIdName "hashtag" (some (trim hashtag)), stream, some (trim hashtag),
      none, "update", arrival.document.text⟩, ?_, ?_, ?_⟩
    · rw [mem_published_iff published isPublic tagged]
      exact List.mem_flatMap.mpr ⟨_, isTag, List.mem_map.mpr ⟨stream, listed, rfl⟩⟩
    · simp only [StreamSubscription.new, kept, streamHubChannelIdName, starts]
      rfl
    · simp [StreamSubscription.matchesEvent, StreamSubscription.new, kept, starts]

end Deliveries

/-! ## The theorem -/

section Agreement

variable (lowercase : Char → List Char)

/-- The trimmed tag of the subscription is the normalised one, where the status has that;
and it is no hashtag of the markup of a local status alone. -/
def Agreeable (stream hashtag : String) (status : IndexedStatus) : Prop :=
  match status.content with
  | .local text =>
    (normalizeHashtag lowercase hashtag ∈ extractHashtagsFromText text →
        trim hashtag = normalizeHashtag lowercase hashtag)
      ∧ (trim hashtag ∈ extractHashtagsFromHtml (renderStatusHtml text) →
        trim hashtag ∈ extractHashtagsFromText text)
  | .remote contentHtml =>
    stream = "hashtag" →
      normalizeHashtag lowercase hashtag ∈ extractHashtagsFromHtml contentHtml →
        trim hashtag = normalizeHashtag lowercase hashtag

variable {lowercase} {status : IndexedStatus} {arrival : StatusArrival}

theorem normalizeHashtag_of_trim (lowers : LowersAscii lowercase) {hashtag : String}
    (extracted : IsExtracted (trim hashtag)) :
    normalizeHashtag lowercase hashtag = trim hashtag := by
  have again := normalizeHashtag_of_isExtracted lowers extracted
  rwa [normalizeHashtag, trim_trim] at again

/-- **The hub and the timeline agree** on a public status and a tag exactly if the trimmed
tag is the normalised one, where the status has that, and is not a hashtag of the markup of
a local status alone. -/
theorem hub_agrees_with_tag_timeline_iff (lowers : LowersAscii lowercase)
    (published : ArrivalOf status arrival) (isPublic : status.visibility = .publicPost)
    {stream : String} (tagged : streamingChannelRequiresTag stream = true) (hashtag : String)
    (list : Option String) :
    ((Delivered arrival (.new stream (some hashtag) list)
        ↔ tagTimelineContains lowercase hashtag (tagTimelineQueryOf stream) status = true)
      ↔ Agreeable lowercase stream hashtag status) := by
  have plain : (tagTimelineQueryOf stream).Plain := ⟨rfl, rfl, rfl, rfl⟩
  have norm : ∀ {content : StatusContent}, trim hashtag ∈ content.hashtags →
      normalizeHashtag lowercase hashtag = trim hashtag := fun mem =>
    normalizeHashtag_of_trim lowers (StatusContent.isExtracted mem)
  rw [delivered_iff published isPublic tagged, tagTimelineContains_iff lowers plain, Agreeable]
  simp only [isPublic, true_and]
  cases content : status.content with
  | «local» text =>
    have listed : stream ∈ hashtagStreams (.local text) := by
      rcases requiresTag_iff.mp tagged with rfl | rfl <;> simp [hashtagStreams]
    have included : (tagTimelineQueryOf stream).includes (.local text) = true := by
      rcases requiresTag_iff.mp tagged with rfl | rfl <;> rfl
    have tags : trim hashtag ∈ publishedTags status
        ↔ trim hashtag ∈ extractHashtagsFromText text
          ∨ trim hashtag ∈ extractHashtagsFromHtml (renderStatusHtml text) := by
      rw [publishedTags, content]
      exact mem_pushMissing
    have ofText := @norm (.local text)
    have ofHtml := @norm (.remote (renderStatusHtml text))
    have read : normalizeHashtag lowercase hashtag ∈ StatusContent.hashtags (.local text)
        ↔ normalizeHashtag lowercase hashtag ∈ extractHashtagsFromText text := Iff.rfl
    simp only [listed, included, tags, read, true_and]
    constructor
    · intro agree
      refine ⟨fun got => ?_, fun inHtml => ?_⟩
      · rcases agree.mpr got with inText | inHtml
        · exact (ofText inText).symm
        · exact (ofHtml inHtml).symm
      · have got := agree.mp (Or.inr inHtml)
        rwa [ofHtml inHtml] at got
    · rintro ⟨eq, inBoth⟩
      refine ⟨fun published => ?_, fun got => ?_⟩
      · have inText := published.elim id inBoth
        rw [ofText inText]
        exact inText
      · left
        rw [eq got]
        exact got
  | remote contentHtml =>
    have tags : trim hashtag ∈ publishedTags status
        ↔ trim hashtag ∈ extractHashtagsFromHtml contentHtml := by
      have held := status.indexed (trim hashtag)
      rw [content] at held
      rw [publishedTags, content]
      exact mem_pushMissing.trans (or_iff_left_of_imp held.mp)
    have ofHtml := @norm (.remote contentHtml)
    have read : normalizeHashtag lowercase hashtag ∈ StatusContent.hashtags (.remote contentHtml)
        ↔ normalizeHashtag lowercase hashtag ∈ extractHashtagsFromHtml contentHtml := Iff.rfl
    rcases requiresTag_iff.mp tagged with rfl | rfl
    · have listed : "hashtag" ∈ hashtagStreams (.remote contentHtml) := List.mem_singleton_self _
      have included : (tagTimelineQueryOf "hashtag").includes (.remote contentHtml) = true := rfl
      simp only [listed, included, tags, read, true_and, forall_true_left]
      constructor
      · intro agree got
        exact (ofHtml (agree.mpr got)).symm
      · intro eq
        refine ⟨fun inHtml => ?_, fun got => ?_⟩
        · rw [ofHtml inHtml]
          exact inHtml
        · rw [eq got]
          exact got
    · have unlisted : "hashtag:local" ∉ hashtagStreams (.remote contentHtml) := by
        simp [hashtagStreams]
      have excluded : (tagTimelineQueryOf "hashtag:local").includes (.remote contentHtml)
          = false := rfl
      simp [unlisted, excluded]

end Agreement

/-! ## Two statuses -/

/-- A status of the account `bob`, or of a remote actor. -/
def originOf : StatusContent → StatusOrigin
  | .local _ => .local "bob" ⟨"s", "{}"⟩
  | .remote _ => .remote

theorem id_of_originOf (content : StatusContent) :
    ∀ rendered ∈ (originOf content).documents ⟨"s", "{}"⟩, rendered.id = "s" := by
  intro rendered mem
  cases content with
  | «local» text | remote contentHtml =>
    have eq : rendered = ⟨"s", "{}"⟩ := by simpa [originOf, StatusOrigin.documents] using mem
    rw [eq]

theorem forall_mem_recipients_nil :
    ∀ recipient ∈ ([] : List DirectRecipient), ∀ conv ∈ recipient.conversation,
      (none : Option String) = some conv.id :=
  fun _ bad => absurd bad List.not_mem_nil

def arrivalWithoutFollowers (status : IndexedStatus) : StatusArrival where
  id := "s"
  origin := originOf status.content
  visibility := status.visibility
  hasMedia := status.hasMedia
  tags := publishedTags status
  document := ⟨"s", "{}"⟩
  followers := []
  lists := []
  recipients := []
  conversationId := none
  documentIds := id_of_originOf status.content
  conversationIds := forall_mem_recipients_nil

theorem arrivalOf_withoutFollowers (status : IndexedStatus) :
    ArrivalOf status (arrivalWithoutFollowers status) where
  visibility := rfl
  tags := rfl
  origin := by
    have eq : (arrivalWithoutFollowers status).origin = originOf status.content := rfl
    rw [eq]
    cases status.content with
    | «local» text => exact ⟨"bob", ⟨"s", "{}"⟩, rfl⟩
    | remote contentHtml => rfl

def rustStatus : IndexedStatus := .written (.local "Learning #Rust") .publicPost false []

def itsStatus : IndexedStatus := .written (.local "it's") .publicPost false []

def asciiLowercase (c : Char) : List Char := [c.toLower]

theorem lowersAscii_asciiLowercase : LowersAscii asciiLowercase := fun _ _ => rfl

/-- A tag with blanks around it. -/
theorem hub_agrees_with_tag_timeline_rust :
    Delivered (arrivalWithoutFollowers rustStatus) (.new "hashtag" (some " rust ") none)
      ↔ tagTimelineContains asciiLowercase " rust " (tagTimelineQueryOf "hashtag") rustStatus
        = true :=
  (hub_agrees_with_tag_timeline_iff lowersAscii_asciiLowercase
    (arrivalOf_withoutFollowers rustStatus) rfl (by decide) " rust " none).mpr
    ⟨fun _ => by decide +kernel, fun _ => by decide +kernel⟩

/-- **Capital letters, hash signs and entities tell them apart.**  The timeline of `Rust`,
or of `#rust`, shows a status with that hashtag, and the hub does not deliver it to a
subscription of these; and the hub delivers a status with an apostrophe to a subscription
of `39`, which the timeline does not show. -/
theorem hub_and_tag_timeline_differ :
    (∀ hashtag ∈ ["Rust", "#rust"],
        ¬Delivered (arrivalWithoutFollowers rustStatus) (.new "hashtag" (some hashtag) none)
          ∧ tagTimelineContains asciiLowercase hashtag (tagTimelineQueryOf "hashtag") rustStatus
            = true)
      ∧ Delivered (arrivalWithoutFollowers itsStatus) (.new "hashtag" (some "39") none)
      ∧ tagTimelineContains asciiLowercase "39" (tagTimelineQueryOf "hashtag") itsStatus
        = false := by
  have deliveredRust := fun hashtag => delivered_iff (arrivalOf_withoutFollowers rustStatus) rfl
    (show streamingChannelRequiresTag "hashtag" = true by decide) hashtag none
  have deliveredIts := delivered_iff (arrivalOf_withoutFollowers itsStatus) rfl
    (show streamingChannelRequiresTag "hashtag" = true by decide) "39" none
  refine ⟨fun hashtag mem => ?_, ?_, by decide +kernel⟩
  · rw [deliveredRust]
    simp only [List.mem_cons, List.not_mem_nil, or_false] at mem
    rcases mem with rfl | rfl
    · exact ⟨by decide +kernel, by decide +kernel⟩
    · exact ⟨by decide +kernel, by decide +kernel⟩
  · rw [deliveredIts]
    decide +kernel

end Cfwdon.Streaming
