import Cfwdon.Library.Lists
import Cfwdon.Remote.Store

/-!
# The audience of a status and the visibility read off it

A status is emitted with its visibility encoded in `to` and `cc`: the public
collection, the followers collection of the author, and the actors the text
addresses.  Both parsers of remote objects decode the visibility from the two
lists by the form of each URI, so an addressed actor whose URI has the form of a
collection is taken for one.
-/

namespace Cfwdon.Remote

open Library ActivityPub Statuses Accounts

/-! ## The emitted lists -/

/-- The followers collection of an author. -/
def followersUri (instanceDomain username : String) : String :=
  actorUrl instanceDomain username ++ "/followers"

def activitypubAudiencesForVisibility (instanceDomain username : String)
    (visibility : Visibility) : Json × Json :=
  let publicAudience := Json.array [.string "https://www.w3.org/ns/activitystreams#Public"]
  let followers := Json.array [.string (followersUri instanceDomain username)]
  match visibility with
  | .publicPost => (publicAudience, followers)
  | .unlisted => (followers, publicAudience)
  | .followersOnly => (followers, .array [])
  | .direct => (.array [], .array [])

def audienceUriList : Json → List String
  | .array values => values.filterMap Json.asStr
  | .string uri => [uri]
  | _ => []

def audienceJson (uris : List String) : Json :=
  .array (uris.map Json.string)

/-- `append_unique_uris`, with the URIs seen so far. -/
def appendUniqueUris : List String → List String → List String → List String
  | target, _, [] => target
  | target, seen, uri :: rest =>
    if uri ∈ seen then appendUniqueUris target seen rest
    else appendUniqueUris (target ++ [uri]) (uri :: seen) rest

/-- `activitypub_audiences_for_status`, with the actors the status addresses. -/
def activitypubAudiencesForStatus (instanceDomain username : String) (visibility : Visibility)
    (addressed : List String) : Json × Json :=
  if visibility = .direct then (audienceJson addressed, .array [])
  else
    let (baseTo, baseCc) := activitypubAudiencesForVisibility instanceDomain username visibility
    if addressed.isEmpty then (baseTo, baseCc)
    else
      let toUris := audienceUriList baseTo
      let ccUris := audienceUriList baseCc
      (audienceJson (appendUniqueUris toUris (toUris ++ ccUris) addressed), audienceJson ccUris)

/-- The note of a status, with the fields besides its audience. -/
def noteWithAudiences (audiences : Json × Json) (others : List (String × Json)) : Json :=
  .object (("to", audiences.1) :: ("cc", audiences.2) :: others)

def visibilityFromAudienceLists (toAudiences ccAudiences : List String) : Visibility :=
  visibilityFromActivitypubAudiences (toAudiences.any isPublicAudienceUri)
    (ccAudiences.any isPublicAudienceUri)
    (toAudiences.any isFollowersCollectionUri || ccAudiences.any isFollowersCollectionUri)

/-- The addressed URIs that leave a visibility as it is: none is the public collection
where the status is not public, and none looks like a followers collection where the
status is direct. -/
def NoAddressedCollection : Visibility → List String → Prop
  | .publicPost, _ => True
  | .unlisted, addressed => "as:Public" ∉ addressed
  | .followersOnly, addressed => ∀ uri ∈ addressed, isPublicAudienceUri uri = false
  | .direct, addressed =>
    ∀ uri ∈ addressed, isPublicAudienceUri uri = false ∧ isFollowersCollectionUri uri = false

/-! ## What the lists hold -/

theorem mem_appendUniqueUris {uri : String} {uris : List String} :
    ∀ {target seen : List String},
      uri ∈ appendUniqueUris target seen uris ↔ uri ∈ target ∨ (uri ∈ uris ∧ uri ∉ seen) := by
  induction uris with
  | nil => simp [appendUniqueUris]
  | cons first rest ih =>
    intro target seen
    rw [appendUniqueUris]
    split_ifs with held
    · rw [ih, List.mem_cons]
      constructor
      · rintro (old | ⟨later, unseen⟩)
        · exact Or.inl old
        · exact Or.inr ⟨Or.inr later, unseen⟩
      · rintro (old | ⟨rfl | later, unseen⟩)
        · exact Or.inl old
        · exact absurd held unseen
        · exact Or.inr ⟨later, unseen⟩
    · rw [ih, List.mem_append, List.mem_singleton, List.mem_cons, List.mem_cons]
      constructor
      · rintro ((old | rfl) | ⟨later, unseen⟩)
        · exact Or.inl old
        · exact Or.inr ⟨Or.inl rfl, held⟩
        · exact Or.inr ⟨Or.inr later, fun mem => unseen (Or.inr mem)⟩
      · rintro (old | ⟨rfl | later, unseen⟩)
        · exact Or.inl (Or.inl old)
        · exact Or.inl (Or.inr rfl)
        · by_cases eq : uri = first
          · exact Or.inl (Or.inr eq)
          · exact Or.inr ⟨later, fun mem => mem.elim eq unseen⟩

variable (domain username : String) (uris : List String)

theorem isFollowers_followersUri :
    isFollowersCollectionUri (followersUri domain username) = true := by
  simp [isFollowersCollectionUri, followersUri, trimEndMatches, endsWith]

theorem isPublicAudience_followersUri :
    isPublicAudienceUri (followersUri domain username) = false := by
  have shaped := isFollowers_followersUri domain username
  cases isPublic : isPublicAudienceUri (followersUri domain username) with
  | false => rfl
  | true =>
    rw [isPublicAudienceUri, Bool.or_eq_true, beq_iff_eq, beq_iff_eq] at isPublic
    rcases isPublic with long | short
    · rw [long] at shaped
      exact absurd shaped (by decide)
    · rw [short] at shaped
      exact absurd shaped (by decide)

/-! ## What the parsers find -/

theorem activitypubUris_audienceJson : activitypubUris (audienceJson uris) = uris := by
  rw [audienceJson, activitypubUris]
  induction uris with
  | nil => rfl
  | cons uri rest ih =>
    rw [List.map_cons, activitypubUrisOfList, activitypubUris, ih]
    rfl

theorem audiencesOf_audienceJson : audiencesOf (audienceJson uris) = uris := by
  rw [audienceJson, audiencesOf]
  induction uris with
  | nil => rfl
  | cons uri rest ih =>
    rw [List.map_cons, audiencesOfList, audiencesOf, ih]
    rfl

theorem parsers_of_noteWithAudiences (toUris ccUris : List String)
    (others : List (String × Json)) :
    visibilityFromActivitypubObject
          (noteWithAudiences (audienceJson toUris, audienceJson ccUris) others)
        = visibilityFromAudienceLists toUris ccUris
      ∧ incomingVisibility (noteWithAudiences (audienceJson toUris, audienceJson ccUris) others)
        = visibilityFromAudienceLists toUris ccUris := by
  have toField : (noteWithAudiences (audienceJson toUris, audienceJson ccUris) others).get "to"
      = some (audienceJson toUris) := rfl
  have ccField : (noteWithAudiences (audienceJson toUris, audienceJson ccUris) others).get "cc"
      = some (audienceJson ccUris) := rfl
  constructor
  · rw [visibilityFromActivitypubObject, toField, ccField]
    simp only [containsPublicAudience, containsFollowersAudience, collectActivitypubUris,
      activitypubUris_audienceJson, visibilityFromAudienceLists]
  · rw [incomingVisibility, toField, ccField]
    simp only [collectActivitypubAudiences, audiencesOf_audienceJson, visibilityFromAudienceLists]

/-- The `to` of a status, as URIs. -/
def emittedTo (instanceDomain username : String) : Visibility → List String → List String
  | .publicPost, addressed =>
    appendUniqueUris ["https://www.w3.org/ns/activitystreams#Public"]
      ["https://www.w3.org/ns/activitystreams#Public", followersUri instanceDomain username]
      addressed
  | .unlisted, addressed =>
    appendUniqueUris [followersUri instanceDomain username]
      [followersUri instanceDomain username, "https://www.w3.org/ns/activitystreams#Public"]
      addressed
  | .followersOnly, addressed =>
    appendUniqueUris [followersUri instanceDomain username]
      [followersUri instanceDomain username] addressed
  | .direct, addressed => addressed

/-- The `cc` of a status, as URIs. -/
def emittedCc (instanceDomain username : String) : Visibility → List String
  | .publicPost => [followersUri instanceDomain username]
  | .unlisted => ["https://www.w3.org/ns/activitystreams#Public"]
  | .followersOnly => []
  | .direct => []

theorem activitypubAudiencesForStatus_eq
    (vis : Visibility) (shown : List String) :
    activitypubAudiencesForStatus domain username vis shown
      = (audienceJson (emittedTo domain username vis shown),
          audienceJson (emittedCc domain username vis)) := by
  cases shown <;> cases vis <;> rfl

/-! ## Reading the visibility back -/

/-- An unlisted status reads as public exactly if the public collection is addressed by
its short name: its full name is in `cc` already. -/
theorem any_public_emittedTo_unlisted
    (addressed : List String) :
    (emittedTo domain username .unlisted addressed).any isPublicAudienceUri = false
      ↔ "as:Public" ∉ addressed := by
  rw [List.any_eq_false]
  constructor
  · intro none mem
    exact none "as:Public" (mem_appendUniqueUris.mpr (Or.inr ⟨mem, by
      intro seen
      rcases List.mem_pair.mp seen with own | long
      · have notPublic := isPublicAudience_followersUri domain username
        rw [← own] at notPublic
        exact absurd notPublic (by decide)
      · exact absurd long (by decide)⟩)) (by decide)
  · intro absent uri mem isPublic
    rcases mem_appendUniqueUris.mp mem with own | ⟨isAddressed, unseen⟩
    · rw [List.mem_singleton.mp own, isPublicAudience_followersUri] at isPublic
      exact absurd isPublic (by decide)
    · rw [isPublicAudienceUri, Bool.or_eq_true, beq_iff_eq, beq_iff_eq] at isPublic
      rcases isPublic with long | short
      · exact unseen (long ▸ by simp)
      · exact absent (short ▸ isAddressed)

/-- A followers-only status reads as public exactly if the public collection is
addressed. -/
theorem any_public_emittedTo_followersOnly
    (shown : List String) :
    (emittedTo domain username .followersOnly shown).any isPublicAudienceUri = false
      ↔ ∀ uri ∈ shown, isPublicAudienceUri uri = false := by
  have own := isPublicAudience_followersUri domain username
  simp only [List.any_eq_false, emittedTo, mem_appendUniqueUris, List.mem_singleton,
    Bool.not_eq_true]
  constructor
  · intro none uri mem
    by_cases eq : uri = followersUri domain username
    · rw [eq, own]
    · exact none uri (Or.inr ⟨mem, eq⟩)
  · rintro none uri (rfl | ⟨mem, -⟩)
    · exact own
    · exact none uri mem

theorem visibilityFromAudienceLists_emitted_iff
    (vis : Visibility) (addressed : List String) :
    visibilityFromAudienceLists (emittedTo domain username vis addressed)
        (emittedCc domain username vis) = vis
      ↔ NoAddressedCollection vis addressed := by
  have own := isFollowers_followersUri domain username
  cases vis with
  | publicPost =>
    have isPublic : (emittedTo domain username .publicPost addressed).any
        isPublicAudienceUri = true :=
      List.any_eq_true.mpr ⟨_, mem_appendUniqueUris.mpr (Or.inl (List.mem_singleton.mpr rfl)),
        by decide⟩
    simp [visibilityFromAudienceLists, visibilityFromActivitypubAudiences, isPublic,
      NoAddressedCollection]
  | unlisted =>
    have inCc : (emittedCc domain username .unlisted).any isPublicAudienceUri = true :=
      rfl
    rw [NoAddressedCollection, ← any_public_emittedTo_unlisted domain username]
    cases isPublic : (emittedTo domain username .unlisted addressed).any isPublicAudienceUri <;>
      simp [visibilityFromAudienceLists, visibilityFromActivitypubAudiences, isPublic, inCc]
  | followersOnly =>
    have followers : (emittedTo domain username .followersOnly addressed).any
        isFollowersCollectionUri = true :=
      List.any_eq_true.mpr ⟨_, mem_appendUniqueUris.mpr (Or.inl (List.mem_singleton.mpr rfl)),
        own⟩
    rw [NoAddressedCollection, ← any_public_emittedTo_followersOnly domain username]
    cases isPublic : (emittedTo domain username .followersOnly addressed).any
        isPublicAudienceUri <;>
      simp [visibilityFromAudienceLists, visibilityFromActivitypubAudiences, isPublic,
        followers, emittedCc]
  | direct =>
    have apart : NoAddressedCollection .direct addressed
        ↔ addressed.any isPublicAudienceUri = false
          ∧ addressed.any isFollowersCollectionUri = false := by
      simp only [NoAddressedCollection, List.any_eq_false, Bool.not_eq_true, forall_and]
    rw [apart, visibilityFromAudienceLists]
    simp only [emittedTo, emittedCc]
    cases addressed.any isPublicAudienceUri <;>
      cases addressed.any isFollowersCollectionUri <;>
      simp [visibilityFromActivitypubAudiences]

/-- **Both parsers read the visibility of a status back, exactly when no addressed URI is
taken for a collection the visibility leaves out.** -/
theorem visibility_reads_back_iff (instanceDomain username : String) (visibility : Visibility)
    (addressed : List String) (others : List (String × Json)) :
    (∀ parser ∈ [visibilityFromActivitypubObject, incomingVisibility],
        parser (noteWithAudiences
          (activitypubAudiencesForStatus instanceDomain username visibility addressed) others)
          = visibility)
      ↔ NoAddressedCollection visibility addressed := by
  have parsed := parsers_of_noteWithAudiences
    (emittedTo instanceDomain username visibility addressed)
    (emittedCc instanceDomain username visibility) others
  rw [activitypubAudiencesForStatus_eq, ← visibilityFromAudienceLists_emitted_iff instanceDomain
    username]
  simp only [List.forall_mem_cons, List.not_mem_nil, parsed.1, parsed.2, false_implies,
    implies_true, and_true, and_self]

/-- **A direct status to an actor named `followers` reads as one for the followers.** -/
theorem followers_actor_widens_direct :
    ¬ ∀ (instanceDomain username : String) (visibility : Visibility) (addressed : List String)
        (others : List (String × Json)),
      ∀ parser ∈ [visibilityFromActivitypubObject, incomingVisibility],
        parser (noteWithAudiences
          (activitypubAudiencesForStatus instanceDomain username visibility addressed) others)
          = visibility := by
  intro reads
  have widened := reads "local.example" "alice" .direct
    ["https://remote.example/users/followers"] [] visibilityFromActivitypubObject (by simp)
  exact absurd widened (by decide +kernel)

end Cfwdon.Remote
