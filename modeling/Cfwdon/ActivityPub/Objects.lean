import Cfwdon.Accounts.Handles
import Cfwdon.Library.Json
import Cfwdon.Statuses.Content

/-!
# Documents of other servers

The audience an activity names, and what else is read off an activity or an object.
-/

namespace Cfwdon.ActivityPub

section Audience

/-! ## Audiences of activities

The `to` and `cc` of an activity and of its object name the audience: an actor,
a collection, or the public collection under either of its names.
-/

open Library

/-- The public collection, under its full or its short name. -/
def isPublicAudienceUri (value : String) : Bool :=
  value == "https://www.w3.org/ns/activitystreams#Public" || value == "as:Public"

mutual
/-- The URIs a value names: a string, the `id` of an object, or those of a list. -/
def activitypubUris : Json → List String
  | .string uri => [uri]
  | .array values => activitypubUrisOfList values
  | .object fields =>
    match ((fields.lookup "id").or (fields.lookup "@id")).bind Json.asStr with
    | some uri => [uri]
    | none => []
  | _ => []

def activitypubUrisOfList : List Json → List String
  | [] => []
  | entry :: rest => activitypubUris entry ++ activitypubUrisOfList rest
end

/-- The URIs of a field that may be missing. -/
def collectActivitypubUris : Option Json → List String
  | some value => activitypubUris value
  | none => []

/-- The `to` and `cc` of an activity and of its object. -/
def activityAudienceUris (activity : Json) : List String :=
  ["to", "cc"].flatMap fun key =>
    collectActivitypubUris (activity.get key)
      ++ collectActivitypubUris ((activity.get "object").bind (Json.get key))

def noteTargetsPublic (object : Json) : Bool :=
  (activityAudienceUris (.object [("object", object)])).any isPublicAudienceUri

end Audience

section Objects

/-! ## Documents of other servers

What is read off an activity or an object: its types, the URI it names, who it is
attributed to and how far it is addressed.
-/

open Library Statuses

def activitypubTypeStrings : Option Json → List String
  | some (.string value) => [value]
  | some (.array values) => values.filterMap Json.asStr
  | _ => []

def activitypubHasType (object : Json) (expected : String) : Bool :=
  (activitypubTypeStrings (object.get "type")).contains expected

def activitypubPrimaryType (object : Json) : Option String :=
  (activitypubTypeStrings (object.get "type")).head?

def inboxActivityType (activity : Json) : String :=
  (activitypubPrimaryType activity).getD ""

def objectHasActivitypubActorType (object : Json) : Bool :=
  (activitypubTypeStrings (object.get "type")).any fun value =>
    ["Person", "Application", "Group", "Organization", "Service"].contains value

def objectHasSupportedRemoteStatusType (object : Json) : Bool :=
  (activitypubTypeStrings (object.get "type")).any fun value =>
    ["Note", "Question"].contains value

/-- The document itself or the object it wraps. -/
def extractRemoteNoteObject (document : Json) : Option Json :=
  if objectHasSupportedRemoteStatusType document then some document
  else (document.get "object").filter objectHasSupportedRemoteStatusType

/-! ## The URI of a value -/

/-- A text without surrounding whitespace, unless nothing is left of it. -/
def nonBlank (value : String) : Option String :=
  (some (trim value)).filter fun trimmed => trimmed ≠ ""

mutual
/-- The first URI a value names. -/
def idOf : Json → Option String
  | .string value => nonBlank value
  | .object fields =>
    (((fields.lookup "id").or (fields.lookup "@id")).bind Json.asStr).bind nonBlank
  | .array values => idOfList values
  | _ => none

def idOfList : List Json → Option String
  | [] => none
  | entry :: rest =>
    match idOf entry with
    | some uri => some uri
    | none => idOfList rest
end

def activityObjectId (value : Option Json) : Option String :=
  value.bind idOf

def extractActivityActorUri (activity : Json) : Option String :=
  activityObjectId (activity.get "actor")

def relayFollowActivityIdFromAccept (activity : Json) : Option String :=
  activityObjectId (activity.get "object")

def objectAttributedToRemoteActor (object activity : Json) (canonicalActorUri : String) : Bool :=
  ((activityObjectId (object.get "attributedTo")).or (activityObjectId (activity.get "actor"))).any
    fun value => value == canonicalActorUri

/-- The first of the three fields that is not blank. -/
def quoteTargetUriFromObject (object : Json) : Option String :=
  ["quoteUri", "quoteUrl", "_misskey_quote"].findSome? fun key =>
    ((object.get key).bind Json.asStr).bind nonBlank

/-! ## Audiences -/

def isFollowersCollectionUri (value : String) : Bool :=
  endsWith (trimEndMatches value '/') "/followers"

def containsPublicAudience (value : Option Json) : Bool :=
  (collectActivitypubUris value).any isPublicAudienceUri

def containsFollowersAudience (value : Option Json) : Bool :=
  (collectActivitypubUris value).any isFollowersCollectionUri

def visibilityFromActivitypubAudiences
    (toContainsPublic ccContainsPublic addressesFollowers : Bool) : Visibility :=
  if toContainsPublic then .publicPost
  else if ccContainsPublic then .unlisted
  else if addressesFollowers then .followersOnly
  else .direct

def visibilityFromActivitypubObject (object : Json) : Visibility :=
  visibilityFromActivitypubAudiences
    (containsPublicAudience (object.get "to"))
    (containsPublicAudience (object.get "cc"))
    (containsFollowersAudience (object.get "to") || containsFollowersAudience (object.get "cc"))

def instanceBaseUrl (instanceDomain : String) : String :=
  let domain := trimEndMatches (trim instanceDomain) '/'
  if startsWith domain "https://" || startsWith domain "http://" then domain
  else "https://" ++ Accounts.instanceHost instanceDomain

def actorUrl (instanceDomain username : String) : String :=
  instanceBaseUrl instanceDomain ++ "/users/" ++ username

/-- The actor of the account, any followers collection, or the public. -/
def noteTargetsAccountOrFollowers (object : Json) (username instanceDomain : String) : Bool :=
  let audience := activityAudienceUris (.object [("object", object)])
  audience.contains (actorUrl instanceDomain username)
    || audience.any isFollowersCollectionUri
    || noteTargetsPublic object

end Objects

end Cfwdon.ActivityPub
