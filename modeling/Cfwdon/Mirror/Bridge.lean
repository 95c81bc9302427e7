import Cfwdon.Library.Json
import Cfwdon.Library.Run
import Cfwdon.Library.Text

/-!
# The mirror bridge

What the bridge reads of an activity, and what it does with it, call by call.
-/

namespace Cfwdon.Mirror

section Documents

/-! ## What the mirror bridge reads of an activity

The bridge mirrors public notes of the actors of its allowlist.  A delivery to its inbox
that is signed by such an actor, and carries a `Create` of a public note that the actor is
the author of, becomes a job; every other delivery is answered without one.

The signature check and the JSON reader come from outside: a delivery is given as the
actor that signed it and the document that was read.
-/

open Library

/-- The characters that `String.prototype.trim` drops. -/
def isJsWhitespace (c : Char) : Bool :=
  let n := c.toNat
  (9 ≤ n && n ≤ 13) || n == 32 || n == 0xA0 || n == 0x1680 || (0x2000 ≤ n && n ≤ 0x200A)
    || n == 0x2028 || n == 0x2029 || n == 0x202F || n == 0x205F || n == 0x3000 || n == 0xFEFF

/-- `text.trim() || null`. -/
def trimmed (text : String) : Option String :=
  if trimMatches isJsWhitespace text = "" then none
  else some (trimMatches isJsWhitespace text)

def asString : Option Json → Option String
  | some (.string text) => trimmed text
  | _ => none

def asObject : Option Json → Option Json
  | some (.object fields) => some (.object fields)
  | _ => none

def activityHasType (value : Json) (expected : String) : Bool :=
  match value.get "type" with
  | some (.string type) => type == expected
  | some (.array types) => types.any fun type => type.asStr == some expected
  | _ => false

def activityObjectId : Json → Option String
  | .string text => trimmed text
  | .object fields => asString ((Json.object fields).get "id")
  | _ => none

mutual
def firstUri : Json → Option String
  | .string text => trimmed text
  | .array values => firstUriOfAll values
  | .object fields => asString ((Json.object fields).get "id")
  | _ => none

/-- The loop of `firstUri` over an array. -/
def firstUriOfAll : List Json → Option String
  | [] => none
  | value :: rest => (firstUri value).or (firstUriOfAll rest)
end

def attributedToUri (object activity : Json) : Option String :=
  ((object.get "attributedTo").bind firstUri).or ((activity.get "actor").bind firstUri)

def objectSourceUrl (object : Json) : String :=
  ((asString (object.get "url")).or (asString (object.get "id"))).getD ""

def objectContentHtml (object : Json) : String :=
  ((asString (object.get "content")).or (asString (object.get "summary"))).getD ""

/-! ## The audience -/

mutual
def flattenAudience : Json → List String
  | .string text => (trimmed text).toList
  | .array values => flattenAudiences values
  | .object fields => (asString ((Json.object fields).get "id")).toList
  | _ => []

/-- The loop of `flattenAudience` over an array. -/
def flattenAudiences : List Json → List String
  | [] => []
  | value :: rest => flattenAudience value ++ flattenAudiences rest
end

def isPublicAudienceUri (uri : String) : Bool :=
  uri == "https://www.w3.org/ns/activitystreams#Public" || uri == "as:Public" || uri == "Public"

def audienceContainsPublic (value : Option Json) : Bool :=
  (value.elim [] flattenAudience).any isPublicAudienceUri

/-- The public appears in `to`. -/
def isMastodonPublicNote (object activity : Json) : Bool :=
  audienceContainsPublic (object.get "to") || audienceContainsPublic (activity.get "to")

/-! ## Jobs -/

structure MirrorJob where
  activityId : String
  objectId : String
  contentHtml : String
  sourceUrl : String
  attributedTo : String
  deriving DecidableEq

/-- What `handleInboxPost` and `processMirrorJob` read of the `BridgeConfig`. -/
structure BridgeConfig where
  allowlist : List String
  appendSourceUrl : Bool
  maxTweetChars : Nat

/-- A delivery to the inbox: the actor whose signature was verified, and the document of
the body. -/
structure InboxRequest where
  signedActor : Option String
  activity : Option Json

/-- `handleInboxPost` before it asks the store: the job of the note, unless the delivery is
answered without one. -/
def mirrorJobOf (config : BridgeConfig) (request : InboxRequest) : Option MirrorJob := do
  let signedActor ← request.signedActor
  let activity ← request.activity
  -- `Accept` and `Reject` only record the state of a follow
  if activityHasType activity "Accept" || activityHasType activity "Reject" then none
  else if !activityHasType activity "Create" then none
  else
    let object ← asObject (activity.get "object")
    if !activityHasType object "Note" || !isMastodonPublicNote object activity then none
    else
      let attributedTo ← attributedToUri object activity
      if attributedTo ∉ config.allowlist ∨ signedActor ≠ attributedTo then none
      else
        let activityId ← asString (activity.get "id")
        let objectId ← (activityObjectId object).or (asString (object.get "id"))
        some {
          activityId := activityId
          objectId := objectId
          contentHtml := objectContentHtml object
          sourceUrl := objectSourceUrl object
          attributedTo := attributedTo }

end Documents

section Bridge

/-! ## The mirror bridge, call by call

A delivery to the inbox claims its activity in the store, looks up whether its note was
mirrored, and puts a job in the queue.  A run of a job looks the note up again, asks X for
a tweet and records which one it is.  Each of these is a call of its own: deliveries and
runs interleave between their calls, and each may fail between any two of them.

The store is eventually consistent and its entries expire: it is the list of what was put,
and a read sees nothing or a value that was put under the key.  The queue hands a job out
any number of times.  `BridgeStep` has one constructor per call.
-/

open Library

def activityKey (activityId : String) : String := "activity:" ++ activityId

def objectKey (objectId : String) : String := "object:" ++ objectId

def MaySee (puts : List (String × String)) (key : String) (seen : Option String) : Prop :=
  ∀ value ∈ seen, (key, value) ∈ puts

theorem activityKey_inj {first second : String} (eq : activityKey first = activityKey second) :
    first = second := by
  have chars := congrArg String.toList eq
  simp only [activityKey, String.toList_append, List.append_cancel_left_eq] at chars
  exact String.toList_inj.mp chars

theorem objectKey_inj {first second : String} (eq : objectKey first = objectKey second) :
    first = second := by
  have chars := congrArg String.toList eq
  simp only [objectKey, String.toList_append, List.append_cancel_left_eq] at chars
  exact String.toList_inj.mp chars

theorem activityKey_ne_objectKey (actId objectId : String) :
    activityKey actId ≠ objectKey objectId := by
  intro eq
  have chars := congrArg (fun text => text.toList.head?) eq
  simp [activityKey, objectKey] at chars

/-! ## Deliveries and runs -/

/-- Where `handleInboxPost` is, once the delivery has a job. -/
inductive DeliveryStage where
  | received
  /-- The claim was not found, and is not written yet. -/
  | claiming
  | claimed
  /-- The note was not mirrored. -/
  | enqueueing
  /-- Only the answer is left. -/
  | enqueued
  deriving DecidableEq

structure Delivery where
  job : MirrorJob
  stage : DeliveryStage
  deriving DecidableEq

/-- Where `processMirrorJob` is. -/
inductive RunStage where
  | started
  /-- The note was not mirrored: X is asked for a tweet. -/
  | posting
  | posted (tweetId : String)
  deriving DecidableEq

structure JobRun where
  job : MirrorJob
  stage : RunStage
  deriving DecidableEq

/-- The bridge.  The last five are history: the notes that deliveries brought, those that
were put in the queue, those whose delivery was answered with an error, those accepted
after that, and the objects of the tweets that X made. -/
structure Bridge where
  puts : List (String × String)
  deliveries : List Delivery
  runs : List JobRun
  brought : List MirrorJob
  enqueued : List MirrorJob
  failed : List MirrorJob
  retried : List MirrorJob
  posted : List String

namespace Bridge

/-- A bridge that has done nothing. -/
def start : Bridge := ⟨[], [], [], [], [], [], [], []⟩

/-- The answer `202` to a delivery: a retry, if its note's delivery had failed. -/
def accept (job : MirrorJob) (s : Bridge) : Bridge :=
  if job ∈ s.failed then { s with retried := s.retried ++ [job] } else s

/-- A note was put in the queue. -/
def Queued (s : Bridge) (objectId : String) : Prop :=
  objectId ∈ s.enqueued.map MirrorJob.objectId

/-- The tweet of a note was recorded. -/
def Recorded (s : Bridge) (objectId : String) : Prop :=
  ∃ tweetId, (objectKey objectId, tweetId) ∈ s.puts

end Bridge

/-! ## Steps -/

inductive BridgeEvent where
  | arrives (config : BridgeConfig) (request : InboxRequest)
  | readsClaim (delivery : Delivery) (seen : Option String)
  | putsClaim (delivery : Delivery)
  | looksUp (delivery : Delivery) (seen : Option String)
  | enqueues (delivery : Delivery)
  | answers (delivery : Delivery)
  | deliveryFails (delivery : Delivery)
  | starts (job : MirrorJob)
  | readsTweet (config : BridgeConfig) (run : JobRun) (seen : Option String)
  | tweets (run : JobRun) (tweetId : String)
  | tweetsUnanswered (run : JobRun)
  | records (run : JobRun) (tweetId : String)
  | runEnds (run : JobRun)

section Steps

variable (buildTweetText : BridgeConfig → MirrorJob → String)

/-- A run that did not see a tweet goes on to ask for one: the actor is still allowed, and
the text is not blank. -/
def goesOn (config : BridgeConfig) (job : MirrorJob) : Bool :=
  decide (job.attributedTo ∈ config.allowlist) && (trimmed (buildTweetText config job)).isSome

/-- The next call of a delivery or of a run.  A call that fails ends it, as does a failure
between two calls; the sender is then answered with an error, and the queue hands the job
out again. -/
inductive BridgeStep : Bridge → BridgeEvent → Bridge → Prop where
  | dismisses {s : Bridge} {config : BridgeConfig} {request : InboxRequest}
      (noJob : mirrorJobOf config request = none) :
      BridgeStep s (.arrives config request) s
  | arrives {s : Bridge} {config : BridgeConfig} {request : InboxRequest} {job : MirrorJob}
      (asked : mirrorJobOf config request = some job) :
      BridgeStep s (.arrives config request)
        { s with deliveries := s.deliveries ++ [⟨job, .received⟩],
                 brought := s.brought ++ [job] }
  -- `claimActivity`: an activity that was claimed is answered
  | findsClaim {s : Bridge} {earlier later : List Delivery} {job : MirrorJob} {value : String}
      (handled : s.deliveries = earlier ++ ⟨job, .received⟩ :: later)
      (sees : MaySee s.puts (activityKey job.activityId) (some value)) :
      BridgeStep s (.readsClaim ⟨job, .received⟩ (some value))
        ({ s with deliveries := earlier ++ later }.accept job)
  | misses {s : Bridge} {earlier later : List Delivery} {job : MirrorJob}
      (handled : s.deliveries = earlier ++ ⟨job, .received⟩ :: later) :
      BridgeStep s (.readsClaim ⟨job, .received⟩ none)
        { s with deliveries := earlier ++ ⟨job, .claiming⟩ :: later }
  | putsClaim {s : Bridge} {earlier later : List Delivery} {job : MirrorJob}
      (handled : s.deliveries = earlier ++ ⟨job, .claiming⟩ :: later) :
      BridgeStep s (.putsClaim ⟨job, .claiming⟩)
        { s with deliveries := earlier ++ ⟨job, .claimed⟩ :: later,
                 puts := s.puts ++ [(activityKey job.activityId, "claimed")] }
  -- a note that was mirrored is answered
  | findsTweet {s : Bridge} {earlier later : List Delivery} {job : MirrorJob} {value : String}
      (handled : s.deliveries = earlier ++ ⟨job, .claimed⟩ :: later)
      (sees : MaySee s.puts (objectKey job.objectId) (some value)) :
      BridgeStep s (.looksUp ⟨job, .claimed⟩ (some value))
        ({ s with deliveries := earlier ++ later }.accept job)
  | missesTweet {s : Bridge} {earlier later : List Delivery} {job : MirrorJob}
      (handled : s.deliveries = earlier ++ ⟨job, .claimed⟩ :: later) :
      BridgeStep s (.looksUp ⟨job, .claimed⟩ none)
        { s with deliveries := earlier ++ ⟨job, .enqueueing⟩ :: later }
  | enqueues {s : Bridge} {earlier later : List Delivery} {job : MirrorJob}
      (handled : s.deliveries = earlier ++ ⟨job, .enqueueing⟩ :: later) :
      BridgeStep s (.enqueues ⟨job, .enqueueing⟩)
        { s with deliveries := earlier ++ ⟨job, .enqueued⟩ :: later,
                 enqueued := s.enqueued ++ [job] }
  | answers {s : Bridge} {earlier later : List Delivery} {job : MirrorJob}
      (handled : s.deliveries = earlier ++ ⟨job, .enqueued⟩ :: later) :
      BridgeStep s (.answers ⟨job, .enqueued⟩)
        ({ s with deliveries := earlier ++ later }.accept job)
  | deliveryFails {s : Bridge} {earlier later : List Delivery} {delivery : Delivery}
      (handled : s.deliveries = earlier ++ delivery :: later) :
      BridgeStep s (.deliveryFails delivery)
        { s with deliveries := earlier ++ later, failed := s.failed ++ [delivery.job] }
  | starts {s : Bridge} {job : MirrorJob} (queued : job ∈ s.enqueued) :
      BridgeStep s (.starts job) { s with runs := s.runs ++ [⟨job, .started⟩] }
  | completed {s : Bridge} {config : BridgeConfig} {earlier later : List JobRun}
      {job : MirrorJob} {value : String}
      (running : s.runs = earlier ++ ⟨job, .started⟩ :: later)
      (sees : MaySee s.puts (objectKey job.objectId) (some value)) :
      BridgeStep s (.readsTweet config ⟨job, .started⟩ (some value))
        { s with runs := earlier ++ later }
  | drops {s : Bridge} {config : BridgeConfig} {earlier later : List JobRun} {job : MirrorJob}
      (running : s.runs = earlier ++ ⟨job, .started⟩ :: later)
      (dropped : goesOn buildTweetText config job = false) :
      BridgeStep s (.readsTweet config ⟨job, .started⟩ none) { s with runs := earlier ++ later }
  | posts {s : Bridge} {config : BridgeConfig} {earlier later : List JobRun} {job : MirrorJob}
      (running : s.runs = earlier ++ ⟨job, .started⟩ :: later)
      (allowed : goesOn buildTweetText config job = true) :
      BridgeStep s (.readsTweet config ⟨job, .started⟩ none)
        { s with runs := earlier ++ ⟨job, .posting⟩ :: later }
  -- `createTweet`, answered with the id of the tweet
  | tweets {s : Bridge} {earlier later : List JobRun} {job : MirrorJob} {tweetId : String}
      (running : s.runs = earlier ++ ⟨job, .posting⟩ :: later) (named : tweetId ≠ "") :
      BridgeStep s (.tweets ⟨job, .posting⟩ tweetId)
        { s with runs := earlier ++ ⟨job, .posted tweetId⟩ :: later,
                 posted := s.posted ++ [job.objectId] }
  -- X made the tweet, and its answer was lost or has no id
  | tweetsUnanswered {s : Bridge} {earlier later : List JobRun} {job : MirrorJob}
      (running : s.runs = earlier ++ ⟨job, .posting⟩ :: later) :
      BridgeStep s (.tweetsUnanswered ⟨job, .posting⟩)
        { s with runs := earlier ++ later, posted := s.posted ++ [job.objectId] }
  | records {s : Bridge} {earlier later : List JobRun} {job : MirrorJob} {tweetId : String}
      (running : s.runs = earlier ++ ⟨job, .posted tweetId⟩ :: later) :
      BridgeStep s (.records ⟨job, .posted tweetId⟩ tweetId)
        { s with runs := earlier ++ later,
                 puts := s.puts ++ [(objectKey job.objectId, tweetId)] }
  -- X made no tweet, or the run failed between two calls
  | runEnds {s : Bridge} {earlier later : List JobRun} {run : JobRun}
      (running : s.runs = earlier ++ run :: later) :
      BridgeStep s (.runEnds run) { s with runs := earlier ++ later }

end Steps

end Bridge

end Cfwdon.Mirror
