import Cfwdon.Library.Lists
import Cfwdon.Mirror.Bridge
import Mathlib.Data.List.Count
import Mathlib.Data.List.Nodup

/-!
# One tweet a note, and no note lost

The bridge is to post each note once, and to put a note in the queue when a sender retries
its delivery after an error.  Both rest on marks in the store that are read before and
written after, or before, what they stand for: the record of a tweet is written after the
tweet, the claim of an activity before its job is queued.

The invariant has a half for the runs and one for the deliveries.  The first counts the
runs that ask for a tweet together with the tweets that were made, and accounts for each
tweet by its record or the run that is about to write it.  The second accounts for each
claim by a queued note or the delivery that is about to queue it.
-/

namespace Cfwdon.Mirror

open Library

/-- Each note is posted at most once, and the notes of retries are queued. -/
structure Mirrors (s : Bridge) : Prop where
  once : s.posted.Nodup
  queued : ∀ job ∈ s.retried, s.Queued job.objectId

/-- A delivery has claimed its activity and not queued its note yet. -/
def Delivery.Claims (delivery : Delivery) : Prop :=
  delivery.stage = .claimed ∨ delivery.stage = .enqueueing

/-- **No step falls into a window.**  A delivery does not fail between its claim and the
queue unless its note is queued already, and no retry reads that claim meanwhile; a run
reads the store only when no other run of the note is past its read, and sees the record
of the tweet if there is one; no failure falls between a tweet and its record.  The
activities of one id are of one note. -/
def Undisturbed (buildTweetText : BridgeConfig → MirrorJob → String) (s : Bridge) :
    BridgeEvent → Prop
  | .arrives config request => ∀ job, mirrorJobOf config request = some job →
      ∀ other ∈ s.brought, other.activityId = job.activityId → other.objectId = job.objectId
  | .readsClaim delivery seen => seen.isSome → delivery.job ∈ s.failed →
      ∀ other ∈ s.deliveries, other.job.activityId = delivery.job.activityId → ¬other.Claims
  | .deliveryFails delivery => delivery.Claims → s.Queued delivery.job.objectId
  | .readsTweet config run seen => seen = none →
      goesOn buildTweetText config run.job = true →
        ¬s.Recorded run.job.objectId
          ∧ ∀ other ∈ s.runs, other.job.objectId = run.job.objectId → other.stage = .started
  | .tweetsUnanswered _ => False
  | .runEnds run => ∀ tweetId, run.stage ≠ .posted tweetId
  | _ => True

/-! ## Answers -/

namespace Bridge

variable {s : Bridge} {job : MirrorJob}

@[simp] theorem accept_runs : (s.accept job).runs = s.runs := by
  unfold accept
  split_ifs <;> rfl

@[simp] theorem accept_posted : (s.accept job).posted = s.posted := by
  unfold accept
  split_ifs <;> rfl

@[simp] theorem accept_puts : (s.accept job).puts = s.puts := by
  unfold accept
  split_ifs <;> rfl

@[simp] theorem accept_deliveries : (s.accept job).deliveries = s.deliveries := by
  unfold accept
  split_ifs <;> rfl

@[simp] theorem accept_brought : (s.accept job).brought = s.brought := by
  unfold accept
  split_ifs <;> rfl

@[simp] theorem accept_enqueued : (s.accept job).enqueued = s.enqueued := by
  unfold accept
  split_ifs <;> rfl

theorem retried_accept (again : job ∈ s.failed) : (s.accept job).retried = s.retried ++ [job] := by
  rw [accept, if_pos again]

theorem mem_retried_accept {other : MirrorJob} (mem : other ∈ (s.accept job).retried) :
    other ∈ s.retried ∨ (other = job ∧ job ∈ s.failed) := by
  unfold accept at mem
  split_ifs at mem with again
  · rcases List.mem_append.mp mem with pre | now
    · exact Or.inl pre
    · exact Or.inr ⟨List.mem_singleton.mp now, again⟩
  · exact Or.inl mem

end Bridge

/-! ## The runs of jobs -/

/-- One for a run that is about to ask for a tweet of the note. -/
def JobRun.asking (objectId : String) (run : JobRun) : Nat :=
  if run.job.objectId = objectId ∧ run.stage = .posting then 1 else 0

/-- **Each note has one tweet at most**, made or about to be, and each tweet that was made
is recorded or about to be. -/
structure SinglePosts (s : Bridge) : Prop where
  single : ∀ objectId, total (JobRun.asking objectId) s.runs + s.posted.count objectId ≤ 1
  recorded : ∀ objectId ∈ s.posted, s.Recorded objectId
    ∨ ∃ run ∈ s.runs, run.job.objectId = objectId ∧ ∃ tweetId, run.stage = .posted tweetId

theorem asking_of_not_posting {objectId : String} {run : JobRun} (idle : run.stage ≠ .posting) :
    run.asking objectId = 0 :=
  if_neg fun asks => idle asks.2

section Runs

variable {s s' : Bridge}

theorem SinglePosts.frame (inv : SinglePosts s) (runs : s'.runs = s.runs)
    (posted : s'.posted = s.posted) (puts : s.puts ⊆ s'.puts) : SinglePosts s' where
  single := by
    rw [runs, posted]
    exact inv.single
  recorded := by
    intro objectId mem
    rw [posted] at mem
    rw [runs]
    refine (inv.recorded objectId mem).imp_left ?_
    rintro ⟨tweetId, put⟩
    exact ⟨tweetId, puts put⟩

variable {earlier later : List JobRun} {run : JobRun}

theorem SinglePosts.ends (inv : SinglePosts s) (running : s.runs = earlier ++ run :: later)
    (runs : s'.runs = earlier ++ later) (posted : s'.posted = s.posted)
    (puts : s.puts ⊆ s'.puts)
    (done : ∀ tweetId, run.stage = .posted tweetId → s'.Recorded run.job.objectId) :
    SinglePosts s' where
  single := by
    intro objectId
    have bound := inv.single objectId
    rw [running, total_append, total_cons] at bound
    rw [runs, posted, total_append]
    omega
  recorded := by
    intro objectId mem
    rw [posted] at mem
    rcases inv.recorded objectId mem with ⟨tweetId, put⟩ | ⟨other, among, ofNote, made⟩
    · exact Or.inl ⟨tweetId, puts put⟩
    · rw [running] at among
      rw [runs]
      rcases List.mem_append.mp among with pre | post
      · exact Or.inr ⟨other, List.mem_append_left _ pre, ofNote, made⟩
      · rcases List.mem_cons.mp post with rfl | post
        · obtain ⟨tweetId, stage⟩ := made
          rw [← ofNote]
          exact Or.inl (done tweetId stage)
        · exact Or.inr ⟨other, List.mem_append_right _ post, ofNote, made⟩

theorem SinglePosts.starts (inv : SinglePosts s) {job : MirrorJob}
    (runs : s'.runs = s.runs ++ [⟨job, .started⟩]) (posted : s'.posted = s.posted)
    (puts : s.puts ⊆ s'.puts) : SinglePosts s' where
  single := by
    intro objectId
    have idle : JobRun.asking objectId ⟨job, .started⟩ = 0 := asking_of_not_posting fun eq => by cases eq
    rw [runs, posted, total_append, total_cons, idle]
    exact inv.single objectId
  recorded := by
    intro objectId mem
    rw [posted] at mem
    rw [runs]
    rcases inv.recorded objectId mem with ⟨tweetId, put⟩ | ⟨other, among, made⟩
    · exact Or.inl ⟨tweetId, puts put⟩
    · exact Or.inr ⟨other, List.mem_append_left _ among, made⟩

variable {job : MirrorJob}

/-- **A run goes on** when no other run of its note is past its read and no tweet of the
note is recorded: then none was made. -/
theorem SinglePosts.goesOn (inv : SinglePosts s)
    (running : s.runs = earlier ++ ⟨job, .started⟩ :: later)
    (unrecorded : ¬s.Recorded job.objectId)
    (alone : ∀ other ∈ s.runs, other.job.objectId = job.objectId → other.stage = .started) :
    SinglePosts { s with runs := earlier ++ ⟨job, .posting⟩ :: later } where
  single := by
    intro objectId
    have bound := inv.single objectId
    rw [running, total_append, total_cons] at bound
    dsimp only
    rw [total_append, total_cons]
    by_cases own : job.objectId = objectId
    · obtain rfl := own
      have noTweet : s.posted.count job.objectId = 0 := by
        refine List.count_eq_zero.mpr fun mem => ?_
        rcases inv.recorded _ mem with got | ⟨other, among, ofNote, tweetId, made⟩
        · exact unrecorded got
        · cases made.symm.trans (alone other among ofNote)
      have others : ∀ {runs : List JobRun}, (∀ other ∈ runs, other ∈ s.runs) →
          total (JobRun.asking job.objectId) runs = 0 := by
        intro runs among
        refine total_eq_zero fun other mem => if_neg ?_
        rintro ⟨ofNote, asks⟩
        cases asks.symm.trans (alone other (among other mem) ofNote)
      have pre := others fun other mem => running ▸ List.mem_append_left _ mem
      have post := others fun other mem =>
        running ▸ List.mem_append_right earlier (List.mem_cons_of_mem _ mem)
      have itself : JobRun.asking job.objectId ⟨job, .posting⟩ = 1 := if_pos ⟨rfl, rfl⟩
      rw [pre, post, itself, noTweet]
    · have nothing : JobRun.asking objectId ⟨job, .posting⟩ = 0 := if_neg fun asks => own asks.1
      rw [nothing]
      omega
  recorded := by
    intro objectId mem
    refine (inv.recorded objectId mem).imp_right ?_
    rintro ⟨other, among, ofNote, tweetId, made⟩
    rw [running] at among
    refine ⟨other, ?_, ofNote, tweetId, made⟩
    rcases List.mem_append.mp among with pre | post
    · exact List.mem_append_left _ pre
    · rcases List.mem_cons.mp post with rfl | post
      · cases made
      · exact List.mem_append_right _ (List.mem_cons_of_mem _ post)

/-- **X makes a tweet** for the one run that asks, which is about to record it. -/
theorem SinglePosts.tweets (inv : SinglePosts s) {tweetId : String}
    (running : s.runs = earlier ++ ⟨job, .posting⟩ :: later) :
    SinglePosts { s with runs := earlier ++ ⟨job, .posted tweetId⟩ :: later,
                         posted := s.posted ++ [job.objectId] } where
  single := by
    intro objectId
    have bound := inv.single objectId
    rw [running, total_append, total_cons] at bound
    have idle : JobRun.asking objectId ⟨job, .posted tweetId⟩ = 0 :=
      asking_of_not_posting fun eq => by cases eq
    dsimp only
    rw [total_append, total_cons, idle, List.count_append, List.count_singleton]
    by_cases own : job.objectId = objectId
    · have itself : JobRun.asking objectId ⟨job, .posting⟩ = 1 := if_pos ⟨own, rfl⟩
      rw [itself] at bound
      simp only [own, beq_self_eq_true, if_true]
      omega
    · simp only [beq_eq_false_iff_ne.mpr own, Bool.false_eq_true, if_false]
      omega
  recorded := by
    intro objectId mem
    rcases List.mem_append.mp mem with former | now
    · refine (inv.recorded objectId former).imp_right ?_
      rintro ⟨other, among, ofNote, made⟩
      rw [running] at among
      refine ⟨other, ?_, ofNote, made⟩
      rcases List.mem_append.mp among with pre | post
      · exact List.mem_append_left _ pre
      · rcases List.mem_cons.mp post with rfl | post
        · obtain ⟨_, asks⟩ := made
          cases asks
        · exact List.mem_append_right _ (List.mem_cons_of_mem _ post)
    · rw [List.mem_singleton.mp now]
      exact Or.inr ⟨_, List.mem_append_right _ List.mem_cons_self, rfl, tweetId, rfl⟩

end Runs

variable {buildTweetText : BridgeConfig → MirrorJob → String}

theorem SinglePosts.after {s s' : Bridge} {ev : BridgeEvent} (inv : SinglePosts s)
    (calm : Undisturbed buildTweetText s ev)
    (taken : BridgeStep buildTweetText s ev s') : SinglePosts s' := by
  cases taken with
  | dismisses noJob => exact inv
  | arrives asked | misses did | missesTweet did | enqueues did
  | deliveryFails did => exact inv.frame rfl rfl (List.Subset.refl _)
  | findsClaim did sees | findsTweet did sees | answers did =>
    exact inv.frame (by simp) (by simp) (by simp)
  | putsClaim did => exact inv.frame rfl rfl (List.subset_append_left _ _)
  | starts queued => exact inv.starts rfl rfl (List.Subset.refl _)
  | completed runs sees | drops runs dropped =>
    exact inv.ends runs rfl rfl (List.Subset.refl _) fun _ made => by cases made
  | posts runs may =>
    obtain ⟨unrecorded, alone⟩ := calm rfl may
    exact inv.goesOn runs unrecorded alone
  | tweets runs named => exact inv.tweets runs
  | tweetsUnanswered runs => exact calm.elim
  | records runs =>
    refine inv.ends runs rfl rfl (List.subset_append_left _ _) fun _ _ => ?_
    exact ⟨_, List.mem_append_right _ (List.mem_singleton.mpr rfl)⟩
  | runEnds runs =>
    refine inv.ends runs rfl rfl (List.Subset.refl _) fun tweetId made => ?_
    exact absurd made (calm tweetId)

/-! ## The notes of deliveries -/

/-- **Each claim stands for a note that is queued** or about to be, and so does everything
that a delivery is answered for. -/
structure NotesQueued (s : Bridge) : Prop where
  broughtBy : ∀ delivery ∈ s.deliveries, delivery.job ∈ s.brought
  sameNote : ∀ first ∈ s.brought, ∀ second ∈ s.brought,
    first.activityId = second.activityId → first.objectId = second.objectId
  claims : ∀ activityId value, (activityKey activityId, value) ∈ s.puts →
    ∃ job ∈ s.brought, job.activityId = activityId ∧ (s.Queued job.objectId
      ∨ ∃ delivery ∈ s.deliveries, delivery.job.activityId = activityId ∧ delivery.Claims)
  recorded : ∀ objectId, s.Recorded objectId → s.Queued objectId
  running : ∀ run ∈ s.runs, s.Queued run.job.objectId
  sent : ∀ delivery ∈ s.deliveries, delivery.stage = .enqueued → s.Queued delivery.job.objectId
  retried : ∀ job ∈ s.retried, s.Queued job.objectId

section Deliveries

variable {s s' : Bridge}

theorem Bridge.Queued.mono {objectId : String} (queued : s.Queued objectId)
    (more : s.enqueued ⊆ s'.enqueued) : s'.Queued objectId :=
  List.map_subset _ more queued

/-- Steps that bring no note: the deliveries are of notes that were brought, a claim is
still about to be queued or its note is queued, and what is put is a claim or the record of
a run. -/
theorem NotesQueued.moves (inv : NotesQueued s) (brought : s'.brought = s.brought)
    (more : s.enqueued ⊆ s'.enqueued)
    (jobs : ∀ delivery ∈ s'.deliveries, delivery.job ∈ s.brought
      ∧ (delivery.stage = .enqueued → s'.Queued delivery.job.objectId))
    (claims : ∀ delivery ∈ s.deliveries, delivery.Claims → s'.Queued delivery.job.objectId
      ∨ ∃ still ∈ s'.deliveries, still.job.activityId = delivery.job.activityId ∧ still.Claims)
    (puts : ∀ entry ∈ s'.puts, entry ∈ s.puts
      ∨ (∃ delivery ∈ s'.deliveries, entry.1 = activityKey delivery.job.activityId
        ∧ delivery.Claims)
      ∨ ∃ run ∈ s.runs, entry.1 = objectKey run.job.objectId)
    (runs : ∀ run ∈ s'.runs, s'.Queued run.job.objectId)
    (retried : ∀ job ∈ s'.retried, job ∈ s.retried ∨ s'.Queued job.objectId) :
    NotesQueued s' where
  broughtBy := by
    intro delivery mem
    rw [brought]
    exact (jobs delivery mem).1
  sameNote := by
    rw [brought]
    exact inv.sameNote
  claims := by
    intro actId value put
    rw [brought]
    rcases puts _ put with pre | ⟨delivery, mem, key, claiming⟩ | ⟨run, _, key⟩
    · obtain ⟨job, known, ofActivity, queued | ⟨delivery, mem, sameAct, claiming⟩⟩ :=
        inv.claims actId value pre
      · exact ⟨job, known, ofActivity, Or.inl (queued.mono more)⟩
      · have alike := inv.sameNote job known delivery.job
          (inv.broughtBy delivery mem) (ofActivity.trans sameAct.symm)
        refine ⟨job, known, ofActivity, ?_⟩
        rw [alike, ← sameAct]
        exact claims delivery mem claiming
    · exact ⟨delivery.job, (jobs delivery mem).1, (activityKey_inj key).symm,
        Or.inr ⟨delivery, mem, (activityKey_inj key).symm, claiming⟩⟩
    · exact absurd key (activityKey_ne_objectKey _ _)
  recorded := by
    rintro objectId ⟨tweetId, put⟩
    rcases puts _ put with pre | ⟨delivery, _, key, _⟩ | ⟨run, mem, key⟩
    · exact (inv.recorded objectId ⟨tweetId, pre⟩).mono more
    · exact absurd key.symm (activityKey_ne_objectKey _ _)
    · rw [objectKey_inj key]
      exact (inv.running run mem).mono more
  running := runs
  sent := fun delivery mem => (jobs delivery mem).2
  retried := by
    intro job mem
    rcases retried job mem with pre | queued
    · exact (inv.retried job pre).mono more
    · exact queued

theorem NotesQueued.frame (inv : NotesQueued s) (brought : s'.brought = s.brought)
    (queued : s'.enqueued = s.enqueued) (deliveries : s'.deliveries = s.deliveries)
    (puts : ∀ entry ∈ s'.puts, entry ∈ s.puts
      ∨ ∃ run ∈ s.runs, entry.1 = objectKey run.job.objectId)
    (runs : ∀ run ∈ s'.runs, s.Queued run.job.objectId) (retried : s'.retried = s.retried) :
    NotesQueued s' := by
  have eq : s.enqueued ⊆ s'.enqueued := by
    rw [queued]
    exact List.Subset.refl _
  refine inv.moves brought eq ?_ ?_ (fun entry put => (puts entry put).imp_right Or.inr)
    (fun run mem => (runs run mem).mono eq) ?_
  · intro delivery mem
    rw [deliveries] at mem
    exact ⟨inv.broughtBy delivery mem, fun stage => (inv.sent delivery mem stage).mono eq⟩
  · intro delivery mem claiming
    rw [deliveries]
    exact Or.inr ⟨delivery, mem, rfl, claiming⟩
  · intro job mem
    rw [retried] at mem
    exact Or.inl mem

theorem NotesQueued.queued_of_replaced (inv : NotesQueued s) {earlier later : List JobRun}
    {job : MirrorJob} {stage next : RunStage} (runs : s.runs = earlier ++ ⟨job, stage⟩ :: later) :
    ∀ run ∈ earlier ++ ⟨job, next⟩ :: later, s.Queued run.job.objectId := by
  intro run mem
  rcases eq_or_mem_of_mem_replaced ⟨job, stage⟩ mem with rfl | old
  · exact inv.running ⟨job, stage⟩ (runs ▸ List.mem_append_right _ List.mem_cons_self)
  · exact inv.running run (runs ▸ old)

variable {earlier later : List Delivery} {job : MirrorJob} {delivery : Delivery}

theorem NotesQueued.goesOn {stage : DeliveryStage} (inv : NotesQueued s)
    (did : s.deliveries = earlier ++ delivery :: later)
    (deliveries : s'.deliveries = earlier ++ ⟨delivery.job, stage⟩ :: later)
    (brought : s'.brought = s.brought) (more : s.enqueued ⊆ s'.enqueued)
    (runs : s'.runs = s.runs) (retried : s'.retried = s.retried)
    (sent : stage = .enqueued → s'.Queued delivery.job.objectId)
    (claims : delivery.Claims → s'.Queued delivery.job.objectId
      ∨ Delivery.Claims ⟨delivery.job, stage⟩)
    (puts : ∀ entry ∈ s'.puts, entry ∈ s.puts
      ∨ (entry.1 = activityKey delivery.job.activityId
        ∧ Delivery.Claims ⟨delivery.job, stage⟩)) : NotesQueued s' := by
  have own : delivery ∈ s.deliveries := by
    rw [did]
    exact List.mem_append_right _ List.mem_cons_self
  have moved : (⟨delivery.job, stage⟩ : Delivery) ∈ s'.deliveries := by
    rw [deliveries]
    exact List.mem_append_right _ List.mem_cons_self
  refine inv.moves brought more ?_ ?_ ?_ ?_ ?_
  · intro other mem
    rw [deliveries] at mem
    rcases eq_or_mem_of_mem_replaced delivery mem with rfl | old
    · exact ⟨inv.broughtBy delivery own, sent⟩
    · rw [← did] at old
      exact ⟨inv.broughtBy other old, fun stage => (inv.sent other old stage).mono more⟩
  · intro other mem claiming
    rw [did] at mem
    rcases List.mem_append.mp mem with pre | here
    · refine Or.inr ⟨other, ?_, rfl, claiming⟩
      rw [deliveries]
      exact List.mem_append_left _ pre
    · rcases List.mem_cons.mp here with rfl | post
      · exact (claims claiming).imp_right fun still => ⟨_, moved, rfl, still⟩
      · refine Or.inr ⟨other, ?_, rfl, claiming⟩
        rw [deliveries]
        exact List.mem_append_right _ (List.mem_cons_of_mem _ post)
  · intro entry put
    rcases puts entry put with pre | ⟨key, claiming⟩
    · exact Or.inl pre
    · exact Or.inr (Or.inl ⟨_, moved, key, claiming⟩)
  · intro run mem
    rw [runs] at mem
    exact (inv.running run mem).mono more
  · intro other mem
    rw [retried] at mem
    exact Or.inl mem

theorem NotesQueued.ends (inv : NotesQueued s)
    (did : s.deliveries = earlier ++ delivery :: later)
    (deliveries : s'.deliveries = earlier ++ later) (brought : s'.brought = s.brought)
    (enqueued : s'.enqueued = s.enqueued) (puts : s'.puts = s.puts) (runs : s'.runs = s.runs)
    (claims : delivery.Claims → s.Queued delivery.job.objectId)
    (retried : ∀ job ∈ s'.retried, job ∈ s.retried ∨ s.Queued job.objectId) :
    NotesQueued s' := by
  have eq : s.enqueued ⊆ s'.enqueued := by
    rw [enqueued]
    exact List.Subset.refl _
  refine inv.moves brought eq ?_ ?_ ?_ ?_ ?_
  · intro other mem
    rw [deliveries] at mem
    have old : other ∈ s.deliveries := did ▸ mem_of_mem_taken_out mem
    exact ⟨inv.broughtBy other old, fun stage => (inv.sent other old stage).mono eq⟩
  · intro other mem claiming
    rw [did] at mem
    rcases List.mem_append.mp mem with pre | here
    · refine Or.inr ⟨other, ?_, rfl, claiming⟩
      rw [deliveries]
      exact List.mem_append_left _ pre
    · rcases List.mem_cons.mp here with rfl | post
      · exact Or.inl ((claims claiming).mono eq)
      · refine Or.inr ⟨other, ?_, rfl, claiming⟩
        rw [deliveries]
        exact List.mem_append_right _ post
  · intro entry put
    rw [puts] at put
    exact Or.inl put
  · intro run mem
    rw [runs] at mem
    exact (inv.running run mem).mono eq
  · intro job mem
    exact (retried job mem).imp_right fun queued => queued.mono eq

theorem NotesQueued.answers (inv : NotesQueued s)
    (did : s.deliveries = earlier ++ delivery :: later)
    (claims : delivery.Claims → s.Queued delivery.job.objectId)
    (queued : delivery.job ∈ s.failed → s.Queued delivery.job.objectId) :
    NotesQueued ({ s with deliveries := earlier ++ later }.accept delivery.job) := by
  refine inv.ends did (by simp) (by simp) (by simp) (by simp) (by simp) claims ?_
  intro job mem
  rcases Bridge.mem_retried_accept mem with pre | ⟨rfl, again⟩
  · exact Or.inl pre
  · exact Or.inr (queued again)

theorem NotesQueued.arrives (inv : NotesQueued s)
    (single : ∀ other ∈ s.brought, other.activityId = job.activityId →
      other.objectId = job.objectId) :
    NotesQueued { s with deliveries := s.deliveries ++ [⟨job, .received⟩],
                         brought := s.brought ++ [job] } where
  broughtBy := by
    intro delivery mem
    rcases List.mem_append.mp mem with old | new
    · exact List.mem_append_left _ (inv.broughtBy delivery old)
    · rw [List.mem_singleton.mp new]
      exact List.mem_append_right _ (List.mem_singleton.mpr rfl)
  sameNote := by
    intro first firstBrought second secondBrought eq
    rcases List.mem_append.mp firstBrought with firstOld | firstNew
    · rcases List.mem_append.mp secondBrought with secondOld | secondNew
      · exact inv.sameNote first firstOld second secondOld eq
      · rw [List.mem_singleton.mp secondNew] at eq ⊢
        exact single first firstOld eq
    · rw [List.mem_singleton.mp firstNew] at eq ⊢
      rcases List.mem_append.mp secondBrought with secondOld | secondNew
      · exact (single second secondOld eq.symm).symm
      · rw [List.mem_singleton.mp secondNew]
  claims := by
    intro actId value put
    obtain ⟨took, known, ofActivity, done⟩ := inv.claims actId value put
    refine ⟨took, List.mem_append_left _ known, ofActivity, done.imp_right ?_⟩
    rintro ⟨delivery, mem, claiming⟩
    exact ⟨delivery, List.mem_append_left _ mem, claiming⟩
  recorded := inv.recorded
  running := inv.running
  sent := by
    intro delivery mem stage
    rcases List.mem_append.mp mem with old | new
    · exact inv.sent delivery old stage
    · rw [List.mem_singleton.mp new] at stage
      cases stage
  retried := inv.retried

/-- **The claim that a retry reads** stands for its note, which is queued. -/
theorem NotesQueued.queued_of_claim (inv : NotesQueued s) {value : String}
    (own : delivery ∈ s.deliveries)
    (took : (activityKey delivery.job.activityId, value) ∈ s.puts)
    (done : ∀ other ∈ s.deliveries,
      other.job.activityId = delivery.job.activityId → ¬other.Claims) :
    s.Queued delivery.job.objectId := by
  obtain ⟨job, known, ofActivity, queued | ⟨other, mem, sameAct, claiming⟩⟩ :=
    inv.claims _ value took
  · rw [← inv.sameNote job known delivery.job (inv.broughtBy delivery own) ofActivity]
    exact queued
  · exact absurd claiming (done other mem sameAct)

theorem not_claims_received : ¬Delivery.Claims ⟨job, .received⟩ := by simp [Delivery.Claims]

theorem not_claims_claiming : ¬Delivery.Claims ⟨job, .claiming⟩ := by simp [Delivery.Claims]

theorem not_claims_enqueued : ¬Delivery.Claims ⟨job, .enqueued⟩ := by simp [Delivery.Claims]

end Deliveries

theorem NotesQueued.after {s s' : Bridge} {ev : BridgeEvent} (inv : NotesQueued s)
    (calm : Undisturbed buildTweetText s ev)
    (taken : BridgeStep buildTweetText s ev s') : NotesQueued s' := by
  have eq : ∀ entry ∈ s.puts, entry ∈ s.puts
      ∨ ∃ run ∈ s.runs, entry.1 = objectKey run.job.objectId := fun _ => Or.inl
  cases taken with
  | dismisses noJob => exact inv
  | arrives asked => exact inv.arrives (calm _ asked)
  | findsClaim did sees =>
    have own := did ▸ List.mem_append_right _ List.mem_cons_self
    refine inv.answers did (fun claims => absurd claims not_claims_received) ?_
    intro again
    exact inv.queued_of_claim own (sees _ rfl) (calm rfl again)
  | misses did =>
    refine inv.goesOn did rfl rfl (List.Subset.refl _) rfl rfl ?_ ?_ ?_
    · intro stage
      cases stage
    · exact fun claims => absurd claims not_claims_received
    · exact fun entry => Or.inl
  | putsClaim did =>
    refine inv.goesOn did rfl rfl (List.Subset.refl _) rfl rfl ?_ ?_ ?_
    · intro stage
      cases stage
    · exact fun claims => absurd claims not_claims_claiming
    · intro entry put
      rcases List.mem_append.mp put with pre | now
      · exact Or.inl pre
      · rw [List.mem_singleton.mp now]
        exact Or.inr ⟨rfl, Or.inl rfl⟩
  | findsTweet did sees =>
    have queued := inv.recorded _ ⟨_, sees _ rfl⟩
    exact inv.answers did (fun _ => queued) fun _ => queued
  | missesTweet did =>
    refine inv.goesOn did rfl rfl (List.Subset.refl _) rfl rfl ?_ ?_ ?_
    · intro stage
      cases stage
    · exact fun _ => Or.inr (Or.inr rfl)
    · exact fun entry => Or.inl
  | @enqueues earlier later job did =>
    have queued : job.objectId ∈ (s.enqueued ++ [job]).map MirrorJob.objectId :=
      List.mem_map_of_mem (List.mem_append_right _ (List.mem_singleton.mpr rfl))
    refine inv.goesOn did rfl rfl (List.subset_append_left _ _) rfl rfl ?_ ?_ ?_
    · exact fun _ => queued
    · exact fun _ => Or.inl queued
    · exact fun entry => Or.inl
  | answers did =>
    have own := did ▸ List.mem_append_right _ List.mem_cons_self
    refine inv.answers did (fun claims => absurd claims not_claims_enqueued) ?_
    exact fun _ => inv.sent _ own rfl
  | deliveryFails did =>
    exact inv.ends did rfl rfl rfl rfl rfl calm fun _ => Or.inl
  | starts queued =>
    refine inv.frame rfl rfl rfl eq ?_ rfl
    intro run mem
    rcases List.mem_append.mp mem with old | new
    · exact inv.running run old
    · rw [List.mem_singleton.mp new]
      exact List.mem_map_of_mem queued
  | completed runs sees | drops runs dropped | runEnds runs =>
    refine inv.frame rfl rfl rfl eq ?_ rfl
    exact fun run mem => inv.running run (runs ▸ mem_of_mem_taken_out mem)
  | posts runs may | tweets runs named =>
    exact inv.frame rfl rfl rfl eq (inv.queued_of_replaced runs) rfl
  | tweetsUnanswered runs => exact calm.elim
  | records runs =>
    refine inv.frame rfl rfl rfl ?_ ?_ rfl
    · intro entry put
      rcases List.mem_append.mp put with pre | now
      · exact Or.inl pre
      · rw [List.mem_singleton.mp now]
        exact Or.inr ⟨_, runs ▸ List.mem_append_right _ List.mem_cons_self, rfl⟩
    · exact fun run mem => inv.running run (runs ▸ mem_of_mem_taken_out mem)

/-! ## Runs of the bridge -/

theorem SinglePosts.of_start : SinglePosts .start where
  single := fun _ => Nat.zero_le 1
  recorded := fun _ mem => absurd mem List.not_mem_nil

theorem NotesQueued.of_start : NotesQueued .start where
  broughtBy := fun _ mem => absurd mem List.not_mem_nil
  sameNote := fun _ mem => absurd mem List.not_mem_nil
  claims := fun _ _ put => absurd put List.not_mem_nil
  recorded := by
    rintro objectId ⟨tweetId, put⟩
    cases put
  running := fun _ mem => absurd mem List.not_mem_nil
  sent := fun _ mem => absurd mem List.not_mem_nil
  retried := fun _ mem => absurd mem List.not_mem_nil

/-- **An undisturbed bridge** posts no note twice, and queues the notes of retries. -/
theorem mirrors_of_undisturbed {trace : List (Transition Bridge BridgeEvent)} {s : Bridge}
    (run : Run (BridgeStep buildTweetText) .start trace s)
    (undisturbed : Along (Undisturbed buildTweetText) trace) : Mirrors s := by
  have posts : SinglePosts s := run.invariant .of_start SinglePosts.after undisturbed
  have notes : NotesQueued s := run.invariant .of_start NotesQueued.after undisturbed
  refine ⟨List.nodup_iff_count_le_one.mpr fun objectId => ?_, notes.retried⟩
  have bound := posts.single objectId
  omega

/-! ## A note of bob -/

def bobsBridge : BridgeConfig := ⟨["https://social.example/users/bob"], true, 280⟩

def bobsDelivery : InboxRequest where
  signedActor := some "https://social.example/users/bob"
  activity := some (.object [
    ("id", .string "https://social.example/notes/1/activity"),
    ("type", .string "Create"),
    ("actor", .string "https://social.example/users/bob"),
    ("to", .array [.string "https://www.w3.org/ns/activitystreams#Public"]),
    ("object", .object [
      ("id", .string "https://social.example/notes/1"),
      ("type", .string "Note"),
      ("attributedTo", .string "https://social.example/users/bob"),
      ("to", .array [.string "https://www.w3.org/ns/activitystreams#Public"]),
      ("content", .string "<p>hello</p>")])])

def bobsJob : MirrorJob where
  activityId := "https://social.example/notes/1/activity"
  objectId := "https://social.example/notes/1"
  contentHtml := "<p>hello</p>"
  sourceUrl := "https://social.example/notes/1"
  attributedTo := "https://social.example/users/bob"

def bobsText (_ : BridgeConfig) (_ : MirrorJob) : String :=
  "hello\n\nhttps://social.example/notes/1"

theorem mirrorJobOf_bobsDelivery : mirrorJobOf bobsBridge bobsDelivery = some bobsJob := by
  decide +kernel

theorem goesOn_bobsJob : goesOn bobsText bobsBridge bobsJob = true := by decide +kernel

theorem alone {α : Type*} (x : α) : [x] = [] ++ x :: [] := rfl

theorem exists_run_claimed : ∃ trace,
    Run (BridgeStep bobsText) .start trace
        { Bridge.start with
          puts := [(activityKey bobsJob.activityId, "claimed")]
          deliveries := [⟨bobsJob, .claimed⟩], brought := [bobsJob] }
      ∧ Along (Undisturbed bobsText) trace := by
  have arrived := Run.snoc .start
    (@BridgeStep.arrives bobsText .start _ _ _ mirrorJobOf_bobsDelivery)
  have missed := arrived.snoc (.misses (alone _))
  have took := missed.snoc (.putsClaim (alone _))
  refine ⟨_, took, ?_⟩
  refine Along.snoc_iff.mpr ⟨Along.snoc_iff.mpr ⟨Along.snoc_iff.mpr ⟨Along.nil, ?_⟩, ?_⟩, trivial⟩
  · exact fun _ _ _ mem => absurd mem List.not_mem_nil
  · intro seen
    cases seen

theorem exists_run_posted : ∃ trace,
    Run (BridgeStep bobsText) .start trace
        { Bridge.start with
          puts := [(activityKey bobsJob.activityId, "claimed")]
          runs := [⟨bobsJob, .posted "1"⟩], brought := [bobsJob], enqueued := [bobsJob]
          posted := [bobsJob.objectId] }
      ∧ Along (Undisturbed bobsText) trace := by
  obtain ⟨trace, took, met⟩ := exists_run_claimed
  have missed := took.snoc (.missesTweet (alone _))
  have queued := missed.snoc (.enqueues (alone _))
  have ans := queued.snoc (.answers (alone _))
  have started := ans.snoc (.starts (List.mem_singleton.mpr rfl))
  have asks := started.snoc (.posts (alone _) goesOn_bobsJob)
  have named : "1" ≠ "" := by decide
  have posted := asks.snoc (.tweets (alone _) named)
  refine ⟨_, posted, ?_⟩
  simp only [Along.snoc_iff]
  refine ⟨⟨⟨⟨⟨⟨met, trivial⟩, trivial⟩, trivial⟩, trivial⟩, fun _ _ => ⟨?_, ?_⟩⟩, trivial⟩
  · rintro ⟨tweetId, put⟩
    exact absurd (congrArg Prod.fst (List.mem_singleton.mp put)) (activityKey_ne_objectKey _ _).symm
  · intro other mem _
    rw [List.mem_singleton.mp mem]

/-- Bob's note is posted once. -/
theorem mirrors_of_undisturbed_bob : ∃ s, bobsJob.objectId ∈ s.posted ∧ Mirrors s := by
  obtain ⟨trace, run, met⟩ := exists_run_posted
  exact ⟨_, List.mem_singleton.mpr rfl, mirrors_of_undisturbed run met⟩

theorem not_mirrors_of_lost {s : Bridge} (retried : s.retried = [bobsJob])
    (nothing : s.enqueued = []) : ¬Mirrors s := by
  intro mirrors
  have queued := mirrors.queued bobsJob (retried ▸ List.mem_singleton.mpr rfl)
  rw [Bridge.Queued, nothing] at queued
  cases queued

/-- **Both guarantees fail.**  The run fails between the tweet and its record, and the queue
hands the job out again: the note is posted twice.  The delivery fails between the claim and
the queue, and the sender tries again: the note is not queued. -/
theorem windows_are_open :
    (∃ trace s, Run (BridgeStep bobsText) .start trace s
      ∧ s.posted = [bobsJob.objectId, bobsJob.objectId] ∧ ¬Mirrors s)
    ∧ ∃ trace s, Run (BridgeStep bobsText) .start trace s
      ∧ s.retried = [bobsJob] ∧ s.enqueued = [] ∧ ¬Mirrors s := by
  constructor
  · obtain ⟨trace, posted, _⟩ := exists_run_posted
    have failed := posted.snoc (.runEnds (alone _))
    have started := failed.snoc (.starts (List.mem_singleton.mpr rfl))
    have asks := started.snoc (.posts (alone _) goesOn_bobsJob)
    have named : "2" ≠ "" := by decide
    have twice := asks.snoc (.tweets (alone _) named)
    refine ⟨_, _, twice, rfl, fun mirrors => ?_⟩
    exact absurd mirrors.once (by simp [List.nodup_cons])
  · obtain ⟨trace, took, _⟩ := exists_run_claimed
    have failed := took.snoc (.deliveryFails (alone _))
    have arrived := failed.snoc (.arrives mirrorJobOf_bobsDelivery)
    have sees : MaySee [(activityKey bobsJob.activityId, "claimed")]
        (activityKey bobsJob.activityId) (some "claimed") := by
      rintro value ⟨⟩
      exact List.mem_singleton.mpr rfl
    have lost := arrived.snoc (.findsClaim (alone _) sees)
    have retried : ∀ {s : Bridge}, s.failed = [bobsJob] → s.retried = [] →
        (s.accept bobsJob).retried = [bobsJob] := by
      intro s errors none
      rw [Bridge.retried_accept (errors ▸ List.mem_singleton.mpr rfl), none]
      rfl
    refine ⟨_, _, lost, retried rfl rfl, Bridge.accept_enqueued, ?_⟩
    exact not_mirrors_of_lost (retried rfl rfl) Bridge.accept_enqueued

end Cfwdon.Mirror
