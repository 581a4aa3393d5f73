import CloudSpeech.Audio.Playback
import Mathlib.Data.List.Induction
import Mathlib.Data.List.TakeDrop

/-!
# Feeding a stream

A running stream asks for samples in batches of any sizes. What the feed has handed out
depends on the sizes asked for so far through their sum alone: the closed form of its state
is `Feed.after_start`, and every statement about a batch or about the drain time is read off
that form. The drain time is told at most once, since it costs the one permission to tell it.
-/

namespace CloudSpeech.Audio

/-! ## Samples and the silence after them -/

theorem takeD_add {α : Type} (m n : Nat) (xs : List α) (a : α) :
    xs.takeD (m + n) a = xs.takeD m a ++ (xs.drop m).takeD n a := by
  induction m generalizing xs with
  | zero => simp
  | succ m ih =>
      rw [Nat.succ_add, List.takeD_succ, List.takeD_succ, ih]
      simp

theorem take_append_replicate {α : Type} (n : Nat) (xs : List α) (a : α) :
    xs.take n ++ List.replicate (n - xs.length) a = xs.takeD n a := by
  induction n generalizing xs with
  | zero => simp
  | succ n ih =>
      cases xs with
      | nil => rw [List.takeD_nil, List.take_nil, List.nil_append, List.length_nil, Nat.sub_zero]
      | cons x xs => simpa using ih xs

/-! ## Requests -/

/-- The request that an event makes, if it makes one. -/
def StreamEvent.request? : StreamEvent → Option Request
  | .request asked => some asked
  | .fault _ => none

/-- The requests among the events of a stream, in order. -/
def requestsOf (events : List StreamEvent) : List Request :=
  events.filterMap StreamEvent.request?

@[simp] theorem requestsOf_request (request : Request) (events : List StreamEvent) :
    requestsOf (.request request :: events) = request :: requestsOf events := rfl

@[simp] theorem requestsOf_fault (fault : DeviceFault) (events : List StreamEvent) :
    requestsOf (.fault fault :: events) = requestsOf events := rfl

@[simp] theorem requestsOf_append (events others : List StreamEvent) :
    requestsOf (events ++ others) = requestsOf events ++ requestsOf others := by
  simp [requestsOf]

/-- How many samples requests ask for. -/
def totalSize : List Request → Nat
  | [] => 0
  | request :: rest => request.size + totalSize rest

@[simp] theorem totalSize_nil : totalSize [] = 0 := rfl

@[simp] theorem totalSize_singleton (request : Request) :
    totalSize [request] = request.size := rfl

@[simp] theorem totalSize_append (requests others : List Request) :
    totalSize (requests ++ others) = totalSize requests + totalSize others := by
  induction requests with
  | nil => rw [List.nil_append, totalSize_nil, Nat.zero_add]
  | cons request rest ih =>
      rw [List.cons_append, totalSize, totalSize, ih, Nat.add_assoc]

theorem totalSize_mono {requests others : List Request} (h : requests <+: others) :
    totalSize requests ≤ totalSize others := by
  obtain ⟨tail, rfl⟩ := h
  rw [totalSize_append]
  exact Nat.le_add_right _ _

/-- A request, after others, is the first by the end of which as many samples have been asked
for as there are. -/
def Completes (samples : List Sample) (before : List Request) (request : Request) : Prop :=
  samples.length ≤ totalSize (before ++ [request]) ∧
    ∀ earlier, earlier <+: before → earlier ≠ [] → totalSize earlier < samples.length

theorem completes_iff (samples : List Sample) (before : List Request) (request : Request) :
    Completes samples before request ↔
      (before = [] ∨ totalSize before < samples.length) ∧
        samples.length ≤ totalSize before + request.size := by
  rw [Completes, totalSize_append, totalSize_singleton, and_comm]
  refine and_congr_left fun _ => ⟨fun h => ?_, ?_⟩
  · exact or_iff_not_imp_left.mpr fun hne => h before List.prefix_rfl hne
  · rintro (rfl | hlt) earlier hprefix hne
    · exact absurd (List.prefix_nil.mp hprefix) hne
    · exact Nat.lt_of_le_of_lt (totalSize_mono hprefix) hlt

instance (samples : List Sample) (before : List Request) (request : Request) :
    Decidable (Completes samples before request) :=
  decidable_of_iff _ (completes_iff samples before request).symm

/-! ## The state of a feed -/

namespace Feed

/-- The feed after requests. -/
def after (feed : Feed) (requests : List Request) : Feed := requests.foldl advance feed

/-- The answers to requests, each given by the feed after those before it. -/
def replies (format : Format) (feed : Feed) : List Request → List Reply
  | [] => []
  | request :: rest => feed.reply format request :: (feed.advance request).replies format rest

@[simp] theorem after_nil (feed : Feed) : feed.after [] = feed := rfl

@[simp] theorem after_append (feed : Feed) (requests others : List Request) :
    feed.after (requests ++ others) = (feed.after requests).after others := by
  simp [after]

@[simp] theorem after_singleton (feed : Feed) (request : Request) :
    feed.after [request] = feed.advance request := rfl

@[simp] theorem replies_nil (format : Format) (feed : Feed) : feed.replies format [] = [] := rfl

@[simp] theorem replies_singleton (format : Format) (feed : Feed) (request : Request) :
    feed.replies format [request] = [feed.reply format request] := rfl

theorem replies_append (format : Format) (feed : Feed) (requests others : List Request) :
    feed.replies format (requests ++ others) =
      feed.replies format requests ++ (feed.after requests).replies format others := by
  induction requests generalizing feed with
  | nil => rfl
  | cons request rest ih =>
      simp only [List.cons_append, replies, ih]
      rfl

@[simp] theorem length_replies (format : Format) (feed : Feed) (requests : List Request) :
    (feed.replies format requests).length = requests.length := by
  induction requests generalizing feed with
  | nil => rfl
  | cons request rest ih => simp [replies, ih]

/-- The state of a feed in closed form: the position is the number of samples asked for, as far
as there are so many, and the end has been told once a request has reached it. -/
theorem after_start (samples : List Sample) (requests : List Request) :
    (start samples).after requests =
      { samples, position := min (totalSize requests) samples.length,
        untold := decide (requests = [] ∨ totalSize requests < samples.length) } := by
  induction requests using List.reverseRecOn with
  | nil => simp [start]
  | append_singleton requests request ih =>
      have hposition : min (totalSize requests) samples.length +
          min request.size (samples.length - min (totalSize requests) samples.length) =
            min (totalSize requests + request.size) samples.length := by
        omega
      rw [after_append, ih, after_singleton]
      simp only [advance, exhausts, available, hposition, mk.injEq, true_and, totalSize_append,
        totalSize_singleton]
      rw [← decide_not, ← Bool.decide_and, decide_eq_decide]
      simp only [List.append_eq_nil_iff, List.cons_ne_self, and_false, false_or]
      omega

theorem available_after_start (samples : List Sample) (before : List Request)
    (request : Request) :
    ((start samples).after before).available request =
      min request.size (samples.length - totalSize before) := by
  rw [after_start, available]
  dsimp only
  omega

theorem batch_after_start (format : Format) (samples : List Sample) (before : List Request)
    (request : Request) :
    (((start samples).after before).reply format request).batch =
      (samples.drop (totalSize before)).takeD request.size 0 := by
  have hdrop : samples.drop (min (totalSize before) samples.length) =
      samples.drop (totalSize before) := by
    rcases Nat.le_total (totalSize before) samples.length with h | h
    · rw [Nat.min_eq_left h]
    · rw [Nat.min_eq_right h, List.drop_length, List.drop_eq_nil_of_le h]
  have hrest : request.size - min request.size (samples.length - totalSize before) =
      request.size - (samples.drop (totalSize before)).length := by
    rw [List.length_drop]
    omega
  rw [reply, available_after_start, after_start]
  dsimp only
  rw [hdrop, hrest, ← List.length_drop, ← List.take_eq_take_min, take_append_replicate]

theorem drain_after_start (format : Format) (samples : List Sample) (before : List Request)
    (request : Request) :
    (((start samples).after before).reply format request).drain =
      if Completes samples before request then
        some (drainTime request.latency
          (((start samples).after before).available request) format)
      else none := by
  have hcompletes : (((start samples).after before).untold &&
      ((start samples).after before).exhausts request) =
        decide (Completes samples before request) := by
    rw [exhausts, available_after_start, after_start]
    dsimp only
    rw [← Bool.decide_and, decide_eq_decide, completes_iff]
    exact and_congr_right fun _ => by omega
  rw [reply, hcompletes]
  simp only [decide_eq_true_eq]

/-- The batches, one after the other, are the samples and then silence. -/
theorem batches_start (format : Format) (samples : List Sample) (requests : List Request) :
    ((start samples).replies format requests).flatMap (·.batch) =
      samples.takeD (totalSize requests) 0 := by
  induction requests using List.reverseRecOn with
  | nil => simp
  | append_singleton requests request ih =>
      rw [replies_append, List.flatMap_append, ih, replies_singleton, List.flatMap_singleton,
        batch_after_start, totalSize_append, totalSize_singleton, takeD_add]

theorem sizes_start (format : Format) (samples : List Sample) (requests : List Request) :
    ((start samples).replies format requests).map (·.batch.length) =
      requests.map (·.size) := by
  induction requests using List.reverseRecOn with
  | nil => simp
  | append_singleton requests request ih =>
      simp [replies_append, ih, batch_after_start]

/-- The permission to tell the drain time is given up with the one answer that tells it. -/
theorem told_add_untold (format : Format) (feed : Feed) (requests : List Request) :
    ((feed.replies format requests).filterMap (·.drain)).length +
        (feed.after requests).untold.toNat =
      feed.untold.toNat := by
  induction requests generalizing feed with
  | nil => simp
  | cons request rest ih =>
      have hstep : (feed.reply format request).drain.toList.length +
          (feed.advance request).untold.toNat = feed.untold.toNat := by
        cases huntold : feed.untold <;> cases hexhausts : feed.exhausts request <;>
          simp [reply, advance, huntold, hexhausts]
      have hrest := ih (feed.advance request)
      rw [replies, List.filterMap_cons]
      change _ + ((feed.advance request).after rest).untold.toNat = _
      cases hdrain : (feed.reply format request).drain <;>
        simp only [hdrain, Option.toList, List.length_cons, List.length_nil] at hstep ⊢ <;> omega

end Feed

/-! ## The time until a batch has been heard -/

namespace Request

/-- The time from a request until its first sample is heard, however long that is; none if the
sample is said to be heard before the request. -/
def gap (request : Request) : Span :=
  ⟨(request.playback.nanoseconds - request.callback.nanoseconds).toNat⟩

/-- A gap of more nanoseconds than sixty-four bits hold counts as none. -/
theorem latency_eq (request : Request) :
    request.latency =
      if request.gap.nanoseconds < UInt64.size then request.gap else .zero := by
  rw [latency, Instant.spanUntil, gap]
  split
  · next hlt =>
      have hnone : (request.playback.nanoseconds - request.callback.nanoseconds).toNat = 0 := by
        omega
      rw [hnone]
      rfl
  · rfl

theorem latency_lt (request : Request) : request.latency.nanoseconds < UInt64.size := by
  rw [latency_eq]
  split
  · assumption
  · decide

end Request

theorem batchTime_le (samples : Nat) (format : Format) :
    (batchTime samples format).nanoseconds ≤ (UInt64.size - 1) * 1000 := by
  rw [batchTime]
  split
  · exact Nat.zero_le _
  · have hlt := (samples.toUInt64 * 1000000 / format.samplesPerSecond).toNat_lt_size
    exact Nat.mul_le_mul_right _ (Nat.le_sub_one_of_lt hlt)

/-- A request and its batch never take longer than the longest span. -/
theorem Request.drainTime?_latency (request : Request) (samples : Nat) (format : Format) :
    drainTime? request.latency samples format =
      some (drainTime request.latency samples format) := by
  have hlatency := request.latency_lt
  have hbatch := batchTime_le samples format
  have hfits : (request.latency + batchTime samples format).nanoseconds ≤
      Span.longest.nanoseconds := by
    rw [Span.nanoseconds_add]
    simp only [Span.longest, Span.ofParts, UInt64.size] at hlatency hbatch ⊢
    omega
  rw [drainTime?, Span.add?, if_pos hfits]
  rfl

/-! ## The stream -/

/-- Faults of the stream change nothing about what its requests are answered with. -/
theorem Player.value_runStream (format : Format) (feed : Feed) (events : List StreamEvent) :
    (Player.runStream format feed events).value =
      (feed.replies format (requestsOf events), feed.after (requestsOf events)) := by
  induction events generalizing feed with
  | nil => rfl
  | cons event rest ih =>
      cases event with
      | request request =>
          rw [Player.runStream, Logged.value_bind, ih, requestsOf_request]
          rfl
      | fault fault =>
          rw [Player.runStream, Logged.value_bind, ih, requestsOf_fault]

/-- What holds of a request after others, when the feed of the samples answers it. -/
structure Served (format : Format) (samples : List Sample) (before : List Request)
    (request : Request) (feed : Feed) : Prop where
  position : feed.position = min (totalSize before) samples.length
  fits : feed.available request ≤ request.size
  in_range : feed.position + feed.available request ≤ samples.length
  position_advance :
    (feed.advance request).position = min (totalSize before + request.size) samples.length
  told : (feed.reply format request).drain.isSome ↔ Completes samples before request
  drain : ∀ drain ∈ (feed.reply format request).drain,
    drainTime? (if request.gap.nanoseconds < UInt64.size then request.gap else .zero)
      (feed.available request) format = some drain

theorem served_after_start (format : Format) (samples : List Sample) (before : List Request)
    (request : Request) :
    Served format samples before request ((Feed.start samples).after before) where
  position := by rw [Feed.after_start]
  fits := Nat.min_le_left _ _
  in_range := by
    rw [Feed.available_after_start, Feed.after_start]
    dsimp only
    omega
  position_advance := by
    rw [← Feed.after_singleton, ← Feed.after_append, Feed.after_start, totalSize_append,
      totalSize_singleton]
  told := by
    rw [Feed.drain_after_start]
    split <;> simp [*]
  drain := by
    intro drain hdrain
    rw [Feed.drain_after_start] at hdrain
    split at hdrain
    · rw [← request.latency_eq, request.drainTime?_latency]
      exact hdrain
    · cases hdrain

/-- A stream hands out the samples of a sound and then silence, whatever the sizes of its
batches; no request reaches beyond the samples; and the drain time is told once, with the
request that is the first to reach the last sample. -/
theorem runStream_start (audio : Octets) (format : Format) (events : List StreamEvent) :
    ∃ replies feed,
      (Player.runStream format (Feed.start (Sample.decode audio)) events).value =
        (replies, feed) ∧
      replies.flatMap (·.batch) =
        (Sample.decode audio).takeD (totalSize (requestsOf events)) 0 ∧
      replies.map (·.batch.length) = (requestsOf events).map (·.size) ∧
      feed.position = min (totalSize (requestsOf events)) (Sample.decode audio).length ∧
      (replies.filterMap (·.drain)).length ≤ 1 ∧
      (∀ earlier request later, events = earlier ++ .request request :: later →
        ∃ current,
          (Player.runStream format (Feed.start (Sample.decode audio)) earlier).value.2 =
            current ∧
          Served format (Sample.decode audio) (requestsOf earlier) request current ∧
          replies[(requestsOf earlier).length]? = some (current.reply format request)) ∧
      ∀ others, totalSize (requestsOf others) = totalSize (requestsOf events) →
        ∃ replies' feed',
          (Player.runStream format (Feed.start (Sample.decode audio)) others).value =
            (replies', feed') ∧
          replies'.flatMap (·.batch) = replies.flatMap (·.batch) ∧
          feed'.position = feed.position := by
  refine ⟨_, _, Player.value_runStream .., Feed.batches_start .., Feed.sizes_start .., ?_, ?_,
    ?_, ?_⟩
  · rw [Feed.after_start]
  · have htold := Feed.told_add_untold format (Feed.start (Sample.decode audio))
      (requestsOf events)
    have hone : (Feed.start (Sample.decode audio)).untold.toNat = 1 := rfl
    omega
  · rintro earlier request later rfl
    refine ⟨_, rfl, ?_, ?_⟩
    · rw [Player.value_runStream]
      exact served_after_start ..
    · rw [Player.value_runStream, requestsOf_append, requestsOf_request, Feed.replies_append,
        List.getElem?_append_right (Nat.le_of_eq (Feed.length_replies ..)),
        Feed.length_replies, Nat.sub_self]
      rfl
  · intro others hsize
    refine ⟨_, _, Player.value_runStream .., ?_, ?_⟩
    · rw [Feed.batches_start, Feed.batches_start, hsize]
    · rw [Feed.after_start, Feed.after_start, hsize]

/-- A gap that is too long for sixty-four bits of nanoseconds is left out of the drain time. -/
theorem drain_of_distant_sample :
    let request : Request := ⟨1, ⟨0⟩, ⟨20000000000 * 1000000000⟩⟩
    let replies := (Player.runStream .speech (Feed.start (Sample.decode [0, 0]))
      [.request request]).value.1
    Completes (Sample.decode [0, 0]) [] request ∧
      replies.map (·.drain) ≠ [drainTime? request.gap 1 .speech] := by
  decide

end CloudSpeech.Audio
