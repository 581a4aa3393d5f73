import CloudSpeech.Proofs.Audio.Performance

/-!
# The outcome of playing a sound

Playing a sound passes five stages, and each of them can fail in one way. What comes of it is
decided by the first stage that fails, and a stage after that is not entered. The last stage is
passed if the stream makes a request and its requests reach the last sample, of which there is one
for every two octets and one for an octet left over.
-/

namespace CloudSpeech.Audio

/-- Requests take a sound of so many octets up to its last sample. -/
def TakeAll (requests : List Request) (size : Nat) : Prop :=
  requests ≠ [] ∧ (size + 1) / 2 ≤ totalSize requests

instance (requests : List Request) (size : Nat) : Decidable (TakeAll requests size) :=
  inferInstanceAs (Decidable (_ ∧ _))

/-- The stages of playing a sound. -/
inductive Stage where
  | width
  | device
  | build
  | start
  | completion
  deriving DecidableEq, Repr

namespace Stage

/-- The stages in their order. -/
def all : List Stage := [width, device, build, start, completion]

/-- The error of a stage, if it fails. -/
def error? (player : Player) (found : Option Device) (format : Format) (audio : Octets) :
    Stage → Option PlaybackError
  | width =>
      if format.bitsPerSample = 16 then none
      else some (.streamBuild
        ("unsupported sample width: " ++ toString format.bitsPerSample ++ " bits"))
  | device => if found.isSome then none else some .noOutputDevice
  | build => (found.bind Device.openFault).map fun fault => .streamBuild fault.message
  | start => (found.bind Device.startFault).map fun fault => .streamPlay fault.startMessage
  | completion =>
      if TakeAll (requestsOf (found.elim [] Device.events)) audio.length then none
      else some (.timeout ((format.durationMs audio.length).toNat + player.graceMs.toNat))

/-- No stage fails exactly if the stream on a device runs and takes the whole sound. -/
theorem findSome?_error?_eq_none_iff {player : Player} {found : Option Device} {format : Format}
    {audio : Octets} :
    all.findSome? (error? player found format audio) = none ↔
      format.bitsPerSample = 16 ∧ ∃ present, found = some present ∧
        present.openFault = none ∧ present.startFault = none ∧
          TakeAll (requestsOf present.events) audio.length := by
  cases found with
  | none => simp [all, error?]
  | some present =>
      by_cases htaken : TakeAll (requestsOf present.events) audio.length <;>
        simp [all, error?, htaken]

end Stage

theorem Sample.length_decode (octets : Octets) :
    (Sample.decode octets).length = (octets.length + 1) / 2 := by
  match octets with
  | [] => rfl
  | [_] => rw [Sample.decode_single, List.length_singleton, List.length_singleton]
  | low :: high :: rest =>
      have hrest := length_decode rest
      rw [Sample.decode_pair, List.length_cons, hrest, List.length_cons, List.length_cons]
      omega

theorem Feed.drain_of_mem_replies {format : Format} {feed : Feed} {requests : List Request}
    {reply : Reply} (hreply : reply ∈ feed.replies format requests) {drain : Span}
    (hdrain : reply.drain = some drain) :
    ∃ request samples, drain = drainTime (Request.latency request) samples format := by
  induction requests generalizing feed with
  | nil => cases hreply
  | cons request rest ih =>
      rcases List.mem_cons.mp hreply with rfl | hlater
      · rw [Feed.reply] at hdrain
        split at hdrain
        · exact ⟨request, _, (Option.some.inj hdrain).symm⟩
        · cases hdrain
      · exact ih hlater

namespace Player

/-- How playing a sound goes: it ends with a stage that fails, or the stream runs. -/
inductive Goes (player : Player) (format : Format) (audio : Octets) :
    Option Device → Performance → Prop
  | width {device : Option Device} (hwidth : format.bitsPerSample ≠ 16) :
      Goes player format audio device ⟨.error (.streamBuild
        ("unsupported sample width: " ++ toString format.bitsPerSample ++ " bits")), {}, none⟩
  | device (hwidth : format.bitsPerSample = 16) :
      Goes player format audio none ⟨.error .noOutputDevice, {}, none⟩
  | build {present : Device} {fault : DeviceFault} (hwidth : format.bitsPerSample = 16)
      (hopen : present.openFault = some fault) :
      Goes player format audio (some present)
        ⟨.error (.streamBuild fault.message), { opened := some format }, none⟩
  | start {present : Device} {fault : DeviceFault} (hwidth : format.bitsPerSample = 16)
      (hopen : present.openFault = none) (hstart : present.startFault = some fault) :
      Goes player format audio (some present)
        ⟨.error (.streamPlay fault.startMessage), { opened := some format, closed := true }, none⟩
  | run {present : Device} (hwidth : format.bitsPerSample = 16)
      (hopen : present.openFault = none) (hstart : present.startFault = none) :
      Goes player format audio (some present)
        (player.finish format audio.length ((Feed.start (Sample.decode audio)).replies format
          (requestsOf present.events))).value

variable (player : Player) {format : Format} {device : Option Device} {audio : Octets}
  {performance : Performance}

theorem play_of_width (hwidth : format.bitsPerSample ≠ 16) :
    player.play device format audio =
      pure ⟨.error (.streamBuild
        ("unsupported sample width: " ++ toString format.bitsPerSample ++ " bits")), {}, none⟩ := by
  rw [play.eq_def, if_pos hwidth]

/-- A stream that could not be built is neither started nor fed. -/
theorem play_of_openFault {present : Device} {fault : DeviceFault}
    (hopen : present.openFault = some fault) (startFault : Option DeviceFault)
    (events : List StreamEvent) :
    player.play (some { present with startFault, events }) format audio =
      player.play (some present) format audio := by
  rw [play.eq_def, play.eq_def]
  simp only [hopen]

theorem play_goes (device : Option Device) (format : Format) (audio : Octets) :
    Goes player format audio device (player.play device format audio).value := by
  by_cases hwidth : format.bitsPerSample = 16
  · cases device with
    | none =>
        rw [play_none player audio hwidth]
        exact .device hwidth
    | some present =>
        rw [play_some player audio hwidth]
        cases hopen : present.openFault with
        | some fault => exact .build hwidth hopen
        | none =>
            cases hstart : present.startFault with
            | some fault => exact .start hwidth hopen hstart
            | none =>
                have hasked : present.asked = requestsOf present.events := by
                  rw [Device.asked, hopen, hstart]
                rw [hasked]
                exact .run hwidth hopen hstart
  · rw [play_of_width player hwidth]
    exact .width hwidth

theorem finish_result (format : Format) (size : Nat) (replies : List Reply) :
    (player.finish format size replies).value.result =
      if (replies.findSome? (·.drain)).isSome then .ok ⟨size⟩
      else .error (.timeout (player.deadlineMs format size).toNat) := by
  rw [finish]
  cases replies.findSome? (·.drain) <;> rfl

theorem finish_hold (format : Format) (size : Nat) (replies : List Reply) :
    (player.finish format size replies).value.hold =
      (replies.findSome? (·.drain)).map player.holdTime := by
  rw [finish]
  cases replies.findSome? (·.drain) <;> rfl

theorem toNat_deadlineMs {size : Nat}
    (hfits : (format.durationMs size).toNat + player.graceMs.toNat < UInt64.size) :
    (player.deadlineMs format size).toNat =
      (format.durationMs size).toNat + player.graceMs.toNat := by
  rw [deadlineMs, UInt64.toNat_add]
  exact Nat.mod_eq_of_lt hfits

theorem holdTime_le_longest (request : Request) (samples : Nat) (format : Format) :
    (player.holdTime (drainTime request.latency samples format)).nanoseconds ≤
      Span.longest.nanoseconds := by
  have hlatency := request.latency_lt
  have hbatch := batchTime_le samples format
  have htail := player.tailMs.toNat_lt_size
  rw [holdTime, drainTime, Span.nanoseconds_add, Span.nanoseconds_add]
  simp only [Span.ofMillis, Span.longest, Span.ofParts, UInt64.size] at hlatency hbatch htail ⊢
  omega

namespace Goes

variable {player : Player}

/-- The sound counts as played if no stage fails. -/
theorem result (h : Goes player format audio device performance)
    (hfits : (format.durationMs audio.length).toNat + player.graceMs.toNat < UInt64.size) :
    performance.result =
      (Stage.all.findSome? (Stage.error? player device format audio)).elim
        (.ok ⟨audio.length⟩) .error := by
  cases h with
  | width hwidth => simp [Stage.all, Stage.error?, hwidth]
  | device hwidth => simp [Stage.all, Stage.error?, hwidth]
  | build hwidth hopen => simp [Stage.all, Stage.error?, hwidth, hopen]
  | start hwidth hopen hstart => simp [Stage.all, Stage.error?, hwidth, hopen, hstart]
  | @run present hwidth hopen hstart =>
      have htold := Feed.isSome_findSome?_drain format (Sample.decode audio)
        (requestsOf present.events)
      rw [Sample.length_decode, ← TakeAll] at htold
      simp only [finish_result, htold, toNat_deadlineMs player hfits]
      by_cases htaken : TakeAll (requestsOf present.events) audio.length <;>
        simp [Stage.all, Stage.error?, hwidth, hopen, hstart, htaken]

theorem use_of_width (h : Goes player format audio device performance)
    (hwidth : format.bitsPerSample ≠ 16) : performance.use = {} := by
  cases h with
  | width => rfl
  | device hright | build hright | start hright | run hright => exact absurd hright hwidth

theorem opened_of_started (h : Goes player format audio device performance)
    (hstarted : performance.use.started = true) :
    performance.use.opened = some format ∧
      ∃ present, device = some present ∧ present.openFault = none := by
  cases h with
  | width | device | build | start => cases hstarted
  | run hwidth hopen hstart =>
      refine ⟨?_, _, rfl, hopen⟩
      rw [finish_use]

end Goes

/-- The wait after the last batch is never too long for a span, so of the sums that playing a sound
takes only the deadline can be too large. -/
theorem play_hold_le_longest {hold : Span}
    (hhold : (player.play device format audio).value.hold = some hold) :
    hold.nanoseconds ≤ Span.longest.nanoseconds := by
  have hgoes := player.play_goes device format audio
  generalize (player.play device format audio).value = performance at hgoes hhold
  cases hgoes with
  | width | device | build | start => cases hhold
  | run =>
      rw [finish_hold, Option.map_eq_some_iff] at hhold
      obtain ⟨drain, htold, rfl⟩ := hhold
      obtain ⟨reply, hreply, hdrain⟩ := List.exists_of_findSome?_eq_some htold
      obtain ⟨request, samples, rfl⟩ := Feed.drain_of_mem_replies hreply hdrain
      exact player.holdTime_le_longest request samples format

/-! ## The outcome -/

/-- What comes of playing a sound is decided by the first stage that fails. It is played exactly
if no stage fails, which needs a device whose stream is built, starts and makes requests that take
the sound up to its last sample. The device is left alone if the samples have a wrong width, and a
stream that was not built is not started. -/
theorem play_outcome
    (hfits : (format.durationMs audio.length).toNat + player.graceMs.toNat < UInt64.size) :
    let performance := (player.play device format audio).value
    performance.result =
        (Stage.all.findSome? (Stage.error? player device format audio)).elim
          (.ok ⟨audio.length⟩) .error ∧
      ((∃ report, performance.result = .ok report) ↔
        format.bitsPerSample = 16 ∧ ∃ present, device = some present ∧
          present.openFault = none ∧ present.startFault = none ∧
            requestsOf present.events ≠ [] ∧
              (audio.length + 1) / 2 ≤ totalSize (requestsOf present.events)) ∧
      (format.bitsPerSample ≠ 16 → performance.use = {} ∧
        ∀ other, player.play other format audio = player.play device format audio) ∧
      (performance.use.started = true → performance.use.opened = some format ∧
        ∃ present, device = some present ∧ present.openFault = none) ∧
      ∀ present fault, device = some present → present.openFault = some fault →
        ∀ startFault events,
          player.play (some { present with startFault, events }) format audio =
            player.play device format audio := by
  intro performance
  have hgoes : Goes player format audio device performance := player.play_goes device format audio
  have hresult := hgoes.result hfits
  refine ⟨hresult, ?_, fun hwidth => ⟨?_, fun other => ?_⟩, hgoes.opened_of_started, ?_⟩
  · have hnone : Stage.all.findSome? (Stage.error? player device format audio) = none ↔ _ :=
      Stage.findSome?_error?_eq_none_iff
    rw [hresult]
    refine Iff.trans ?_ hnone
    cases Stage.all.findSome? (Stage.error? player device format audio) with
    | none => exact iff_of_true ⟨_, rfl⟩ rfl
    | some error => exact iff_of_false nofun nofun
  · exact hgoes.use_of_width hwidth
  · rw [play_of_width player hwidth, play_of_width player hwidth]
  · rintro present fault rfl hopen startFault events
    exact play_of_openFault player hopen startFault events

/-- Three octets are two samples; two requests take them, and a fault of the stream between the
requests changes nothing. A device that asks for one sample only makes the player wait in vain. -/
theorem play_of_two_requests :
    let player : Player := {}
    let audio : Octets := [1, 0, 2]
    let patient : Device := { events := [.request { size := 1 }, .fault .notAvailable,
      .request { size := 1 }] }
    let hasty : Device := { events := [.request { size := 1 }] }
    (Format.durationMs .speech audio.length).toNat + player.graceMs.toNat < UInt64.size ∧
      (player.play patient .speech audio).value.result = .ok ⟨3⟩ ∧
      (player.play hasty .speech audio).value.result = .error (.timeout 2001) := by
  intro player audio patient hasty
  have hfits : (Format.durationMs .speech audio.length).toNat + player.graceMs.toNat <
      UInt64.size := by decide
  have hheard : (player.play patient .speech audio).value.result = _ :=
    (play_outcome player hfits).1
  have hunheard : (player.play hasty .speech audio).value.result = _ :=
    (play_outcome player hfits).1
  exact ⟨hfits, hheard.trans (by decide +kernel), hunheard.trans (by decide +kernel)⟩

end Player

end CloudSpeech.Audio
