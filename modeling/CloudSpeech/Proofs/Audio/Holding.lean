import CloudSpeech.Proofs.Audio.Outcome
import Mathlib

/-!
# How long a stream is held open

The drain time is the latency of a request and the whole microseconds that its batch plays. Cutting
off the rest of a microsecond loses less than one, and nothing else is lost on the way from samples
to seconds and nanoseconds. So a stream is open until its last sample has been heard if there is a
margin of a millisecond, and closed less than a microsecond too early if there is none.
-/

namespace CloudSpeech.Audio

/-! ## Spans in parts -/

namespace Span

theorem subsecond_lt (span : Span) : span.subsecond < 1000000000 :=
  Nat.mod_lt _ (by decide)

theorem seconds_mul_add_subsecond (span : Span) :
    span.seconds * 1000000000 + span.subsecond = span.nanoseconds :=
  Nat.div_add_mod' span.nanoseconds 1000000000

theorem seconds_lt_size_iff (span : Span) :
    span.seconds < UInt64.size ↔ span.nanoseconds ≤ longest.nanoseconds := by
  have hparts := span.seconds_mul_add_subsecond
  have hrest := span.subsecond_lt
  simp only [longest, ofParts, UInt64.size]
  omega

theorem add?_eq_some_iff {a b sum : Span} :
    a.add? b = some sum ↔ a + b = sum ∧ sum.nanoseconds ≤ longest.nanoseconds := by
  rw [add?]
  split
  · next hfits =>
    rw [Option.some.injEq]
    constructor
    · rintro rfl
      exact ⟨rfl, hfits⟩
    · rintro ⟨rfl, -⟩
      rfl
  · next hlong =>
    refine iff_of_false (Option.some_ne_none sum).symm ?_
    rintro ⟨rfl, hfits⟩
    exact hlong hfits

theorem add?_eq_none_iff {a b : Span} :
    a.add? b = none ↔ longest.nanoseconds < a.nanoseconds + b.nanoseconds := by
  rw [add?, nanoseconds_add]
  split
  · next hfits => exact iff_of_false (Option.some_ne_none _) (Nat.not_lt.mpr hfits)
  · next hlong => exact iff_of_true rfl (Nat.lt_of_not_le hlong)

end Span

/-! ## The time that a batch plays -/

namespace Format

theorem toNat_samplesPerSecond (format : Format) :
    format.samplesPerSecond.toNat = format.sampleRate.toNat * max format.channels.toNat 1 := by
  have hchannels : (if format.channels ≤ 1 then 1 else format.channels).toNat =
      max format.channels.toNat 1 := by
    split
    · next hnone => exact (Nat.max_eq_right (UInt16.le_iff_toNat_le.mp hnone)).symm
    · next hsome =>
      have hlt : 1 < format.channels.toNat := UInt16.lt_iff_toNat_lt.mp (UInt16.not_le.mp hsome)
      exact (Nat.max_eq_left hlt.le).symm
  have hrate_lt := format.sampleRate.toNat_lt
  have hchannels_lt : max format.channels.toNat 1 < 2 ^ 16 :=
    max_lt format.channels.toNat_lt (by decide)
  have hfits : format.sampleRate.toNat * max format.channels.toNat 1 < 2 ^ 64 := by
    calc
      _ ≤ 2 ^ 32 * 2 ^ 16 := Nat.mul_le_mul hrate_lt.le hchannels_lt.le
      _ < 2 ^ 64 := by decide
  rw [samplesPerSecond, UInt64.toNat_mul, UInt32.toNat_toUInt64, UInt16.toNat_toUInt64]
  change _ * (if format.channels ≤ 1 then 1 else format.channels).toNat % _ = _
  rw [hchannels]
  exact Nat.mod_eq_of_lt hfits

theorem samplesPerSecond_eq_zero_iff (format : Format) :
    format.samplesPerSecond = 0 ↔ format.sampleRate = 0 := by
  rw [← UInt64.toNat_inj, ← UInt32.toNat_inj, toNat_samplesPerSecond]
  change _ * _ = 0 ↔ _ = 0
  rw [Nat.mul_eq_zero]
  omega

/-- How long samples play, without rounding, in nanoseconds. -/
def playingTime (format : Format) (samples : Nat) : ℚ :=
  samples * 1000000000 / (format.sampleRate.toNat * format.channels.toNat : Nat)

end Format

/-- When the last of a request's samples has been heard, in nanoseconds after the request. -/
def Request.heardAfter (request : Request) (samples : Nat) (format : Format) : ℚ :=
  request.latency.nanoseconds + format.playingTime samples

theorem nanoseconds_batchTime {samples : Nat} (hfits : samples * 1000000 < UInt64.size)
    (format : Format) :
    (batchTime samples format).nanoseconds =
      if format.sampleRate = 0 then 0
      else 1000 * (samples * 1000000 /
        (format.sampleRate.toNat * max format.channels.toNat 1)) := by
  have hsamples : samples < UInt64.size := by omega
  have hmicros : (samples.toUInt64 * 1000000).toNat = samples * 1000000 := by
    rw [UInt64.toNat_mul, UInt64.toNat_ofNat_of_lt' hsamples]
    exact Nat.mod_eq_of_lt hfits
  rw [batchTime]
  simp only [Format.samplesPerSecond_eq_zero_iff]
  split
  · rfl
  · rw [Span.ofMicros, UInt64.toNat_div, hmicros, Format.toNat_samplesPerSecond, Nat.mul_comm]

/-- Whole microseconds are less than the time that a batch plays by less than one of them. -/
theorem batchTime_near {samples : Nat} (hfits : samples * 1000000 < UInt64.size) {format : Format}
    (hrate : 0 < format.sampleRate) (hchannels : 0 < format.channels) :
    ((batchTime samples format).nanoseconds : ℚ) ≤ format.playingTime samples ∧
      format.playingTime samples < (batchTime samples format).nanoseconds + 1000 := by
  have hrate_pos : 0 < format.sampleRate.toNat := UInt32.lt_iff_toNat_lt.mp hrate
  have hchannels_pos : 0 < format.channels.toNat := UInt16.lt_iff_toNat_lt.mp hchannels
  have hperSecond : 0 < format.sampleRate.toNat * format.channels.toNat :=
    Nat.mul_pos hrate_pos hchannels_pos
  have hbatch : (batchTime samples format).nanoseconds =
      1000 * (samples * 1000000 / (format.sampleRate.toNat * format.channels.toNat)) := by
    rw [nanoseconds_batchTime hfits, if_neg (UInt32.ne_of_lt hrate).symm,
      Nat.max_eq_left hchannels_pos]
  rw [hbatch, Format.playingTime]
  generalize format.sampleRate.toNat * format.channels.toNat = perSecond at hperSecond ⊢
  have hlow := Nat.div_mul_le_self (samples * 1000000) perSecond
  have hhigh := Nat.lt_mul_div_succ (samples * 1000000) hperSecond
  generalize samples * 1000000 / perSecond = micros at hlow hhigh ⊢
  have hlow_nanos : 1000 * micros * perSecond ≤ samples * 1000000000 := by
    calc
      _ = 1000 * (micros * perSecond) := Nat.mul_assoc ..
      _ ≤ 1000 * (samples * 1000000) := Nat.mul_le_mul_left 1000 hlow
      _ = samples * 1000000000 := by omega
  have hhigh_nanos : samples * 1000000000 < (1000 * micros + 1000) * perSecond := by
    calc
      _ = 1000 * (samples * 1000000) := by omega
      _ < 1000 * (perSecond * (micros + 1)) := Nat.mul_lt_mul_of_pos_left hhigh (by decide)
      _ = (1000 * micros + 1000) * perSecond := by ring
  have hpos : (0 : ℚ) < perSecond := Nat.cast_pos.mpr hperSecond
  rw [le_div_iff₀ hpos, div_lt_iff₀ hpos]
  exact ⟨by exact_mod_cast hlow_nanos, by exact_mod_cast hhigh_nanos⟩

/-! ## The request that completes the sound -/

theorem Feed.exists_of_findSome?_drain {format : Format} {feed : Feed} {requests : List Request}
    {drain : Span} (h : (feed.replies format requests).findSome? (·.drain) = some drain) :
    ∃ before request later, requests = before ++ request :: later ∧
      ((feed.after before).reply format request).drain = some drain := by
  induction requests generalizing feed with
  | nil => cases h
  | cons request rest ih =>
      rw [replies, List.findSome?_cons] at h
      split at h
      · next found hfound =>
        exact ⟨[], request, rest, rfl, hfound.trans h⟩
      · obtain ⟨before, last, later, rfl, hdrain⟩ := ih h
        exact ⟨request :: before, last, later, rfl, hdrain⟩

namespace Player

/-- A sound that was played was completed by one request, after whose drain time and the margin the
stream was closed. -/
theorem exists_completes_of_play_eq_ok (player : Player) {device : Option Device} {format : Format}
    {audio : Octets} {report : PlaybackReport}
    (hplayed : (player.play device format audio).value.result = .ok report) :
    ∃ present before request later, device = some present ∧
      requestsOf present.events = before ++ request :: later ∧
      Completes (Sample.decode audio) before request ∧
      (player.play device format audio).value.hold =
        some (player.holdTime (drainTime request.latency
          (min request.size ((Sample.decode audio).length - totalSize before)) format)) := by
  have hgoes := player.play_goes device format audio
  generalize (player.play device format audio).value = performance at hgoes hplayed ⊢
  cases hgoes with
  | width | device | build | start => cases hplayed
  | @run present =>
      rw [finish_result] at hplayed
      split at hplayed
      · next htold =>
        obtain ⟨drain, hdrain⟩ := Option.isSome_iff_exists.mp htold
        obtain ⟨before, request, later, hrequests, hreply⟩ := Feed.exists_of_findSome?_drain hdrain
        rw [Feed.drain_after_start, Feed.available_after_start] at hreply
        split at hreply
        · next hcompletes =>
          refine ⟨present, before, request, later, rfl, hrequests, hcompletes, ?_⟩
          rw [finish_hold, hdrain, Option.map_some, Option.some.inj hreply]
        · cases hreply
      · cases hplayed

theorem nanoseconds_holdTime (player : Player) (drain : Span) :
    (player.holdTime drain).nanoseconds = drain.nanoseconds + player.tailMs.toNat * 1000000 := rfl

/-- The drain time is the latency and the whole microseconds that the samples play, in seconds and
nanoseconds, unless that is longer than the longest span. A sound that was played was completed by
one request, and its stream is closed when the last sample of that request has been heard, or less
than a microsecond before if there is no margin. -/
theorem held_until_heard :
    (∀ (latency : Span) (samples : Nat) (format : Format), samples * 1000000 < UInt64.size →
      ∃ total, total = latency.nanoseconds + (if format.sampleRate = 0 then 0
          else 1000 * (samples * 1000000 /
            (format.sampleRate.toNat * max format.channels.toNat 1))) ∧
        (drainTime? latency samples format = none ↔ Span.longest.nanoseconds < total) ∧
        ∀ drain, drainTime? latency samples format = some drain →
          drain.seconds < UInt64.size ∧ drain.subsecond < 1000000000 ∧
            drain.seconds * 1000000000 + drain.subsecond = total) ∧
    ∀ (player : Player) (device : Option Device) (format : Format) (audio : Octets)
      (report : PlaybackReport), 0 < format.sampleRate → 0 < format.channels →
      (player.play device format audio).value.result = .ok report →
      ∃ present before request later samples hold, device = some present ∧
        requestsOf present.events = before ++ request :: later ∧
        Completes (Sample.decode audio) before request ∧
        samples = min request.size ((Sample.decode audio).length - totalSize before) ∧
        (request.gap.nanoseconds < UInt64.size → request.latency = request.gap) ∧
        (player.play device format audio).value.hold = some hold ∧
        hold = drainTime request.latency samples format + .ofMillis player.tailMs ∧
        hold.nanoseconds ≤ Span.longest.nanoseconds ∧
        (samples * 1000000 < UInt64.size →
          (1 ≤ player.tailMs → request.heardAfter samples format ≤ hold.nanoseconds) ∧
          (player.tailMs = 0 → hold.nanoseconds ≤ request.heardAfter samples format ∧
            request.heardAfter samples format < hold.nanoseconds + 1000)) := by
  constructor
  · intro latency samples format hfits
    refine ⟨_, rfl, ?_, ?_⟩
    · rw [drainTime?, Span.add?_eq_none_iff, nanoseconds_batchTime hfits]
    · intro drain hdrain
      obtain ⟨rfl, hlongest⟩ := Span.add?_eq_some_iff.mp hdrain
      refine ⟨(Span.seconds_lt_size_iff _).mpr hlongest, Span.subsecond_lt _, ?_⟩
      rw [Span.seconds_mul_add_subsecond, Span.nanoseconds_add, nanoseconds_batchTime hfits]
  · intro player device format audio report hrate hchannels hplayed
    obtain ⟨present, before, request, later, hdevice, hrequests, hcompletes, hhold⟩ :=
      player.exists_completes_of_play_eq_ok hplayed
    refine ⟨present, before, request, later, _, _, hdevice, hrequests, hcompletes, rfl, ?_, hhold,
      rfl, player.play_hold_le_longest hhold, ?_⟩
    · intro hgap
      rw [request.latency_eq, if_pos hgap]
    · intro hfits
      obtain ⟨hlow, hhigh⟩ := batchTime_near hfits hrate hchannels
      rw [Request.heardAfter, nanoseconds_holdTime, drainTime, Span.nanoseconds_add]
      push_cast
      constructor
      · intro htail
        have hmargin : (1 : ℚ) ≤ player.tailMs.toNat :=
          Nat.one_le_cast.mpr (UInt64.le_iff_toNat_le.mp htail)
        linarith
      · intro htail
        have hnone : (player.tailMs.toNat : ℚ) = 0 := by
          rw [htail]
          rfl
        constructor <;> linarith

/-- At sixteen kilohertz a single last sample plays half a microsecond longer than the drain time
says, and without a margin the stream is closed that much too early. -/
theorem held_for_single_sample :
    let player : Player := { tailMs := 0 }
    let first : Request := { size := 2 }
    let last : Request := { size := 4, callback := ⟨1000⟩, playback := ⟨251000⟩ }
    let device : Device := { events := [.request first, .request last] }
    let audio : Octets := [1, 0, 2, 0, 3, 0]
    0 < Format.speech.sampleRate ∧ 0 < Format.speech.channels ∧
      (player.play (some device) .speech audio).value.result = .ok ⟨6⟩ ∧
      (player.play (some device) .speech audio).value.hold = some ⟨312000⟩ ∧
      312000 ≤ last.heardAfter 1 .speech ∧ last.heardAfter 1 .speech < 313000 := by
  intro player first last device audio
  have hrate : 0 < Format.speech.sampleRate := by decide
  have hchannels : 0 < Format.speech.channels := by decide
  have hplayed : (player.play (some device) .speech audio).value.result = .ok ⟨6⟩ := by
    decide +kernel
  have hheld : (player.play (some device) .speech audio).value.hold = some ⟨312000⟩ := by
    decide +kernel
  obtain ⟨present, before, request, later, samples, hold, hdevice, hrequests, hcompletes,
    hsamples, -, hhold, -, -, hclosed⟩ :=
    held_until_heard.2 player (some device) .speech audio ⟨6⟩ hrate hchannels hplayed
  cases hdevice
  cases hhold.symm.trans hheld
  have hfirst : ¬ Completes (Sample.decode audio) [] first := by decide
  have hpair : [first, last] = before ++ request :: later := hrequests
  -- The first request takes two of the three samples, so it is the second that completes them.
  obtain ⟨rfl, rfl⟩ : before = [first] ∧ request = last := by
    match before with
    | [] =>
        cases hpair
        exact absurd hcompletes hfirst
    | [_] =>
        cases hpair
        exact ⟨rfl, rfl⟩
    | _ :: _ :: rest => cases rest <;> cases hpair
  obtain rfl : samples = 1 := hsamples
  obtain ⟨hlow, hhigh⟩ := (hclosed (by decide)).2 rfl
  refine ⟨hrate, hchannels, hplayed, hheld, ?_, ?_⟩
  · exact_mod_cast hlow
  · refine hhigh.trans_eq ?_
    norm_num

end Player

end CloudSpeech.Audio
