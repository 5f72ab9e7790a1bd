import Parlor.Proofs.Socket.WriterCourse

/-!
# Timing that keeps sockets alive

Whatever the settings are, a peer is asked for an answer before the time for it is over: the ping period is
not empty, and it is shorter than the time for an answer. The settings give no timing exactly if a period
has to be made out of a time for an answer of which nine times do not fit a duration.

A clock keeps durations as seconds and nanoseconds apart, and multiplies and divides them apart. This gives
the same durations as counting in nanoseconds.
-/

namespace Parlor.Socket

open Text (Nanos)
open Config (RealtimeSettings)

/-! ## Seconds and nanoseconds apart -/

/-- A duration as a clock keeps it: seconds that fit a word, and nanoseconds that make up no second. -/
structure Span where
  seconds : Nat
  nanos : Nat
  seconds_lt : seconds < UInt64.size
  nanos_lt : nanos < 1000000000

namespace Span

/-- The nanoseconds of a span. -/
def length (s : Span) : Nanos := Text.seconds s.seconds + s.nanos

/-- The span of whole seconds. -/
def ofSeconds (seconds : Nat) (h : seconds < UInt64.size) : Span := ⟨seconds, 0, h, by decide⟩

theorem length_ofSeconds (seconds : Nat) (h : seconds < UInt64.size) :
    (ofSeconds seconds h).length = Text.seconds seconds := Nat.add_zero _

/-- The span of seconds and any number of nanoseconds, which fill further seconds, if all seconds fit a word. -/
def carry? (seconds nanos : Nat) : Option Span :=
  if h : seconds + nanos / 1000000000 < UInt64.size then
    some ⟨_, nanos % 1000000000, h, Nat.mod_lt nanos (by decide)⟩
  else none

/-- A span some times over, if the seconds fit a word before and after the carry. -/
def times? (s : Span) (k : Nat) : Option Span :=
  if s.seconds * k < UInt64.size then carry? (s.seconds * k) (s.nanos * k) else none

/-- A duration is short enough to be handled if its seconds fit a word after the carry. -/
theorem lt_durationBound_iff (seconds nanos : Nat) :
    Text.seconds seconds + nanos < Timing.durationBound ↔ seconds + nanos / 1000000000 < UInt64.size := by
  change seconds * 1000000000 + nanos < UInt64.size * 1000000000 ↔ _
  omega

/-- Seconds and nanoseconds make up a span exactly if all nanoseconds fit a duration. -/
theorem map_length_carry? (seconds nanos : Nat) :
    (carry? seconds nanos).map length =
      if Text.seconds seconds + nanos < Timing.durationBound then some (Text.seconds seconds + nanos) else none := by
  rw [carry?]
  split
  case isTrue hfits =>
    rw [Option.map_some, if_pos ((lt_durationBound_iff _ _).mpr hfits), Option.some.injEq]
    change (seconds + nanos / 1000000000) * 1000000000 + nanos % 1000000000 = seconds * 1000000000 + nanos
    omega
  case isFalse hlarge => rw [Option.map_none, if_neg (mt (lt_durationBound_iff _ _).mp hlarge)]

/-- Seconds and nanoseconds are multiplied apart exactly if all nanoseconds fit a duration. -/
theorem map_length_times? (s : Span) (k : Nat) :
    (s.times? k).map length = if s.length * k < Timing.durationBound then some (s.length * k) else none := by
  have hlength : s.length * k = Text.seconds (s.seconds * k) + s.nanos * k := by
    rw [length, Text.seconds, Text.seconds, Nat.add_mul, Nat.mul_right_comm]
  rw [hlength, times?]
  split
  case isTrue => exact map_length_carry? _ _
  case isFalse hlarge =>
    rw [Option.map_none, if_neg fun hfits => hlarge ?_]
    exact Nat.lt_of_le_of_lt (Nat.le_add_right _ _) ((lt_durationBound_iff _ _).mp hfits)

/-- The nanoseconds in a part of a span: a part of its own, and one of the seconds that cannot be divided. -/
def partNanos (s : Span) (k : Nat) : Nat := s.nanos / k + (s.seconds % k * 1000000000 + s.nanos % k) / k

/-- Dividing the nanoseconds of a span apart from its seconds loses nothing. -/
theorem partNanos_eq (s : Span) {k : Nat} (hk : 0 < k) :
    s.partNanos k = (s.seconds % k * 1000000000 + s.nanos) / k := by
  have hsplit : s.seconds % k * 1000000000 + s.nanos =
      (s.seconds % k * 1000000000 + s.nanos % k) + k * (s.nanos / k) := by
    rw [Nat.add_assoc, Nat.mod_add_div]
  rw [hsplit, Nat.add_mul_div_left _ _ hk, partNanos, Nat.add_comm]

/-- The nanoseconds in a part of a span make up no second. -/
theorem partNanos_lt (s : Span) {k : Nat} (hk : 0 < k) : s.partNanos k < 1000000000 := by
  rw [partNanos_eq s hk]
  refine Nat.div_lt_of_lt_mul ?_
  calc s.seconds % k * 1000000000 + s.nanos
      < s.seconds % k * 1000000000 + 1000000000 := Nat.add_lt_add_left s.nanos_lt _
    _ = (s.seconds % k + 1) * 1000000000 := (Nat.succ_mul _ _).symm
    _ ≤ k * 1000000000 := Nat.mul_le_mul_right _ (Nat.mod_lt _ hk)

/-- A part of a span. -/
def part (s : Span) (k : Nat) (hk : 0 < k) : Span :=
  ⟨s.seconds / k, s.partNanos k, Nat.lt_of_le_of_lt (Nat.div_le_self _ _) s.seconds_lt, s.partNanos_lt hk⟩

/-- Seconds and nanoseconds that are divided apart make up the part of all nanoseconds. -/
theorem length_part (s : Span) {k : Nat} (hk : 0 < k) : (s.part k hk).length = s.length / k := by
  have hseconds : Text.seconds s.seconds = Text.seconds (s.seconds % k) + k * Text.seconds (s.seconds / k) := by
    rw [Text.seconds, Text.seconds, Text.seconds, ← Nat.mul_assoc, ← Nat.add_mul, Nat.mod_add_div]
  have hsplit : s.length = (Text.seconds (s.seconds % k) + s.nanos) + k * Text.seconds (s.seconds / k) := by
    rw [length, hseconds, Nat.add_right_comm]
  have hpart : s.partNanos k = (Text.seconds (s.seconds % k) + s.nanos) / k := s.partNanos_eq hk
  rw [hsplit, Nat.add_mul_div_left _ _ hk, ← hpart, Nat.add_comm]
  rfl

end Span

/-! ## The ping period -/

namespace Timing

/-- A period that is given in the settings is used: it is not empty, and shorter than the time for an answer. -/
def UsesGiven (s : RealtimeSettings) (period : UInt64) : Prop :=
  s.pingPeriodSeconds = some period ∧ 0 < period ∧ period < s.pongWaitSeconds

/-- The seconds that a peer has for an answer. -/
def answerSeconds (s : RealtimeSettings) : Nat := max s.pongWaitSeconds.toNat 1

/-- The seconds for an answer fit a word. -/
theorem answerSeconds_lt (s : RealtimeSettings) : answerSeconds s < UInt64.size :=
  Nat.max_lt.mpr ⟨s.pongWaitSeconds.toNat_lt_size, by decide⟩

/-- Nine tenths of the time for an answer, as a clock computes them. -/
def nineTenths? (s : RealtimeSettings) : Option Span :=
  ((Span.ofSeconds (answerSeconds s) (answerSeconds_lt s)).times? 9).map (·.part 10 (by decide))

/-- The ping period as a clock computes it. -/
def pingSpan? (s : RealtimeSettings) : Option Span :=
  match s.pingPeriodSeconds with
  | some period =>
    if 0 < period ∧ period < s.pongWaitSeconds then some (.ofSeconds period.toNat period.toNat_lt_size)
    else nineTenths? s
  | none => nineTenths? s

/-- The timing that the settings give with a ping period. -/
def withPeriod (s : RealtimeSettings) (period : Nanos) : Timing where
  sendBuffer := max s.sendBuffer.toNat 1
  maxMessageSize := max s.maxMessageSize.toNat 1
  writeWait := Text.seconds (max s.writeWaitSeconds.toNat 1)
  pongWait := Text.seconds (answerSeconds s)
  pingPeriod := period

/-- A clock computes nine tenths of the time for an answer as long as nine times fit a duration. -/
theorem map_length_nineTenths? (s : RealtimeSettings) :
    (nineTenths? s).map Span.length =
      if Text.seconds (answerSeconds s) * 9 < durationBound then some (Text.seconds (answerSeconds s) * 9 / 10)
      else none := by
  have htimes := (Span.ofSeconds (answerSeconds s) (answerSeconds_lt s)).map_length_times? 9
  rw [Span.length_ofSeconds] at htimes
  rw [nineTenths?]
  cases hspan : (Span.ofSeconds (answerSeconds s) (answerSeconds_lt s)).times? 9 with
  | none =>
    rw [hspan, Option.map_none] at htimes
    rw [Option.map_none, Option.map_none]
    split
    case isTrue hfits => rw [if_pos hfits] at htimes; contradiction
    case isFalse => rfl
  | some span =>
    rw [hspan, Option.map_some] at htimes
    rw [Option.map_some, Option.map_some, Span.length_part]
    split
    case isTrue hfits =>
      rw [if_pos hfits] at htimes
      rw [Option.some.inj htimes]
    case isFalse hlarge => rw [if_neg hlarge] at htimes; contradiction

/-- What the settings give: a timing with the given period, one with nine tenths of the time for an answer, or none. -/
theorem ofSettings_cases (s : RealtimeSettings) :
    (∃ period, UsesGiven s period ∧ ofSettings s = some (withPeriod s (Text.seconds period.toNat)) ∧
        pingSpan? s = some (.ofSeconds period.toNat period.toNat_lt_size)) ∨
      (¬ ∃ period, UsesGiven s period) ∧ pingSpan? s = nineTenths? s ∧
        ofSettings s = ((nineTenths? s).map Span.length).map (withPeriod s) := by
  have hunused (hnone : explicitPeriod? s = none) :
      ofSettings s = ((nineTenths? s).map Span.length).map (withPeriod s) := by
    rw [map_length_nineTenths?, ofSettings, hnone, answerSeconds]
    dsimp only
    split <;> rfl
  cases hgiven : s.pingPeriodSeconds with
  | none =>
    have hnone : explicitPeriod? s = none := by rw [explicitPeriod?, hgiven]
    refine .inr ⟨fun ⟨period, hperiod, _⟩ => ?_, by rw [pingSpan?, hgiven], hunused hnone⟩
    rw [hgiven] at hperiod
    contradiction
  | some period =>
    by_cases hshort : 0 < period ∧ period < s.pongWaitSeconds
    · refine .inl ⟨period, ⟨hgiven, hshort⟩, ?_, ?_⟩
      · have hsome : explicitPeriod? s = some (Text.seconds period.toNat) := by
          rw [explicitPeriod?, hgiven]
          exact if_pos hshort
        rw [ofSettings, hsome]
        rfl
      · rw [pingSpan?, hgiven]
        exact if_pos hshort
    · have hnone : explicitPeriod? s = none := by
        rw [explicitPeriod?, hgiven]
        exact if_neg hshort
      refine .inr ⟨fun ⟨other, hother, hused⟩ => ?_, ?_, hunused hnone⟩
      · rw [hgiven, Option.some.injEq] at hother
        exact hshort (hother ▸ hused)
      · rw [pingSpan?, hgiven]
        exact if_neg hshort

/-- What is promised of a timing that the settings give. -/
structure KeepsAlive (s : RealtimeSettings) (t : Timing) : Prop where
  pongWait : t.pongWait = Text.seconds (answerSeconds s)
  pingPeriod_pos : 0 < t.pingPeriod
  pingPeriod_lt : t.pingPeriod < t.pongWait
  given : ∀ period, UsesGiven s period → t.pingPeriod = Text.seconds period.toNat
  nineTenths : (¬ ∃ period, UsesGiven s period) → 10 * t.pingPeriod = 9 * t.pongWait
  sendBuffer : 1 ≤ t.sendBuffer
  maxMessageSize : 1 ≤ t.maxMessageSize
  writeWait : Text.seconds 1 ≤ t.writeWait

/-- One period is used at most. -/
theorem UsesGiven.unique {s : RealtimeSettings} {period other : UInt64} (h : UsesGiven s period)
    (hother : UsesGiven s other) : period = other := Option.some.inj (h.1.symm.trans hother.1)

/-- More seconds take longer. -/
theorem seconds_lt_seconds {m n : Nat} (h : m < n) : Text.seconds m < Text.seconds n :=
  Nat.mul_lt_mul_of_pos_right h (by decide)

/-- A given period that is used keeps a socket alive. -/
theorem UsesGiven.keepsAlive {s : RealtimeSettings} {period : UInt64} (h : UsesGiven s period) :
    KeepsAlive s (withPeriod s (Text.seconds period.toNat)) where
  pongWait := rfl
  pingPeriod_pos := seconds_lt_seconds (m := 0) (UInt64.lt_iff_toNat_lt.mp h.2.1)
  pingPeriod_lt :=
    seconds_lt_seconds (Nat.lt_of_lt_of_le (UInt64.lt_iff_toNat_lt.mp h.2.2) (Nat.le_max_left _ _))
  given other hother := by rw [h.unique hother]; rfl
  nineTenths hunused := absurd ⟨period, h⟩ hunused
  sendBuffer := Nat.le_max_right _ _
  maxMessageSize := Nat.le_max_right _ _
  writeWait := Nat.mul_le_mul_right _ (Nat.le_max_right _ _)

/-- Nine tenths of the time for an answer keep a socket alive, and they are exact. -/
theorem keepsAlive_nineTenths {s : RealtimeSettings} (hunused : ¬ ∃ period, UsesGiven s period) :
    KeepsAlive s (withPeriod s (Text.seconds (answerSeconds s) * 9 / 10)) := by
  have hanswer : 1 ≤ answerSeconds s := Nat.le_max_right _ _
  have htenths : Text.seconds (answerSeconds s) * 9 / 10 = answerSeconds s * 900000000 := by
    change answerSeconds s * 1000000000 * 9 / 10 = _
    omega
  rw [htenths]
  refine
    { pongWait := rfl
      pingPeriod_pos := ?_
      pingPeriod_lt := ?_
      given := fun period hperiod => absurd ⟨period, hperiod⟩ hunused
      nineTenths := fun _ => ?_
      sendBuffer := Nat.le_max_right _ _
      maxMessageSize := Nat.le_max_right _ _
      writeWait := Nat.mul_le_mul_right _ (Nat.le_max_right _ _) }
  · change 0 < answerSeconds s * 900000000
    omega
  · change answerSeconds s * 900000000 < answerSeconds s * 1000000000
    omega
  · change 10 * (answerSeconds s * 900000000) = 9 * (answerSeconds s * 1000000000)
    omega

/--
The settings give no timing exactly if nine times the time for an answer do not fit a duration and no given
period is used. Every timing that they give keeps a socket alive. The ping period is the one that a clock
computes with seconds and nanoseconds apart.
-/
theorem settings_keep_alive (s : RealtimeSettings) :
    (ofSettings s = none ↔
      durationBound ≤ Text.seconds (answerSeconds s) * 9 ∧ ¬ ∃ period, UsesGiven s period) ∧
    (∀ t, ofSettings s = some t → KeepsAlive s t) ∧
    (ofSettings s).map (·.pingPeriod) = (pingSpan? s).map Span.length := by
  rcases ofSettings_cases s with ⟨period, hused, hsome, hspan⟩ | ⟨hunused, hspan, hsettings⟩
  · rw [hspan, hsome]
    refine ⟨⟨fun hnone => ?_, fun hunused => absurd ⟨period, hused⟩ hunused.2⟩, fun t ht => ?_, ?_⟩
    · contradiction
    · rw [Option.some.injEq] at ht
      exact ht ▸ hused.keepsAlive
    · rw [Option.map_some, Option.map_some, Span.length_ofSeconds, withPeriod]
  · rw [hspan, hsettings, map_length_nineTenths?]
    by_cases hfits : Text.seconds (answerSeconds s) * 9 < durationBound
    · rw [if_pos hfits]
      refine ⟨⟨fun hnone => ?_, fun hlarge => absurd hfits (Nat.not_lt.mpr hlarge.1)⟩, fun t ht => ?_, rfl⟩
      · contradiction
      · rw [Option.map_some, Option.some.injEq] at ht
        exact ht ▸ keepsAlive_nineTenths hunused
    · rw [if_neg hfits]
      refine ⟨⟨fun _ => ⟨Nat.not_lt.mp hfits, hunused⟩, fun _ => rfl⟩, fun t ht => ?_, rfl⟩
      rw [Option.map_none] at ht
      contradiction

/-- The longest time for an answer of which nine times fit a duration keeps a socket alive, and no longer one does. -/
theorem longest_answer_keeps_alive :
    (∃ t, ofSettings { pongWaitSeconds := 2049638230412172401 } = some t ∧
      t.pingPeriod = 1844674407370955160900000000 ∧ 0 < t.pingPeriod ∧ t.pingPeriod < t.pongWait) ∧
    ofSettings { pongWaitSeconds := 2049638230412172402 } = none := by
  obtain ⟨-, halive, -⟩ := settings_keep_alive { pongWaitSeconds := 2049638230412172401 }
  obtain ⟨hnone, -, -⟩ := settings_keep_alive { pongWaitSeconds := 2049638230412172402 }
  have hsome : ofSettings { pongWaitSeconds := 2049638230412172401 } =
      some (withPeriod { pongWaitSeconds := 2049638230412172401 } 1844674407370955160900000000) := by
    decide +kernel
  have hperiod := halive _ hsome
  refine ⟨⟨_, hsome, rfl, hperiod.pingPeriod_pos, hperiod.pingPeriod_lt⟩, hnone.mpr ⟨by decide +kernel, ?_⟩⟩
  rintro ⟨period, hgiven, -⟩
  contradiction

end Timing

end Parlor.Socket
