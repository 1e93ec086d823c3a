import Clawbernetes.MoltAttestation.AttestationChain

/-!
# The limits of a chain under any configuration

`check_rate_limit` and `seconds_until_verification_allowed` of `hardware.rs` for every
configuration, every chain and every reading of the clock. A limit of up to `u64::MAX` seconds is
cut off at `i64::MAX` seconds, but a duration holds a thousandth of these, so the check panics when
it comes to a longer one.

`limits_kept_iff` says when the check returns, and `wait_sound_iff` when the seconds that are
reported are a wait after which a verification is allowed. They are cut to whole seconds, and they
are those of the cooldown alone while there is one.
-/

set_option autoImplicit false
set_option relaxedAutoImplicit false

namespace Clawbernetes.MoltAttestation.AttestationChain

/-- `AttestationChain::seconds_until_verification_allowed` at a time. The `none` is a panic. -/
def secondsUntilVerificationAllowed (now : DateTime) (chain : AttestationChain) : Option ℕ :=
  (chain.checkRateLimit now).map fun
    | .ok () => 0
    | .error (.rateLimitExceeded remaining) => remaining
    | .error (.cooldownActive remaining) => remaining
    | .error _ => 0

/-- The nanoseconds that are left of a limit since an event. Without an event there are none. -/
def leftNanos (limitSecs : UInt64) (now : DateTime) (last : Option DateTime) : ℤ :=
  last.elim 0 fun time ↦
    time.nanoseconds + limitSecs.toNat * nanosPerSecond - now.nanoseconds

/-- The limit is a duration, also when it is longer by the time for which the clock is behind the
event. -/
def Representable (limitSecs : UInt64) (now : DateTime) (last : Option DateTime) : Prop :=
  ∀ time ∈ last, limitSecs.toNat * nanosPerSecond + max 0 (time.nanoseconds - now.nanoseconds) ≤
    (2 ^ 63 - 1) * nanosPerMilli

variable {chain : AttestationChain} {limitSecs : UInt64} {now : DateTime} {last : Option DateTime}

/-! ### One limit -/

/-- The unit of a second is not negative. -/
theorem nanosPerSecond_nonneg : 0 ≤ nanosPerSecond := by decide

/-- A limit was waited for when nothing is left of it. -/
theorem waited_iff : Waited limitSecs now last ↔ leftNanos limitSecs now last ≤ 0 := by
  cases last with
  | none => exact iff_of_true (fun time htime ↦ by cases htime) le_rfl
  | some time =>
    have hwaited : Waited limitSecs now (some time) ↔
        time.nanoseconds + limitSecs.toNat * nanosPerSecond ≤ now.nanoseconds :=
      ⟨fun hall ↦ hall time rfl, fun hpast other hother ↦ by
        cases hother
        exact hpast⟩
    rw [hwaited]
    exact sub_nonpos.symm

/-- A limit that was waited for is a duration: there is no longer time between two readings of the
clock. -/
theorem Waited.representable (hwaited : Waited limitSecs now last) :
    Representable limitSecs now last := by
  intro time htime
  have hpast := hwaited time htime
  have hmin := time.min_le
  have hmax := now.lt_max
  unfold nanosPerMilli
  unfold nanosPerSecond at *
  omega

/-- The duration of some nanoseconds in range. -/
theorem ofNanoseconds_eq_some {nanoseconds : ℤ} (hmin : -(2 ^ 63 - 1) * nanosPerMilli ≤ nanoseconds)
    (hmax : nanoseconds ≤ (2 ^ 63 - 1) * nanosPerMilli) :
    TimeDelta.ofNanoseconds nanoseconds = some ⟨nanoseconds, hmin, hmax⟩ := dif_pos ⟨hmin, hmax⟩

/-- There is no duration of more nanoseconds. -/
theorem ofNanoseconds_eq_none {nanoseconds : ℤ}
    (hlarge : (2 ^ 63 - 1) * nanosPerMilli < nanoseconds) :
    TimeDelta.ofNanoseconds nanoseconds = none := dif_neg fun hrange ↦ hrange.2.not_gt hlarge

/-- The conversion of a limit that is cut off at the maximum of `i64` gives a duration exactly where
the limit is one. -/
theorem seconds_min_eq : TimeDelta.seconds (min (limitSecs.toNat : ℤ) (2 ^ 63 - 1)) =
    TimeDelta.ofNanoseconds (limitSecs.toNat * nanosPerSecond) := by
  rcases le_or_gt (limitSecs.toNat : ℤ) (2 ^ 63 - 1) with hsmall | hlarge
  · rw [min_eq_left hsmall, TimeDelta.seconds]
  · rw [min_eq_right hlarge.le, TimeDelta.seconds, ofNanoseconds_eq_none (by decide),
      ofNanoseconds_eq_none]
    unfold nanosPerMilli nanosPerSecond
    omega

/-- What remains of a limit that is a duration: nothing when it was waited for, and otherwise the
whole seconds that are left. -/
theorem remainingSecs_of_representable (hrepresentable : Representable limitSecs now last) :
    remainingSecs limitSecs now last = some (if leftNanos limitSecs now last ≤ 0 then none
      else some (leftNanos limitSecs now last / nanosPerSecond).toNat) := by
  cases last with
  | none => rfl
  | some time =>
    have hbound := hrepresentable time rfl
    have hlimit := Int.mul_nonneg (Int.natCast_nonneg limitSecs.toNat) nanosPerSecond_nonneg
    have hmin : -(2 ^ 63 - 1) * nanosPerMilli ≤ 0 := by decide
    have hgap := le_max_left 0 (time.nanoseconds - now.nanoseconds)
    have hbehind := le_max_right 0 (time.nanoseconds - now.nanoseconds)
    rw [remainingSecs, seconds_min_eq, ofNanoseconds_eq_some (by omega) (by omega)]
    change (if now.nanoseconds - time.nanoseconds < limitSecs.toNat * nanosPerSecond then
      (TimeDelta.ofNanoseconds (limitSecs.toNat * nanosPerSecond -
        (now.nanoseconds - time.nanoseconds))).bind _ else _) = _
    have hleft : leftNanos limitSecs now (some time) =
        limitSecs.toNat * nanosPerSecond - (now.nanoseconds - time.nanoseconds) := by
      rw [← sub_add, sub_add_eq_add_sub, add_comm]
      rfl
    rw [hleft]
    split_ifs with hopen hpast hpast
    · omega
    · rw [ofNanoseconds_eq_some (by omega) (by omega)]
      change some (some (max (Int.tdiv _ nanosPerSecond) 0).toNat) = _
      have hleft := Int.ediv_nonneg (not_le.mp hpast).le nanosPerSecond_nonneg
      rw [Int.tdiv_eq_ediv_of_nonneg (not_le.mp hpast).le, max_eq_left hleft]
    · rfl
    · omega

/-- For another limit the computation panics, in the conversion or in the subtraction. -/
theorem remainingSecs_of_not_representable (hlarge : ¬Representable limitSecs now last) :
    remainingSecs limitSecs now last = none := by
  cases last with
  | none => exact absurd (fun time htime ↦ by cases htime) hlarge
  | some time =>
    have hbound : (2 ^ 63 - 1) * nanosPerMilli <
        limitSecs.toNat * nanosPerSecond + max 0 (time.nanoseconds - now.nanoseconds) := by
      by_contra hrange
      refine hlarge fun other hother ↦ ?_
      cases hother
      exact not_lt.mp hrange
    have hleft : 0 < leftNanos limitSecs now (some time) := by
      by_contra hpast
      exact hlarge (waited_iff.mpr (not_lt.mp hpast)).representable
    have hopen : now.nanoseconds - time.nanoseconds < limitSecs.toNat * nanosPerSecond := by
      change 0 < time.nanoseconds + _ - _ at hleft
      omega
    rw [remainingSecs, seconds_min_eq]
    rcases le_or_gt (limitSecs.toNat * nanosPerSecond) ((2 ^ 63 - 1) * nanosPerMilli) with
      hrange | hrange
    · have hlimit : (0 : ℤ) ≤ limitSecs.toNat * nanosPerSecond := by
        unfold nanosPerSecond
        omega
      have hmin : -(2 ^ 63 - 1) * nanosPerMilli ≤ 0 := by decide
      rw [ofNanoseconds_eq_some (by omega) hrange]
      change (if now.nanoseconds - time.nanoseconds < limitSecs.toNat * nanosPerSecond then
        (TimeDelta.ofNanoseconds (limitSecs.toNat * nanosPerSecond -
          (now.nanoseconds - time.nanoseconds))).bind _ else _) = _
      rw [if_pos hopen, ofNanoseconds_eq_none (by omega)]
      rfl
    · rw [ofNanoseconds_eq_none hrange]
      rfl

/-! ### Both limits -/

/-- What is left of the cooldown since the last failure. -/
def cooldownLeft (now : DateTime) (chain : AttestationChain) : ℤ :=
  leftNanos chain.rateLimitConfig.failedVerificationCooldownSecs now chain.lastFailedVerification

/-- What is left of the interval since the last entry. -/
def intervalLeft (now : DateTime) (chain : AttestationChain) : ℤ :=
  leftNanos chain.rateLimitConfig.minVerificationIntervalSecs now chain.lastVerificationTime

/-- The cooldown is a duration, and so is the interval when there is no cooldown before it. -/
def LimitsRepresentable (now : DateTime) (chain : AttestationChain) : Prop :=
  Representable chain.rateLimitConfig.failedVerificationCooldownSecs now
      chain.lastFailedVerification ∧
    (0 < chain.cooldownLeft now ∨
      Representable chain.rateLimitConfig.minVerificationIntervalSecs now
        chain.lastVerificationTime)

/-- While something is left of the cooldown, the check reports it. -/
theorem checkRateLimit_of_cooling
    (hrepresentable : Representable chain.rateLimitConfig.failedVerificationCooldownSecs now
      chain.lastFailedVerification) (hcooling : 0 < chain.cooldownLeft now) :
    chain.checkRateLimit now =
      some (.error (.cooldownActive (chain.cooldownLeft now / nanosPerSecond).toNat)) := by
  have hremaining := (remainingSecs_of_representable hrepresentable).trans
    (congrArg some (if_neg hcooling.not_ge))
  rw [checkRateLimit, hremaining]
  rfl

/-- After the cooldown the check is that of the interval. -/
theorem checkRateLimit_of_cooled (hcooled : chain.cooldownLeft now ≤ 0) :
    chain.checkRateLimit now =
      (remainingSecs chain.rateLimitConfig.minVerificationIntervalSecs now
        chain.lastVerificationTime).map fun
          | some remaining => .error (.rateLimitExceeded remaining)
          | none => .ok () := by
  have hnothing := (remainingSecs_of_representable (waited_iff.mpr hcooled).representable).trans
    (congrArg some (if_pos hcooled))
  rw [checkRateLimit, hnothing]
  change (remainingSecs _ _ _).bind _ = _
  cases remainingSecs chain.rateLimitConfig.minVerificationIntervalSecs now
      chain.lastVerificationTime with
  | none => rfl
  | some interval => cases interval <;> rfl

/-- The check returns exactly when the limits are durations. -/
theorem checkRateLimit_eq_none_iff :
    chain.checkRateLimit now = none ↔ ¬chain.LimitsRepresentable now := by
  rcases le_or_gt (chain.cooldownLeft now) 0 with hcooled | hcooling
  · have hlimits : chain.LimitsRepresentable now ↔
        Representable chain.rateLimitConfig.minVerificationIntervalSecs now
          chain.lastVerificationTime :=
      ⟨fun hlimits ↦ hlimits.2.resolve_left hcooled.not_gt,
        fun hinterval ↦ ⟨(waited_iff.mpr hcooled).representable, .inr hinterval⟩⟩
    rw [hlimits, checkRateLimit_of_cooled hcooled, Option.map_eq_none_iff]
    by_cases hinterval : Representable chain.rateLimitConfig.minVerificationIntervalSecs now
        chain.lastVerificationTime
    · rw [remainingSecs_of_representable hinterval]
      exact iff_of_false nofun (not_not.mpr hinterval)
    · exact iff_of_true (remainingSecs_of_not_representable hinterval) hinterval
  · by_cases hcooldown : Representable chain.rateLimitConfig.failedVerificationCooldownSecs now
        chain.lastFailedVerification
    · rw [checkRateLimit_of_cooling hcooldown hcooling]
      exact iff_of_false nofun (not_not.mpr ⟨hcooldown, .inl hcooling⟩)
    · refine iff_of_true ?_ fun hlimits ↦ hcooldown hlimits.1
      rw [checkRateLimit, remainingSecs_of_not_representable hcooldown]
      rfl

/-- The check succeeds exactly when nothing is left of either limit. -/
theorem checkRateLimit_eq_ok_iff :
    chain.checkRateLimit now = some (.ok ()) ↔
      chain.cooldownLeft now ≤ 0 ∧ chain.intervalLeft now ≤ 0 := by
  by_cases hlimits : chain.LimitsRepresentable now
  · rcases le_or_gt (chain.cooldownLeft now) 0 with hcooled | hcooling
    · rw [checkRateLimit_of_cooled hcooled, and_iff_right hcooled,
        remainingSecs_of_representable (hlimits.2.resolve_left hcooled.not_gt)]
      change Option.map _ (some (if chain.intervalLeft now ≤ 0 then none else some _)) = _ ↔ _
      split_ifs with hpaced
      · exact iff_of_true rfl hpaced
      · exact iff_of_false nofun hpaced
    · rw [checkRateLimit_of_cooling hlimits.1 hcooling]
      exact iff_of_false nofun fun hboth ↦ hboth.1.not_gt hcooling
  · rw [checkRateLimit_eq_none_iff.mpr hlimits]
    refine iff_of_false nofun fun hboth ↦ hlimits ⟨(waited_iff.mpr hboth.1).representable, ?_⟩
    exact .inr (waited_iff.mpr hboth.2).representable

/-! ### Limits of any length -/

/-- More seconds than a duration holds. -/
def TooLong (limitSecs : UInt64) : Prop := (2 ^ 63 - 1) / 1000 < limitSecs.toNat

/-- What the check promises at a time: it returns, and it does not succeed while a limit that is too
long for a duration has been running since an event. -/
def LimitsKept (now : DateTime) (chain : AttestationChain) : Prop :=
  ∃ result, chain.checkRateLimit now = some result ∧
    ((chain.lastFailedVerification.isSome = true ∧
        TooLong chain.rateLimitConfig.failedVerificationCooldownSecs) ∨
      (chain.lastVerificationTime.isSome = true ∧
        TooLong chain.rateLimitConfig.minVerificationIntervalSecs) → result ≠ .ok ())

/-- A limit that is too long has not been waited for since an event. -/
theorem Waited.not_tooLong (hwaited : Waited limitSecs now last) (hsome : last.isSome = true) :
    ¬TooLong limitSecs := by
  obtain ⟨time, htime⟩ := Option.isSome_iff_exists.mp hsome
  have hbound := hwaited.representable time htime
  have hgap := le_max_left 0 (time.nanoseconds - now.nanoseconds)
  unfold TooLong
  unfold nanosPerMilli nanosPerSecond at hbound
  omega

/-- The check keeps its promise exactly when the limits that it comes to are durations. A check that
returns never takes a limit that is too long for one that is over. -/
theorem limits_kept_iff (chain : AttestationChain) (now : DateTime) :
    chain.LimitsKept now ↔ chain.LimitsRepresentable now := by
  constructor
  · rintro ⟨result, hchecked, -⟩
    by_contra hlimits
    rw [checkRateLimit_eq_none_iff.mpr hlimits] at hchecked
    cases hchecked
  · intro hlimits
    obtain ⟨result, hchecked⟩ := Option.ne_none_iff_exists'.mp
      (mt checkRateLimit_eq_none_iff.mp (not_not.mpr hlimits))
    refine ⟨result, hchecked, fun hlong hok ↦ ?_⟩
    rw [hok, checkRateLimit_eq_ok_iff] at hchecked
    rcases hlong with ⟨hfailed, hlong⟩ | ⟨hentry, hlong⟩
    · exact (waited_iff.mpr hchecked.1).not_tooLong hfailed hlong
    · exact (waited_iff.mpr hchecked.2).not_tooLong hentry hlong

/-- A chain with the longest interval there is and one verification that passed. -/
def longestInterval : AttestationChain :=
  (withRateLimit (Uuid.ofByte 1) ⟨UInt64.ofNat (2 ^ 64 - 1), 7200⟩).record (.ofTable [])
    (timeAt 1700000000 exampleSeconds_lt) (.oneCard "H100" 81920 "9.0") true

/-- The check of its limits panics a second later. -/
theorem longest_interval_panics :
    ¬longestInterval.LimitsKept (timeAt 1700000001 (by decide)) := by
  rintro ⟨result, hchecked, -⟩
  have hpanics : longestInterval.checkRateLimit (timeAt 1700000001 (by decide)) = none := by rfl
  rw [hpanics] at hchecked
  cases hchecked

/-! ### The wait that is reported -/

/-- What is left of the limit that the check comes to first: of the cooldown while there is one, and
of the interval after it. -/
def firstLeft (now : DateTime) (chain : AttestationChain) : ℤ :=
  if 0 < chain.cooldownLeft now then chain.cooldownLeft now else chain.intervalLeft now

/-- What the seconds promise that are reported at a time: there are none exactly when a verification
is allowed, and it is allowed at every time after them. -/
def WaitSound (now : DateTime) (chain : AttestationChain) : Prop :=
  ∃ seconds, chain.secondsUntilVerificationAllowed now = some seconds ∧
    (seconds = 0 ↔ chain.checkRateLimit now = some (.ok ())) ∧
    ∀ later : DateTime, now.nanoseconds + seconds * nanosPerSecond ≤ later.nanoseconds →
      chain.checkRateLimit later = some (.ok ())

/-- At a later time so much less is left of a limit. -/
theorem leftNanos_later_iff {later : DateTime} (hlater : now.nanoseconds ≤ later.nanoseconds) :
    leftNanos limitSecs later last ≤ 0 ↔
      leftNanos limitSecs now last ≤ later.nanoseconds - now.nanoseconds := by
  cases last with
  | none => exact iff_of_true le_rfl (sub_nonneg.mpr hlater)
  | some time =>
    change time.nanoseconds + _ - _ ≤ 0 ↔ time.nanoseconds + _ - _ ≤ _
    omega

/-- The check succeeds at a later time exactly when that long after was enough for what is left of
both limits. -/
theorem checkRateLimit_later_iff {later : DateTime}
    (hlater : now.nanoseconds ≤ later.nanoseconds) :
    chain.checkRateLimit later = some (.ok ()) ↔
      chain.cooldownLeft now ≤ later.nanoseconds - now.nanoseconds ∧
        chain.intervalLeft now ≤ later.nanoseconds - now.nanoseconds := by
  rw [checkRateLimit_eq_ok_iff]
  exact and_congr (leftNanos_later_iff hlater) (leftNanos_later_iff hlater)

/-- Nothing is left of the first limit exactly when nothing is left of both. -/
theorem firstLeft_nonpos_iff :
    chain.firstLeft now ≤ 0 ↔ chain.cooldownLeft now ≤ 0 ∧ chain.intervalLeft now ≤ 0 := by
  unfold firstLeft
  split_ifs <;> omega

/-- The seconds that are reported are the whole seconds that are left of the first limit. -/
theorem secondsUntilVerificationAllowed_eq (hlimits : chain.LimitsRepresentable now) :
    chain.secondsUntilVerificationAllowed now =
      some (chain.firstLeft now / nanosPerSecond).toNat := by
  unfold secondsUntilVerificationAllowed firstLeft
  split_ifs with hcooling
  · rw [checkRateLimit_of_cooling hlimits.1 hcooling]
    rfl
  · rw [checkRateLimit_of_cooled (not_lt.mp hcooling),
      remainingSecs_of_representable (hlimits.2.resolve_left hcooling)]
    change Option.map _ (Option.map _ (some (if chain.intervalLeft now ≤ 0 then none else
      some (chain.intervalLeft now / nanosPerSecond).toNat))) = _
    split_ifs with hpaced
    · have hnone : (chain.intervalLeft now / nanosPerSecond).toNat = 0 := by
        unfold nanosPerSecond
        omega
      rw [hnone]
      rfl
    · rfl

/-- The wait that is reported is sound when nothing is left of the limits. -/
theorem waitSound_of_nothing_left (hlimits : chain.LimitsRepresentable now)
    (hnothing : chain.firstLeft now ≤ 0) : chain.WaitSound now := by
  have hboth := firstLeft_nonpos_iff.mp hnothing
  have hzero : (chain.firstLeft now / nanosPerSecond).toNat = 0 := by
    unfold nanosPerSecond
    omega
  refine ⟨0, (secondsUntilVerificationAllowed_eq hlimits).trans (congrArg some hzero),
    iff_of_true rfl (checkRateLimit_eq_ok_iff.mpr hboth), fun later hlater ↦ ?_⟩
  have hafter : now.nanoseconds ≤ later.nanoseconds := by
    simpa using hlater
  have hgap := sub_nonneg.mpr hafter
  exact (checkRateLimit_later_iff hafter).mpr ⟨hboth.1.trans hgap, hboth.2.trans hgap⟩

/-- The wait that is reported while something is left is sound exactly when it is a second at least,
and what is left of both limits is over at every time of the clock after it. -/
theorem waitSound_iff_of_left (hlimits : chain.LimitsRepresentable now)
    (hleft : 0 < chain.firstLeft now) :
    chain.WaitSound now ↔ nanosPerSecond ≤ chain.firstLeft now ∧ ∀ later : DateTime,
      now.nanoseconds + chain.firstLeft now / nanosPerSecond * nanosPerSecond ≤
          later.nanoseconds →
        chain.cooldownLeft now ≤ later.nanoseconds - now.nanoseconds ∧
          chain.intervalLeft now ≤ later.nanoseconds - now.nanoseconds := by
  have hwhole : 0 ≤ chain.firstLeft now / nanosPerSecond :=
    Int.ediv_nonneg hleft.le nanosPerSecond_nonneg
  have hcast := Int.toNat_of_nonneg hwhole
  have hrefused : ¬chain.checkRateLimit now = some (.ok ()) := fun hok ↦
    hleft.not_ge (firstLeft_nonpos_iff.mpr (checkRateLimit_eq_ok_iff.mp hok))
  have hsecond : (chain.firstLeft now / nanosPerSecond).toNat ≠ 0 ↔
      nanosPerSecond ≤ chain.firstLeft now := by
    unfold nanosPerSecond
    omega
  have hlater (later : DateTime) (hpast : now.nanoseconds +
      chain.firstLeft now / nanosPerSecond * nanosPerSecond ≤ later.nanoseconds) :
      chain.checkRateLimit later = some (.ok ()) ↔ _ :=
    checkRateLimit_later_iff
      ((le_add_of_nonneg_right (Int.mul_nonneg hwhole nanosPerSecond_nonneg)).trans hpast)
  unfold WaitSound
  rw [secondsUntilVerificationAllowed_eq hlimits, ← hsecond]
  constructor
  · rintro ⟨seconds, hseconds, hzero, hallowed⟩
    cases hseconds
    rw [hcast] at hallowed
    exact ⟨fun hnone ↦ hrefused (hzero.mp hnone), fun later hpast ↦
      (hlater later hpast).mp (hallowed later hpast)⟩
  · rintro ⟨hsome, hallowed⟩
    refine ⟨_, rfl, iff_of_false hsome hrefused, fun later hpast ↦ ?_⟩
    rw [hcast] at hpast
    exact (hlater later hpast).mpr (hallowed later hpast)

/-- What is left of the cooldown is no more than what is left of the first limit. -/
theorem cooldownLeft_le_firstLeft (hleft : 0 < chain.firstLeft now) :
    chain.cooldownLeft now ≤ chain.firstLeft now := by
  unfold firstLeft at hleft ⊢
  split_ifs at hleft ⊢ with hcooling
  · exact le_rfl
  · exact (not_lt.mp hcooling).trans hleft.le

/-- Both limits are over at the end of the whole seconds that are left of the first one only when
these are all that is left of it, and no more is left of the interval. -/
theorem whole_of_over (hcooled : chain.cooldownLeft now ≤
      chain.firstLeft now / nanosPerSecond * nanosPerSecond)
    (hpaced : chain.intervalLeft now ≤
      chain.firstLeft now / nanosPerSecond * nanosPerSecond) :
    nanosPerSecond ∣ chain.firstLeft now ∧ chain.intervalLeft now ≤ chain.firstLeft now := by
  have hfirst : chain.firstLeft now ≤
      chain.firstLeft now / nanosPerSecond * nanosPerSecond := by
    unfold firstLeft at hcooled hpaced ⊢
    split_ifs at hcooled hpaced ⊢
    · exact hcooled
    · exact hpaced
  have hcut := Int.ediv_mul_le (chain.firstLeft now) (by decide : nanosPerSecond ≠ 0)
  exact ⟨Dvd.intro_left _ (hcut.antisymm hfirst), hpaced.trans hcut⟩

/-- The wait that is reported is sound exactly when the limits are durations and one of three things
holds: nothing is left of them; or at least a second is left of the first, and the clock ends before
the whole seconds are over; or a whole number of seconds is left of the first, and no more of the
interval. -/
theorem wait_sound_iff (chain : AttestationChain) (now : DateTime) :
    chain.WaitSound now ↔ chain.LimitsRepresentable now ∧
      (chain.firstLeft now ≤ 0 ∨ nanosPerSecond ≤ chain.firstLeft now ∧
        (8210266876800 * nanosPerSecond ≤
            now.nanoseconds + chain.firstLeft now / nanosPerSecond * nanosPerSecond ∨
          nanosPerSecond ∣ chain.firstLeft now ∧
            chain.intervalLeft now ≤ chain.firstLeft now)) := by
  by_cases hlimits : chain.LimitsRepresentable now
  swap
  · refine iff_of_false ?_ fun hboth ↦ hlimits hboth.1
    rintro ⟨seconds, hseconds, -⟩
    rw [secondsUntilVerificationAllowed, checkRateLimit_eq_none_iff.mpr hlimits] at hseconds
    cases hseconds
  rw [and_iff_right hlimits]
  rcases le_or_gt (chain.firstLeft now) 0 with hnothing | hleft
  · exact iff_of_true (waitSound_of_nothing_left hlimits hnothing) (.inl hnothing)
  rw [waitSound_iff_of_left hlimits hleft, or_iff_right hleft.not_ge]
  refine and_congr_right fun hsecond ↦ ?_
  constructor
  · intro hallowed
    rcases le_or_gt (8210266876800 * nanosPerSecond)
      (now.nanoseconds + chain.firstLeft now / nanosPerSecond * nanosPerSecond) with hend | hreached
    · exact .inl hend
    -- The clock reads the end of the wait, where the check has to succeed.
    · have hwhole : 0 ≤ chain.firstLeft now / nanosPerSecond * nanosPerSecond :=
        Int.mul_nonneg (Int.ediv_nonneg hleft.le nanosPerSecond_nonneg) nanosPerSecond_nonneg
      obtain ⟨hcooled, hpaced⟩ := hallowed ⟨_, now.min_le.trans
        (le_add_of_nonneg_right hwhole), hreached⟩ le_rfl
      rw [add_sub_cancel_left] at hcooled hpaced
      exact .inr (whole_of_over hcooled hpaced)
  · rintro (hend | ⟨hdivides, hinterval⟩) later hpast
    · exact absurd (hend.trans hpast) later.lt_max.not_ge
    · rw [Int.ediv_mul_cancel hdivides] at hpast
      have hgap : chain.firstLeft now ≤ later.nanoseconds - now.nanoseconds :=
        le_sub_iff_add_le'.mpr hpast
      exact ⟨(cooldownLeft_le_firstLeft hleft).trans hgap, hinterval.trans hgap⟩

/-- A chain with a cooldown of two hours and one verification that failed. -/
def oneFailure : AttestationChain :=
  (withRateLimit (Uuid.ofByte 1) ⟨3600, 7200⟩).record (.ofTable [])
    (timeAt 1700000000 exampleSeconds_lt) (.oneCard "H100" 81920 "9.0") false

/-- The time half a second before the end of its cooldown. -/
def halfASecondBefore : DateTime :=
  ⟨1700007199 * nanosPerSecond + 500 * nanosPerMilli, by decide, by decide⟩

/-- Half a second before the end of the cooldown no seconds are reported, and the verification is
refused. -/
theorem half_a_second_not_reported : ¬oneFailure.WaitSound halfASecondBefore := by
  rintro ⟨seconds, hseconds, hzero, -⟩
  have hreported : oneFailure.secondsUntilVerificationAllowed halfASecondBefore = some 0 := by rfl
  have hrefused : oneFailure.checkRateLimit halfASecondBefore =
      some (.error (.cooldownActive 0)) := by rfl
  rw [hreported] at hseconds
  rw [hrefused] at hzero
  have hallowed := hzero.mp (Option.some_inj.mp hseconds).symm
  cases hallowed

end Clawbernetes.MoltAttestation.AttestationChain
