import StreamPolicy.Link.Signing

/-!
# When a link expires

The hours of a link are added, as seconds, to the whole seconds that the clock shows. The product and
the sum both stop at the greatest expiry, so the expiry is the exact sum, or the greatest one where the
exact sum is past it: a link with a lifetime is never taken for one that never expires.
-/

namespace StreamPolicy.Link

open StreamPolicy.Text

/-! ## Arithmetic that stops at the greatest expiry -/

theorem toNat_maxExpiry : maxExpiry.toNat = uint64Max := by
  decide

theorem toNat_addSaturating (a b : UInt64) : (addSaturating a b).toNat = min (a.toNat + b.toNat) uint64Max := by
  have bound : a.toNat ≤ uint64Max := Nat.le_of_lt_succ a.toNat_lt
  have room : (maxExpiry - a).toNat = uint64Max - a.toNat := by
    rw [UInt64.toNat_sub_of_le, toNat_maxExpiry]
    rwa [UInt64.le_iff_toNat_le, toNat_maxExpiry]
  rw [addSaturating]
  split
  next past =>
    rw [UInt64.lt_iff_toNat_lt, room] at past
    rw [toNat_maxExpiry]
    omega
  next within =>
    rw [UInt64.lt_iff_toNat_lt, room] at within
    have fits : a.toNat + b.toNat ≤ uint64Max := by omega
    rw [UInt64.toNat_add, Nat.min_eq_left fits, Nat.mod_eq_of_lt]
    exact Nat.lt_succ_of_le fits

theorem toNat_mulSaturating (a b : UInt64) : (mulSaturating a b).toNat = min (a.toNat * b.toNat) uint64Max := by
  rw [mulSaturating]
  split
  next past => rw [toNat_maxExpiry, Nat.min_eq_right (Nat.le_of_lt past)]
  next within =>
    have fits : a.toNat * b.toNat ≤ uint64Max := Nat.le_of_not_lt within
    rw [UInt64.toNat_mul, Nat.min_eq_left fits, Nat.mod_eq_of_lt]
    exact Nat.lt_succ_of_le fits

/-! ## The clock -/

/-- What a clock shows at a point in time: the whole seconds since the epoch, and zero before it. -/
inductive ClockShows (now : Int) : UInt64 → Prop
  | beforeEpoch (early : now < 0) : ClockShows now 0
  | sinceEpoch {seconds : UInt64} (reached : 1000 * seconds.toNat ≤ now) (next : now < 1000 * (seconds.toNat + 1)) :
      ClockShows now seconds

/-- A clock shows something at every point in time whose seconds it can count. -/
theorem exists_clockShows {now : Int} (counted : now < 1000 * (uint64Max + 1)) :
    ∃ seconds, ClockShows now seconds := by
  by_cases early : now < 0
  · exact ⟨0, .beforeEpoch early⟩
  · have fits : (now / 1000).toNat < UInt64.size := by
      simp only [uint64Max] at counted
      simp only [UInt64.size]
      omega
    have whole : (UInt64.ofNatLT (now / 1000).toNat fits).toNat = (now / 1000).toNat := UInt64.toNat_ofNatLT
    exact ⟨.ofNatLT (now / 1000).toNat fits, .sinceEpoch (by omega) (by omega)⟩

theorem ClockShows.seconds_eq {now : Int} {seconds : UInt64} (clock : ClockShows now seconds) :
    Instant.seconds now = seconds := by
  cases clock with
  | beforeEpoch early => rw [Instant.seconds, if_pos early]
  | sinceEpoch reached next =>
    have late : ¬ now < 0 := by omega
    have whole : now.toNat / 1000 = seconds.toNat := by omega
    rw [Instant.seconds, if_neg late, whole, UInt64.ofNat_toNat]

/-- A later clock shows no fewer seconds. -/
theorem ClockShows.le_of_le {now now' : Int} {seconds seconds' : UInt64} (clock : ClockShows now seconds)
    (clock' : ClockShows now' seconds') (later : now ≤ now') : seconds.toNat ≤ seconds'.toNat := by
  cases clock with
  | beforeEpoch early => exact Nat.zero_le _
  | sinceEpoch reached next =>
    cases clock' with
    | beforeEpoch early => omega
    | sinceEpoch reached' next' => omega

/-! ## The expiry -/

variable {now : Instant} {seconds : UInt64}

theorem toNat_expiryFromHours (clock : ClockShows now seconds) {hours : UInt64} (lives : hours ≠ 0) :
    (expiryFromHours (some hours) now).toNat = min (seconds.toNat + 3600 * hours.toNat) uint64Max := by
  have hour : (3600 : UInt64).toNat = 3600 := rfl
  simp only [expiryFromHours, if_neg lives, clock.seconds_eq, toNat_addSaturating, toNat_mulSaturating, hour]
  omega

/-- Only a link without a lifetime never expires. -/
theorem expiryFromHours_eq_zero_iff (clock : ClockShows now seconds) {hours : Option UInt64} :
    expiryFromHours hours now = 0 ↔ hours = none ∨ hours = some 0 := by
  cases hours with
  | none => simp [expiryFromHours]
  | some h =>
    by_cases zero : h = 0
    · simp [expiryFromHours, zero]
    · have positive : 0 < h.toNat := Nat.pos_of_ne_zero fun none => zero (UInt64.toNat_inj.mp none)
      have comes : (expiryFromHours (some h) now).toNat ≠ 0 := by
        rw [toNat_expiryFromHours clock zero, uint64Max]
        omega
      have never : expiryFromHours (some h) now ≠ 0 := fun none => comes (congrArg UInt64.toNat none)
      simp [never, zero]

theorem expiryFromHours_le {now' : Instant} {seconds' : UInt64} (clock : ClockShows now seconds)
    (clock' : ClockShows now' seconds') (later : now ≤ now') {hours hours' : UInt64} (lives : 0 < hours)
    (longer : hours ≤ hours') : expiryFromHours (some hours) now ≤ expiryFromHours (some hours') now' := by
  have lives' : 0 < hours' := UInt64.lt_of_lt_of_le lives longer
  have seconds_le := clock.le_of_le clock' later
  have hours_le : hours.toNat ≤ hours'.toNat := UInt64.le_iff_toNat_le.mp longer
  rw [UInt64.le_iff_toNat_le, toNat_expiryFromHours clock (UInt64.ne_of_lt lives).symm,
    toNat_expiryFromHours clock' (UInt64.ne_of_lt lives').symm]
  omega

/-- The expiry is exact up to the greatest one, is zero only without a lifetime, and comes no earlier
when the hours or the clock go up. -/
theorem expiryFromHours_saturates (clock : ClockShows now seconds) :
    (∀ h : UInt64, (expiryFromHours (some h) now).toNat =
        if h = 0 then 0 else min (seconds.toNat + 3600 * h.toNat) uint64Max) ∧
      (∀ hours, expiryFromHours hours now = 0 ↔ hours = none ∨ hours = some 0) ∧
      ∀ (now' : Instant) (h h' : UInt64), now ≤ now' → now' < 1000 * (uint64Max + 1) → 0 < h → h ≤ h' →
        expiryFromHours (some h) now ≤ expiryFromHours (some h') now' := by
  refine ⟨fun h => ?_, fun hours => expiryFromHours_eq_zero_iff clock, ?_⟩
  · split
    next zero => simp [expiryFromHours, zero]
    next lives => exact toNat_expiryFromHours clock lives
  · intro now' h h' later counted lives longer
    obtain ⟨seconds', clock'⟩ := exists_clockShows counted
    exact expiryFromHours_le clock clock' later lives longer

/-- An hour in the last minute that the clock can show: the sum stops at the greatest expiry. -/
theorem expiryFromHours_saturates_lastMinute :
    ClockShows 18446744073709551555500 18446744073709551555 ∧
      (expiryFromHours (some 1) 18446744073709551555500).toNat = uint64Max ∧
      expiryFromHours (some 1) 18446744073709551555500 ≠ 0 := by
  have clock : ClockShows 18446744073709551555500 18446744073709551555 :=
    .sinceEpoch (by decide) (by decide)
  obtain ⟨exact, never, -⟩ := expiryFromHours_saturates clock
  refine ⟨clock, exact 1, ?_⟩
  rw [ne_eq, never]
  decide

end StreamPolicy.Link
