import DeviceSync.Number.Power
import DeviceSync.Time.Instant

/-!
# Shifting Instants

The seconds of an instant are integers of 64 bits. A shift forward adds nanoseconds to nanoseconds
and carries over into the seconds; a leap second counts for the second under it.
-/

namespace DeviceSync.Instant

theorem seconds_bounded (t : Instant) :
    -(twoTo 63 : Int) ≤ t.seconds ∧ t.seconds < twoTo 63 := by
  have hfirst : -(twoTo 63 : Int) ≤ firstSecond := by decide
  have hlast : lastSecond < twoTo 63 := by decide
  obtain ⟨hleast, hgreatest, -⟩ := t.valid
  omega

theorem shifted_of_addNanos? {t u : Instant} {ns : Int} (h : t.addNanos? ns = some u) :
    t.shifted ns = (u.seconds, u.nanos) := by
  simp only [addNanos?, ofParts?] at h
  split at h
  next =>
    rw [← Option.some.inj h]
  next => cases h

/-- A shift forward adds nanoseconds to nanoseconds, of which a leap second has as many as the
second under it. -/
theorem seconds_of_addNanos? {t u : Instant} {ns : Int} (h : t.addNanos? ns = some u)
    (hns : 0 ≤ ns) :
    u.seconds = (t.seconds * 1000000000 + t.nanos % 1000000000 + ns) / 1000000000 := by
  have hshifted := shifted_of_addNanos? h
  have hnanos := t.valid.2.2.1
  have hwhole : 0 ≤ ns.tdiv 1000000000 := Int.tdiv_nonneg hns (by decide)
  have hpart : 0 ≤ ns.tmod 1000000000 := Int.tmod_nonneg _ hns
  have hsplit := Int.mul_tdiv_add_tmod ns 1000000000
  simp only [shifted] at hshifted
  split at hshifted
  next =>
    have := (Prod.mk.inj hshifted).1
    omega
  next =>
    split at hshifted
    next =>
      have := (Prod.mk.inj hshifted).1
      omega
    next =>
      have := (Prod.mk.inj ((if_neg (by omega)).symm.trans hshifted)).1
      omega

end DeviceSync.Instant
