import DeviceSync.Profile.Wire
import DeviceSync.Proofs.Wire.Carries

/-!
# Diffs and Reports Are Carried

The written forms of diffs and reports carry all that fits into their numbers: versions, positions
and counts of 64 bits, and values that are kept plain.
-/

namespace DeviceSync.Profile

open Codec (text_carries instant_carries unsigned_carries opaqueValue_carries list_carries
  named_carries record_carries)

theorem Policy.codec_carries (p : Policy) : Policy.codec.Carries p := by
  refine named_carries ?_
  cases p <;> rfl

theorem Rule.codec_carries (r : Rule) : Rule.codec.Carries r := by
  refine named_carries ?_
  cases r <;> rfl

/-! ## Diffs -/

structure Diff.Fits (d : Diff) : Prop where
  base : d.base < twoTo 64
  value : d.value.Plain

theorem Diff.Fits.carries {d : Diff} (h : d.Fits) : Diff.codec.Carries d := by
  refine record_carries (by decide) ?_ rfl
  exact ⟨text_carries _, unsigned_carries (by decide) h.base, opaqueValue_carries h.value,
    text_carries _, instant_carries _, trivial⟩

/-! ## Reports -/

structure Conflict.Fits (c : Conflict) : Prop where
  winner : c.winner.Fits
  loser : c.loser.Fits

theorem Conflict.Fits.carries {c : Conflict} (h : c.Fits) : Conflict.codec.Carries c := by
  refine record_carries (by decide) ?_ rfl
  exact ⟨text_carries _, h.winner.carries, h.loser.carries, Policy.codec_carries _,
    Rule.codec_carries _, trivial⟩

structure Update.Fits (u : Update) : Prop where
  version : u.version < twoTo 64
  value : u.value.Plain

theorem Update.Fits.carries {u : Update} (h : u.Fits) : Update.codec.Carries u := by
  refine record_carries (by decide) ?_ rfl
  exact ⟨text_carries _, unsigned_carries (by decide) h.version, opaqueValue_carries h.value,
    text_carries _, instant_carries _, trivial⟩

def Applied.Fits (a : Applied) : Prop :=
  a.version < twoTo 64

theorem Applied.Fits.carries {a : Applied} (h : a.Fits) : Applied.codec.Carries a := by
  refine record_carries (by decide) ?_ rfl
  exact ⟨text_carries _, unsigned_carries (by decide) h, trivial⟩

def Rejection.Fits (r : Rejection) : Prop :=
  r.index < twoTo 64

theorem Rejection.Fits.carries {r : Rejection} (h : r.Fits) : Rejection.codec.Carries r := by
  refine record_carries (by decide) ?_ rfl
  exact ⟨unsigned_carries (by decide) h, text_carries _, text_carries _, text_carries _, trivial⟩

structure Outcome.Fits (o : Outcome) : Prop where
  applied : ∀ a ∈ o.applied, a.Fits
  conflicts : ∀ c ∈ o.conflicts, c.Fits
  resolved : o.resolved < twoTo 64
  rejected : ∀ r ∈ o.rejected, r.Fits
  updates : ∀ u ∈ o.updates, u.Fits
  syncPoint : o.syncPoint < twoTo 64

theorem Outcome.Fits.carries {o : Outcome} (h : o.Fits) : Outcome.codec.Carries o := by
  refine record_carries (by decide) ?_ rfl
  exact ⟨list_carries fun a ha ↦ (h.applied a ha).carries,
    list_carries fun c hc ↦ (h.conflicts c hc).carries, unsigned_carries (by decide) h.resolved,
    list_carries fun r hr ↦ (h.rejected r hr).carries,
    list_carries fun u hu ↦ (h.updates u hu).carries, unsigned_carries (by decide) h.syncPoint,
    instant_carries _, trivial⟩

end DeviceSync.Profile
