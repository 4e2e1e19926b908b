import DeviceSync.Proofs.Profile.History
import Mathlib.Logic.Relation

/-!
# Engines of Many Users

An engine serves many users, and between two calls of one user any number of others may call. None
of that shows in a user's own profile: wherever an engine gets to, the profile of a user is what the
user's own calls have made of it.
-/

namespace DeviceSync.Profile.Engine

/-- The second engine is the first after a call of some user's device. -/
def Step (e e' : Engine) : Prop :=
  ∃ (user : String) (c : Call), e' = (e.sync user c.device c.batch c.time).1

/-- The second engine is the first after calls of any users' devices. -/
def Reaches : Engine → Engine → Prop :=
  Relation.ReflTransGen Step

section Sync

variable (e : Engine) (user device : String) (batch : List Diff) (now : Instant)

@[simp]
theorem policy_sync : (e.sync user device batch now).1.policy = e.policy := rfl

theorem arena_sync_eq_after (c : Call) :
    (e.sync user c.device c.batch c.time).1.arena user = (e.arena user).after e.policy c :=
  arena_sync ..

theorem outcome_sync_eq_event (c : Call) :
    (e.sync user c.device c.batch c.time).2 = ((e.arena user).event e.policy c).outcome := rfl

theorem arena_sync_of_ne {other : String} (h : user ≠ other) :
    (e.sync user device batch now).1.arena other = e.arena other := by
  change ((e.arenas.insert user _).find? other).getD _ = _
  rw [Table.find?_insert, if_neg h]
  rfl

end Sync

/-! ## A user's own calls -/

theorem Reaches.policy_eq {e e' : Engine} (h : e.Reaches e') : e'.policy = e.policy := by
  induction h with
  | refl => rfl
  | tail _ hstep ih =>
    obtain ⟨user, c, rfl⟩ := hstep
    exact ih

theorem Reaches.run (e : Engine) (user : String) (calls : List Call) :
    e.Reaches (e.run user calls) := by
  induction calls generalizing e with
  | nil => exact .refl
  | cons c calls ih => exact .head ⟨user, c, rfl⟩ (ih _)

/-- Of all that happens to an engine, only the user's own calls reach the user's profile. -/
theorem Reaches.exists_run {e e' : Engine} (h : e.Reaches e') (user : String) :
    ∃ calls, e'.arena user = (e.arena user).run e.policy calls := by
  induction h with
  | refl => exact ⟨[], rfl⟩
  | @tail b _ hreaches hstep ih =>
    obtain ⟨calls, hcalls⟩ := ih
    obtain ⟨caller, c, rfl⟩ := hstep
    by_cases hcaller : caller = user
    · subst hcaller
      refine ⟨calls ++ [c], ?_⟩
      calc
        _ = (b.arena caller).after b.policy c := arena_sync_eq_after ..
        _ = ((e.arena caller).run e.policy calls).after e.policy c := by
          rw [hcalls, Reaches.policy_eq hreaches]
        _ = (e.arena caller).run e.policy (calls ++ [c]) := by
          rw [Arena.run_append]
          rfl
    · exact ⟨calls, (arena_sync_of_ne _ _ _ _ _ hcaller).trans hcalls⟩

theorem Reaches.sound {e e' : Engine} (h : e.Reaches e') {user : String}
    (hsound : (e.arena user).Sound) : (e'.arena user).Sound := by
  obtain ⟨calls, hcalls⟩ := h.exists_run user
  rw [hcalls]
  exact hsound.run calls

section New

variable {fields : List String} {policy : Policy} {e : Engine}

theorem sound_of_reaches_new (h : (new fields policy).Reaches e) (user : String) :
    (e.arena user).Sound :=
  h.sound (sound_arena_new fields policy user)

/-- Wherever an engine gets to, its profiles have the fields that it was made with. -/
theorem isSome_find?_of_reaches_new (h : (new fields policy).Reaches e) (user field : String) :
    ((e.arena user).slots.find? field).isSome = decide (field ∈ fields) := by
  obtain ⟨calls, hcalls⟩ := h.exists_run user
  calc
    _ = (((new fields policy).arena user).slots.find? field).isSome := by
      rw [hcalls]
      exact (Arena.later_run (sound_arena_new fields policy user) calls).isSome_eq field
    _ = _ := by
      rw [find?_arena_new]
      split
      next hfield => exact (decide_eq_true hfield).symm
      next hfield => exact (decide_eq_false hfield).symm

end New

end DeviceSync.Profile.Engine
