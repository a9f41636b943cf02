import TunnelFleet.Proofs.Supervision.CurrentSession
import TunnelFleet.Proofs.Supervision.Shutdown

/-!
# The end of a session touches only itself

Sessions end at any time, also long after they were cancelled and others took their places.
An end is acted upon only if nobody cancelled the session, and then the session is the one
that its local id has. So closing the handle of its local id closes its own row, and no
session acts in the place of its successor.
-/

namespace TunnelFleet

namespace Registry

variable {r : Registry} {sessions : List Session}

end Registry

namespace Supervisor

variable {σ : Type} {setup : Setup σ} {s t : Supervisor σ} {x y : Session}

/-! ## Handles are for the newest sessions -/

/-- Each session that was ever opened has a handle at its local id, which is for it or for a
later session. -/
def UpToDate (s : Supervisor σ) : Prop :=
  ∀ x ∈ s.sessions, ∃ h : Handle, s.registry.handles[x.localId]? = some h ∧ x.number ≤ h.session

namespace UpToDate

/-- Shutting handles makes no handle older. -/
theorem of_shut (hs : s.UpToDate) (hsessions : t.sessions = s.sessions)
    (hhandles : ∀ l : LocalId, t.registry.handles[l]? = s.registry.handles[l]? ∨
      t.registry.handles[l]? = s.registry.handles[l]?.map Handle.shut) : t.UpToDate := by
  intro x hx
  obtain ⟨h, hl, hle⟩ := hs x (hsessions ▸ hx)
  rcases hhandles x.localId with hsame | hshut
  · exact ⟨h, hsame.trans hl, hle⟩
  · exact ⟨h.shut, by rw [hshut, hl, Option.map_some], hle⟩

/-- A new session is later than all sessions so far. -/
theorem enroll (hs : s.UpToDate) (ht : s.registry.Tracks s.sessions) (w : Workspace)
    (p : UInt16) : (s.enroll w p).UpToDate := by
  have hhandles : ∀ l : LocalId, (s.enroll w p).registry.handles[l]? =
      if l = w.localId then
        some ⟨w, p, s.registry.lastSession + 1, s.registry.lastSession + 1, false⟩
      else s.registry.handles[l]? :=
    fun l => Registry.handles_install _ _ l
  intro x hx
  rw [hhandles]
  rcases List.mem_append.mp hx with hold | hnew
  · have hnumber := ht.number_le hold
    split
    · exact ⟨_, rfl, Nat.le_succ_of_le hnumber⟩
    · exact hs x hold
  · obtain rfl := List.mem_singleton.mp hnew
    exact ⟨_, if_pos rfl, Nat.le_refl _⟩

theorem of_deed (hs : s.UpToDate) (hsound : s.Sound) (hdeed : Deed s t) : t.UpToDate := by
  cases hdeed with
  | budget k n =>
    exact hs.of_shut rfl fun l =>
      .inl (congrArg (fun m => m[l]?) (s.registry.handles_ensureBudget k n))
  | reset k => exact hs.of_shut rfl (s.registry.kept_or_shut_reset k)
  | start w p => exact hs.enroll hsound.tracks w p
  | restart w p n assigner store lines =>
    have hreset : ((s.resetRegistered w.localId).2.assign assigner store lines).UpToDate :=
      hs.of_shut rfl (s.registry.kept_or_shut_reset w.localId)
    exact hreset.enroll (hsound.tracks.reset w.localId) w p
  | _ => exact hs

end UpToDate

/-- A session that was replaced by a later one is not the one that its local id has. -/
theorem UpToDate.session_ne (hs : s.UpToDate) (hy : y ∈ s.sessions) (hl : y.localId = x.localId)
    (hlater : x.number < y.number) :
    ∃ h : Handle, s.registry.handles[x.localId]? = some h ∧ h.session ≠ x.number := by
  obtain ⟨h, hh, hle⟩ := hs y hy
  refine ⟨h, hl ▸ hh, ?_⟩
  omega

/-! ## What an end does -/

/-- Nobody hears of the end of a cancelled session. -/
theorem sessionEnded_of_cancelled (hcancelled : s.registry.tokens.isCancelled x.number = true)
    (ending : Ending) : s.sessionEnded x ending = { s with tasks := s.tasks.erase x } :=
  if_pos hcancelled

end Supervisor

end TunnelFleet
