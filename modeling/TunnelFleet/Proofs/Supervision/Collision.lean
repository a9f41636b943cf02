import TunnelFleet.Proofs.Supervision.Starting

/-!
# Workspaces with the same local id

Two workspaces can come to the same local id, which then belongs to the one that was
registered first. A start for the other one is refused and spares the tunnel of the
first. A reset does not ask whose local id it is given: a reset of the other workspace
closes the tunnel of the first, takes one of its retries and starts nothing in its place.
-/

namespace TunnelFleet

namespace Supervisor

variable {σ : Type} {setup : Setup σ} {s t : Supervisor σ} {l : LocalId} {h : Handle}
  {w : Workspace}

/-- A start for workspaces to which a local id does not belong spares its tunnel. -/
theorem Sound.start_spares (setup : Setup σ) (hs : s.Sound)
    (hl : s.registry.handles[l]? = some h) {ws : List Workspace}
    (hws : ∀ w ∈ ws, w.localId = l → w.id ≠ h.workspace.id) :
    Spares l s (s.start setup ws).2 := by
  rcases hs.start_cases setup ws l with hspares | hopens
  · exact hspares
  · obtain ⟨k, -, hmem, hlocal, -, hbefore⟩ := hopens
    exact absurd (hbefore h hl).symm (hws k.workspace hmem hlocal)

/-- A reset of a workspace to which the local id does not belong only closes the tunnel and
takes a retry. -/
theorem reset_of_collision (setup : Setup σ) (hl : s.registry.handles[w.localId]? = some h)
    (hid : w.id ≠ h.workspace.id) :
    (∀ r p, (s.reset setup w).1 ≠ some (.restarted r p)) ∧
      (s.reset setup w).2.registry = (s.registry.reset w.localId).2 := by
  obtain ⟨assigner, store, lines, -, ⟨o, ho, hreset⟩ | ⟨r, p, -, -, -, hadmits, -⟩⟩ :=
    reset_outcomes setup w s
  · rw [hreset]
    exact ⟨ho, rfl⟩
  · have hshut : (s.resetRegistered w.localId).2.registry.handles[w.localId]? = some h.shut := by
      refine (s.registry.handles_reset w.localId w.localId).trans ?_
      rw [if_pos rfl, hl, Option.map_some]
    exact absurd (hadmits h.shut hshut).symm hid

/-- What a colliding workspace does to the tunnel of the registered one. No start that it is
in changes the row or the token. But a reset of it always closes the tunnel for good: the
row is closed and has one retry less, the token is cancelled, and no session is started. -/
theorem Reachable.collision_effects (hs : Reachable setup s)
    (hl : s.registry.handles[l]? = some h) :
    (∀ ws : List Workspace, (∀ w ∈ ws, w.localId = l → w.id ≠ h.workspace.id) →
      let t := (s.start setup ws).2
      s.registry.statusOf l h ∈ t.registry.status ∧
        t.registry.tokens.isCancelled h.session = s.registry.tokens.isCancelled h.session) ∧
    ∀ w : Workspace, w.localId = l → w.id ≠ h.workspace.id →
      let row := s.registry.statusOf l h
      let t := (s.reset setup w).2
      (∀ r p, (s.reset setup w).1 ≠ some (.restarted r p)) ∧ t.sessions = s.sessions ∧
        { row with isOpen := false, remaining := row.remaining - 1 } ∈ t.registry.status ∧
        t.registry.tokens.isCancelled h.session = true := by
  have hsound := hs.sound
  constructor
  · intro ws hws t
    have hspares : Spares l s t := hsound.start_spares setup hl hws
    have htsound : t.Sound := hsound.of_deeds (start_deeds setup ws s)
    refine ⟨Registry.mem_status.mpr ⟨l, h, hspares.handle.trans hl, ?_⟩, hspares.token h hl⟩
    exact hspares.statusOf_eq hsound htsound hl
  · rintro w rfl hid row t
    obtain ⟨hanswer, hregistry⟩ := reset_of_collision setup hl hid
    have hcancelled : t.registry.tokens.isCancelled h.session = true := by
      obtain ⟨-, htoken, -⟩ := hsound.tracks.stands hl
      rw [hregistry, Registry.isCancelled_reset, hl]
      simpa [htoken] using hsound.isCancelled_or_release hl
    have hhandle : t.registry.handles[w.localId]? = some h.shut := by
      rw [hregistry, Registry.handles_reset, if_pos rfl, hl, Option.map_some]
    have hremaining : t.registry.remaining? w.localId =
        (s.registry.remaining? w.localId).map (· - 1) := by
      rw [hregistry, Registry.remaining?_reset, if_pos rfl]
    have htsound : t.Sound := hsound.of_deeds (reset_deeds setup w s)
    refine ⟨hanswer, ?_, Registry.mem_status.mpr ⟨_, _, hhandle, ?_⟩, hcancelled⟩
    · obtain ⟨assigner, store, lines, -, ⟨o, -, hreset⟩ | ⟨r, p, -, -, -, -, hreset⟩⟩ :=
        reset_outcomes setup w s
      · change (s.reset setup w).2.sessions = _
        rw [hreset]
        rfl
      · exact absurd (congrArg Prod.fst hreset) (hanswer r p)
    · rw [htsound.statusOf_eq hhandle, hremaining]
      obtain ⟨r, hr⟩ := hsound.remaining_of_registered hl
      simp [row, Registry.statusOf, hr, hcancelled]

end Supervisor

namespace SmallFleet

/-- Another workspace with the local id `web-1001`. -/
def impostor : Workspace := { id := "test-1001", name := "web", address := "test.example.dev" }

end SmallFleet

namespace Supervisor

/-- A reset of another workspace with the local id of a running tunnel. -/
theorem collision_effects_impostor :
    let s := SmallFleet.started
    ∃ h : Handle, Reachable SmallFleet.setup s ∧
      s.registry.handles[SmallFleet.web.localId]? = some h ∧
      SmallFleet.impostor.localId = SmallFleet.web.localId ∧
      SmallFleet.impostor.id ≠ h.workspace.id ∧
      (s.reset SmallFleet.setup SmallFleet.impostor).2.registry.tokens.isCancelled h.session =
        true := by
  intro s
  have hreachable : Reachable SmallFleet.setup s := SmallFleet.started_reachable
  have hlocal : SmallFleet.impostor.localId = SmallFleet.web.localId := by decide +kernel
  have hregistered : (s.registry.handles[SmallFleet.web.localId]?).any
      (fun h => h.workspace == SmallFleet.web) = true := by
    decide +kernel
  obtain ⟨h, hl, hweb⟩ := (Option.any_eq_true _ _).mp hregistered
  have hid : SmallFleet.impostor.id ≠ h.workspace.id := by
    rw [eq_of_beq hweb]
    decide
  obtain ⟨-, hreset⟩ := Reachable.collision_effects hreachable hl
  obtain ⟨-, -, -, hcancelled⟩ := hreset SmallFleet.impostor hlocal hid
  exact ⟨h, hreachable, hl, hlocal, hid, hcancelled⟩

/-- It is not true that a reset of a colliding workspace leaves the registered one alone. -/
theorem collision_reset_disturbs :
    ¬ ∀ (s : Supervisor PinTable) (l : LocalId) (h : Handle) (w : Workspace),
      Reachable SmallFleet.setup s → s.registry.handles[l]? = some h → w.localId = l →
      w.id ≠ h.workspace.id →
        let t := (s.reset SmallFleet.setup w).2
        s.registry.statusOf l h ∈ t.registry.status ∧
          t.registry.tokens.isCancelled h.session = s.registry.tokens.isCancelled h.session := by
  intro hleft
  have hlocal : SmallFleet.impostor.localId = SmallFleet.web.localId := by decide +kernel
  have hregistered : (SmallFleet.started.registry.handles[SmallFleet.web.localId]?).any
      (fun h => SmallFleet.impostor.id ≠ h.workspace.id ∧
        let t := (SmallFleet.started.reset SmallFleet.setup SmallFleet.impostor).2
        t.registry.tokens.isCancelled h.session ≠
          SmallFleet.started.registry.tokens.isCancelled h.session) = true := by
    decide +kernel
  obtain ⟨h, hl, hstate⟩ := (Option.any_eq_true _ _).mp hregistered
  obtain ⟨hid, hcancelled⟩ := of_decide_eq_true hstate
  exact hcancelled (hleft _ _ h _ SmallFleet.started_reachable hl hlocal hid).2

end Supervisor

end TunnelFleet
