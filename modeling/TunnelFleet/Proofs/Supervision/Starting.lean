import TunnelFleet.Proofs.Supervision.Bookkeeping

/-!
# What a start does to a tunnel

A start is for any number of workspaces, in any order, some of them twice or with local
ids that belong to others. What it does to the tunnel of one local id is simple all the
same: it leaves the tunnel alone, or it ends with a live session of a workspace that the
start was for and that the local id belongs to.
-/

namespace TunnelFleet.Supervisor

variable {σ : Type} {setup : Setup σ} {s t u : Supervisor σ} {l k : LocalId} {w : Workspace}
  {row : TunnelStatus}

/-- The tunnel of a local id is what it was, if there was one: its handle, its retries and
whether its session is cancelled. -/
structure Spares (l : LocalId) (s t : Supervisor σ) : Prop where
  handle : t.registry.handles[l]? = s.registry.handles[l]?
  remaining : l ∈ s.registry.handles → t.registry.remaining? l = s.registry.remaining? l
  token : ∀ h : Handle, s.registry.handles[l]? = some h →
    t.registry.tokens.isCancelled h.session = s.registry.tokens.isCancelled h.session

/-- The local id has a live session of one of the workspaces, and whoever had the local id
before has the same workspace id. -/
def Opens (l : LocalId) (ws : List Workspace) (s t : Supervisor σ) : Prop :=
  ∃ h : Handle, t.registry.handles[l]? = some h ∧ h.workspace ∈ ws ∧ h.localId = l ∧
    t.registry.tokens.isCancelled h.session = false ∧
    ∀ before : Handle, s.registry.handles[l]? = some before → before.workspace.id = h.workspace.id

namespace Spares

/-- Whatever leaves the registry alone spares every tunnel. -/
theorem of_registry (l : LocalId) (h : t.registry = s.registry) : Spares l s t :=
  ⟨by rw [h], fun _ => by rw [h], fun _ _ => by rw [h]⟩

theorem refl (l : LocalId) (s : Supervisor σ) : Spares l s s := of_registry l rfl

theorem mem_handles (h : Spares l s t) : l ∈ t.registry.handles ↔ l ∈ s.registry.handles := by
  rw [Registry.mem_handles_iff, h.handle, Registry.mem_handles_iff]

theorem trans (hst : Spares l s t) (htu : Spares l t u) : Spares l s u where
  handle := htu.handle.trans hst.handle
  remaining hl := (htu.remaining (hst.mem_handles.mpr hl)).trans (hst.remaining hl)
  token h hh := (htu.token h (hst.handle.trans hh)).trans (hst.token h hh)

/-- The row of a spared tunnel is what it was. -/
theorem statusOf_eq (hspares : Spares l s t) (hs : s.Sound) (ht : t.Sound) {h : Handle}
    (hl : s.registry.handles[l]? = some h) : t.registry.statusOf l h = s.registry.statusOf l h := by
  have hmem : l ∈ s.registry.handles := Registry.mem_handles_iff.mpr ⟨h, hl⟩
  rw [hs.statusOf_eq hl, ht.statusOf_eq (hspares.handle.trans hl), hspares.token h hl,
    hspares.remaining hmem]

/-- Who was spared has a row that was there before. -/
theorem mem_status (hspares : Spares row.localId s t) (hs : s.Sound) (ht : t.Sound)
    (hrow : row ∈ t.registry.status) : row ∈ s.registry.status := by
  obtain ⟨l, h, hl, rfl⟩ := Registry.mem_status.mp hrow
  have hbefore : s.registry.handles[l]? = some h := hspares.handle.symm.trans hl
  exact Registry.mem_status.mpr ⟨l, h, hbefore, (hspares.statusOf_eq hs ht hbefore).symm⟩

end Spares

namespace Opens

variable {ws : List Workspace}

theorem mono {ws' : List Workspace} (h : Opens l ws s t) (hws : ws ⊆ ws') : Opens l ws' s t := by
  obtain ⟨k, hl, hmem, hrest⟩ := h
  exact ⟨k, hl, hws hmem, hrest⟩

/-- What was spared and then opened was opened. -/
theorem of_spares (hst : Spares l s t) (htu : Opens l ws t u) : Opens l ws s u := by
  obtain ⟨h, hl, hmem, hlocal, hlive, hbefore⟩ := htu
  exact ⟨h, hl, hmem, hlocal, hlive, fun before hb => hbefore before (hst.handle.trans hb)⟩

/-- What was opened and then spared was opened. -/
theorem spares (hst : Opens l ws s t) (htu : Spares l t u) : Opens l ws s u := by
  obtain ⟨h, hl, hmem, hlocal, hlive, hbefore⟩ := hst
  exact ⟨h, htu.handle.trans hl, hmem, hlocal, (htu.token h hl).trans hlive, hbefore⟩

/-- A tunnel that was opened twice belongs to the same workspace as at first. -/
theorem trans (hst : Opens l ws s t) (htu : Opens l ws t u) : Opens l ws s u := by
  obtain ⟨h, hl, -, -, -, hbefore⟩ := hst
  obtain ⟨k, hk, hmem, hlocal, hlive, hsame⟩ := htu
  exact ⟨k, hk, hmem, hlocal, hlive, fun before hb => (hbefore before hb).trans (hsame h hl)⟩

/-- The row of a tunnel that was opened says so. -/
theorem isOpen (h : Opens row.localId ws s t) (ht : t.Sound) (hrow : row ∈ t.registry.status) :
    row.isOpen = true := by
  obtain ⟨current, hcurrent, -, -, hlive, -⟩ := h
  obtain ⟨l, k, hk, rfl⟩ := Registry.mem_status.mp hrow
  obtain rfl : k = current := Option.some.inj (hk.symm.trans hcurrent)
  rw [ht.statusOf_eq hk, hlive, Bool.not_false]

end Opens

/-- A budget for somebody else, or one that exists, changes no tunnel. -/
theorem Sound.spares_ensureBudget (hs : s.Sound) (l k : LocalId) (n : Nat) :
    Spares l s (s.ensureBudget k n) where
  handle := congrArg (fun m => m[l]?) (s.registry.handles_ensureBudget k n)
  remaining hl := by
    have hbudget := Registry.mem_budgets_iff.mp (hs.budgeted l hl)
    obtain ⟨r, hr⟩ := Option.isSome_iff_exists.mp hbudget
    refine (s.registry.remaining?_ensureBudget k l n).trans ?_
    by_cases hlk : l = k
    · rw [if_pos hlk, ← hlk, hr, Option.getD_some]
    · rw [if_neg hlk]
  token h _ := congrArg (fun t => t.isCancelled h.session) (s.registry.tokens_ensureBudget k n)

/-- A new session is live, unless the supervisor is stopping. -/
theorem Sound.isCancelled_enroll_new (hs : s.Sound) (hstop : s.isStopping = false)
    (w : Workspace) (p : UInt16) :
    (s.enroll w p).registry.tokens.isCancelled (s.registry.lastSession + 1) = false := by
  refine (Registry.isCancelled_install _ _ _).trans ?_
  rw [hs.tracks.unused (Nat.lt_succ_self _), Bool.or_eq_false_iff]
  refine ⟨hstop, ?_⟩
  cases hl : s.registry.handles[w.localId]? with
  | none => simp [Handle.localId, hl]
  | some h =>
    have htoken := hs.tracks.token_le hl
    have hne : s.registry.lastSession + 1 ≠ h.token := by omega
    simp [Handle.localId, hl, hne]

/-- Releasing the handle of another local id does not cancel the session of this one. -/
theorem Sound.not_released (hs : s.Sound) {h : Handle} (hl : s.registry.handles[l]? = some h)
    (hne : l ≠ k) :
    (s.registry.handles[k]?.any fun h' => !h'.closed && h.session == h'.token) = false := by
  cases hk : s.registry.handles[k]? with
  | none => rfl
  | some other =>
    have hsession : h.session ≠ other.session := hs.tracks.session_ne hk hl hne
    obtain ⟨-, htoken, -⟩ := hs.tracks.stands hk
    simp [htoken, hsession]

/-- A new session of a workspace spares the tunnels of other local ids. -/
theorem Sound.spares_enroll (hs : s.Sound) (hne : l ≠ w.localId) (p : UInt16) :
    Spares l s (s.enroll w p) where
  handle := (Registry.handles_install _ _ _).trans (if_neg hne)
  remaining _ := rfl
  token h hl := by
    refine (Registry.isCancelled_install _ _ _).trans ?_
    rw [Handle.localId, hs.not_released hl hne, Bool.or_false]

/-- A new session of a workspace that may have the local id opens its tunnel. -/
theorem Sound.opens_enroll (hs : s.Sound) (hstop : s.isStopping = false)
    (hadmits : s.registry.Admits w) (p : UInt16) : Opens w.localId [w] s (s.enroll w p) :=
  ⟨_, (Registry.handles_install _ _ _).trans (if_pos rfl), List.mem_singleton.mpr rfl, rfl,
    hs.isCancelled_enroll_new hstop w p, hadmits⟩

/-- The session that a workspace gets is live, and other local ids keep their tunnels. -/
theorem Sound.enroll_cases (hs : s.Sound) (hstop : s.isStopping = false)
    (hadmits : s.registry.Admits w) (p : UInt16) (l : LocalId) :
    Spares l s (s.enroll w p) ∨ Opens l [w] s (s.enroll w p) := by
  by_cases hl : l = w.localId
  · subst hl
    exact .inr (hs.opens_enroll hstop hadmits p)
  · exact .inl (hs.spares_enroll hl p)

/-- Starting one workspace spares the tunnel of a local id, or opens it. -/
theorem Sound.startOne_cases (setup : Setup σ) (hs : s.Sound) (w : Workspace) (l : LocalId) :
    Spares l s (s.startOne setup w).2 ∨ Opens l [w] s (s.startOne setup w).2 := by
  have hbudget := hs.spares_ensureBudget l w.localId setup.retryBudget
  obtain ⟨assigner, store, lines, hissued, ⟨o, ho, hstart⟩ | ⟨p, hstop, hport, hadmits, hstart⟩⟩ :=
    startTunnel_cases setup w (s.ensureBudget w.localId setup.retryBudget)
  · have hassign : Spares l (s.ensureBudget w.localId setup.retryBudget)
        ((s.ensureBudget w.localId setup.retryBudget).assign assigner store lines) :=
      .of_registry l rfl
    left
    unfold startOne
    rw [hstart]
    cases o with
    | started p => exact absurd rfl (ho p)
    | refused e => exact (hbudget.trans hassign).trans (.of_registry l rfl)
    | aborted => exact hbudget.trans hassign
  · let m := (s.ensureBudget w.localId setup.retryBudget).assign assigner store lines
    have hsound : m.Sound := (hs.ensureBudget w.localId setup.retryBudget).assign hissued
    have hassign : Spares l s m := hbudget.trans (.of_registry l rfl)
    have hcounted : Spares l (m.enroll w p) ((m.enroll w p).record [.counted w]) :=
      .of_registry l rfl
    unfold startOne
    rw [hstart]
    rcases hsound.enroll_cases hstop hadmits p l with hspares | hopens
    · exact .inl ((hassign.trans hspares).trans hcounted)
    · exact .inr (.of_spares hassign (hopens.spares hcounted))

/-- Starting workspaces one by one spares the tunnel of a local id, or opens it. -/
theorem Sound.startEach_cases (setup : Setup σ) (hs : s.Sound) (ws : List Workspace)
    (l : LocalId) :
    Spares l s (s.startEach setup ws).2 ∨ Opens l ws s (s.startEach setup ws).2 := by
  induction ws generalizing s with
  | nil => exact .inl (.refl l s)
  | cons w ws ih =>
    have hfirst := hs.startOne_cases setup w l
    have hsound : (s.startOne setup w).2.Sound := hs.of_deeds (startOne_deeds setup w s)
    have hhere : [w] ⊆ w :: ws := by simp
    have hthere : ws ⊆ w :: ws := by simp
    -- Whatever the first workspace came to, the rest starts from where it left off.
    have hgoesOn : ∀ m : Supervisor σ, m.Sound → (Spares l s m ∨ Opens l [w] s m) →
        Spares l s (m.startEach setup ws).2 ∨ Opens l (w :: ws) s (m.startEach setup ws).2 := by
      intro m hm hbefore
      rcases hbefore with hspared | hopened
      · rcases ih hm with hspares | hopens
        · exact .inl (hspared.trans hspares)
        · exact .inr (.of_spares hspared (hopens.mono hthere))
      · rcases ih hm with hspares | hopens
        · exact .inr ((hopened.mono hhere).spares hspares)
        · exact .inr ((hopened.mono hhere).trans (hopens.mono hthere))
    unfold startEach
    cases hstart : s.startOne setup w with
    | mk o m =>
      rw [hstart] at hfirst hsound
      cases o with
      | started p => exact hgoesOn m hsound hfirst
      | refused e => exact hgoesOn m hsound hfirst
      | aborted => exact hfirst.imp id fun hopens => hopens.mono hhere

/-- A start spares the tunnel of a local id, or opens it for a workspace that it is for. -/
theorem Sound.start_cases (setup : Setup σ) (hs : s.Sound) (ws : List Workspace) (l : LocalId) :
    Spares l s (s.start setup ws).2 ∨ Opens l ws s (s.start setup ws).2 := by
  unfold start
  split
  · exact .inl (.refl l s)
  · let m := s.assign (s.assigner.reserve setup.ports s.store ws).1 s.store
      (s.assigner.reserve setup.ports s.store ws).2
    have hsound : m.Sound := hs.assign fun l hl => Assigner.mem_issued_reserve hl
    have hreserve : Spares l s m := .of_registry l rfl
    rcases hsound.startEach_cases setup ws l with hspares | hopens
    · exact .inl (hreserve.trans hspares)
    · exact .inr (.of_spares hreserve hopens)

end TunnelFleet.Supervisor
