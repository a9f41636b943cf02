import TunnelFleet.Proofs.Supervision.Bookkeeping

/-!
# Live sessions are current

A session is live as long as nobody has cancelled its token. In every state that a run
reaches, the live sessions are sessions that the registry has now: a session that was
displaced, closed or ended is cancelled, so no workspace ever has two live sessions, and
what the status shows as open is what is live.
-/

namespace TunnelFleet.Supervisor

variable {σ : Type} {setup : Setup σ} {s t : Supervisor σ}

/-- Nobody has cancelled the token of a session. -/
def IsLive (s : Supervisor σ) (x : Session) : Prop :=
  s.registry.tokens.isCancelled x.number = false

namespace Sound

variable {x y : Session} {l : LocalId} {h : Handle}

/-- The registry holds the handle of a live session. -/
theorem handle_of_isLive (hs : s.Sound) (hx : x ∈ s.sessions) (hlive : s.IsLive x) :
    ∃ h : Handle, s.registry.handles[x.localId]? = some h ∧
      h.session = x.number ∧ h.workspace = x.workspace ∧ h.port = x.port := by
  obtain ⟨h, hl, rfl⟩ := hs.tracks.current hx hlive
  exact ⟨h, hl, rfl, rfl, rfl⟩

/-- No local id has two live sessions. -/
theorem eq_of_isLive (hs : s.Sound) (hx : x ∈ s.sessions) (hy : y ∈ s.sessions)
    (hl : x.localId = y.localId) (hlivex : s.IsLive x) (hlivey : s.IsLive y) : x = y := by
  obtain ⟨h, hh, hsession⟩ := hs.tracks.current hx hlivex
  obtain ⟨k, hk, rfl⟩ := hs.tracks.current hy hlivey
  rw [hl, hk] at hh
  obtain rfl := Option.some.inj hh
  exact hsession.symm

/-- A session that its local id no longer has is cancelled. -/
theorem isCancelled_of_displaced (hs : s.Sound) (hx : x ∈ s.sessions)
    (hl : s.registry.handles[x.localId]? = some h) (hne : h.session ≠ x.number) :
    s.registry.tokens.isCancelled x.number = true := by
  by_contra hcancelled
  have hlive : s.IsLive x := Bool.eq_false_iff.mpr hcancelled
  obtain ⟨k, hk, hnumber, -⟩ := hs.handle_of_isLive hx hlive
  rw [hl] at hk
  obtain rfl := Option.some.inj hk
  exact hne hnumber

end Sound

/-- In every state that a run reaches, a session that was handed to the provider and that
nobody cancelled is the registered session of its local id, with the same number, workspace
and port. So no local id has two live sessions, whoever was displaced from the registry in
the course of a run is cancelled at the end of it, and each row of the status belongs to a
session and is open exactly as long as this session is live. -/
theorem Reachable.live_sessions_current (hs : Reachable setup s) :
    (∀ x ∈ s.sessions, s.IsLive x → ∃ h : Handle, s.registry.handles[x.localId]? = some h ∧
      h.session = x.number ∧ h.workspace = x.workspace ∧ h.port = x.port) ∧
    (∀ x ∈ s.sessions, ∀ y ∈ s.sessions, x.localId = y.localId → s.IsLive x → s.IsLive y →
      x = y) ∧
    (∀ (t : Supervisor σ) (l : LocalId) (m n : Nat), Leads setup s t →
      s.registry.session? l = some m → t.registry.session? l = some n → m ≠ n →
      t.registry.tokens.isCancelled m = true) ∧
    ∀ row ∈ s.registry.status, ∃ x ∈ s.sessions, x.localId = row.localId ∧
      x.number = row.session ∧ x.port = row.port ∧ (row.isOpen = true ↔ s.IsLive x) := by
  have hsound := hs.sound
  refine ⟨fun x hx hlive => hsound.handle_of_isLive hx hlive,
    fun x hx y hy hl hlivex hlivey => hsound.eq_of_isLive hx hy hl hlivex hlivey, ?_, ?_⟩
  · intro t l m n hlead hm hn hne
    obtain ⟨h, hl, rfl⟩ := Option.map_eq_some_iff.mp hm
    obtain ⟨k, hk, rfl⟩ := Option.map_eq_some_iff.mp hn
    obtain ⟨hkey, -, hmem⟩ := hsound.tracks.stands hl
    have hmem' : h.asSession ∈ t.sessions := hlead.moves.keeps_sessions.subset hmem
    refine (hs.leads hlead).sound.isCancelled_of_displaced hmem' (h := k) ?_ (Ne.symm hne)
    rw [← hk, ← hkey]
    rfl
  · intro row hrow
    obtain ⟨l, h, hl, rfl⟩ := Registry.mem_status.mp hrow
    obtain ⟨hkey, -, hmem⟩ := hsound.tracks.stands hl
    refine ⟨h.asSession, hmem, hkey, rfl, rfl, ?_⟩
    have hclosed := hsound.isClosed_eq hl
    simp [Registry.statusOf, hclosed, IsLive, Handle.asSession]

/-- The first session of a workspace that is started a second time. -/
theorem live_sessions_current_second_start :
    let s := SmallFleet.started
    let t := (s.start SmallFleet.setup [SmallFleet.web]).2
    Reachable SmallFleet.setup s ∧ Leads SmallFleet.setup s t ∧
      s.registry.session? SmallFleet.web.localId = some 1 ∧
      t.registry.session? SmallFleet.web.localId = some 3 ∧
      t.registry.tokens.isCancelled 1 = true := by
  intro s t
  have hlead : Leads SmallFleet.setup s t := .single ⟨.start [SmallFleet.web], rfl⟩
  have hbefore : s.registry.session? SmallFleet.web.localId = some 1 := by decide +kernel
  have hafter : t.registry.session? SmallFleet.web.localId = some 3 := by decide +kernel
  obtain ⟨-, -, hdisplaced, -⟩ := Reachable.live_sessions_current SmallFleet.started_reachable
  exact ⟨SmallFleet.started_reachable, hlead, hbefore, hafter,
    hdisplaced t _ 1 3 hlead hbefore hafter (by decide)⟩

end TunnelFleet.Supervisor
