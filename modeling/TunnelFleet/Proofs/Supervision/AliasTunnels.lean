import TunnelFleet.Proofs.Ports.Settled
import TunnelFleet.Proofs.Supervision.Collision
import TunnelFleet.Proofs.Supervision.CurrentSession

/-!
# Aliases lead to tunnels

Ports are found twice for the same workspaces: first for their aliases, and again when a
supervisor starts their tunnels. Both come to the same ports. A local id with an alias is
settled on the port of the alias, so whichever of the workspaces with this local id gets the
tunnel, it gets it on this port.
-/

namespace TunnelFleet.Supervisor

variable {σ : Type} {setup : Setup σ} {states : σ → Prop} {drawing : Drawing} {s : Supervisor σ}
  {entries : List HostEntry}

/-- A running supervisor has no tunnel on another port than the aliases say, and is not going to
have one. -/
structure Carries (setup : Setup σ) (states : σ → Prop) (drawing : Drawing)
    (entries : List HostEntry) (s : Supervisor σ) : Prop where
  running : s.isStopping = false
  drawing : s.assigner.drawing = drawing
  state : states s.store
  settled : ∀ e ∈ entries, Assigner.Settled setup.ports s.assigner s.store e.localId e.port
  port : ∀ e ∈ entries, ∀ h : Handle, s.registry.handles[e.localId]? = some h → h.port = e.port
  /-- No session has ended. -/
  tasks : s.tasks = s.sessions

/-- A running supervisor asks for the port of a workspace. If it is given one, it launches the
tunnel on it, and otherwise says why not. -/
theorem startTunnel_of_running (setup : Setup σ) (w : Workspace) (hrunning : s.isStopping = false) :
    let r := s.assigner.resolve setup.ports setup.sampler w.localId s.store
    let t := s.assign r.assigner r.store r.logs
    (∃ q, r.result = .port q ∧ s.startTunnel setup w = t.launch w q) ∨
    (∃ e, r.result = .refused e ∧ s.startTunnel setup w = (.refused (.port e), t)) ∨
    r.result = .aborted ∧ s.startTunnel setup w = (.aborted, t) := by
  unfold startTunnel
  rw [hrunning]
  generalize s.assigner.resolve setup.ports setup.sampler w.localId s.store = r
  obtain ⟨result, assigner, store, logs⟩ := r
  cases result with
  | port q => exact .inl ⟨q, rfl, rfl⟩
  | refused e => exact .inr (.inl ⟨e, rfl, rfl⟩)
  | aborted => exact .inr (.inr ⟨rfl, rfl⟩)

namespace Carries

theorem ensureBudget (hs : Carries setup states drawing entries s) (k : LocalId) (n : Nat) :
    Carries setup states drawing entries (s.ensureBudget k n) where
  running := (congrArg Tokens.rootCancelled (s.registry.tokens_ensureBudget k n)).trans hs.running
  drawing := hs.drawing
  state := hs.state
  settled := hs.settled
  port e he h hl := hs.port e he h ((s.registry.handles_ensureBudget k n) ▸ hl)
  tasks := hs.tasks

theorem note (hs : Carries setup states drawing entries s) (lines : List LogLine) :
    Carries setup states drawing entries (s.note lines) :=
  ⟨hs.running, hs.drawing, hs.state, hs.settled, hs.port, hs.tasks⟩

theorem record (hs : Carries setup states drawing entries s) (happenings : List Happening) :
    Carries setup states drawing entries (s.record happenings) :=
  ⟨hs.running, hs.drawing, hs.state, hs.settled, hs.port, hs.tasks⟩

/-- A request for anybody's port. -/
theorem resolve (hs : Carries setup states drawing entries s)
    (hports : setup.ports.Undisturbed states) (k : LocalId) :
    let r := s.assigner.resolve setup.ports setup.sampler k s.store
    Carries setup states drawing entries (s.assign r.assigner r.store r.logs) where
  running := hs.running
  drawing :=
    (Assigner.drawing_resolve setup.ports setup.sampler k s.assigner s.store).trans hs.drawing
  state := Assigner.states_resolve hports hs.state s.assigner setup.sampler k
  settled e he := (hs.settled e he).resolve hports hs.state setup.sampler k
  port := hs.port
  tasks := hs.tasks

/-- Pins are set aside. -/
theorem reserve (hs : Carries setup states drawing entries s) (ws : List Workspace) :
    let reserved := s.assigner.reserve setup.ports s.store ws
    Carries setup states drawing entries (s.assign reserved.1 s.store reserved.2) where
  running := hs.running
  drawing := (Assigner.drawing_reserve setup.ports s.store s.assigner ws).trans hs.drawing
  state := hs.state
  settled e he := (hs.settled e he).reserve ws
  port := hs.port
  tasks := hs.tasks

/-- A new session of a workspace, on the port of its alias if it has one. -/
theorem enroll (hs : Carries setup states drawing entries s) (w : Workspace) {q : UInt16}
    (hq : ∀ e ∈ entries, w.localId = e.localId → q = e.port) :
    Carries setup states drawing entries (s.enroll w q) where
  running := (s.registry.rootCancelled_install _).trans hs.running
  drawing := hs.drawing
  state := hs.state
  settled := hs.settled
  port e he h hl := by
    change (s.registry.install _).2.handles[e.localId]? = some h at hl
    rw [Registry.handles_install] at hl
    split at hl
    · next hlocal =>
      obtain rfl := Option.some.inj hl
      exact hq e he hlocal.symm
    · exact hs.port e he h hl
  tasks := congrArg (· ++ [_]) hs.tasks

/-- The start of a workspace whose local id has an alias leaves the local id with a tunnel, and
no start takes a tunnel away. With an alias, or with ports to draw from, it is not cut short. -/
theorem startOne (hs : Carries setup states drawing entries s)
    (hports : setup.ports.Undisturbed states) (w : Workspace) :
    Carries setup states drawing entries (s.startOne setup w).2 ∧
      (drawing.range.size ≠ 0 ∨ (∃ e ∈ entries, e.localId = w.localId) →
        (s.startOne setup w).1 ≠ .aborted) ∧
      ∀ e ∈ entries, e.localId ∈ s.registry.handles ∨ w.localId = e.localId →
        e.localId ∈ (s.startOne setup w).2.registry.handles := by
  have hbudget := hs.ensureBudget w.localId setup.retryBudget
  have hresolved := hbudget.resolve hports w.localId
  have hhandles : (s.ensureBudget w.localId setup.retryBudget).registry.handles =
      s.registry.handles := s.registry.handles_ensureBudget _ _
  -- What the request for the port of an alias is answered with.
  have hanswer : ∀ e ∈ entries, w.localId = e.localId →
      ((s.ensureBudget w.localId setup.retryBudget).assigner.resolve setup.ports setup.sampler
        w.localId (s.ensureBudget w.localId setup.retryBudget).store).result = .port e.port := by
    intro e he hlocal
    have hsettled := hbudget.settled e he
    rw [← hlocal] at hsettled
    exact hsettled.result_eq setup.sampler
  unfold Supervisor.startOne
  obtain ⟨q, hresult, hstart⟩ | ⟨reason, hresult, hstart⟩ | ⟨hresult, hstart⟩ :=
    startTunnel_of_running setup w hbudget.running
  · rw [hstart]
    obtain ⟨current, hcurrent, -, hlaunch⟩ | ⟨-, hlaunch⟩ :=
      launch_cases w q ((s.ensureBudget w.localId setup.retryBudget).assign _ _ _)
    · -- Somebody else has the local id, and keeps the tunnel.
      rw [hlaunch]
      refine ⟨hresolved.note _, fun _ => nofun, fun e he hmem => ?_⟩
      change e.localId ∈ (s.ensureBudget w.localId setup.retryBudget).registry.handles
      rcases hmem with hmem | hlocal
      · exact hhandles ▸ hmem
      · exact Registry.mem_handles_iff.mpr ⟨current, hlocal ▸ hcurrent⟩
    · rw [hlaunch]
      refine ⟨(hresolved.enroll w fun e he hlocal => ?_).record _, fun _ => nofun,
        fun e he hmem => ?_⟩
      · exact Resolution.port.inj (hresult.symm.trans (hanswer e he hlocal))
      · refine Registry.mem_handles_install.mpr ?_
        rcases hmem with hmem | hlocal
        · exact .inr (hhandles ▸ hmem)
        · exact .inl hlocal.symm
  · rw [hstart]
    refine ⟨hresolved.note _, fun _ => nofun, fun e he hmem => ?_⟩
    change e.localId ∈ (s.ensureBudget w.localId setup.retryBudget).registry.handles
    rcases hmem with hmem | hlocal
    · exact hhandles ▸ hmem
    · rw [hanswer e he hlocal] at hresult
      cases hresult
  · rw [hstart]
    refine ⟨hresolved, fun hfinds => ?_, fun e he hmem => ?_⟩
    · rcases hfinds with hrange | ⟨e, he, hlocal⟩
      · rw [← hbudget.drawing] at hrange
        exact absurd hresult (Assigner.result_ne_aborted hrange _ _ _ _)
      · rw [hanswer e he hlocal.symm] at hresult
        cases hresult
    · change e.localId ∈ (s.ensureBudget w.localId setup.retryBudget).registry.handles
      rcases hmem with hmem | hlocal
      · exact hhandles ▸ hmem
      · rw [hanswer e he hlocal] at hresult
        cases hresult

theorem startEach (hs : Carries setup states drawing entries s)
    (hports : setup.ports.Undisturbed states) (ws : List Workspace) :
    Carries setup states drawing entries (s.startEach setup ws).2 ∧
      (drawing.range.size ≠ 0 ∨ (∀ w ∈ ws, ∃ e ∈ entries, e.localId = w.localId) →
        (s.startEach setup ws).1.isSome = true) ∧
      ((s.startEach setup ws).1.isSome = true →
        ∀ e ∈ entries, e.localId ∈ s.registry.handles ∨ (∃ w ∈ ws, w.localId = e.localId) →
          e.localId ∈ (s.startEach setup ws).2.registry.handles) := by
  induction ws generalizing s with
  | nil =>
    refine ⟨hs, fun _ => rfl, fun _ e he hmem => ?_⟩
    obtain hmem | ⟨w, hw, -⟩ := hmem
    · exact hmem
    · cases hw
  | cons w ws ih =>
    obtain ⟨hfirst, hanswer, hmem⟩ := hs.startOne hports w
    obtain ⟨hrest, hcount, hrestmem⟩ := ih hfirst
    have hfinds (hall : drawing.range.size ≠ 0 ∨
        ∀ w' ∈ w :: ws, ∃ e ∈ entries, e.localId = w'.localId) :
        (s.startOne setup w).1 ≠ .aborted ∧
          ((s.startOne setup w).2.startEach setup ws).1.isSome = true :=
      ⟨hanswer (hall.imp_right fun h => h w List.mem_cons_self),
        hcount (hall.imp_right fun h w' hw' => h w' (List.mem_cons_of_mem _ hw'))⟩
    have hall (hsome : ((s.startOne setup w).2.startEach setup ws).1.isSome = true) :
        ∀ e ∈ entries,
          e.localId ∈ s.registry.handles ∨ (∃ w' ∈ w :: ws, w'.localId = e.localId) →
            e.localId ∈ ((s.startOne setup w).2.startEach setup ws).2.registry.handles := by
      rintro e he (hl | ⟨w', hw', hlocal⟩)
      · exact hrestmem hsome e he (.inl (hmem e he (.inl hl)))
      · rcases List.mem_cons.mp hw' with rfl | hw'
        · exact hrestmem hsome e he (.inl (hmem e he (.inr hlocal)))
        · exact hrestmem hsome e he (.inr ⟨w', hw', hlocal⟩)
    unfold Supervisor.startEach
    cases hstart : s.startOne setup w with
    | mk o t =>
      rw [hstart] at hfirst hrest hfinds hall
      cases o with
      | started q =>
        exact ⟨hrest, fun h => by simpa using (hfinds h).2,
          fun hsome => hall (by simpa using hsome)⟩
      | refused e => exact ⟨hrest, fun h => (hfinds h).2, hall⟩
      | aborted =>
        refine ⟨hfirst, fun h => absurd rfl (hfinds h).1, fun hsome => ?_⟩
        cases hsome

/-- A start that is not cut short leaves the local ids of its workspaces that have aliases with
tunnels on their ports. -/
theorem start (hs : Carries setup states drawing entries s)
    (hports : setup.ports.Undisturbed states) (ws : List Workspace) :
    Carries setup states drawing entries (s.start setup ws).2 ∧
      (drawing.range.size ≠ 0 ∨ (∀ w ∈ ws, ∃ e ∈ entries, e.localId = w.localId) →
        (s.start setup ws).1.isSome = true) ∧
      ((s.start setup ws).1.isSome = true →
        ∀ e ∈ entries, (∃ w ∈ ws, w.localId = e.localId) →
          e.localId ∈ (s.start setup ws).2.registry.handles) := by
  unfold Supervisor.start
  split
  · next hempty =>
    obtain rfl := List.isEmpty_iff.mp hempty
    exact ⟨hs, fun _ => rfl, fun _ _ _ ⟨_, hw, _⟩ => nomatch hw⟩
  · obtain ⟨hend, hcount, hmem⟩ := (hs.reserve ws).startEach hports ws
    exact ⟨hend, hcount, fun hsome e he hws => hmem hsome e he (.inr hws)⟩

end Carries

/-! ## Aliases and tunnels -/

/-- Aliases lead to tunnels. Ports are found for some workspaces, among which local ids may be
repeated or collide, and then a new supervisor with the same assigner starts the tunnels of the
same workspaces. In between nobody touches the store and no lookup starts to fail; saves may
fail. Then every local id that was given a port has one block in the ssh config, and for each
block the supervisor has a live session for the local id, on the port that the block names.

Without any port to draw from, the search for the aliases or the start may be cut short, and
there is nobody left to have tunnels. The search is not cut short if there are ports to draw
from, and the start is not either, nor is it if each of the workspaces was given a port. -/
theorem aliases_lead_to_tunnels (setup : Setup σ) (hports : setup.ports.Undisturbed states)
    (sampler : Sampler) (a : Assigner) (ws : List Workspace) (before after : σ)
    (hbefore : states before) (hafter : states after)
    (hlookups : ∀ l pin,
      setup.ports.lookup (a.aliases setup.ports sampler ws before).store l = .ok pin →
        setup.ports.lookup after l = .ok pin)
    (c : SshConfig) :
    let found := a.aliases setup.ports sampler ws before
    let s : Supervisor σ := { store := after, assigner := found.assigner }
    let t := (s.start setup ws).2
    (a.drawing.range.size ≠ 0 → found.aborted = false) ∧
    (a.drawing.range.size ≠ 0 ∨ (∀ w ∈ ws, ∃ e ∈ found.entries, e.localId = w.localId) →
      (s.start setup ws).1.isSome = true) ∧
    ((s.start setup ws).1.isSome = true → ∃ blocks : List HostEntry,
      c.render found.entries =
        String.join ((SshConfig.header :: blocks.flatMap c.block).map (· ++ "\n")) ∧
      (blocks.map HostEntry.localId).Nodup ∧
      (∀ e ∈ blocks, e ∈ found.entries) ∧
      (∀ e ∈ found.entries, ∃ e' ∈ blocks, e'.localId = e.localId) ∧
      ∀ e ∈ blocks, ∃ x ∈ t.tasks, x.localId = e.localId ∧ x.port = e.port ∧ t.IsLive x ∧
        ∃ row ∈ t.registry.status, row.localId = e.localId ∧ row.port = e.port ∧
          row.session = x.number ∧ row.isOpen = true) := by
  intro found s t
  have hfound : Assigner.Finds setup.ports states a before ws found :=
    Assigner.finds_aliases hports sampler hbefore a ws
  have hsound : s.Sound :=
    { tracks := .empty
      budgeted := by simp [s]
      issued := by simp [s]
      targets := by simp [s, HealthLoop.targets] }
  have htsound : t.Sound := hsound.of_deeds (start_deeds setup ws s)
  -- The supervisor takes over what the local ids of the aliases are settled on.
  have hcarries : Carries setup states a.drawing found.entries s :=
    { running := rfl
      drawing := hfound.drawing
      state := hafter
      settled := fun e he => (hfound.settled e he).of_lookup fun pin => hlookups e.localId pin
      port := fun e _ h hl => by simp [s] at hl
      tasks := rfl }
  obtain ⟨hend, hanswer, hmem⟩ := hcarries.start hports ws
  refine ⟨hfound.reached, hanswer, fun hsome =>
    ⟨SshConfig.firstEntries [] found.entries, rfl, SshConfig.nodup_firstEntries [] _,
      fun e he => (SshConfig.mem_of_mem_firstEntries he).1,
      fun e he => SshConfig.exists_mem_firstEntries he List.not_mem_nil, fun e he => ?_⟩⟩
  have hentry := (SshConfig.mem_of_mem_firstEntries he).1
  obtain ⟨h, hl⟩ := Registry.mem_handles_iff.mp (hmem hsome e hentry (hfound.named e hentry))
  have hport : h.port = e.port := hend.port e hentry h hl
  obtain ⟨hkey, -, hsession⟩ := htsound.tracks.stands hl
  -- There was no tunnel before, so the one that is there now was opened by the start.
  have hlive : t.registry.tokens.isCancelled h.session = false := by
    rcases hsound.start_cases setup ws e.localId with hspares | ⟨k, hk, -, -, hlive, -⟩
    · have hnone : s.registry.handles[e.localId]? = some h := hspares.handle.symm.trans hl
      simp [s] at hnone
    · obtain rfl : h = k := Option.some.inj (hl.symm.trans hk)
      exact hlive
  refine ⟨h.asSession, hend.tasks ▸ hsession, hkey, hport, hlive,
    t.registry.statusOf e.localId h, Registry.mem_status.mpr ⟨_, h, hl, rfl⟩, rfl, hport, rfl, ?_⟩
  rw [htsound.statusOf_eq hl, hlive, Bool.not_false]

/-- A workspace whose port cannot be saved, a collision with it, a repetition of it, and another
workspace. -/
theorem aliases_lead_to_tunnels_unsaved :
    let web := SmallFleet.web.localId
    let ws := [SmallFleet.web, SmallFleet.impostor, SmallFleet.db, SmallFleet.web]
    let store : PinTable := { saveFaults := .ofList [(web, "read-only")] }
    let found := ({} : Assigner).aliases PinTable.asStore SmallFleet.setup.sampler ws store
    let s : Supervisor PinTable := { store := found.store, assigner := found.assigner }
    let t := (s.start SmallFleet.setup ws).2
    found.entries.map (fun e => (e.localId, e.port)) =
        [(web, 1024), (web, 1024), (SmallFleet.db.localId, 1025), (web, 1024)] ∧
      found.store.pins[web]? = none ∧ (s.start SmallFleet.setup ws).1 = some 3 ∧
      ∃ x ∈ t.tasks, x.localId = web ∧ x.port = 1024 ∧ t.IsLive x := by
  intro web ws store found s t
  have hentries : found.entries.map (fun e => (e.localId, e.port)) =
      [(web, 1024), (web, 1024), (SmallFleet.db.localId, 1025), (web, 1024)] := by
    decide +kernel
  have hunsaved : found.store.pins[web]? = none := by decide +kernel
  have hstarted : (s.start SmallFleet.setup ws).1 = some 3 := by decide +kernel
  have hports : ∀ e ∈ found.entries, e.localId = web → e.port = 1024 := by
    intro e he hlocal
    have hpair : (e.localId, e.port) ∈ found.entries.map fun e => (e.localId, e.port) :=
      List.mem_map_of_mem he
    rw [hentries] at hpair
    simp only [List.mem_cons, Prod.mk.injEq, List.not_mem_nil, or_false] at hpair
    have hother : web ≠ SmallFleet.db.localId := by decide
    obtain ⟨-, h⟩ | ⟨-, h⟩ | ⟨hdb, -⟩ | ⟨-, h⟩ := hpair
    · exact h
    · exact h
    · exact absurd (hlocal.symm.trans hdb) hother
    · exact h
  obtain ⟨-, hanswer, htunnels⟩ :=
    aliases_lead_to_tunnels SmallFleet.setup PinTable.undisturbed SmallFleet.setup.sampler {}
      ws store found.store trivial trivial (fun _ _ h => h) ⟨⟨["", "ssh_config"]⟩, "dev", none⟩
  obtain ⟨blocks, -, -, hfound, hblocks, htunnels⟩ := htunnels (hanswer (.inl (by decide)))
  have hweb : web ∈ found.entries.map HostEntry.localId := by
    have := congrArg (List.map Prod.fst) hentries
    rw [List.map_map] at this
    exact this ▸ List.mem_cons_self
  obtain ⟨e, he, hlocal⟩ := List.mem_map.mp hweb
  obtain ⟨block, hblock, hsame⟩ := hblocks e he
  obtain ⟨x, hx, hkey, hport, hlive, -⟩ := htunnels block hblock
  have hblockweb : block.localId = web := hsame.trans hlocal
  exact ⟨hentries, hunsaved, hstarted, x, hx, hkey.trans hblockweb,
    hport.trans (hports block (hfound block hblock) hblockweb), hlive⟩

end TunnelFleet.Supervisor
