import TunnelFleet.Proofs.Supervision.Collision
import TunnelFleet.Proofs.Supervision.RetryConservation

/-!
# A local id keeps its owner

A local id belongs to the workspace id that it was first registered to, also when its
session is over, its retries are spent or it failed to start again. `Owned` says it of all
sessions so far: each has the workspace id that its local id is registered to. As no session
is forgotten and every registered handle stands for one, nobody can take over a local id.
-/

namespace TunnelFleet

/-- Every session has got a number. -/
theorem Registry.Tracks.length_eq {r : Registry} {sessions : List Session}
    (ht : r.Tracks sessions) : sessions.length = r.lastSession := by
  have hlengths := congrArg List.length ht.numbered
  rwa [List.length_map, List.length_range'] at hlengths

/-- If a workspace may not hold its local id, another one does. -/
theorem Registry.exists_of_not_admits {r : Registry} {w : Workspace} (hw : ¬ r.Admits w) :
    ∃ h : Handle, r.handles[w.localId]? = some h ∧ w.id ≠ h.workspace.id := by
  obtain ⟨h, hrefuses⟩ := not_forall.mp hw
  obtain ⟨hl, hid⟩ := Classical.not_imp.mp hrefuses
  exact ⟨h, hl, Ne.symm hid⟩

namespace Supervisor

variable {σ : Type} {setup : Setup σ} {s t : Supervisor σ} {l : LocalId} {h : Handle}
  {w : Workspace} {p : UInt16}

/-! ## Sessions belong to the registered workspace -/

/-- Each session that was ever opened has the workspace id that its local id is registered
to. -/
def Owned (s : Supervisor σ) : Prop :=
  ∀ x ∈ s.sessions, ∃ h : Handle, s.registry.handles[x.localId]? = some h ∧
    h.workspace.id = x.workspace.id

namespace Owned

/-- Shutting handles takes no local id from anybody. -/
theorem of_shut (hs : s.Owned) (hsessions : t.sessions = s.sessions)
    (hhandles : ∀ l : LocalId, t.registry.handles[l]? = s.registry.handles[l]? ∨
      t.registry.handles[l]? = s.registry.handles[l]?.map Handle.shut) : t.Owned := by
  intro x hx
  obtain ⟨h, hl, hid⟩ := hs x (hsessions ▸ hx)
  rcases hhandles x.localId with hsame | hshut
  · exact ⟨h, hsame.trans hl, hid⟩
  · exact ⟨h.shut, by rw [hshut, hl, Option.map_some], hid⟩

/-- A session of a workspace that may hold the local id. Whoever had the local id before has
the same workspace id, and so have all of its earlier sessions. -/
theorem enroll (hs : s.Owned) (hadmits : s.registry.Admits w) (p : UInt16) :
    (s.enroll w p).Owned := by
  have hhandles : ∀ l : LocalId, (s.enroll w p).registry.handles[l]? =
      if l = w.localId then
        some ⟨w, p, s.registry.lastSession + 1, s.registry.lastSession + 1, false⟩
      else s.registry.handles[l]? :=
    fun l => Registry.handles_install _ _ l
  intro x hx
  rw [hhandles]
  rcases List.mem_append.mp hx with hold | hnew
  · obtain ⟨h, hhandle, hid⟩ := hs x hold
    split
    · next hl =>
      rw [hl] at hhandle
      exact ⟨_, rfl, (hadmits h hhandle).symm.trans hid⟩
    · exact ⟨h, hhandle, hid⟩
  · obtain rfl := List.mem_singleton.mp hnew
    exact ⟨_, if_pos rfl, rfl⟩

theorem of_deed (hs : s.Owned) (hdeed : Deed s t) : t.Owned := by
  cases hdeed with
  | assign assigner store lines => exact hs
  | note lines => exact hs
  | probe ws => exact hs
  | budget k n =>
    exact hs.of_shut rfl fun l =>
      .inl (congrArg (fun m => m[l]?) (s.registry.handles_ensureBudget k n))
  | reset k => exact hs.of_shut rfl (s.registry.kept_or_shut_reset k)
  | start w p hstop hadmits => exact hs.enroll hadmits p
  | restart w p n assigner store lines hstop hretry hadmits =>
    have hreset : (s.resetRegistered w.localId).2.Owned :=
      hs.of_shut rfl (s.registry.kept_or_shut_reset w.localId)
    have hassign : ((s.resetRegistered w.localId).2.assign assigner store lines).Owned := hreset
    exact hassign.enroll hadmits p

/-- No move gives a local id to another workspace. -/
theorem of_move (hs : s.Owned) (hmove : Move s t) : t.Owned := by
  cases hmove with
  | deed hdeed => exact hs.of_deed hdeed
  | close k => exact hs.of_shut rfl (s.registry.kept_or_shut_closeHandle k)
  | closeAll => exact hs.of_shut rfl fun l => .inr (Registry.handles_closeAll _ l)
  | _ => exact hs

/-- A workspace that has a session may hold its local id. -/
theorem admits (hs : s.Owned) {x : Session} (hx : x ∈ s.sessions) :
    s.registry.Admits x.workspace := by
  intro current hcurrent
  obtain ⟨h, hl, hid⟩ := hs x hx
  obtain rfl : h = current := Option.some.inj (hl.symm.trans hcurrent)
  exact hid

end Owned

/-- In every state that a run reaches, all sessions of a local id are those of its owner. -/
theorem Reachable.owned (hs : Reachable setup s) : s.Owned := by
  refine hs.of_moves ?_ fun _ _ hmove h => h.of_move hmove
  rintro s ⟨store, assigner, rfl⟩
  exact nofun

/-- Whoever is registered is so for good, up to other workspaces with the same id. -/
theorem Reachable.handle_of_leads (hs : Reachable setup s) (hlead : Leads setup s t)
    (hl : s.registry.handles[l]? = some h) :
    ∃ k : Handle, t.registry.handles[l]? = some k ∧ k.localId = l ∧
      k.workspace.id = h.workspace.id := by
  obtain ⟨hkey, -, hmem⟩ := hs.sound.tracks.stands hl
  have hlater : h.asSession ∈ t.sessions := hlead.moves.keeps_sessions.subset hmem
  have ht : Reachable setup t := hs.leads hlead
  obtain ⟨k, hk, hid⟩ := ht.owned _ hlater
  have hkl : t.registry.handles[l]? = some k := by
    rw [← hkey]
    exact hk
  obtain ⟨hkkey, -⟩ := ht.sound.tracks.stands hkl
  exact ⟨k, hkl, hkkey, hid⟩

/-- Who may hold a local id in the end of a run could do so at any time before. -/
theorem Reachable.admits_of_leads (hs : Reachable setup s) (hlead : Leads setup s t)
    (hw : t.registry.Admits w) : s.registry.Admits w := by
  intro h hl
  obtain ⟨k, hk, -, hid⟩ := hs.handle_of_leads hlead hl
  exact hid.symm.trans (hw k hk)

/-! ## What starts open -/

/-- The sessions that a start of one workspace opens are those that it counts. -/
private theorem startOne_opened (setup : Setup σ) (w : Workspace) (s : Supervisor σ) :
    ∃ opened : List Session, (s.startOne setup w).2.sessions = s.sessions ++ opened ∧
      (s.startOne setup w).2.counted = s.counted ++ opened.map Session.workspace := by
  have hbudget : (s.ensureBudget w.localId setup.retryBudget).counted = s.counted := by
    unfold Supervisor.ensureBudget counted record
    split <;> simp [Happening.counted?]
  obtain ⟨assigner, store, lines, -, ⟨o, ho, hstart⟩ | ⟨p, -, -, -, hstart⟩⟩ :=
    startTunnel_cases setup w (s.ensureBudget w.localId setup.retryBudget)
  · unfold startOne
    rw [hstart, ← hbudget]
    refine ⟨[], ?_⟩
    simp only [List.append_nil, List.map_nil]
    cases o with
    | started p => exact absurd rfl (ho p)
    | refused e => exact ⟨rfl, rfl⟩
    | aborted => exact ⟨rfl, rfl⟩
  · unfold startOne
    rw [hstart, ← hbudget]
    refine ⟨[⟨s.registry.lastSession + 1, w, p⟩], ?_, ?_⟩
    · simp [record, enroll, assign, note, Supervisor.ensureBudget]
    · simp [counted, record, enroll, assign, note, Happening.counted?]

private theorem startEach_opened (setup : Setup σ) (ws : List Workspace) (s : Supervisor σ) :
    ∃ opened : List Session, (s.startEach setup ws).2.sessions = s.sessions ++ opened ∧
      (s.startEach setup ws).2.counted = s.counted ++ opened.map Session.workspace := by
  induction ws generalizing s with
  | nil => exact ⟨[], by simp [startEach], by simp [startEach]⟩
  | cons w ws ih =>
    obtain ⟨first, hsessions, hcounted⟩ := startOne_opened setup w s
    unfold startEach
    cases hstart : s.startOne setup w with
    | mk o t =>
      rw [hstart] at hsessions hcounted
      obtain ⟨rest, hrest, hcountedRest⟩ := ih t
      -- Whether the first workspace was started or refused, the rest goes on from there.
      have hboth : (t.startEach setup ws).2.sessions = s.sessions ++ (first ++ rest) ∧
          (t.startEach setup ws).2.counted =
            s.counted ++ (first ++ rest).map Session.workspace := by
        rw [hrest, hsessions, hcountedRest, hcounted, List.map_append, List.append_assoc,
          List.append_assoc]
        exact ⟨rfl, rfl⟩
      cases o with
      | started p => exact ⟨first ++ rest, hboth⟩
      | refused e => exact ⟨first ++ rest, hboth⟩
      | aborted => exact ⟨first, hsessions, hcounted⟩

/-- A start opens a session for each workspace that it counts, and answers how many. -/
theorem start_opened (setup : Setup σ) (ws : List Workspace) (s : Supervisor σ) :
    ∃ opened : List Session, (s.start setup ws).2.sessions = s.sessions ++ opened ∧
      (s.start setup ws).2.counted = s.counted ++ opened.map Session.workspace ∧
      (opened.map Session.workspace).Sublist ws ∧
      ∀ n, (s.start setup ws).1 = some n → n = opened.length := by
  obtain ⟨started, hsublist, hcounted, hlength⟩ := start_counted setup ws s
  have hopened : ∃ opened : List Session, (s.start setup ws).2.sessions = s.sessions ++ opened ∧
      (s.start setup ws).2.counted = s.counted ++ opened.map Session.workspace := by
    unfold start
    split
    · exact ⟨[], by simp, by simp⟩
    · exact startEach_opened setup ws _
  obtain ⟨opened, hsessions, hsame⟩ := hopened
  obtain rfl : started = opened.map Session.workspace :=
    List.append_cancel_left (hcounted.symm.trans hsame)
  refine ⟨opened, hsessions, hsame, hsublist, fun n hn => ?_⟩
  rw [← hlength n hn, List.length_map]

/-- The sessions that are opened on the way from one state to another get the next numbers. -/
theorem Sound.numbers_opened (hs : s.Sound) (ht : t.Sound) {opened : List Session}
    (hopened : t.sessions = s.sessions ++ opened) :
    opened.map Session.number = List.range' (s.registry.lastSession + 1) opened.length ∧
      t.registry.lastSession = s.registry.lastSession + opened.length := by
  have hlast : t.registry.lastSession = s.registry.lastSession + opened.length := by
    rw [← ht.tracks.length_eq, ← hs.tracks.length_eq, hopened, List.length_append]
  refine ⟨?_, hlast⟩
  have hnumbered := ht.tracks.numbered
  rw [hopened, List.map_append, hs.tracks.numbered, hlast, ← List.range'_append_1] at hnumbered
  rw [List.append_cancel_left hnumbered, Nat.add_comm 1]

/-! ## Workspaces that come too late -/

/-- The start of a workspace whose local id belongs to another one is refused, and opens
nothing. -/
theorem Sound.startOne_refused (setup : Setup σ) (hs : s.Sound) (hw : ¬ s.registry.Admits w) :
    ∃ e, (s.startOne setup w).1 = .refused e ∧ (s.startOne setup w).2.sessions = s.sessions ∧
      (s.startOne setup w).2.registry.lastSession = s.registry.lastSession := by
  obtain ⟨h, hl, -⟩ := Registry.exists_of_not_admits hw
  have hissued : w.localId ∈ s.assigner.issued :=
    hs.issued _ (Registry.mem_handles_iff.mpr ⟨h, hl⟩)
  have hanswer := startTunnel_ne_aborted setup
    (s := s.ensureBudget w.localId setup.retryBudget) hissued
  obtain ⟨assigner, store, lines, -, ⟨o, ho, hstart⟩ | ⟨p, -, -, hadmits, -⟩⟩ :=
    startTunnel_cases setup w (s.ensureBudget w.localId setup.retryBudget)
  · unfold startOne
    rw [hstart] at hanswer ⊢
    cases o with
    | started p => exact absurd rfl (ho p)
    | refused e =>
      exact ⟨e, rfl, rfl, s.registry.lastSession_ensureBudget w.localId setup.retryBudget⟩
    | aborted => exact absurd rfl hanswer
  · refine absurd (fun k hk => hadmits k ?_) hw
    exact (congrArg (fun m => m[w.localId]?) (s.registry.handles_ensureBudget _ _)).trans hk

/-- The reset of a workspace whose local id belongs to another one opens nothing. -/
theorem reset_opens_nothing (setup : Setup σ) (hw : ¬ s.registry.Admits w) :
    (∀ r p, (s.reset setup w).1 ≠ some (.restarted r p)) ∧
      (s.reset setup w).2.sessions = s.sessions ∧
      (s.reset setup w).2.registry.lastSession = s.registry.lastSession := by
  obtain ⟨h, hl, hid⟩ := Registry.exists_of_not_admits hw
  obtain ⟨hanswer, hregistry⟩ := reset_of_collision setup hl hid
  refine ⟨hanswer, ?_, by rw [hregistry, Registry.lastSession_reset]⟩
  obtain ⟨assigner, store, lines, -, ⟨o, -, hreset⟩ | ⟨r, p, -, -, -, -, hreset⟩⟩ :=
    reset_outcomes setup w s
  · rw [hreset]
    rfl
  · exact absurd (congrArg Prod.fst hreset) (hanswer r p)

/-- A local id never changes its owner. Once it is registered, it stays registered to the same
workspace id in every continuation of the run, and every session that was or will be opened
for it has this workspace id. A workspace that comes to a local id of another one gets
nothing: no start counts it, opens a session for it or gives it a number, whatever else the
start is for, and no reset of it restarts anything. -/
theorem Reachable.local_id_keeps_owner (hs : Reachable setup s) :
    (∀ (l : LocalId) (h : Handle) (t : Supervisor σ), s.registry.handles[l]? = some h →
      Leads setup s t →
        (∃ k : Handle, t.registry.handles[l]? = some k ∧ k.localId = l ∧
          k.workspace.id = h.workspace.id) ∧
        ∀ x ∈ t.sessions, x.localId = l → x.workspace.id = h.workspace.id) ∧
    (∀ ws : List Workspace, ∃ opened : List Session,
      let t := (s.start setup ws).2
      t.sessions = s.sessions ++ opened ∧
        t.counted = s.counted ++ opened.map Session.workspace ∧
        (∀ n, (s.start setup ws).1 = some n → n = opened.length) ∧
        opened.map Session.number = List.range' (s.registry.lastSession + 1) opened.length ∧
        t.registry.lastSession = s.registry.lastSession + opened.length ∧
        (opened.map Session.workspace).Sublist ws ∧
        ∀ w ∈ ws, ¬ s.registry.Admits w ∨ ¬ t.registry.Admits w →
          w ∉ opened.map Session.workspace) ∧
    ∀ w : Workspace, ¬ s.registry.Admits w →
      (∃ e, (s.startOne setup w).1 = .refused e ∧
        (s.startOne setup w).2.sessions = s.sessions ∧
        (s.startOne setup w).2.registry.lastSession = s.registry.lastSession) ∧
      (∀ r p, (s.reset setup w).1 ≠ some (.restarted r p)) ∧
      (s.reset setup w).2.sessions = s.sessions ∧
      (s.reset setup w).2.registry.lastSession = s.registry.lastSession := by
  refine ⟨fun l h t hl hlead => ?_, fun ws => ?_, fun w hw => ?_⟩
  · obtain ⟨k, hk, hkey, hid⟩ := hs.handle_of_leads hlead hl
    refine ⟨⟨k, hk, hkey, hid⟩, ?_⟩
    rintro x hx rfl
    have hadmits := (hs.leads hlead).owned.admits hx
    exact (hadmits k hk).symm.trans hid
  · obtain ⟨opened, hsessions, hcounted, hsublist, hanswer⟩ := start_opened setup ws s
    have hlead : Leads setup s (s.start setup ws).2 := .single ⟨.start ws, rfl⟩
    have ht : Reachable setup (s.start setup ws).2 := hs.leads hlead
    obtain ⟨hnumbers, hlast⟩ := hs.sound.numbers_opened ht.sound hsessions
    refine ⟨opened, hsessions, hcounted, hanswer, hnumbers, hlast, hsublist, ?_⟩
    intro w _ hrefused hopened
    obtain ⟨x, hx, rfl⟩ := List.mem_map.mp hopened
    have hadmits : (s.start setup ws).2.registry.Admits x.workspace :=
      ht.owned.admits (hsessions ▸ List.mem_append_right _ hx)
    rcases hrefused with hbefore | hafter
    · exact hbefore (hs.admits_of_leads hlead hadmits)
    · exact hafter hadmits
  · exact ⟨hs.sound.startOne_refused setup hw, reset_opens_nothing setup hw⟩

/-- The tunnel of `web-1001` is over, and another workspace with this local id is started
beside `db-2002`. -/
theorem local_id_keeps_owner_after_end :
    let s := SmallFleet.started.sessionEnded ⟨1, SmallFleet.web, 1024⟩ (.ok ())
    let t := (s.start SmallFleet.setup [SmallFleet.impostor, SmallFleet.db]).2
    Reachable SmallFleet.setup s ∧ s.registry.isOpen SmallFleet.web.localId = false ∧
      SmallFleet.impostor.localId = SmallFleet.web.localId ∧
      t.counted = [SmallFleet.web, SmallFleet.db, SmallFleet.db] ∧
      ∀ x ∈ t.sessions, x.localId = SmallFleet.web.localId →
        x.workspace.id = SmallFleet.web.id := by
  intro s t
  have htask : (⟨1, SmallFleet.web, 1024⟩ : Session) ∈ SmallFleet.started.tasks := by
    decide +kernel
  have hreachable : Reachable SmallFleet.setup s :=
    .step (.sessionEnded ⟨1, SmallFleet.web, 1024⟩ (.ok ())) SmallFleet.started_reachable
      (by rw [Event.apply, if_pos htask])
  have hlocal : SmallFleet.impostor.localId = SmallFleet.web.localId := by decide +kernel
  have hdown : s.registry.isOpen SmallFleet.web.localId = false := by decide +kernel
  have hregistered : (s.registry.handles[SmallFleet.web.localId]?).any
      (fun h => h.workspace == SmallFleet.web) = true := by
    decide +kernel
  obtain ⟨h, hl, hweb⟩ := (Option.any_eq_true _ _).mp hregistered
  have hcounted : t.counted = [SmallFleet.web, SmallFleet.db, SmallFleet.db] := by
    decide +kernel
  have hlead : Leads SmallFleet.setup s t :=
    .single ⟨.start [SmallFleet.impostor, SmallFleet.db], rfl⟩
  obtain ⟨howner, -⟩ := Reachable.local_id_keeps_owner hreachable
  obtain ⟨-, hsessions⟩ := howner _ h t hl hlead
  rw [eq_of_beq hweb] at hsessions
  exact ⟨hreachable, hdown, hlocal, hcounted, hsessions⟩

end Supervisor

end TunnelFleet
