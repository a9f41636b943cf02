import TunnelFleet.Proofs.Supervision.Cascade
import TunnelFleet.Proofs.Supervision.Recheck
import TunnelFleet.Proofs.Supervision.Starting

/-!
# Why a tunnel stays down

In a run that nobody interferes with, a tunnel goes down because its session ends, and that
is reported. So a pass follows that looks at the workspace, and it restarts the tunnel as far
as the retries go. There are two exceptions. The pass asks the workspace and not the tunnel:
if the workspace answers well, its tunnel stays down. And a restart needs a port: if the
store does not answer, the retry is spent and the tunnel stays down.
-/

namespace TunnelFleet

/-- Whether an event belongs to a run that nobody interferes with: workspaces are started,
sessions end, signals are reported, the health loop does its work, the port store changes. -/
def Event.unattended {σ : Type} : Event σ → Bool
  | .start _ | .sessionEnded _ _ | .report _ | .beginLoop | .receiveSignal | .takeSnapshot
  | .collectVerdicts _ | .treatNext | .storeChanged _ => true
  | _ => false

/-- Who held its local id still holds it when its handle is shut. -/
theorem Registry.Admits.of_shut {r r' : Registry} {w : Workspace} (h : r.Admits w)
    (hhandle : r'.handles[w.localId]? = r.handles[w.localId]? ∨
      r'.handles[w.localId]? = r.handles[w.localId]?.map Handle.shut) : r'.Admits w := by
  intro current hcurrent
  rcases hhandle with hsame | hshut
  · exact h current (hsame ▸ hcurrent)
  · rw [hshut] at hcurrent
    obtain ⟨before, hbefore, rfl⟩ := Option.map_eq_some_iff.mp hcurrent
    exact h before hbefore

namespace Supervisor

variable {σ : Type} {setup : Setup σ} {s t u : Supervisor σ} {w : Workspace} {v : Verdict}
  {l k : LocalId} {row : TunnelStatus}

/-- The states that a run can reach that nobody interferes with. -/
inductive Unattended (setup : Setup σ) : Supervisor σ → Prop
  | fresh {s : Supervisor σ} (h : s.IsFresh) : Unattended setup s
  | step {s t : Supervisor σ} (e : Event σ) (hs : Unattended setup s) (he : e.unattended = true)
      (ht : e.apply setup s = some t) : Unattended setup t

namespace Unattended

theorem reachable (hs : Unattended setup s) : Reachable setup s := by
  induction hs with
  | fresh h => exact .fresh h
  | step e _ _ ht ih => exact .step e ih ht

/-- Such events one after the other are such a run. -/
theorem of_applyAll (hs : Unattended setup s) {events : List (Event σ)}
    (hevents : ∀ e ∈ events, e.unattended = true)
    (h : Event.applyAll setup events s = some t) : Unattended setup t := by
  induction events generalizing s with
  | nil =>
    obtain rfl := Option.some.inj h
    exact hs
  | cons e events ih =>
    obtain ⟨m, hm, hrest⟩ := applyAll_cons.mp h
    exact ih (hs.step e (hevents e List.mem_cons_self) hm)
      (fun x hx => hevents x (List.mem_cons_of_mem _ hx)) hrest

/-- Nobody shuts the supervisor down. -/
theorem not_isStopping (hs : Unattended setup s) : s.isStopping = false := by
  induction hs with
  | fresh h =>
    obtain ⟨store, assigner, rfl⟩ := h
    rfl
  | @step s t e hs he ht ih =>
    rw [← ih]
    cases e with
    | start ws => obtain rfl := Option.some.inj ht; exact (start_deeds setup ws s).isStopping_eq
    | report signal => obtain rfl := Option.some.inj ht; rfl
    | sessionEnded x ending =>
      obtain ⟨-, ht⟩ := Option.ite_none_right_eq_some.mp ht
      obtain rfl := Option.some.inj ht
      rcases s.registry_sessionEnded x ending with hsame | hclosed
      · rw [isStopping, hsame, isStopping]
      · rw [isStopping, hclosed, Registry.rootCancelled_closeHandle, isStopping]
    | beginLoop =>
      obtain rfl := Option.some.inj ht
      unfold beginLoop
      split <;> rfl
    | receiveSignal => obtain ⟨signal, -, -, rfl⟩ := of_receiveSignal ht; rfl
    | takeSnapshot => obtain ⟨-, rfl⟩ := of_takeSnapshot ht; rfl
    | collectVerdicts probe => obtain ⟨ws, -, rfl⟩ := of_collectVerdicts ht; rfl
    | treatNext =>
      obtain ⟨-, rfl⟩ | ⟨w, v, rest, -, rfl⟩ := hs.reachable.sound.treatNext_cases ht
      · rfl
      · exact (treat_deeds setup w v s).isStopping_eq
    | storeChanged store => obtain rfl := Option.some.inj ht; rfl
    | _ => cases he

/-- So the mailbox is not abandoned. -/
theorem not_abandoned (hs : Unattended setup s) : s.mailbox.abandoned = false := by
  have hrunning := hs.not_isStopping
  have hattentive := hs.reachable.attentive
  by_contra habandoned
  have hended := hattentive.abandoned.mp (by simpa using habandoned)
  rw [hattentive.stopped hended] at hrunning
  cases hrunning

end Unattended

/-! ## Passes do not mix up workspaces -/

private theorem admits_of_deed (hmem : w.localId ∈ s.registry.handles)
    (hw : s.registry.Admits w) (h : Deed s t) : t.registry.Admits w := by
  have hreset : ∀ k, (s.registry.reset k).2.Admits w := fun k =>
    hw.of_shut (s.registry.kept_or_shut_reset k w.localId)
  -- Whoever may take the local id of a registered workspace has the same workspace id.
  have hinstall : ∀ (r : Registry) (w' : Workspace) (p : UInt16) (n : Nat), r.Admits w →
      r.Admits w' → w.localId ∈ r.handles →
        (r.install { workspace := w', port := p, token := n }).2.Admits w := by
    intro r w' p n hr hr' hmem h hl
    rw [Registry.handles_install] at hl
    split at hl
    · next hkey =>
      obtain rfl := Option.some.inj hl
      have hsame : w.localId = w'.localId := hkey
      obtain ⟨before, hbefore⟩ := Registry.mem_handles_iff.mp hmem
      have hid := hr before hbefore
      rw [hsame] at hbefore
      exact (hr' before hbefore).symm.trans hid
    · exact hr h hl
  cases h with
  | assign assigner store lines => exact hw
  | note lines => exact hw
  | probe ws => exact hw
  | budget l n =>
    have hsame := congrArg (fun m => m[w.localId]?) (s.registry.handles_ensureBudget l n)
    exact hw.of_shut (.inl hsame)
  | reset l => exact hreset l
  | start w' p hstop hadmits => exact hinstall _ w' p _ hw hadmits hmem
  | restart w' p n assigner store lines hstop hretry hadmits =>
    exact hinstall _ w' p _ (hreset w'.localId) hadmits (Registry.mem_handles_reset.mpr hmem)

/-- The workspaces that a pass is about still hold their local ids. -/
theorem Reachable.admits_targets (hs : Reachable setup s) :
    ∀ w ∈ s.healthLoop.targets, s.registry.Admits w := by
  suffices hboth : s.Sound ∧ ∀ w ∈ s.healthLoop.targets, s.registry.Admits w from hboth.2
  refine hs.of_moves
    (P := fun s => s.Sound ∧ ∀ w ∈ s.healthLoop.targets, s.registry.Admits w) ?_ ?_
  · rintro s ⟨store, assigner, rfl⟩
    exact ⟨.of_fresh ⟨store, assigner, rfl⟩, nofun⟩
  · rintro s t hmove ⟨hsound, hs⟩
    refine ⟨hsound.of_move hmove, ?_⟩
    cases hmove with
    | deed h =>
      intro w hw
      rw [h.frame.2.1] at hw
      exact admits_of_deed (hsound.targets w hw) (hs w hw) h
    | loop mailbox healthLoop entries lines hentries htargets =>
      intro w hw
      rcases htargets w hw with hold | hregistered
      · exact hs w hold
      · obtain ⟨h, hl, rfl⟩ := hsound.handle_of_mem_workspaces hregistered
        intro current hcurrent
        obtain rfl : h = current := Option.some.inj (hl.symm.trans hcurrent)
        rfl
    | leave session => exact hs
    | close l =>
      exact fun w hw => (hs w hw).of_shut (s.registry.kept_or_shut_closeHandle l w.localId)
    | closeAll => exact fun w hw => (hs w hw).of_shut (.inr (Registry.handles_closeAll _ _))
    | cancelRoot => exact hs
    | store store => exact hs

/-! ## What treating a workspace does to the rows -/

/-- A reset spares the tunnels of other local ids. -/
theorem Sound.spares_resetRegistered (hs : s.Sound) (hne : l ≠ k) :
    Spares l s (s.resetRegistered k).2 where
  handle := (s.registry.handles_reset k l).trans (if_neg hne)
  remaining _ := (s.registry.remaining?_reset k l).trans (if_neg hne)
  token h hl := by
    refine (s.registry.isCancelled_reset k h.session).trans ?_
    rw [hs.not_released hl hne, Bool.or_false]

/-- Acting on a verdict spares the tunnels of other local ids, and that of a healthy
workspace. -/
theorem Sound.spares_treat (setup : Setup σ) (hs : s.Sound)
    (hspared : v = .healthy ∨ l ≠ w.localId) : Spares l s (s.treat setup w v).2 := by
  cases v with
  | healthy => exact .refl l s
  | unhealthy reason =>
    have hne : l ≠ w.localId := hspared.resolve_left nofun
    obtain ⟨lines, htreat⟩ := treat_unhealthy setup w reason s
    have hnote : (s.note lines).Sound := hs.note lines
    have hlogged : Spares l s (s.note lines) := .of_registry l rfl
    have hreset := hlogged.trans (hnote.spares_resetRegistered hne)
    rw [htreat]
    obtain ⟨assigner, store, lines', hissued, ⟨o, -, h⟩ | ⟨r, p, -, -, -, -, h⟩⟩ :=
      reset_outcomes setup w (s.note lines)
    · rw [h]
      exact hreset.trans (.of_registry l rfl)
    · rw [h]
      let m := ((s.note lines).resetRegistered w.localId).2.assign assigner store lines'
      have hm : m.Sound := (hnote.resetRegistered w.localId).assign hissued
      have hassigned : Spares l s m := hreset.trans (.of_registry l rfl)
      exact hassigned.trans (hm.spares_enroll hne p)

/-- Nothing but the store can keep a running supervisor from starting a registered workspace
again. -/
theorem Sound.lookup_of_restartPort?_eq_none (hs : s.Sound) (hstop : s.isStopping = false)
    (hmem : l ∈ s.registry.handles) (hport : s.restartPort? setup l = none) :
    ∃ e, setup.ports.lookup s.store l = .error e := by
  have hissued := Std.ExtTreeMap.mem_iff_isSome_getElem?.mp (hs.issued l hmem)
  rw [restartPort?, hstop, if_neg Bool.false_ne_true] at hport
  cases hlookup : setup.ports.lookup s.store l with
  | error e => exact ⟨e, rfl⟩
  | ok pin =>
    cases pin with
    | some p => simp [hlookup] at hport
    | none =>
      simp only [hlookup] at hport
      rw [hport] at hissued
      cases hissued

/-- An unhealthy workspace whose tunnel is down after the reset, although a retry is left, was
refused for the sake of the store. -/
theorem Sound.lookup_of_down (hs : s.Sound) (hstop : s.isStopping = false)
    (hmem : w.localId ∈ s.registry.handles) (hadmits : s.registry.Admits w)
    {reason : Option String}
    (hrow : row ∈ (s.treat setup w (.unhealthy reason)).2.registry.status)
    (hl : row.localId = w.localId) (hdown : row.isOpen = false) (hleft : 0 < row.remaining) :
    ∃ e, setup.ports.lookup s.store w.localId = .error e := by
  obtain ⟨h, hh⟩ := Registry.mem_handles_iff.mp hmem
  obtain ⟨lines, htreat⟩ := treat_unhealthy setup w reason s
  have hsound := hs.of_deeds (treat_deeds setup w (.unhealthy reason) s)
  obtain ⟨o, t, hreset, -, -, hcases⟩ := reset_of_registered setup (s := s.note lines)
    (hs.note lines) hh (hadmits h hh)
  rw [htreat] at hrow hsound
  rw [hreset] at hrow hsound
  obtain ⟨hzero | hport, hregistry, -⟩ | ⟨p, r, -, -, hregistry, -⟩ := hcases
  · -- Without a retry the row would have none left.
    obtain ⟨k, h', hk, rfl⟩ := Registry.mem_status.mp hrow
    obtain rfl : k = w.localId := hl
    have hnone : t.registry.remaining? w.localId = some 0 := by
      rw [hregistry, Registry.remaining?_reset, if_pos rfl, hzero]
      rfl
    simp [Registry.statusOf, hnone] at hleft
  · exact hs.lookup_of_restartPort?_eq_none hstop hmem hport
  · -- A new session would be live.
    let m := ((s.note lines).resetRegistered w.localId).2
    have hm : m.Sound := (hs.note lines).resetRegistered w.localId
    have hstopm : m.isStopping = false :=
      (s.registry.rootCancelled_reset w.localId).trans hstop
    have hadmitsm : m.registry.Admits w :=
      hadmits.of_shut (s.registry.kept_or_shut_reset w.localId w.localId)
    have hsame : (m.enroll w p).registry = t.registry := by
      have hlast : m.registry.lastSession = s.registry.lastSession :=
        s.registry.lastSession_reset w.localId
      rw [hregistry, Supervisor.enroll, hlast]
      rfl
    have hopens : Opens row.localId [w] m t := by
      have hopened := hm.opens_enroll hstopm hadmitsm p
      unfold Opens at hopened ⊢
      rw [hl, ← hsame]
      exact hopened
    rw [hopens.isOpen hsound hrow] at hdown
    cases hdown

/-! ## What becomes of a tunnel that is down -/

/-- The tunnel was down, as the row says, when a pass looked at the registry, and this pass or
a later one found its workspace healthy. -/
def FoundWell (setup : Setup σ) (row : TunnelStatus) (s : Supervisor σ) : Prop :=
  ∃ (u u' v v' : Supervisor σ) (probe : Workspace → Verdict) (w : Workspace),
    Reachable setup u ∧ row ∈ u.registry.status ∧ u.takeSnapshot = some u' ∧
    Leads setup u' v ∧ v.collectVerdicts probe = some v' ∧ w ∈ v.healthLoop.targets ∧
    w.localId = row.localId ∧ probe w = .healthy ∧ Leads setup v' s

/-- The workspace was found unhealthy and was to be started again, but the store did not answer,
and the row is what was left. -/
def RestartRefused (setup : Setup σ) (row : TunnelStatus) (s : Supervisor σ) : Prop :=
  ∃ (u u' : Supervisor σ) (w : Workspace) (reason : Option String)
    (rest : List (Workspace × Verdict)) (e : StoreUnavailable),
    Reachable setup u ∧ u.healthLoop = .treating ((w, .unhealthy reason) :: rest) ∧
    w.localId = row.localId ∧ setup.ports.lookup u.store w.localId = .error e ∧
    u.treatNext setup = some u' ∧ row ∈ u'.registry.status ∧ Leads setup u' s

/-- A tunnel that is down is not forgotten: a signal is pending, or a pass is on its way to its
workspace, or a pass has settled the matter. -/
inductive Noticed (setup : Setup σ) (row : TunnelStatus) (s : Supervisor σ) : Prop
  | pending (hpending : s.mailbox.pending.isSome = true)
  | alerted (hloop : s.healthLoop = .alerted)
  | probing (u u' : Supervisor σ) (ws : List Workspace) (w : Workspace) (hu : Reachable setup u)
      (hrow : row ∈ u.registry.status) (htaken : u.takeSnapshot = some u')
      (hlead : Leads setup u' s) (hloop : s.healthLoop = .probing ws) (hw : w ∈ ws)
      (hl : w.localId = row.localId)
  | treating (verdicts : List (Workspace × Verdict)) (w : Workspace) (reason : Option String)
      (hloop : s.healthLoop = .treating verdicts) (hw : (w, .unhealthy reason) ∈ verdicts)
      (hl : w.localId = row.localId)
  | foundWell (h : FoundWell setup row s)
  | restartRefused (h : RestartRefused setup row s)

theorem FoundWell.later (h : FoundWell setup row s) (hlead : Leads setup s t) :
    FoundWell setup row t := by
  obtain ⟨u, u', v, v', probe, w, hu, hrow, htaken, hfirst, hcollected, hw, hl, hwell, hthen⟩ := h
  exact ⟨u, u', v, v', probe, w, hu, hrow, htaken, hfirst, hcollected, hw, hl, hwell,
    hthen.trans hlead⟩

theorem RestartRefused.later (h : RestartRefused setup row s) (hlead : Leads setup s t) :
    RestartRefused setup row t := by
  obtain ⟨u, u', w, reason, rest, e, hu, hloop, hl, hlookup, htreated, hrow, hthen⟩ := h
  exact ⟨u, u', w, reason, rest, e, hu, hloop, hl, hlookup, htreated, hrow, hthen.trans hlead⟩

namespace Noticed

/-- An event outside the health loop makes nobody forget the tunnel. -/
theorem of_quiet (h : Noticed setup row s) (hlead : Leads setup s t)
    (hpending : s.mailbox.pending.isSome = true → t.mailbox.pending.isSome = true)
    (hloop : t.healthLoop = s.healthLoop) : Noticed setup row t := by
  cases h with
  | pending hsome => exact .pending (hpending hsome)
  | alerted hwas => exact .alerted (hloop.trans hwas)
  | probing u u' ws w hu hrow htaken hfirst hwas hw hl =>
    exact .probing u u' ws w hu hrow htaken (hfirst.trans hlead) (hloop.trans hwas) hw hl
  | treating verdicts w reason hwas hw hl =>
    exact .treating verdicts w reason (hloop.trans hwas) hw hl
  | foundWell h => exact .foundWell (h.later hlead)
  | restartRefused h => exact .restartRefused (h.later hlead)

/-- A step of the health loop that is not about the pass that the tunnel waits for. -/
theorem of_elsewhere (h : Noticed setup row s) (hlead : Leads setup s t)
    (hmailbox : t.mailbox = s.mailbox) (halerted : s.healthLoop ≠ .alerted)
    (hprobing : ∀ ws, s.healthLoop ≠ .probing ws)
    (htreating : ∀ verdicts w reason, s.healthLoop = .treating verdicts →
      (w, .unhealthy reason) ∈ verdicts → w.localId = row.localId → Noticed setup row t) :
    Noticed setup row t := by
  cases h with
  | pending hsome => exact .pending (hmailbox ▸ hsome)
  | alerted hwas => exact absurd hwas halerted
  | probing u u' ws w hu hrow htaken hfirst hwas => exact absurd hwas (hprobing ws)
  | treating verdicts w reason hwas hw hl => exact htreating verdicts w reason hwas hw hl
  | foundWell h => exact .foundWell (h.later hlead)
  | restartRefused h => exact .restartRefused (h.later hlead)

/-- Once the probes have come back, the workspace was found healthy or is to be treated. -/
theorem of_collectVerdicts {probe : Workspace → Verdict} (h : Noticed setup row s)
    (ht : s.collectVerdicts probe = some t) : Noticed setup row t := by
  have hlead : Leads setup s t := .single ⟨.collectVerdicts probe, ht⟩
  obtain ⟨ws, hwas, hstate⟩ := Supervisor.of_collectVerdicts ht
  have hloop : t.healthLoop = .treating (ws.map fun w => (w, probe w)) := by rw [hstate]; rfl
  cases h with
  | pending hsome => exact .pending (by rw [hstate]; exact hsome)
  | alerted halerted => cases hwas.symm.trans halerted
  | treating verdicts w reason htreating => cases hwas.symm.trans htreating
  | foundWell h => exact .foundWell (h.later hlead)
  | restartRefused h => exact .restartRefused (h.later hlead)
  | probing u u' ws' w hu hrow htaken hfirst hprobing hw hl =>
    obtain rfl : ws = ws' := HealthLoop.probing.inj (hwas.symm.trans hprobing)
    cases hv : probe w with
    | healthy =>
      have htarget : w ∈ s.healthLoop.targets := by
        rw [hwas]
        exact hw
      exact .foundWell ⟨u, u', s, t, probe, w, hu, hrow, htaken, hfirst, ht, htarget, hl, hv, .refl⟩
    | unhealthy reason => exact .treating _ w reason hloop (hv ▸ List.mem_map_of_mem hw) hl

end Noticed

/-! ## What each event does about it -/

/-- A start opens the tunnels that it changes. -/
private theorem noticed_of_start (hs : Reachable setup s) (ws : List Workspace)
    (hrow : row ∈ (s.start setup ws).2.registry.status) (hdown : row.isOpen = false)
    (hbefore : row ∈ s.registry.status → Noticed setup row s) :
    Noticed setup row (s.start setup ws).2 := by
  have hlead : Leads setup s (s.start setup ws).2 := .single ⟨.start ws, rfl⟩
  have ht := (hs.leads hlead).sound
  obtain ⟨hmailbox, hloop, -⟩ := (start_deeds setup ws s).frame
  rcases hs.sound.start_cases setup ws row.localId with hspares | hopens
  · exact (hbefore (hspares.mem_status hs.sound ht hrow)).of_quiet hlead (fun h => hmailbox ▸ h)
      hloop
  · rw [hopens.isOpen ht hrow] at hdown
    cases hdown

/-- A signal is pending after it was reported, or was before. -/
private theorem isSome_pending_report (hs : Unattended setup s) (signal : Signal) :
    (s.report signal).2.mailbox.pending.isSome = true := by
  change (s.mailbox.report signal).2.pending.isSome = true
  obtain ⟨hfull, hreport⟩ | ⟨-, -, hreport⟩ := s.mailbox.report_cases signal
  · rw [hreport]
    exact hfull.resolve_left (by rw [hs.not_abandoned]; exact Bool.false_ne_true)
  · rw [hreport]
    rfl

/-- The end of a session that nobody cancelled is reported, and any other end changes no
tunnel. -/
private theorem noticed_of_sessionEnded (hs : Unattended setup s) {x : Session} {ending : Ending}
    (hlead : Leads setup s (s.sessionEnded x ending))
    (hrow : row ∈ (s.sessionEnded x ending).registry.status)
    (hbefore : row ∈ s.registry.status → Noticed setup row s) :
    Noticed setup row (s.sessionEnded x ending) := by
  unfold sessionEnded at hrow hlead ⊢
  dsimp only at hrow hlead ⊢
  split at hrow
  · next hcancelled =>
    rw [if_pos hcancelled] at hlead ⊢
    exact (hbefore hrow).of_quiet hlead (fun h => h) rfl
  · next hlive =>
    rw [if_neg hlive]
    exact .pending (isSome_pending_report hs ⟨some x.localId, ending.reason⟩)

private theorem noticed_of_beginLoop
    (hrow : row ∈ s.beginLoop.2.registry.status)
    (hbefore : row ∈ s.registry.status → Noticed setup row s) :
    Noticed setup row s.beginLoop.2 := by
  have hlead : Leads setup s s.beginLoop.2 := .single ⟨.beginLoop, rfl⟩
  unfold beginLoop at hrow hlead ⊢
  cases hloop : s.healthLoop with
  | idle =>
    simp only [hloop] at hrow hlead ⊢
    exact (hbefore hrow).of_elsewhere hlead rfl (by simp [hloop]) (by simp [hloop])
      (by simp [hloop])
  | _ =>
    simp only [hloop] at hrow hlead ⊢
    exact (hbefore hrow).of_quiet hlead (fun h => h) rfl

/-- A pass that begins looks at every row. -/
private theorem noticed_of_takeSnapshot (hs : Reachable setup s) (ht : s.takeSnapshot = some t)
    (hrow : row ∈ t.registry.status) : Noticed setup row t := by
  obtain ⟨-, hstate⟩ := of_takeSnapshot ht
  have hrow : row ∈ s.registry.status := by
    rw [hstate] at hrow
    exact hrow
  have hregistered : row.localId ∈ s.registry.workspaces.map (·.localId) := by
    rw [hs.sound.map_localId_workspaces]
    exact List.mem_map_of_mem hrow
  obtain ⟨w, hw, hl⟩ := List.mem_map.mp hregistered
  exact .probing s t s.registry.workspaces w hs hrow ht .refl (by rw [hstate]; rfl) hw hl

/-- Who is treated comes up again or is refused, and the others keep their places in the pass. -/
private theorem noticed_of_treatNext (hs : Unattended setup s) (ht : s.treatNext setup = some t)
    (hrow : row ∈ t.registry.status) (hdown : row.isOpen = false) (hleft : 0 < row.remaining)
    (hbefore : row ∈ s.registry.status → Noticed setup row s) : Noticed setup row t := by
  have hlead : Leads setup s t := .single ⟨.treatNext, ht⟩
  have hsound := hs.reachable.sound
  obtain ⟨hwas, rfl⟩ | ⟨w, v, rest, hwas, rfl⟩ := hsound.treatNext_cases ht
  · refine (hbefore hrow).of_elsewhere hlead rfl (by simp [hwas]) (by simp [hwas]) ?_
    intro verdicts w reason hloop hw
    obtain rfl : [] = verdicts := HealthLoop.treating.inj (hwas.symm.trans hloop)
    cases hw
  · have htarget : w ∈ s.healthLoop.targets := HealthLoop.mem_targets hwas
    by_cases hspared : v = .healthy ∨ row.localId ≠ w.localId
    · obtain ⟨hmailbox, -, -⟩ := (treat_deeds setup w v s).frame
      have hspares := hsound.spares_treat setup hspared
      have hold := hspares.mem_status hsound (hsound.of_deeds (treat_deeds setup w v s)) hrow
      refine (hbefore hold).of_elsewhere hlead hmailbox (by simp [hwas]) (by simp [hwas]) ?_
      intro verdicts w' reason hloop hw hl
      obtain rfl : (w, v) :: rest = verdicts := HealthLoop.treating.inj (hwas.symm.trans hloop)
      rcases List.mem_cons.mp hw with hhead | hrest
      · -- The verdict that is acted on is not the one on this workspace.
        obtain ⟨rfl, rfl⟩ := Prod.mk.inj hhead
        rcases hspared with hhealthy | hne
        · cases hhealthy
        · exact absurd hl.symm hne
      · exact .treating rest w' reason rfl hrest hl
    · obtain ⟨hunhealthy, hsame⟩ := not_or.mp hspared
      have hl : row.localId = w.localId := not_not.mp hsame
      cases v with
      | healthy => exact absurd rfl hunhealthy
      | unhealthy reason =>
        obtain ⟨e, hlookup⟩ := hsound.lookup_of_down hs.not_isStopping
          (hsound.targets w htarget) (hs.reachable.admits_targets w htarget) hrow hl hdown hleft
        exact .restartRefused
          ⟨s, _, w, reason, rest, e, hs.reachable, hwas, hl.symm, hlookup, ht, hrow, .refl⟩

/-- Who was down before an event and was noticed then is noticed after it, and who is down for
the first time is noticed at once. -/
private theorem noticed_of_event (hs : Unattended setup s) {e : Event σ}
    (he : e.unattended = true) (ht : e.apply setup s = some t)
    (hrow : row ∈ t.registry.status) (hdown : row.isOpen = false) (hleft : 0 < row.remaining)
    (hbefore : row ∈ s.registry.status → Noticed setup row s) : Noticed setup row t := by
  have hlead : Leads setup s t := .single ⟨e, ht⟩
  cases e with
  | start ws =>
    obtain rfl := Option.some.inj ht
    exact noticed_of_start hs.reachable ws hrow hdown hbefore
  | report signal =>
    obtain rfl := Option.some.inj ht
    exact .pending (isSome_pending_report hs signal)
  | sessionEnded x ending =>
    obtain ⟨-, ht⟩ := Option.ite_none_right_eq_some.mp ht
    obtain rfl := Option.some.inj ht
    exact noticed_of_sessionEnded hs hlead hrow hbefore
  | beginLoop =>
    obtain rfl := Option.some.inj ht
    exact noticed_of_beginLoop hrow hbefore
  | receiveSignal =>
    obtain ⟨signal, -, -, rfl⟩ := of_receiveSignal ht
    exact .alerted rfl
  | takeSnapshot => exact noticed_of_takeSnapshot hs.reachable ht hrow
  | collectVerdicts probe =>
    have hold : row ∈ s.registry.status := by
      obtain ⟨ws, -, rfl⟩ := of_collectVerdicts ht
      exact hrow
    exact (hbefore hold).of_collectVerdicts ht
  | treatNext => exact noticed_of_treatNext hs ht hrow hdown hleft hbefore
  | storeChanged store =>
    obtain rfl := Option.some.inj ht
    exact (hbefore hrow).of_quiet hlead (fun h => h) rfl
  | _ => cases he

/-- In a run that nobody interferes with, no tunnel that is down with retries left is
forgotten. -/
theorem Unattended.noticed (hs : Unattended setup s) :
    ∀ row ∈ s.registry.status, row.isOpen = false → 0 < row.remaining → Noticed setup row s := by
  induction hs with
  | fresh h =>
    obtain ⟨store, assigner, rfl⟩ := h
    intro row hrow
    obtain ⟨l, h, hl, -⟩ := Registry.mem_status.mp hrow
    simp at hl
  | @step s t e hs he ht ih =>
    intro row hrow hdown hleft
    exact noticed_of_event hs he ht hrow hdown hleft fun hold => ih row hold hdown hleft

/-- Why a tunnel is down when a run that nobody interferes with has come to rest. It has no
retries left; or a pass that looked at the registry after it went down, or a later one, found
its workspace healthy; or it was to be started again, and the port store did not answer. -/
theorem Unattended.down_tunnels_accounted (hs : Unattended setup s) (hidle : s.IsIdle) :
    ∀ row ∈ s.registry.status, row.isOpen = false →
      row.remaining = 0 ∨ FoundWell setup row s ∨ RestartRefused setup row s := by
  intro row hrow hdown
  obtain ⟨hnone, hloop⟩ := hidle
  rcases Nat.eq_zero_or_pos row.remaining with hzero | hleft
  · exact .inl hzero
  · have hresting : ∀ loop, s.healthLoop = loop → loop = .listening ∨ loop = .ended :=
      fun loop h => h ▸ hloop
    cases hs.noticed row hrow hdown hleft with
    | pending hsome =>
      rw [hnone] at hsome
      cases hsome
    | alerted hwas => rcases hresting _ hwas with h | h <;> cases h
    | probing u u' ws w hu hrow htaken hfirst hwas =>
      rcases hresting _ hwas with h | h <;> cases h
    | treating verdicts w reason hwas => rcases hresting _ hwas with h | h <;> cases h
    | foundWell h => exact .inr (.inl h)
    | restartRefused h => exact .inr (.inr h)

end Supervisor

namespace SmallFleet

/-- A run in which the session of `web` ends and the pass that follows finds these verdicts. -/
def dropEvents (probe : Workspace → Verdict) : List (Event PinTable) :=
  [.start [web, db], .beginLoop, .sessionEnded ⟨1, web, 1024⟩ (.ok ()), .receiveSignal,
    .takeSnapshot, .collectVerdicts probe, .treatNext, .treatNext, .treatNext]

/-- A store that cannot be read any more once a port was saved for a workspace. -/
def faltering : PortStore PinTable where
  lookup := PinTable.lookup
  save t l _ := (.ok (), t.setLookupFault l (some "index lost"))

/-- Whether the run ends in an idle state with a row that is down and has so many retries. -/
def dropsWith (ports : PortStore PinTable) (probe : Workspace → Verdict) (left : Nat) : Bool :=
  (Event.applyAll { setup with ports } (dropEvents probe) fresh).any fun s =>
    s.IsIdle ∧ ∃ row ∈ s.registry.status, row.isOpen = false ∧ row.remaining = left

theorem unattended_of_dropsWith {ports : PortStore PinTable} {probe : Workspace → Verdict}
    {left : Nat} (h : dropsWith ports probe left = true) :
    ∃ (s : Supervisor PinTable) (row : TunnelStatus),
      Supervisor.Unattended { setup with ports } s ∧ s.IsIdle ∧ row ∈ s.registry.status ∧
        row.isOpen = false ∧ row.remaining = left := by
  obtain ⟨s, hs, hstate⟩ := (Option.any_eq_true _ _).mp h
  obtain ⟨hidle, row, hrow, hdown, hleft⟩ := of_decide_eq_true hstate
  have hevents : ∀ e ∈ dropEvents probe, e.unattended = true := by
    simp [dropEvents, Event.unattended]
  exact ⟨s, row, (Supervisor.Unattended.fresh ⟨_, _, rfl⟩).of_applyAll hevents hs, hidle, hrow,
    hdown, hleft⟩

end SmallFleet

namespace Supervisor

/-- A session ends, the pass that follows finds its workspace healthy, and the tunnel stays
down. -/
theorem down_tunnels_accounted_healthy :
    ∃ (s : Supervisor PinTable) (row : TunnelStatus), Unattended SmallFleet.setup s ∧ s.IsIdle ∧
      row ∈ s.registry.status ∧ row.isOpen = false ∧ row.remaining = 3 ∧
      (FoundWell SmallFleet.setup row s ∨ RestartRefused SmallFleet.setup row s) := by
  have hdrops : SmallFleet.dropsWith SmallFleet.setup.ports (fun _ => .healthy) 3 = true := by
    decide +kernel
  obtain ⟨s, row, hs, hidle, hrow, hdown, hleft⟩ := SmallFleet.unattended_of_dropsWith hdrops
  refine ⟨s, row, hs, hidle, hrow, hdown, hleft, ?_⟩
  obtain hzero | haccounted := Unattended.down_tunnels_accounted hs hidle row hrow hdown
  · omega
  · exact haccounted

/-- It is not true that only tunnels without retries are down when a run that nobody interferes
with has come to rest: the pass may have found the workspace healthy, or it may have spent a
retry on a restart for which the store had no answer. -/
theorem dropped_tunnels_abandoned :
    (¬ ∀ s : Supervisor PinTable, Unattended SmallFleet.setup s → s.IsIdle →
      ∀ row ∈ s.registry.status, row.isOpen = false → row.remaining = 0) ∧
    ∃ (s : Supervisor PinTable) (row : TunnelStatus),
      Unattended { SmallFleet.setup with ports := SmallFleet.faltering } s ∧ s.IsIdle ∧
        row ∈ s.registry.status ∧ row.isOpen = false ∧ row.remaining = 2 := by
  constructor
  · intro hnone
    have hdrops : SmallFleet.dropsWith SmallFleet.setup.ports (fun _ => .healthy) 3 = true := by
      decide +kernel
    obtain ⟨s, row, hs, hidle, hrow, hdown, hleft⟩ := SmallFleet.unattended_of_dropsWith hdrops
    have hzero := hnone s hs hidle row hrow hdown
    omega
  · have hdrops :
        SmallFleet.dropsWith SmallFleet.faltering (fun _ => .unhealthy none) 2 = true := by
      decide +kernel
    exact SmallFleet.unattended_of_dropsWith hdrops

end Supervisor

end TunnelFleet
