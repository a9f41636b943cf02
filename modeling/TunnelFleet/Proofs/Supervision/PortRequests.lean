import TunnelFleet.Proofs.Ports.Grants
import TunnelFleet.Proofs.Supervision.StartCourse

/-!
# The requests for ports in a run

Whatever a supervisor does to its assigner and its store, it does by asking for ports. This
file lists the requests of each event, and so of each run. The assigner and the store of a
supervisor are those that the requests lead to (`Asks`), so what is known about runs of an
assigner holds in runs of a supervisor: each local id is issued the port that was claimed for
it or given to it last. And no tunnel is started without a request, so what a tunnel runs on
was granted in the run, whatever the assigner had issued before.
-/

namespace TunnelFleet

variable {σ : Type}

/-- Events of one list come before those of another one. -/
theorem PortRun.after_append (ports : PortStore σ) (r : PortRun σ) (xs ys : List (PortEvent σ)) :
    r.after ports (xs ++ ys) = (r.after ports xs).after ports ys :=
  List.foldl_append

/-- What was granted once is never forgotten. -/
theorem PortRun.granted_subset_after (ports : PortStore σ) (r : PortRun σ)
    (events : List (PortEvent σ)) : r.granted ⊆ (r.after ports events).granted := by
  induction events generalizing r with
  | nil => exact List.Subset.refl _
  | cons e events ih =>
    refine List.Subset.trans ?_ (ih (e.apply ports r))
    cases e with
    | reserve ws => exact List.subset_append_left _ _
    | resolve sampler l => exact List.subset_append_left _ _
    | storeChanged store => exact List.Subset.refl _

namespace Supervisor

/-! ## Requests -/

/-- The start of a tunnel asks for one port, unless the supervisor is stopping. -/
def tunnelRequests (setup : Setup σ) (w : Workspace) (s : Supervisor σ) : List (PortEvent σ) :=
  if s.isStopping then [] else [.resolve setup.sampler w.localId]

/-- The requests of starts one by one. Nobody asks after a request without an answer. -/
def startRequests (setup : Setup σ) : List Workspace → Supervisor σ → List (PortEvent σ)
  | [], _ => []
  | w :: ws, s =>
    s.tunnelRequests setup w ++
      match s.startOne setup w with
      | (.aborted, _) => []
      | (_, t) => startRequests setup ws t

/-- A reset asks for a port if it is granted a retry. -/
def resetRequests (setup : Setup σ) (w : Workspace) (s : Supervisor σ) : List (PortEvent σ) :=
  match s.registry.remaining? w.localId with
  | some (_ + 1) => s.tunnelRequests setup w
  | _ => []

/-- Only an unhealthy workspace is reset. -/
def treatRequests (setup : Setup σ) (w : Workspace) (v : Verdict) (s : Supervisor σ) :
    List (PortEvent σ) :=
  if v.isHealthy then [] else s.resetRequests setup w

/-- The requests of a pass over verdicts. -/
def passRequests (setup : Setup σ) :
    List (Workspace × Verdict) → Supervisor σ → List (PortEvent σ)
  | [], _ => []
  | (w, v) :: rest, s =>
    s.treatRequests setup w v ++
      match s.treat setup w v with
      | (true, t) => passRequests setup rest t
      | (false, _) => []

/-- The requests of a pass that somebody outside asks for. -/
def recheckRequests (setup : Setup σ) (probe : Workspace → Verdict) (s : Supervisor σ) :
    List (PortEvent σ) :=
  let (verdicts, s) := s.probeEach .caller probe s.registry.workspaces
  s.passRequests setup verdicts

/-- The requests of the next step of a pass of the health loop. -/
def nextRequests (setup : Setup σ) (s : Supervisor σ) : List (PortEvent σ) :=
  match s.healthLoop with
  | .treating ((w, v) :: _) => s.treatRequests setup w v
  | _ => []

end Supervisor

namespace Event

/-- What an event comes to for the assigner and the store. -/
def requests (setup : Setup σ) : Event σ → Supervisor σ → List (PortEvent σ)
  | .start ws, s => .reserve ws :: (s.setAside setup ws).startRequests setup ws
  | .reset w, s => s.resetRequests setup w
  | .recheck probe, s => s.recheckRequests setup probe
  | .treatNext, s => s.nextRequests setup
  | .storeChanged store, _ => [.storeChanged store]
  | _, _ => []

/-- What events one after the other come to for the assigner and the store. -/
def requestsAll (setup : Setup σ) : List (Event σ) → Supervisor σ → List (PortEvent σ)
  | [], _ => []
  | e :: events, s =>
    e.requests setup s ++
      match e.apply setup s with
      | some t => requestsAll setup events t
      | none => []

end Event

namespace Supervisor

variable {setup : Setup σ} {s t u : Supervisor σ} {w : Workspace} {n : Nat}
  {requests : List (PortEvent σ)}

/-! ## Resets by their retries -/

/-- A reset of a local id with retries starts its tunnel again after one of them is spent. -/
theorem reset_eq_of_retry (setup : Setup σ)
    (hr : s.registry.remaining? w.localId = some (n + 1)) :
    s.reset setup w =
      match (s.resetRegistered w.localId).2.startTunnel setup w with
      | (.started p, t) => (some (.restarted n p), t)
      | (.refused e, t) =>
        (some (.restartFailed n), t.say .error w.localId s!"Restart failed: {e.message}")
      | (.aborted, t) => (none, t) := by
  have hdecision : (s.resetRegistered w.localId).1 = .retry n :=
    Registry.reset_eq_retry_iff.mpr hr
  unfold reset
  generalize s.resetRegistered w.localId = r at hdecision ⊢
  obtain ⟨decision, t⟩ := r
  obtain rfl : decision = .retry n := hdecision
  rfl

/-- A reset with a retry leaves the assigner, the store and the sessions to the start of the
tunnel, and answers that the tunnel was started again only if it was. -/
theorem reset_of_retry (setup : Setup σ)
    (hr : s.registry.remaining? w.localId = some (n + 1)) :
    let start := (s.resetRegistered w.localId).2.startTunnel setup w
    (s.reset setup w).2.assigner = start.2.assigner ∧ (s.reset setup w).2.store = start.2.store ∧
      (s.reset setup w).2.sessions = start.2.sessions ∧
      ∀ r p, (s.reset setup w).1 = some (.restarted r p) → start.1 = .started p := by
  intro start
  rw [reset_eq_of_retry setup hr]
  cases hstart : (s.resetRegistered w.localId).2.startTunnel setup w with
  | mk o t =>
    rw [show start = (o, t) from hstart]
    cases o with
    | started p =>
      refine ⟨rfl, rfl, rfl, fun r p' h => ?_⟩
      cases h
      rfl
    | refused e => exact ⟨rfl, rfl, rfl, by simp⟩
    | aborted => exact ⟨rfl, rfl, rfl, by simp⟩

/-- A reset without a retry asks for no port and starts nothing. -/
theorem reset_of_no_retry (setup : Setup σ)
    (hr : ∀ n, s.registry.remaining? w.localId ≠ some (n + 1)) :
    (s.reset setup w).2.assigner = s.assigner ∧ (s.reset setup w).2.store = s.store ∧
      (s.reset setup w).2.sessions = s.sessions ∧
      ∀ r p, (s.reset setup w).1 ≠ some (.restarted r p) := by
  have hdecision : ∀ n, (s.resetRegistered w.localId).1 ≠ .retry n := fun n h =>
    hr n (Registry.reset_eq_retry_iff.mp h)
  have hassigner : (s.resetRegistered w.localId).2.assigner = s.assigner := rfl
  have hstore : (s.resetRegistered w.localId).2.store = s.store := rfl
  have hsessions : (s.resetRegistered w.localId).2.sessions = s.sessions := rfl
  unfold reset
  rw [← hassigner, ← hstore, ← hsessions]
  generalize s.resetRegistered w.localId = r at hdecision ⊢
  obtain ⟨decision, t⟩ := r
  cases decision with
  | retry n => exact absurd rfl (hdecision n)
  | exhausted first =>
    cases first with
    | true => exact ⟨rfl, rfl, rfl, by simp⟩
    | false => exact ⟨rfl, rfl, rfl, by simp⟩
  | unknown => exact ⟨rfl, rfl, rfl, by simp⟩

/-! ## What requests lead to -/

/-- These requests lead from the assigner and the store of one state to those of the other, and
a local id for which a session is started in between is granted a port by them. -/
def Asks (setup : Setup σ) (requests : List (PortEvent σ)) (s t : Supervisor σ) : Prop :=
  ∀ r : PortRun σ, r.assigner = s.assigner → r.store = s.store →
    (r.after setup.ports requests).assigner = t.assigner ∧
      (r.after setup.ports requests).store = t.store ∧
      ∀ x ∈ t.sessions, x ∈ s.sessions ∨
        ∃ p, (x.localId, p) ∈ (r.after setup.ports requests).granted

namespace Asks

/-- Nothing is asked, and no session is started. -/
theorem nil (hassigner : t.assigner = s.assigner) (hstore : t.store = s.store)
    (hsessions : t.sessions = s.sessions) : Asks setup [] s t :=
  fun _ hr hr' => ⟨hr.trans hassigner.symm, hr'.trans hstore.symm,
    fun _ hx => .inl (hsessions ▸ hx)⟩

theorem append {requests' : List (PortEvent σ)} (hst : Asks setup requests s t)
    (htu : Asks setup requests' t u) : Asks setup (requests ++ requests') s u := by
  intro r hassigner hstore
  obtain ⟨hassigner', hstore', hgranted⟩ := hst r hassigner hstore
  obtain ⟨hassigner'', hstore'', hgranted'⟩ := htu _ hassigner' hstore'
  rw [PortRun.after_append]
  refine ⟨hassigner'', hstore'', fun x hx => ?_⟩
  rcases hgranted' x hx with hx | hnew
  · refine (hgranted x hx).imp_right ?_
    rintro ⟨p, hp⟩
    exact ⟨p, PortRun.granted_subset_after _ _ _ hp⟩
  · exact .inr hnew

theorem startTunnel (setup : Setup σ) (w : Workspace) (s : Supervisor σ) :
    Asks setup (s.tunnelRequests setup w) s (s.startTunnel setup w).2 := by
  cases hstop : s.isStopping with
  | true =>
    rw [tunnelRequests, Supervisor.startTunnel, hstop]
    exact .nil rfl rfl rfl
  | false =>
    let r := s.assigner.resolve setup.ports setup.sampler w.localId s.store
    have hresolve : Asks setup (s.tunnelRequests setup w) s
        (s.assign r.assigner r.store r.logs) := by
      rw [tunnelRequests, hstop]
      rintro ⟨assigner, store, granted, logs⟩ rfl rfl
      exact ⟨rfl, rfl, fun x hx => .inl hx⟩
    obtain ⟨p, hport, hstart⟩ | ⟨e, -, hstart⟩ | ⟨-, hstart⟩ := startTunnel_of_running setup w hstop
    · rw [hstart]
      obtain ⟨current, -, -, hlaunch⟩ | ⟨-, hlaunch⟩ := launch_cases w p (s.assign _ _ _)
      · rw [hlaunch]
        exact hresolve
      · rw [hlaunch, tunnelRequests, hstop]
        rintro ⟨assigner, store, granted, logs⟩ rfl rfl
        refine ⟨rfl, rfl, fun x hx => (List.mem_append.mp hx).imp_right fun hx => ⟨p, ?_⟩⟩
        obtain rfl := List.mem_singleton.mp hx
        change _ ∈ granted ++ (Option.map _ (Resolution.port? _)).toList
        rw [hport]
        exact List.mem_append_right _ List.mem_cons_self
    · rw [hstart]
      exact hresolve
    · rw [hstart]
      exact hresolve

theorem startOne (setup : Setup σ) (w : Workspace) (s : Supervisor σ) :
    Asks setup (s.tunnelRequests setup w) s (s.startOne setup w).2 := by
  have hrunning : (s.ensureBudget w.localId setup.retryBudget).isStopping = s.isStopping :=
    congrArg Tokens.rootCancelled (s.registry.tokens_ensureBudget w.localId setup.retryBudget)
  have hstart := startTunnel setup w (s.ensureBudget w.localId setup.retryBudget)
  rw [tunnelRequests, hrunning] at hstart
  unfold Supervisor.startOne
  cases hresult : (s.ensureBudget w.localId setup.retryBudget).startTunnel setup w with
  | mk o t =>
    rw [hresult] at hstart
    cases o with
    | started p => exact hstart
    | refused e => exact hstart
    | aborted => exact hstart

theorem startEach (setup : Setup σ) (ws : List Workspace) (s : Supervisor σ) :
    Asks setup (s.startRequests setup ws) s (s.startEach setup ws).2 := by
  induction ws generalizing s with
  | nil => exact .nil rfl rfl rfl
  | cons w ws ih =>
    have hone := startOne setup w s
    unfold startRequests Supervisor.startEach
    cases hstart : s.startOne setup w with
    | mk o t =>
      rw [hstart] at hone
      cases o with
      | started p => exact hone.append (ih t)
      | refused e => exact hone.append (ih t)
      | aborted => exact hone.append (.nil rfl rfl rfl)

theorem start (setup : Setup σ) (ws : List Workspace) (s : Supervisor σ) :
    Asks setup (.reserve ws :: (s.setAside setup ws).startRequests setup ws) s
      (s.start setup ws).2 := by
  have hreserve : Asks setup [.reserve ws] s (s.setAside setup ws) := by
    rintro ⟨assigner, store, granted, logs⟩ rfl rfl
    exact ⟨rfl, rfl, fun x hx => .inl hx⟩
  rw [start_eq_startEach]
  exact hreserve.append (startEach setup ws _)

theorem reset (setup : Setup σ) (w : Workspace) (s : Supervisor σ) :
    Asks setup (s.resetRequests setup w) s (s.reset setup w).2 := by
  unfold resetRequests
  split
  · next n hr =>
    obtain ⟨hassigner, hstore, hsessions, -⟩ := reset_of_retry setup hr
    have hrequests : (s.resetRegistered w.localId).2.tunnelRequests setup w =
        s.tunnelRequests setup w := by
      have hrunning : (s.resetRegistered w.localId).2.isStopping = s.isStopping :=
        s.registry.rootCancelled_reset w.localId
      rw [tunnelRequests, hrunning, tunnelRequests]
    have hstart := startTunnel setup w (s.resetRegistered w.localId).2
    rw [hrequests] at hstart
    intro r hr hr'
    rw [hassigner, hstore, hsessions]
    exact hstart r hr hr'
  · next hr =>
    obtain ⟨hassigner, hstore, hsessions, -⟩ := reset_of_no_retry setup hr
    exact .nil hassigner hstore hsessions

theorem treat (setup : Setup σ) (w : Workspace) (v : Verdict) (s : Supervisor σ) :
    Asks setup (s.treatRequests setup w v) s (s.treat setup w v).2 := by
  cases v with
  | healthy => exact .nil rfl rfl rfl
  | unhealthy reason =>
    obtain ⟨lines, htreat⟩ := treat_unhealthy setup w reason s
    rw [htreat]
    exact reset setup w (s.note lines)

theorem treatEach (setup : Setup σ) (verdicts : List (Workspace × Verdict)) (s : Supervisor σ) :
    Asks setup (s.passRequests setup verdicts) s (s.treatEach setup verdicts).2 := by
  induction verdicts generalizing s with
  | nil => exact .nil rfl rfl rfl
  | cons x rest ih =>
    obtain ⟨w, v⟩ := x
    have hone := treat setup w v s
    unfold passRequests Supervisor.treatEach
    cases htreat : s.treat setup w v with
    | mk goesOn t =>
      rw [htreat] at hone
      cases goesOn with
      | true => exact hone.append (ih t)
      | false => exact hone.append (.nil rfl rfl rfl)

theorem recheck (setup : Setup σ) (probe : Workspace → Verdict) (s : Supervisor σ) :
    Asks setup (s.recheckRequests setup probe) s (s.recheck setup probe).2 :=
  treatEach setup (s.registry.workspaces.map fun w => (w, probe w))
    (s.record (s.registry.workspaces.map (.probed .caller)))

theorem treatNext (h : s.treatNext setup = some t) :
    Asks setup (s.nextRequests setup) s t := by
  unfold nextRequests
  obtain ⟨hwas, rfl⟩ | ⟨w, v, rest, hwas, ⟨-, rfl⟩ | ⟨-, rfl⟩⟩ := of_treatNext h
  · rw [hwas]
    exact .nil rfl rfl rfl
  · rw [hwas]
    exact treat setup w v s
  · rw [hwas]
    exact treat setup w v s

end Asks

/-! ## Runs -/

/-- The requests of an event lead from the state before it to the state after it. -/
theorem asks_of_apply {e : Event σ} (h : e.apply setup s = some t) :
    Asks setup (e.requests setup s) s t := by
  cases e with
  | start ws => obtain rfl := Option.some.inj h; exact .start setup ws s
  | reset w => obtain rfl := Option.some.inj h; exact .reset setup w s
  | recheck probe => obtain rfl := Option.some.inj h; exact .recheck setup probe s
  | report signal => obtain rfl := Option.some.inj h; exact .nil rfl rfl rfl
  | sessionEnded x ending =>
    obtain ⟨-, h⟩ := Option.ite_none_right_eq_some.mp h
    obtain rfl := Option.some.inj h
    unfold Supervisor.sessionEnded
    dsimp only
    split
    · exact .nil rfl rfl rfl
    · exact .nil rfl rfl rfl
  | closeSession l n => obtain rfl := Option.some.inj h; exact .nil rfl rfl rfl
  | closeAll => obtain rfl := Option.some.inj h; exact .nil rfl rfl rfl
  | resetRegistered l => obtain rfl := Option.some.inj h; exact .nil rfl rfl rfl
  | ensureBudget l n => obtain rfl := Option.some.inj h; exact .nil rfl rfl rfl
  | beginLoop =>
    obtain rfl := Option.some.inj h
    unfold Supervisor.beginLoop
    split
    · exact .nil rfl rfl rfl
    · exact .nil rfl rfl rfl
  | receiveSignal => obtain ⟨signal, -, -, rfl⟩ := of_receiveSignal h; exact .nil rfl rfl rfl
  | takeSnapshot => obtain ⟨-, rfl⟩ := of_takeSnapshot h; exact .nil rfl rfl rfl
  | collectVerdicts probe => obtain ⟨ws, -, rfl⟩ := of_collectVerdicts h; exact .nil rfl rfl rfl
  | treatNext => exact .treatNext h
  | stopLoop => obtain ⟨-, -, rfl⟩ := of_stopLoop h; exact .nil rfl rfl rfl
  | shutdown => obtain rfl := Option.some.inj h; exact .nil rfl rfl rfl
  | storeChanged store =>
    obtain rfl := Option.some.inj h
    exact fun r hr _ => ⟨hr, rfl, fun x hx => .inl hx⟩

/-- The requests of a run lead from its first state to its last one. -/
theorem asks_of_applyAll {events : List (Event σ)} (h : Event.applyAll setup events s = some t) :
    Asks setup (Event.requestsAll setup events s) s t := by
  induction events generalizing s with
  | nil =>
    obtain rfl := Option.some.inj h
    exact .nil rfl rfl rfl
  | cons e events ih =>
    obtain ⟨m, he, hrest⟩ := applyAll_cons.mp h
    unfold Event.requestsAll
    rw [he]
    exact (asks_of_apply he).append (ih hrest)

/-- The requests for ports in a run from a new supervisor, as the run of its assigner. -/
def portRun (setup : Setup σ) (assigner : Assigner) (store : σ) (events : List (Event σ)) :
    PortRun σ :=
  PortRun.after setup.ports { assigner, store }
    (Event.requestsAll setup events { store, assigner })

/-- A supervisor has issued each local id whose tunnel was started in the run the port that was
claimed for it or given to it last in the run. -/
theorem issued_eq_lastGrant? {assigner : Assigner} {store : σ} {events : List (Event σ)}
    (h : Event.applyAll setup events { store, assigner } = some s) {x : Session}
    (hx : x ∈ s.sessions) :
    s.assigner.issued[x.localId]? =
      (portRun setup assigner store events).lastGrant? x.localId := by
  obtain ⟨hassigner, -, hgranted⟩ := asks_of_applyAll h { assigner, store } rfl rfl
  have hfaithful : (portRun setup assigner store events).Faithful assigner :=
    (PortRun.Faithful.start assigner store).after _
  obtain ⟨p, hp⟩ := (hgranted x hx).resolve_left List.not_mem_nil
  obtain ⟨q, hq⟩ : ∃ q, (portRun setup assigner store events).lastGrant? x.localId = some q := by
    refine Option.ne_none_iff_exists'.mp fun hnone => ?_
    have hother := List.lookup_eq_none_iff.mp hnone _ (List.mem_reverse.mpr hp)
    simp at hother
  have hissued := hfaithful x.localId
  rw [hq, Option.some_or] at hissued
  rw [hq, ← hissued, ← hassigner]
  rfl

/-- Every state that a run reaches is reached by some events one after the other. -/
theorem Reachable.exists_run (hs : Reachable setup s) : ∃ assigner store events,
    Event.applyAll setup events { store, assigner } = some s := by
  induction hs with
  | fresh h =>
    obtain ⟨store, assigner, rfl⟩ := h
    exact ⟨assigner, store, [], rfl⟩
  | @step s t e _ ht ih =>
    obtain ⟨assigner, store, events, hevents⟩ := ih
    refine ⟨assigner, store, events ++ [e], ?_⟩
    rw [Event.applyAll] at hevents ⊢
    rw [List.foldlM_append, hevents]
    simpa using ht

end Supervisor

end TunnelFleet
