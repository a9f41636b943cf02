import TunnelFleet.Proofs.Supervision.PortRequests

/-!
# How resets end

The end of a reset is told by the budget of the local id, by the shutdown, by the port that is
found and by who has the local id. Two facts about runs make it simple: whoever is registered
has a budget, and whoever was ever started has a port. So the restart of a tunnel that was
started before needs no draw, and the port is the pinned one or the one of last time.
-/

namespace TunnelFleet

namespace Assigner

variable {σ : Type} {ports : PortStore σ} {a : Assigner} {l : LocalId} {q : UInt16}

/-- A local id that holds a port needs no draw. -/
theorem drawn_resolve_of_issued (hq : a.issued[l]? = some q) (sampler : Sampler) (store : σ) :
    (a.resolve ports sampler l store).assigner.drawn = a.drawn := by
  obtain ⟨e, -, hresolve⟩ | ⟨p, -, hresolve⟩ | ⟨p, -, -, hresolve⟩ | ⟨hneeds, -⟩ :=
    resolve_cases ports sampler l a store
  · rw [hresolve]
  · rw [hresolve]
    rfl
  · rw [hresolve]
  · rw [hneeds.2] at hq
    cases hq

end Assigner

namespace Registry

variable {r : Registry} {l : LocalId} {w : Workspace}

/-- A reset of a local id that has neither a handle nor a budget does nothing. -/
theorem reset_of_not_mem (hhandle : l ∉ r.handles) (hbudget : l ∉ r.budgets) :
    r.reset l = (.unknown, r) := by
  simp [reset, closeHandle, spend, hhandle, hbudget]

/-- A reset takes a local id from nobody. -/
@[simp] theorem admits_reset : (r.reset l).2.Admits w ↔ r.Admits w := by
  unfold Admits
  rcases r.kept_or_shut_reset l w.localId with hsame | hshut
  · rw [hsame]
  · rw [hshut]
    cases r.handles[w.localId]? with
    | none => simp
    | some h => simp [Handle.shut]

end Registry

namespace Supervisor

variable {σ : Type} {setup : Setup σ} {s t : Supervisor σ} {w : Workspace} {q : UInt16} {n : Nat}

/-! ## One case after the other -/

/-- A reset of a local id without a budget only warns. -/
theorem Sound.reset_of_unknown (setup : Setup σ) (hs : s.Sound)
    (hbudget : w.localId ∉ s.registry.budgets) :
    w.localId ∉ s.registry.handles ∧
      s.reset setup w = (some .unknown, (s.record [.decided w.localId .unknown]).say .warn
        w.localId "Reset requested for unknown workspace") := by
  have hhandle : w.localId ∉ s.registry.handles := fun h => hbudget (hs.budgeted _ h)
  refine ⟨hhandle, ?_⟩
  rw [reset, Supervisor.resetRegistered, Registry.reset_of_not_mem hhandle hbudget]

/-- A reset of a local id whose retries are spent says so. -/
theorem reset_of_exhausted (setup : Setup σ) (hr : s.registry.remaining? w.localId = some 0) :
    (s.reset setup w).1 = some .exhausted := by
  obtain ⟨hnone, -⟩ | ⟨first, -, hdecision, -⟩ | ⟨m, hsome, -⟩ :=
    s.registry.reset_cases w.localId
  · cases hr.symm.trans hnone
  · have hreset : s.resetRegistered w.localId =
        (.exhausted first, (s.resetRegistered w.localId).2) := Prod.ext hdecision rfl
    unfold reset
    rw [hreset]
  · cases hr.symm.trans hsome

/-- The retries after a reset are those that its decision leaves. -/
theorem remaining?_of_reset (setup : Setup σ) (w : Workspace) (s : Supervisor σ) (k : LocalId) :
    (s.reset setup w).2.registry.remaining? k =
      if k = w.localId then (s.registry.remaining? w.localId).map (· - 1)
      else s.registry.remaining? k := by
  rw [← Registry.remaining?_reset]
  obtain ⟨assigner, store, lines, -, ⟨o, -, hreset⟩ | ⟨r, p, -, -, -, -, hreset⟩⟩ :=
    reset_outcomes setup w s
  · rw [hreset]
    rfl
  · rw [hreset]
    rfl

/-- The start of a tunnel in a state where ports can be drawn. It succeeds if and only if the
supervisor is running, a port is found, and the workspace may have the local id. -/
theorem startTunnel_spec (setup : Setup σ) (hrange : s.assigner.drawing.range.size ≠ 0)
    (w : Workspace) :
    let found := (s.assigner.resolve setup.ports setup.sampler w.localId s.store).result
    (∃ p, (s.isStopping = false ∧ found = .port p ∧ s.registry.Admits w) ∧
      (s.startTunnel setup w).1 = .started p ∧
      (s.startTunnel setup w).2.sessions =
        s.sessions ++ [⟨s.registry.lastSession + 1, w, p⟩]) ∨
    (∀ p, ¬ (s.isStopping = false ∧ found = .port p ∧ s.registry.Admits w)) ∧
      ∃ e, (s.startTunnel setup w).1 = .refused e := by
  intro found
  cases hstop : s.isStopping with
  | true =>
    refine .inr ⟨by simp, .shuttingDown, ?_⟩
    rw [startTunnel, hstop]
    rfl
  | false =>
    obtain ⟨p, hresult, hstart⟩ | ⟨e, hresult, hstart⟩ | ⟨hresult, -⟩ :=
      startTunnel_of_running setup w hstop
    · obtain ⟨current, hcurrent, hid, hlaunch⟩ | ⟨hadmits, hlaunch⟩ :=
        launch_cases w p (s.assign _ _ _)
      · refine .inr ⟨fun p h => hid (h.2.2 current hcurrent), ?_⟩
        rw [hstart, hlaunch]
        exact ⟨_, rfl⟩
      · refine .inl ⟨p, ⟨rfl, hresult, hadmits⟩, ?_⟩
        rw [hstart, hlaunch]
        exact ⟨rfl, rfl⟩
    · have hrefused : found = .refused e := hresult
      refine .inr ⟨by simp [hrefused], ?_⟩
      rw [hstart]
      exact ⟨_, rfl⟩
    · exact absurd hresult (Assigner.result_ne_aborted hrange _ _ _ _)

/-- The start of a tunnel whose local id holds a port. No port is drawn, the store stays as it
is, and the port is the pinned one or else the one that is held. -/
theorem startTunnel_of_grant (setup : Setup σ) (hq : s.assigner.issued[w.localId]? = some q) :
    (s.startTunnel setup w).2.assigner.drawn = s.assigner.drawn ∧
      (s.startTunnel setup w).2.store = s.store ∧
      (∀ attempts, (s.startTunnel setup w).1 ≠ .refused (.port (.exhausted attempts))) ∧
      ∀ p, (s.startTunnel setup w).1 = .started p →
        setup.ports.lookup s.store w.localId = .ok (some p) ∨
          setup.ports.lookup s.store w.localId = .ok none ∧ q = p := by
  cases hstop : s.isStopping with
  | true =>
    rw [startTunnel, hstop]
    exact ⟨rfl, rfl, by simp, by simp⟩
  | false =>
    have hdrawn : (s.assigner.resolve setup.ports setup.sampler w.localId s.store).assigner.drawn =
        s.assigner.drawn := Assigner.drawn_resolve_of_issued hq setup.sampler s.store
    obtain ⟨e, -, hresolve⟩ | ⟨pin, assigner, logs, hlookup, hresolve, -⟩ :=
      Assigner.resolve_of_issued setup.ports setup.sampler s.store hq
    · rw [startTunnel, hstop, hresolve]
      exact ⟨rfl, rfl, by simp, by simp⟩
    · have hstart : s.startTunnel setup w =
          (s.assign assigner s.store logs).launch w (pin.getD q) := by
        rw [startTunnel, hstop, hresolve]
        rfl
      rw [hresolve] at hdrawn
      rw [hstart]
      obtain ⟨current, -, -, hlaunch⟩ | ⟨-, hlaunch⟩ :=
        launch_cases w (pin.getD q) (s.assign assigner s.store logs)
      · rw [hlaunch]
        exact ⟨hdrawn, rfl, by simp, by simp⟩
      · rw [hlaunch]
        refine ⟨hdrawn, rfl, by simp, fun p hp => ?_⟩
        obtain rfl := StartOutcome.started.inj hp
        cases pin with
        | none => exact .inr ⟨hlookup, rfl⟩
        | some pin => exact .inl hlookup

/-- Whoever was ever started holds a port. -/
theorem Reachable.exists_issued (hs : Reachable setup s) {x : Session} (hx : x ∈ s.sessions) :
    ∃ q, s.assigner.issued[x.localId]? = some q := by
  obtain ⟨h, hl, -⟩ := hs.owned x hx
  have hissued := hs.sound.issued _ (Registry.mem_handles_iff.mpr ⟨h, hl⟩)
  exact Option.isSome_iff_exists.mp (Std.ExtTreeMap.mem_iff_isSome_getElem?.mp hissued)

/-- What a reset with a retry comes to. Its answer tells whether the tunnel was started again;
in the tunnel's place stands the next session. -/
theorem reset_spec_of_retry (setup : Setup σ) (hrange : s.assigner.drawing.range.size ≠ 0)
    (hr : s.registry.remaining? w.localId = some (n + 1)) :
    let found := (s.assigner.resolve setup.ports setup.sampler w.localId s.store).result
    (∃ p, (s.isStopping = false ∧ found = .port p ∧ s.registry.Admits w) ∧
      (s.reset setup w).1 = some (.restarted n p) ∧
      (s.reset setup w).2.sessions = s.sessions ++ [⟨s.registry.lastSession + 1, w, p⟩]) ∨
    (∀ p, ¬ (s.isStopping = false ∧ found = .port p ∧ s.registry.Admits w)) ∧
      (s.reset setup w).1 = some (.restartFailed n) := by
  intro found
  have hstopping : (s.resetRegistered w.localId).2.isStopping = s.isStopping :=
    s.registry.rootCancelled_reset w.localId
  have hadmits : (s.resetRegistered w.localId).2.registry.Admits w ↔ s.registry.Admits w :=
    Registry.admits_reset
  have hlast : (s.resetRegistered w.localId).2.registry.lastSession = s.registry.lastSession :=
    s.registry.lastSession_reset w.localId
  have hrestart := startTunnel_spec setup (s := (s.resetRegistered w.localId).2) hrange w
  rw [hstopping, hadmits, hlast] at hrestart
  rw [reset_eq_of_retry setup hr]
  cases hstart : (s.resetRegistered w.localId).2.startTunnel setup w with
  | mk o t =>
    rw [hstart] at hrestart
    obtain ⟨p, hwhen, rfl, hsessions⟩ | ⟨hfails, e, rfl⟩ := hrestart
    · exact .inl ⟨p, hwhen, rfl, hsessions⟩
    · exact .inr ⟨hfails, rfl⟩

/-- The reset of a local id that was started before draws no port, and leaves the store as it
is. If the tunnel is started again, then on the pinned port or else on the one that is held. -/
theorem reset_of_grant (setup : Setup σ) (hq : s.assigner.issued[w.localId]? = some q) :
    (s.reset setup w).2.assigner.drawn = s.assigner.drawn ∧
      (s.reset setup w).2.store = s.store ∧
      ∀ r p, (s.reset setup w).1 = some (.restarted r p) →
        setup.ports.lookup s.store w.localId = .ok (some p) ∨
          setup.ports.lookup s.store w.localId = .ok none ∧ q = p := by
  by_cases hr : ∃ n, s.registry.remaining? w.localId = some (n + 1)
  · obtain ⟨n, hr⟩ := hr
    obtain ⟨hassigner, hsame, -, hstarted⟩ := reset_of_retry setup hr
    obtain ⟨hdrawn, hstore, -, hport⟩ :=
      startTunnel_of_grant setup (s := (s.resetRegistered w.localId).2) hq
    rw [hassigner, hsame]
    exact ⟨hdrawn, hstore, fun r p h => hport p (hstarted r p h)⟩
  · obtain ⟨hassigner, hsame, -, hnot⟩ := reset_of_no_retry setup fun n h => hr ⟨n, h⟩
    rw [hassigner, hsame]
    exact ⟨rfl, rfl, fun r p h => absurd h (hnot r p)⟩

/-- The outcome of a reset goes with the retries that are left. -/
theorem Sound.reset_outcome_cases (setup : Setup σ) (hs : s.Sound)
    (hrange : s.assigner.drawing.range.size ≠ 0) (w : Workspace) :
    (s.registry.remaining? w.localId = none ∧ (s.reset setup w).1 = some .unknown) ∨
    (s.registry.remaining? w.localId = some 0 ∧ (s.reset setup w).1 = some .exhausted) ∨
    ∃ r, s.registry.remaining? w.localId = some (r + 1) ∧
      ((∃ p, (s.reset setup w).1 = some (.restarted r p)) ∨
        (s.reset setup w).1 = some (.restartFailed r)) := by
  cases hr : s.registry.remaining? w.localId with
  | none =>
    have hbudget : w.localId ∉ s.registry.budgets := by
      rw [Registry.mem_budgets_iff, hr]
      simp
    exact .inl ⟨rfl, congrArg Prod.fst (hs.reset_of_unknown setup hbudget).2⟩
  | some left =>
    cases left with
    | zero => exact .inr (.inl ⟨rfl, reset_of_exhausted setup hr⟩)
    | succ r =>
      refine .inr (.inr ⟨r, rfl, ?_⟩)
      obtain ⟨p, -, h, -⟩ | ⟨-, h⟩ := reset_spec_of_retry setup hrange hr
      · exact .inl ⟨p, h⟩
      · exact .inr h

/-- The outcome of a reset in a supervisor that can draw ports. It is unknown if and only if
the local id has no budget; then the local id is not registered either, and the reset only
warns. It is exhausted if and only if the budget of the local id is spent. Otherwise one retry
is spent and no other one, and the tunnel is started again if and only if the supervisor is
running, a port is found, and the local id is free or that of the workspace; else the restart
has failed. The restart of a tunnel that was started earlier in the run draws nothing and so
never fails for lack of a port: it uses the port that is pinned now, or without a pin the port
that was claimed for the local id or given to it last in the run. A run did lead here, and this
is so for any run that did, whatever its assigner had issued before it. -/
theorem Reachable.reset_outcome (hs : Reachable setup s)
    (hrange : s.assigner.drawing.range.size ≠ 0) (w : Workspace) :
    let l := w.localId
    let outcome := (s.reset setup w).1
    let t := (s.reset setup w).2
    let found := (s.assigner.resolve setup.ports setup.sampler l s.store).result
    (outcome = some .unknown ↔ l ∉ s.registry.budgets) ∧
    (l ∉ s.registry.budgets → l ∉ s.registry.handles ∧
      t = (s.record [.decided l .unknown]).say .warn l "Reset requested for unknown workspace") ∧
    (outcome = some .exhausted ↔ s.registry.remaining? l = some 0) ∧
    (∀ r, s.registry.remaining? l = some (r + 1) →
      (∀ k, t.registry.remaining? k = if k = l then some r else s.registry.remaining? k) ∧
      (∀ p, outcome = some (.restarted r p) ↔
        s.isStopping = false ∧ found = .port p ∧ s.registry.Admits w) ∧
      (∀ p, outcome = some (.restarted r p) →
        t.sessions = s.sessions ++ [⟨s.registry.lastSession + 1, w, p⟩]) ∧
      ((∀ p, outcome ≠ some (.restarted r p)) → outcome = some (.restartFailed r))) ∧
    ((∃ x ∈ s.sessions, x.localId = l) →
      (∀ attempts, ((s.resetRegistered l).2.startTunnel setup w).1 ≠
        .refused (.port (.exhausted attempts))) ∧
      t.assigner.drawn = s.assigner.drawn ∧ t.store = s.store ∧
      ∀ r p, outcome = some (.restarted r p) →
        setup.ports.lookup s.store l = .ok (some p) ∨
        setup.ports.lookup s.store l = .ok none ∧
          (∃ assigner store events, Event.applyAll setup events { store, assigner } = some s) ∧
          ∀ assigner store events, Event.applyAll setup events { store, assigner } = some s →
            (portRun setup assigner store events).lastGrant? l = some p) := by
  intro l outcome t found
  have hsound := hs.sound
  have hbudget : l ∉ s.registry.budgets ↔ s.registry.remaining? l = none := by
    rw [Registry.mem_budgets_iff, Bool.not_eq_true, Option.isSome_eq_false_iff,
      Option.isNone_iff_eq_none]
  have hcases := hsound.reset_outcome_cases setup hrange w
  refine ⟨?_, fun hnone => ?_, ?_, fun r hr => ?_, fun hstarted => ?_⟩
  · rw [hbudget]
    obtain ⟨hr, h⟩ | ⟨hr, h⟩ | ⟨r, hr, ⟨p, h⟩ | h⟩ := hcases <;> simp [outcome, l, hr, h]
  · obtain ⟨hhandle, hreset⟩ := hsound.reset_of_unknown setup hnone
    exact ⟨hhandle, congrArg Prod.snd hreset⟩
  · obtain ⟨hr, h⟩ | ⟨hr, h⟩ | ⟨r, hr, ⟨p, h⟩ | h⟩ := hcases <;> simp [outcome, l, hr, h]
  · refine ⟨fun k => ?_, ?_⟩
    · rw [remaining?_of_reset, hr]
      rfl
    · obtain ⟨q, hwhen, h, hsessions⟩ | ⟨hfails, h⟩ := reset_spec_of_retry setup hrange hr
      · refine ⟨fun p => ?_, fun p hp => ?_, fun hno => absurd h (hno q)⟩
        · rw [show outcome = _ from h]
          exact ⟨fun hp => by cases hp; exact hwhen,
            fun hp => by rw [Resolution.port.inj (hwhen.2.1.symm.trans hp.2.1)]⟩
        · obtain rfl : q = p := by
            cases h.symm.trans hp
            rfl
          exact hsessions
      · refine ⟨fun p => ⟨fun hp => ?_, fun hp => absurd hp (hfails p)⟩, fun p hp => ?_,
          fun _ => h⟩
        · cases h.symm.trans hp
        · cases h.symm.trans hp
  · obtain ⟨x, hx, hlocal⟩ := hstarted
    obtain ⟨q, hq⟩ := hs.exists_issued hx
    rw [hlocal] at hq
    obtain ⟨-, -, hnever, -⟩ :=
      startTunnel_of_grant setup (s := (s.resetRegistered w.localId).2) hq
    obtain ⟨hdrawn, hstore, hport⟩ := reset_of_grant setup hq
    refine ⟨hnever, hdrawn, hstore, fun r p hp => ?_⟩
    rcases hport r p hp with hpinned | ⟨hunpinned, rfl⟩
    · exact .inl hpinned
    · refine .inr ⟨hunpinned, hs.exists_run, fun assigner store events hrun => ?_⟩
      have hgrant := issued_eq_lastGrant? hrun hx
      rw [hlocal, hq] at hgrant
      exact hgrant.symm

/-- A tunnel is started again while the store drops what is saved. Its port was found before
the supervisor was there. -/
theorem reset_outcome_unsaved :
    let web := SmallFleet.web.localId
    let store : PinTable := { keeps := false }
    let first : Assigner := { drawing := { maxAttempts := 8 } }
    let assigner := (first.resolve PinTable.asStore SmallFleet.setup.sampler web store).assigner
    let events : List (Event PinTable) := [.start [SmallFleet.web, SmallFleet.db]]
    let new : Supervisor PinTable := { store, assigner }
    let s := (new.start SmallFleet.setup [SmallFleet.web, SmallFleet.db]).2
    Reachable SmallFleet.setup s ∧ s.assigner.drawing.range.size ≠ 0 ∧
      PinTable.asStore.lookup s.store web = .ok none ∧
      (s.reset SmallFleet.setup SmallFleet.web).1 = some (.restarted 2 1024) ∧
      (s.reset SmallFleet.setup SmallFleet.web).2.assigner.drawn = s.assigner.drawn ∧
      assigner.issued[web]? = some 1024 ∧
      (portRun SmallFleet.setup assigner store events).lastGrant? web = some 1024 := by
  intro web store first assigner events new s
  have hreachable : Reachable SmallFleet.setup s :=
    .step (.start [SmallFleet.web, SmallFleet.db]) (.fresh ⟨_, _, rfl⟩) rfl
  have hrange : s.assigner.drawing.range.size ≠ 0 := by decide +kernel
  have hunpinned : PinTable.asStore.lookup s.store web = .ok none := by decide +kernel
  have hstarted : ⟨1, SmallFleet.web, 1024⟩ ∈ s.sessions := by decide +kernel
  have hrestarted : (s.reset SmallFleet.setup SmallFleet.web).1 = some (.restarted 2 1024) := by
    decide +kernel
  have hbefore : assigner.issued[web]? = some 1024 := by decide +kernel
  have hrun : Event.applyAll SmallFleet.setup events new = some s := rfl
  obtain ⟨-, -, -, -, hagain⟩ := Reachable.reset_outcome hreachable hrange SmallFleet.web
  obtain ⟨-, hdrawn, -, hport⟩ := hagain ⟨_, hstarted, rfl⟩
  refine ⟨hreachable, hrange, hunpinned, hrestarted, hdrawn, hbefore, ?_⟩
  rcases hport 2 1024 hrestarted with hpinned | ⟨-, -, hgrant⟩
  · cases hunpinned.symm.trans hpinned
  · exact hgrant assigner store events hrun

end Supervisor

end TunnelFleet
