import TunnelFleet.Proofs.Supervision.Bookkeeping

/-!
# What a pass over all workspaces does

A pass probes every registered workspace and resets the unhealthy ones, one after the
other. It never fails: whoever is registered has a budget and a port. What it makes of
each workspace depends on this workspace alone, and workspaces that are well keep their
tunnel.
-/

namespace TunnelFleet

namespace Supervisor

variable {σ : Type} {setup : Setup σ} {s t u : Supervisor σ} {w : Workspace} {v : Verdict}
  {l k : LocalId}

/-! ## Restarting a registered workspace -/

/-- The port on which a registered workspace could be started again: its pin, or else the
port that it was issued. There is none while the supervisor is stopping or the store does
not answer. -/
def restartPort? (setup : Setup σ) (s : Supervisor σ) (l : LocalId) : Option UInt16 :=
  if s.isStopping then none
  else
    match setup.ports.lookup s.store l with
    | .error _ => none
    | .ok (some p) => some p
    | .ok none => s.assigner.issued[l]?

private theorem restartPort?_congr (hstopping : t.isStopping = s.isStopping)
    (hstore : t.store = s.store) (hissued : t.assigner.issued[l]? = s.assigner.issued[l]?) :
    t.restartPort? setup l = s.restartPort? setup l := by
  rw [restartPort?, hstopping, hstore, hissued, restartPort?]

/-- Whether a pass that finds this verdict starts a new session for a workspace. -/
def restarts (setup : Setup σ) (s : Supervisor σ) (w : Workspace) (v : Verdict) : Bool :=
  !v.isHealthy && decide (0 < (s.registry.remaining? w.localId).getD 0) &&
    (s.restartPort? setup w.localId).isSome

/-- A workspace that has a port is started again on it, or is refused and nothing changes. -/
theorem startTunnel_of_issued (setup : Setup σ) (hissued : w.localId ∈ s.assigner.issued)
    (hadmits : s.registry.Admits w) :
    (s.restartPort? setup w.localId = none ∧ ∃ e, s.startTunnel setup w = (.refused e, s)) ∨
    ∃ p assigner logs, s.restartPort? setup w.localId = some p ∧
      s.startTunnel setup w = (.started p, (s.assign assigner s.store logs).enroll w p) ∧
      ∀ k : LocalId, assigner.issued[k]? =
        if k = w.localId then some p else s.assigner.issued[k]? := by
  obtain ⟨q, hq⟩ := Option.isSome_iff_exists.mp (Std.ExtTreeMap.mem_iff_isSome_getElem?.mp hissued)
  unfold startTunnel restartPort?
  cases hstop : s.isStopping with
  | true => exact .inl ⟨rfl, _, rfl⟩
  | false =>
    simp only [Bool.false_eq_true, if_false]
    obtain ⟨e, hlookup, hresolve⟩ | ⟨pin, assigner, logs, hlookup, hresolve, hframe⟩ :=
      Assigner.resolve_of_issued setup.ports setup.sampler s.store hq
    · refine .inl ⟨by rw [hlookup], .port (.store e), ?_⟩
      rw [hresolve]
      simp [note]
    · right
      refine ⟨pin.getD q, assigner, logs, ?_, ?_, hframe⟩
      · rw [hlookup]
        cases pin <;> simp [hq]
      · rw [hresolve]
        obtain ⟨current, hcurrent, hid, -⟩ | ⟨-, hlaunch⟩ :=
          launch_cases w (pin.getD q) (s.assign assigner s.store logs)
        · exact absurd (hadmits current hcurrent) hid
        · exact hlaunch

/-- What the reset of a registered workspace does: it is started again if there is a retry
and a port for it, and only closed otherwise. -/
theorem reset_of_registered (setup : Setup σ) {h : Handle} (hs : s.Sound)
    (hl : s.registry.handles[w.localId]? = some h) (hid : h.workspace.id = w.id) :
    ∃ o t, s.reset setup w = (some o, t) ∧ t.store = s.store ∧
      t.history = s.history ++ [.decided w.localId (s.registry.reset w.localId).1] ∧
      ((s.registry.remaining? w.localId = some 0 ∨ s.restartPort? setup w.localId = none) ∧
          t.registry = (s.registry.reset w.localId).2 ∧ t.assigner = s.assigner ∨
        ∃ p r, s.restartPort? setup w.localId = some p ∧
          s.registry.remaining? w.localId = some (r + 1) ∧
          t.registry = ((s.registry.reset w.localId).2.install
            { workspace := w, port := p, token := s.registry.lastSession + 1 }).2 ∧
          ∀ k : LocalId, t.assigner.issued[k]? =
            if k = w.localId then some p else s.assigner.issued[k]?) := by
  have hmem : w.localId ∈ s.registry.handles := Registry.mem_handles_iff.mpr ⟨h, hl⟩
  obtain ⟨hr, -⟩ | ⟨first, hr, hdecision, -⟩ | ⟨r, hr, hdecision, -⟩ :=
    s.registry.reset_cases w.localId
  · obtain ⟨r, hleft⟩ := hs.remaining_of_registered hl
    rw [hr] at hleft
    cases hleft
  · have hreset : s.resetRegistered w.localId =
        (.exhausted first, (s.resetRegistered w.localId).2) := Prod.ext hdecision rfl
    unfold reset
    rw [hreset]
    cases first with
    | true => exact ⟨_, _, rfl, rfl, rfl, .inl ⟨.inl hr, rfl, rfl⟩⟩
    | false => exact ⟨_, _, rfl, rfl, rfl, .inl ⟨.inl hr, rfl, rfl⟩⟩
  · have hreset : s.resetRegistered w.localId = (.retry r, (s.resetRegistered w.localId).2) :=
      Prod.ext hdecision rfl
    have hadmits : (s.resetRegistered w.localId).2.registry.Admits w := by
      intro current hcurrent
      obtain rfl : h.shut = current := by
        have hshut : (s.registry.reset w.localId).2.handles[w.localId]? = some current := hcurrent
        rw [Registry.handles_reset, if_pos rfl, hl] at hshut
        exact Option.some.inj hshut
      exact hid
    have hport : (s.resetRegistered w.localId).2.restartPort? setup w.localId =
        s.restartPort? setup w.localId :=
      restartPort?_congr (s.registry.rootCancelled_reset w.localId) rfl rfl
    unfold reset
    rw [hreset]
    obtain ⟨hnone, e, hstart⟩ | ⟨p, assigner, logs, hsome, hstart, hframe⟩ :=
      startTunnel_of_issued setup (s := (s.resetRegistered w.localId).2) (hs.issued _ hmem) hadmits
    · simp only [hstart]
      exact ⟨_, _, rfl, rfl, rfl, .inl ⟨.inr (hport.symm.trans hnone), rfl, rfl⟩⟩
    · simp only [hstart]
      refine ⟨_, _, rfl, rfl, rfl, .inr ⟨p, r, hport.symm.trans hsome, hr, ?_, hframe⟩⟩
      have hlast : (s.resetRegistered w.localId).2.registry.lastSession = s.registry.lastSession :=
        s.registry.lastSession_reset w.localId
      unfold enroll assign note
      rw [hlast]
      rfl

/-! ## One workspace of a pass -/

/-- The workspace with a local id has the same tunnel as before. -/
structure Keeps (k : LocalId) (s t : Supervisor σ) : Prop where
  handle : t.registry.handles[k]? = s.registry.handles[k]?
  remaining : t.registry.remaining? k = s.registry.remaining? k
  issued : t.assigner.issued[k]? = s.assigner.issued[k]?
  token : ∀ h : Handle, s.registry.handles[k]? = some h →
    t.registry.tokens.isCancelled h.session = s.registry.tokens.isCancelled h.session

namespace Keeps

theorem refl (k : LocalId) (s : Supervisor σ) : Keeps k s s := ⟨rfl, rfl, rfl, fun _ _ => rfl⟩

theorem trans (hst : Keeps k s t) (htu : Keeps k t u) : Keeps k s u where
  handle := htu.handle.trans hst.handle
  remaining := htu.remaining.trans hst.remaining
  issued := htu.issued.trans hst.issued
  token h hh := (htu.token h (hst.handle.trans hh)).trans (hst.token h hh)

/-- The row of the workspace is the same as before. -/
theorem statusOf_eq (hkeeps : Keeps k s t) (hs : s.Sound) (ht : t.Sound) {h : Handle}
    (hk : s.registry.handles[k]? = some h) : t.registry.statusOf k h = s.registry.statusOf k h := by
  rw [hs.statusOf_eq hk, ht.statusOf_eq (hkeeps.handle.trans hk), hkeeps.token h hk,
    hkeeps.remaining]

/-- Whatever spares the tokens of other sessions keeps the tunnels of other workspaces. -/
theorem of_ne (hs : s.Sound) {h : Handle} (hl : s.registry.handles[l]? = some h) (hne : k ≠ l)
    (hhandle : t.registry.handles[k]? = s.registry.handles[k]?)
    (hremaining : t.registry.remaining? k = s.registry.remaining? k)
    (hissued : t.assigner.issued[k]? = s.assigner.issued[k]?)
    (htoken : ∀ n, n ≠ h.session →
      t.registry.tokens.isCancelled n = s.registry.tokens.isCancelled n) : Keeps k s t :=
  ⟨hhandle, hremaining, hissued, fun _ hk => htoken _ (hs.tracks.session_ne hl hk hne)⟩

end Keeps

/-- What a pass makes of the row of a workspace, and of the token of the row's session. -/
def RowAfter (setup : Setup σ) (s t : Supervisor σ) (row row' : TunnelStatus) : Verdict → Prop
  | .healthy => row' = row ∧
    t.registry.tokens.isCancelled row.session = s.registry.tokens.isCancelled row.session
  | .unhealthy _ => t.registry.tokens.isCancelled row.session = true ∧
    match row.remaining, s.restartPort? setup row.localId with
    | r + 1, some p => ∃ n, s.registry.lastSession < n ∧ row' = ⟨row.localId, p, true, n, r⟩
    | r + 1, none => row' = { row with isOpen := false, remaining := r }
    | 0, _ => row' = { row with isOpen := false }

namespace RowAfter

variable {row row' : TunnelStatus}

/-- A row stays what a pass made of it as long as the tunnel is kept. -/
theorem later (h : RowAfter setup s u row row' v)
    (hcancelled : ∀ n, u.registry.tokens.isCancelled n = true →
      t.registry.tokens.isCancelled n = true)
    (htoken : t.registry.tokens.isCancelled row'.session =
      u.registry.tokens.isCancelled row'.session) : RowAfter setup s t row row' v := by
  cases v with
  | healthy =>
    obtain ⟨rfl, hsame⟩ := h
    exact ⟨rfl, htoken.trans hsame⟩
  | unhealthy reason =>
    obtain ⟨hdone, hrow⟩ := h
    exact ⟨hcancelled _ hdone, hrow⟩

/-- What a pass makes of a row does not depend on what it did to others before. -/
theorem earlier (h : RowAfter setup u t row row' v)
    (htoken : u.registry.tokens.isCancelled row.session =
      s.registry.tokens.isCancelled row.session)
    (hport : u.restartPort? setup row.localId = s.restartPort? setup row.localId)
    (hlast : s.registry.lastSession ≤ u.registry.lastSession) : RowAfter setup s t row row' v := by
  cases v with
  | healthy =>
    obtain ⟨hrow, hsame⟩ := h
    exact ⟨hrow, hsame.trans htoken⟩
  | unhealthy reason =>
    obtain ⟨hdone, hrow⟩ := h
    refine ⟨hdone, ?_⟩
    rw [hport] at hrow
    cases hr : row.remaining with
    | zero =>
      simp only [hr] at hrow ⊢
      exact hrow
    | succ r =>
      cases hp : s.restartPort? setup row.localId with
      | none =>
        simp only [hr, hp] at hrow ⊢
        exact hrow
      | some p =>
        simp only [hr, hp] at hrow ⊢
        obtain ⟨n, hn, hrow⟩ := hrow
        exact ⟨n, hlast.trans_lt hn, hrow⟩

end RowAfter

/-- The local ids of the workspaces for which a pass starts new sessions, in order. -/
def restarted (setup : Setup σ) (s : Supervisor σ) (verdicts : List (Workspace × Verdict)) :
    List LocalId :=
  (verdicts.filter fun x => s.restarts setup x.1 x.2).map fun x => x.1.localId

/-- What a pass over some verdicts does. -/
structure Passed (setup : Setup σ) (verdicts : List (Workspace × Verdict)) (s t : Supervisor σ) :
    Prop where
  sound : t.Sound
  store : t.store = s.store
  stopping : t.isStopping = s.isStopping
  /-- Nobody is probed a second time. -/
  probes : t.history.filterMap (Happening.probed? .caller) =
    s.history.filterMap (Happening.probed? .caller)
  /-- No token is revived. -/
  cancelled : ∀ n, s.registry.tokens.isCancelled n = true → t.registry.tokens.isCancelled n = true
  /-- Whoever the pass is not about keeps its tunnel. -/
  others : ∀ k, (∀ x ∈ verdicts, x.1.localId ≠ k) → Keeps k s t
  rows : ∀ x ∈ verdicts, ∀ h : Handle, s.registry.handles[x.1.localId]? = some h →
    ∃ h' : Handle, t.registry.handles[x.1.localId]? = some h' ∧ h'.workspace = h.workspace ∧
      RowAfter setup s t (s.registry.statusOf x.1.localId h)
        (t.registry.statusOf x.1.localId h') x.2
  /-- New sessions are numbered in the order of the verdicts. -/
  numbers : (s.restarted setup verdicts).map t.registry.session? =
    (List.range' (s.registry.lastSession + 1) (s.restarted setup verdicts).length).map some
  lastSession : t.registry.lastSession =
    s.registry.lastSession + (s.restarted setup verdicts).length

namespace Passed

variable {verdicts : List (Workspace × Verdict)}

theorem nil (hs : s.Sound) : Passed setup [] s s where
  sound := hs
  store := rfl
  stopping := rfl
  probes := rfl
  cancelled _ hn := hn
  others k _ := .refl k s
  rows := by simp
  numbers := rfl
  lastSession := rfl

/-- A healthy workspace is left alone. -/
theorem healthy (hs : s.Sound) (w : Workspace) : Passed setup [(w, .healthy)] s s where
  sound := hs
  store := rfl
  stopping := rfl
  probes := rfl
  cancelled _ hn := hn
  others k _ := .refl k s
  rows x hx h hl := by
    obtain rfl := List.mem_singleton.mp hx
    exact ⟨h, hl, rfl, rfl, rfl⟩
  numbers := rfl
  lastSession := rfl

/-- A pass over one unhealthy workspace, told by what becomes of the registry: its session is
cancelled, and the other workspaces keep theirs. -/
theorem unhealthy (hs : s.Sound) {h h' : Handle} {reason : Option String}
    (hl : s.registry.handles[w.localId]? = some h) (ht : t.Sound) (hstore : t.store = s.store)
    (hstopping : t.isStopping = s.isStopping)
    (hhistory : t.history = s.history ++ [.decided w.localId (s.registry.reset w.localId).1])
    (hcancel : ∀ n, t.registry.tokens.isCancelled n =
      (s.registry.tokens.isCancelled n || (!h.closed && n == h.session)))
    (hothers : ∀ k, k ≠ w.localId → t.registry.handles[k]? = s.registry.handles[k]? ∧
      t.registry.remaining? k = s.registry.remaining? k ∧
      t.assigner.issued[k]? = s.assigner.issued[k]?)
    (hl' : t.registry.handles[w.localId]? = some h') (hworkspace : h'.workspace = h.workspace)
    (hrow : t.registry.tokens.isCancelled h.session = true →
      RowAfter setup s t (s.registry.statusOf w.localId h) (t.registry.statusOf w.localId h')
        (.unhealthy reason))
    (hnumbers : (s.restarted setup [(w, .unhealthy reason)]).map t.registry.session? =
      (List.range' (s.registry.lastSession + 1)
        (s.restarted setup [(w, .unhealthy reason)]).length).map some)
    (hlast : t.registry.lastSession =
      s.registry.lastSession + (s.restarted setup [(w, .unhealthy reason)]).length) :
    Passed setup [(w, .unhealthy reason)] s t where
  sound := ht
  store := hstore
  stopping := hstopping
  probes := by simp [hhistory, Happening.probed?]
  cancelled n hn := by simp [hcancel, hn]
  others k hk := by
    have hne : k ≠ w.localId := fun h => hk _ (List.mem_singleton.mpr rfl) h.symm
    obtain ⟨hhandle, hremaining, hissued⟩ := hothers k hne
    exact Keeps.of_ne hs hl hne hhandle hremaining hissued fun n hn => by simp [hcancel, hn]
  rows x hx current hcurrent := by
    obtain rfl := List.mem_singleton.mp hx
    obtain rfl : h = current := Option.some.inj (hl.symm.trans hcurrent)
    exact ⟨h', hl', hworkspace, hrow ((hcancel h.session).trans (hs.isCancelled_or_release hl))⟩
  numbers := hnumbers
  lastSession := hlast

/-- An unhealthy workspace without a retry or without a port is closed. -/
theorem closed (hs : s.Sound) {h : Handle} {reason : Option String}
    (hl : s.registry.handles[w.localId]? = some h) (ht : t.Sound) (hstore : t.store = s.store)
    (hhistory : t.history = s.history ++ [.decided w.localId (s.registry.reset w.localId).1])
    (hstays : s.registry.remaining? w.localId = some 0 ∨ s.restartPort? setup w.localId = none)
    (hregistry : t.registry = (s.registry.reset w.localId).2)
    (hassigner : t.assigner = s.assigner) :
    Passed setup [(w, .unhealthy reason)] s t := by
  have hnone : s.restarted setup [(w, .unhealthy reason)] = [] := by
    rcases hstays with hr | hp
    · simp [restarted, restarts, hr]
    · simp [restarted, restarts, hp]
  obtain ⟨-, htoken, -⟩ := hs.tracks.stands hl
  have hshut : t.registry.handles[w.localId]? = some h.shut := by
    rw [hregistry, Registry.handles_reset, if_pos rfl, hl]
    rfl
  refine unhealthy hs hl ht hstore ?_ hhistory (fun n => ?_) (fun k hne => ?_) hshut rfl
    (fun hdone => ⟨hdone, ?_⟩) (by rw [hnone]; rfl) ?_
  · rw [isStopping, hregistry, Registry.rootCancelled_reset, isStopping]
  · rw [hregistry, Registry.isCancelled_reset, hl, Option.any_some, htoken]
  · simp [hregistry, hassigner, hne]
  · obtain ⟨r, hr⟩ := hs.remaining_of_registered hl
    have hleft : t.registry.remaining? w.localId = some (r - 1) := by
      rw [hregistry, Registry.remaining?_reset, if_pos rfl, hr, Option.map_some]
    rw [hs.statusOf_eq hl, ht.statusOf_eq hshut, hr, hleft]
    cases r with
    | zero => simp [hdone]
    | succ r =>
      rcases hstays with hzero | hport
      · rw [hr] at hzero
        cases hzero
      · simp [hdone, hport]
  · rw [hnone, hregistry, Registry.lastSession_reset]
    rfl

/-- An unhealthy workspace with a retry and a port gets the next session. -/
theorem reopened (hs : s.Sound) {h : Handle} {reason : Option String} {p : UInt16} {r : Nat}
    (hl : s.registry.handles[w.localId]? = some h) (hw : h.workspace = w) (ht : t.Sound)
    (hstore : t.store = s.store)
    (hhistory : t.history = s.history ++ [.decided w.localId (s.registry.reset w.localId).1])
    (hport : s.restartPort? setup w.localId = some p)
    (hr : s.registry.remaining? w.localId = some (r + 1))
    (hregistry : t.registry = ((s.registry.reset w.localId).2.install
      { workspace := w, port := p, token := s.registry.lastSession + 1 }).2)
    (hissued : ∀ k : LocalId, t.assigner.issued[k]? =
      if k = w.localId then some p else s.assigner.issued[k]?) :
    Passed setup [(w, .unhealthy reason)] s t := by
  obtain ⟨-, htoken, hmem⟩ := hs.tracks.stands hl
  have hrunning : s.isStopping = false := by
    by_contra hstop
    rw [restartPort?, if_pos (by simpa using hstop)] at hport
    cases hport
  have hcancel : ∀ n, t.registry.tokens.isCancelled n =
      (s.registry.tokens.isCancelled n || (!h.closed && n == h.session)) := by
    intro n
    simp [hregistry, Handle.localId, hl, htoken]
  have hnew : t.registry.handles[w.localId]? =
      some ⟨w, p, s.registry.lastSession + 1, s.registry.lastSession + 1, false⟩ := by
    rw [hregistry, Registry.handles_install, Registry.lastSession_reset]
    exact if_pos rfl
  -- The token of the new session is a new one, and nothing but a shutdown could cancel it.
  have hlive : t.registry.tokens.isCancelled (s.registry.lastSession + 1) = false := by
    have hle : h.session ≤ s.registry.lastSession := hs.tracks.number_le hmem
    have hne : s.registry.lastSession + 1 ≠ h.session := by omega
    rw [hcancel, hs.tracks.unused (Nat.lt_succ_self _), Bool.or_eq_false_iff]
    exact ⟨hrunning, by simp [hne]⟩
  have hrestarted : s.restarted setup [(w, .unhealthy reason)] = [w.localId] := by
    simp [restarted, restarts, hr, hport, Verdict.isHealthy]
  refine unhealthy hs hl ht hstore ?_ hhistory hcancel (fun k hne => ?_) hnew hw.symm
    (fun hdone => ⟨hdone, ?_⟩) ?_ ?_
  · rw [isStopping, hregistry, Registry.rootCancelled_install, Registry.rootCancelled_reset,
      isStopping]
  · simp [hregistry, hissued, Handle.localId, hne]
  · have hleft : t.registry.remaining? w.localId = some r := by
      simp [hregistry, hr]
    rw [hs.statusOf_eq hl, ht.statusOf_eq hnew, hr, hleft]
    simp [hport, hlive]
  · rw [hrestarted]
    simp [Registry.session?, hnew]
  · rw [hrestarted, hregistry, Registry.lastSession_install, Registry.lastSession_reset]
    rfl

/-- Acting on one verdict does what a pass over this verdict does. -/
theorem of_treat (setup : Setup σ) (hs : s.Sound) (v : Verdict)
    (hw : ∃ h : Handle, s.registry.handles[w.localId]? = some h ∧ h.workspace = w) :
    ∃ t, s.treat setup w v = (true, t) ∧ Passed setup [(w, v)] s t := by
  obtain ⟨h, hl, hw⟩ := hw
  cases v with
  | healthy => exact ⟨s, rfl, .healthy hs w⟩
  | unhealthy reason =>
    have hsound := hs.of_deeds (treat_deeds setup w (.unhealthy reason) s)
    -- The line that is logged first changes nothing that a reset looks at.
    obtain ⟨lines, htreat⟩ := treat_unhealthy setup w reason s
    obtain ⟨o, t, hreset, hstore, hhistory, hcases⟩ := reset_of_registered setup
      (s := s.note lines) (hs.note lines) hl (congrArg Workspace.id hw)
    rw [hreset] at htreat
    rw [htreat] at hsound
    refine ⟨t, htreat, ?_⟩
    obtain ⟨hstays, hregistry, hassigner⟩ | ⟨p, r, hport, hr, hregistry, hissued⟩ := hcases
    · exact closed hs hl hsound hstore hhistory hstays hregistry hassigner
    · exact reopened hs hl hw hsound hstore hhistory hport hr hregistry hissued

/-- A pass over more verdicts does what it does about the first one, and then the rest. -/
theorem cons {x : Workspace × Verdict} (hs : s.Sound) (hfirst : Passed setup [x] s u)
    (hrest : Passed setup verdicts u t)
    (hdistinct : ∀ y ∈ verdicts, y.1.localId ≠ x.1.localId) :
    Passed setup (x :: verdicts) s t := by
  have hkept : ∀ y ∈ verdicts, Keeps y.1.localId s u := fun y hy =>
    hfirst.others _ fun z hz => by
      obtain rfl := List.mem_singleton.mp hz
      exact (hdistinct y hy).symm
  have hdone : Keeps x.1.localId u t := hrest.others _ hdistinct
  have hport : ∀ y ∈ verdicts,
      u.restartPort? setup y.1.localId = s.restartPort? setup y.1.localId := fun y hy =>
    restartPort?_congr hfirst.stopping hfirst.store (hkept y hy).issued
  have hsplit : s.restarted setup (x :: verdicts) =
      s.restarted setup [x] ++ u.restarted setup verdicts := by
    have hsame : verdicts.filter (fun y => s.restarts setup y.1 y.2) =
        verdicts.filter fun y => u.restarts setup y.1 y.2 :=
      List.filter_congr fun y hy => by
        rw [restarts, restarts, hport y hy, (hkept y hy).remaining]
    rw [restarted, restarted, restarted, ← hsame, ← List.map_append, ← List.filter_append]
    rfl
  have hlength : (s.restarted setup (x :: verdicts)).length =
      (s.restarted setup [x]).length + (u.restarted setup verdicts).length := by
    rw [hsplit, List.length_append]
  refine
    { sound := hrest.sound
      store := hrest.store.trans hfirst.store
      stopping := hrest.stopping.trans hfirst.stopping
      probes := hrest.probes.trans hfirst.probes
      cancelled := fun n hn => hrest.cancelled n (hfirst.cancelled n hn)
      others := fun k hk => ?_
      rows := fun y hy h hl => ?_
      numbers := ?_
      lastSession := ?_ }
  · have hkfirst := hk x List.mem_cons_self
    refine (hfirst.others k fun z hz => ?_).trans
      (hrest.others k fun z hz => hk z (List.mem_cons_of_mem _ hz))
    obtain rfl := List.mem_singleton.mp hz
    exact hkfirst
  · rcases List.mem_cons.mp hy with rfl | hy
    · obtain ⟨h', hl', hworkspace, hrow⟩ := hfirst.rows y (List.mem_singleton.mpr rfl) h hl
      refine ⟨h', hdone.handle.trans hl', hworkspace, ?_⟩
      rw [hdone.statusOf_eq hfirst.sound hrest.sound hl']
      exact hrow.later hrest.cancelled (hdone.token h' hl')
    · have hlu := (hkept y hy).handle.trans hl
      obtain ⟨h', hl', hworkspace, hrow⟩ := hrest.rows y hy h hlu
      refine ⟨h', hl', hworkspace, ?_⟩
      rw [(hkept y hy).statusOf_eq hs hfirst.sound hl] at hrow
      exact hrow.earlier ((hkept y hy).token h hl) (hport y hy)
        (hfirst.lastSession ▸ Nat.le_add_right _ _)
  · have hnumbers : (s.restarted setup [x]).map t.registry.session? =
        (s.restarted setup [x]).map u.registry.session? :=
      List.map_congr_left fun l hl => by
        obtain ⟨y, hy, rfl⟩ := List.mem_map.mp hl
        obtain rfl := List.mem_singleton.mp (List.mem_of_mem_filter hy)
        rw [Registry.session?, hdone.handle, Registry.session?]
    rw [hlength, hsplit, List.map_append, hnumbers, hfirst.numbers, hrest.numbers,
      hfirst.lastSession, ← List.map_append, Nat.add_right_comm, List.range'_append_1]
  · rw [hlength, hrest.lastSession, hfirst.lastSession, Nat.add_assoc]

/-- Acting on verdicts about registered workspaces goes through all of them, and answers
the unhealthy ones. -/
theorem of_treatEach (setup : Setup σ) (hs : s.Sound)
    (hregistered : ∀ x ∈ verdicts, ∃ h : Handle,
      s.registry.handles[x.1.localId]? = some h ∧ h.workspace = x.1)
    (hdistinct : verdicts.Pairwise fun x y => x.1.localId ≠ y.1.localId) :
    (s.treatEach setup verdicts).1 =
        some ((verdicts.filter fun x => !x.2.isHealthy).map fun x => x.1.localId) ∧
      Passed setup verdicts s (s.treatEach setup verdicts).2 := by
  induction verdicts generalizing s with
  | nil => exact ⟨rfl, .nil hs⟩
  | cons x rest ih =>
    obtain ⟨w, v⟩ := x
    obtain ⟨hfirst, hdistinct⟩ := List.pairwise_cons.mp hdistinct
    obtain ⟨u, htreat, hone⟩ := of_treat setup hs v (hregistered (w, v) List.mem_cons_self)
    have hkept : ∀ y ∈ rest, Keeps y.1.localId s u := fun y hy =>
      hone.others _ fun z hz => by
        obtain rfl := List.mem_singleton.mp hz
        exact hfirst y hy
    obtain ⟨hanswer, hpassed⟩ := ih hone.sound
      (fun y hy => by
        rw [(hkept y hy).handle]
        exact hregistered y (List.mem_cons_of_mem _ hy)) hdistinct
    unfold treatEach
    rw [htreat]
    refine ⟨?_, hone.cons hs hpassed fun y hy => (hfirst y hy).symm⟩
    simp only [hanswer, Option.map_some]
    cases hv : v.isHealthy <;> simp [hv]

/-- A pass over registered workspaces neither registers nor forgets anybody. -/
theorem mem_handles_iff (hpassed : Passed setup verdicts s t)
    (hregistered : ∀ x ∈ verdicts, ∃ h : Handle, s.registry.handles[x.1.localId]? = some h) :
    k ∈ t.registry.handles ↔ k ∈ s.registry.handles := by
  rw [Std.ExtTreeMap.mem_iff_isSome_getElem?, Std.ExtTreeMap.mem_iff_isSome_getElem?]
  by_cases hk : ∃ x ∈ verdicts, x.1.localId = k
  · obtain ⟨x, hx, rfl⟩ := hk
    obtain ⟨h, hl⟩ := hregistered x hx
    obtain ⟨h', hl', -⟩ := hpassed.rows x hx h hl
    simp [hl, hl']
  · have hkept := hpassed.others k fun x hx heq => hk ⟨x, hx, heq⟩
    rw [hkept.handle]

end Passed

/-- The rows and the workspaces of a registry are in the same order. -/
theorem Sound.map_localId_workspaces (hs : s.Sound) :
    s.registry.workspaces.map (·.localId) = s.registry.status.map (·.localId) := by
  rw [Registry.map_localId_status, Registry.workspaces, Registry.currentHandles, List.map_map,
    List.map_map]
  refine List.map_congr_left fun x hx => ?_
  obtain ⟨hkey, -⟩ := hs.tracks.stands (Std.ExtTreeMap.mem_toList_iff_getElem?_eq_some.mp hx)
  rw [Handle.localId] at hkey
  simp only [Function.comp_apply]
  exact hkey

/-- The registered workspaces are in the order of their local ids. -/
theorem Sound.pairwise_workspaces (hs : s.Sound) :
    s.registry.workspaces.Pairwise fun x y => compare x.localId y.localId = .lt := by
  have hrows : (s.registry.status.map (·.localId)).Pairwise fun k l => compare k l = .lt :=
    List.pairwise_map.mpr s.registry.pairwise_status
  rw [← hs.map_localId_workspaces, List.pairwise_map] at hrows
  exact hrows

theorem Sound.handle_of_mem_workspaces (hs : s.Sound) (hw : w ∈ s.registry.workspaces) :
    ∃ h : Handle, s.registry.handles[w.localId]? = some h ∧ h.workspace = w := by
  obtain ⟨h, hmem, rfl⟩ := List.mem_map.mp hw
  obtain ⟨l, hl⟩ := Registry.mem_currentHandles.mp hmem
  obtain ⟨hkey, -⟩ := hs.tracks.stands hl
  refine ⟨h, ?_, rfl⟩
  rw [Handle.localId] at hkey
  rw [hkey, hl]

/-- A pass that somebody outside asks for does what it does about the verdicts on the
registered workspaces. -/
theorem Sound.recheck_passed (setup : Setup σ) (hs : s.Sound) (probe : Workspace → Verdict) :
    (s.recheck setup probe).1 =
        some ((s.registry.workspaces.filter fun w => !(probe w).isHealthy).map (·.localId)) ∧
      Passed setup (s.registry.workspaces.map fun w => (w, probe w))
        (s.record (s.registry.workspaces.map (.probed .caller))) (s.recheck setup probe).2 := by
  have hregistered : ∀ x ∈ s.registry.workspaces.map fun w => (w, probe w), ∃ h : Handle,
      s.registry.handles[x.1.localId]? = some h ∧ h.workspace = x.1 := by
    intro x hx
    obtain ⟨w, hw, rfl⟩ := List.mem_map.mp hx
    exact hs.handle_of_mem_workspaces hw
  have hdistinct : (s.registry.workspaces.map fun w => (w, probe w)).Pairwise
      fun x y => x.1.localId ≠ y.1.localId := by
    refine List.pairwise_map.mpr (hs.pairwise_workspaces.imp fun hlt heq => ?_)
    rw [(LocalId.compare_eq_iff _ _).mpr heq] at hlt
    cases hlt
  obtain ⟨hanswer, hpassed⟩ := Passed.of_treatEach setup
    (hs.record (s.registry.workspaces.map (.probed .caller))) hregistered hdistinct
  refine ⟨hanswer.trans ?_, hpassed⟩
  rw [List.filter_map, List.map_map]
  rfl

/-- What a pass that somebody outside asks for does, exactly. It probes every registered
workspace once, in the order of the local ids, and answers the unhealthy ones in this order.
No row appears or disappears, and each row becomes what the verdict on its workspace makes of
it: a healthy workspace keeps its row and its token; an unhealthy one with a retry has one
retry less and either the next session or its old session closed; one without a retry has its
old session closed. The new sessions are numbered in the order of the local ids. -/
theorem Reachable.recheck_exact (hs : Reachable setup s) (probe : Workspace → Verdict) :
    let t := (s.recheck setup probe).2
    let restarted := s.restarted setup (s.registry.workspaces.map fun w => (w, probe w))
    (s.registry.workspaces.Pairwise fun x y => compare x.localId y.localId = .lt) ∧
    s.registry.workspaces.map (·.localId) = s.registry.status.map (·.localId) ∧
    t.history.filterMap (Happening.probed? .caller) =
      s.history.filterMap (Happening.probed? .caller) ++ s.registry.workspaces ∧
    (s.recheck setup probe).1 =
      some ((s.registry.workspaces.filter fun w => !(probe w).isHealthy).map (·.localId)) ∧
    t.registry.status.map (·.localId) = s.registry.status.map (·.localId) ∧
    (∀ w ∈ s.registry.workspaces, ∀ row ∈ s.registry.status, ∀ row' ∈ t.registry.status,
      row.localId = w.localId → row'.localId = w.localId →
        RowAfter setup s t row row' (probe w)) ∧
    restarted.map t.registry.session? =
      (List.range' (s.registry.lastSession + 1) restarted.length).map some ∧
    t.registry.lastSession = s.registry.lastSession + restarted.length := by
  intro t restarted
  have hsound := hs.sound
  obtain ⟨hanswer, hpassed⟩ := hsound.recheck_passed setup probe
  refine ⟨hsound.pairwise_workspaces, hsound.map_localId_workspaces, ?_, hanswer, ?_, ?_,
    hpassed.numbers, hpassed.lastSession⟩
  · refine hpassed.probes.trans ?_
    simp [record, Happening.probed?, Function.comp_def]
  · refine Registry.map_localId_status_congr fun k => hpassed.mem_handles_iff fun x hx => ?_
    obtain ⟨w, hw, rfl⟩ := List.mem_map.mp hx
    obtain ⟨h, hl, -⟩ := hsound.handle_of_mem_workspaces hw
    exact ⟨h, hl⟩
  · intro w hw row hrow row' hrow' hl hl'
    obtain ⟨l, h, hh, rfl⟩ := Registry.mem_status.mp hrow
    obtain ⟨l', h', hh', rfl⟩ := Registry.mem_status.mp hrow'
    obtain rfl : l = w.localId := hl
    obtain rfl : l' = w.localId := hl'
    obtain ⟨h'', hh'', -, hafter⟩ := hpassed.rows (w, probe w) (List.mem_map_of_mem hw) h hh
    obtain rfl : h'' = h' := Option.some.inj (hh''.symm.trans hh')
    exact hafter

/-- A pass over two workspaces, one of which is unhealthy and gets the third session. -/
theorem recheck_exact_one_unhealthy :
    let s := SmallFleet.started
    let probe := fun w : Workspace => if w = SmallFleet.web then .unhealthy none else .healthy
    Reachable SmallFleet.setup s ∧
      (s.recheck SmallFleet.setup probe).1 = some [SmallFleet.web.localId] ∧
      (s.recheck SmallFleet.setup probe).2.registry.session? SmallFleet.web.localId = some 3 := by
  intro s probe
  have hreachable : Reachable SmallFleet.setup s := SmallFleet.started_reachable
  have hlast : s.registry.lastSession = 2 := by decide +kernel
  have hunhealthy : (s.registry.workspaces.filter fun w => !(probe w).isHealthy).map (·.localId) =
      [SmallFleet.web.localId] := by
    decide +kernel
  have hrestarted : s.restarted SmallFleet.setup
      (s.registry.workspaces.map fun w => (w, probe w)) = [SmallFleet.web.localId] := by
    decide +kernel
  obtain ⟨-, -, -, hanswer, -, -, hnumbers, -⟩ := Reachable.recheck_exact hreachable probe
  rw [hunhealthy] at hanswer
  rw [hrestarted, hlast, List.length_singleton] at hnumbers
  simp only [List.map_cons, List.map_nil, List.range'_one, List.cons.injEq, and_true] at hnumbers
  exact ⟨hreachable, hanswer, hnumbers⟩

end Supervisor

end TunnelFleet
