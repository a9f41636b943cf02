import Mathlib.Data.List.Nodup
import Mathlib.Data.List.Range
import TunnelFleet.Proofs.Supervision.Moves

/-!
# The books of a supervisor

Three records say which sessions a supervisor has: the registered handles with their
close-once flags, the tokens that the sessions listen to, and the list of all sessions
that were handed to the provider. `Registry.Tracks` says that they agree, and
`Supervisor.Sound` adds that whoever is registered has a budget and a port. Both are
kept by every move.
-/

namespace TunnelFleet

/-- The session that a handle stands for. -/
def Handle.asSession (h : Handle) : Session := ⟨h.session, h.workspace, h.port⟩

namespace Registry

/-- The registry and its tokens agree with the list of all sessions so far. -/
structure Tracks (r : Registry) (sessions : List Session) : Prop where
  /-- Sessions are numbered from one in the order in which they started. -/
  numbered : sessions.map Session.number = List.range' 1 r.lastSession
  /-- A handle stands for a session of the local id, and listens to its token. -/
  stands : ∀ {l : LocalId} {h : Handle}, r.handles[l]? = some h →
    h.localId = l ∧ h.token = h.session ∧ h.asSession ∈ sessions
  /-- Whoever closed a handle cancelled its token. -/
  shut_cancelled : ∀ {l : LocalId} {h : Handle}, r.handles[l]? = some h → h.closed = true →
    r.tokens.isCancelled h.token = true
  /-- Only the root can have cancelled the tokens of sessions that are yet to come. -/
  unused : ∀ {n : Nat}, r.lastSession < n → r.tokens.isCancelled n = r.tokens.rootCancelled
  /-- A session that nobody cancelled is the one that its local id has now. -/
  current : ∀ {x : Session}, x ∈ sessions → r.tokens.isCancelled x.number = false →
    ∃ h : Handle, r.handles[x.localId]? = some h ∧ h.asSession = x

namespace Tracks

variable {r r' : Registry} {sessions : List Session} {l : LocalId} {h : Handle} {x y : Session}

theorem number_le (ht : r.Tracks sessions) (hx : x ∈ sessions) : x.number ≤ r.lastSession := by
  have hmem := List.mem_map_of_mem (f := Session.number) hx
  rw [ht.numbered, List.mem_range'_1] at hmem
  omega

/-- A session is known by its number. -/
theorem eq_of_number_eq (ht : r.Tracks sessions) (hx : x ∈ sessions) (hy : y ∈ sessions)
    (hnumber : x.number = y.number) : x = y := by
  have hnodup : (sessions.map Session.number).Nodup := by
    rw [ht.numbered]
    exact List.nodup_range'
  exact List.inj_on_of_nodup_map hnodup hx hy hnumber

theorem token_le (ht : r.Tracks sessions) (hl : r.handles[l]? = some h) :
    h.token ≤ r.lastSession := by
  obtain ⟨-, htoken, hmem⟩ := ht.stands hl
  rw [htoken]
  exact ht.number_le hmem

/-- No two local ids have the same session. -/
theorem session_ne {k : LocalId} {h' : Handle} (ht : r.Tracks sessions)
    (hl : r.handles[l]? = some h) (hk : r.handles[k]? = some h') (hne : k ≠ l) :
    h'.session ≠ h.session := by
  obtain ⟨hkeyl, -, hmeml⟩ := ht.stands hl
  obtain ⟨hkeyk, -, hmemk⟩ := ht.stands hk
  intro hsession
  have hsame : h'.asSession = h.asSession := ht.eq_of_number_eq hmemk hmeml hsession
  have hworkspace : h'.workspace = h.workspace := congrArg Session.workspace hsame
  rw [← hkeyk, ← hkeyl, Handle.localId, Handle.localId, hworkspace] at hne
  exact hne rfl

theorem empty : Tracks {} [] where
  numbered := rfl
  stands hl := by simp at hl
  shut_cancelled hl := by simp at hl
  unused _ := rfl
  current hx := by simp at hx

/-- Shutting handles and cancelling tokens keeps the books in order, as long as every shut
handle's token is cancelled and no token is revived. -/
theorem of_shut (ht : r.Tracks sessions) (hlast : r'.lastSession = r.lastSession)
    (hhandles : ∀ l : LocalId, r'.handles[l]? = r.handles[l]? ∨
      r'.handles[l]? = r.handles[l]?.map Handle.shut)
    (hshut : ∀ {l : LocalId} {h : Handle}, r'.handles[l]? = some h → h.closed = true →
      r'.tokens.isCancelled h.token = true)
    (hkept : ∀ n, r.tokens.isCancelled n = true → r'.tokens.isCancelled n = true)
    (hunused : ∀ {n}, r.lastSession < n → r'.tokens.isCancelled n = r'.tokens.rootCancelled) :
    r'.Tracks sessions where
  numbered := by rw [hlast, ht.numbered]
  stands {l h} hl := by
    rcases hhandles l with hsame | hclosed
    · exact ht.stands (hsame ▸ hl)
    · rw [hclosed] at hl
      obtain ⟨before, hbefore, rfl⟩ := Option.map_eq_some_iff.mp hl
      obtain ⟨hkey, htoken, hmem⟩ := ht.stands hbefore
      exact ⟨hkey, htoken, hmem⟩
  shut_cancelled := hshut
  unused hn := hunused (hlast ▸ hn)
  current {x} hx hlive := by
    have hlive' : r.tokens.isCancelled x.number = false := by
      by_contra hcancelled
      rw [hkept _ (by simpa using hcancelled)] at hlive
      cases hlive
    obtain ⟨h, hl, hsession⟩ := ht.current hx hlive'
    rcases hhandles x.localId with hsame | hclosed
    · exact ⟨h, hsame.trans hl, hsession⟩
    · exact ⟨h.shut, by rw [hclosed, hl]; rfl, hsession⟩

theorem closeHandle (ht : r.Tracks sessions) (l : LocalId) :
    (r.closeHandle l).2.Tracks sessions := by
  refine ht.of_shut (lastSession_closeHandle r l) (r.kept_or_shut_closeHandle l)
    (fun {k h} hk hclosed => ?_) (fun n hn => ?_) (fun {n} hn => ?_)
  · rw [handles_closeHandle] at hk
    rw [isCancelled_closeHandle]
    split at hk
    · obtain ⟨before, hbefore, rfl⟩ := Option.map_eq_some_iff.mp hk
      cases hwas : before.closed with
      | true => simp [ht.shut_cancelled hbefore hwas]
      | false => simp [hbefore, hwas]
    · simp [ht.shut_cancelled hk hclosed]
  · simp [hn]
  · rw [isCancelled_closeHandle, rootCancelled_closeHandle, ht.unused hn]
    cases hl : r.handles[l]? with
    | none => simp
    | some h =>
      have htoken := ht.token_le hl
      have hne : n ≠ h.token := by omega
      simp [hne]

theorem closeAll (ht : r.Tracks sessions) : r.closeAll.2.Tracks sessions := by
  refine ht.of_shut rfl (fun k => .inr (handles_closeAll r k)) (fun {k h} hk hclosed => ?_)
    (fun n hn => ?_) (fun {n} hn => ?_)
  · rw [handles_closeAll] at hk
    obtain ⟨before, hbefore, rfl⟩ := Option.map_eq_some_iff.mp hk
    rw [isCancelled_closeAll]
    cases hwas : before.closed with
    | true => simp [ht.shut_cancelled hbefore hwas]
    | false =>
      have hmem := mem_currentHandles.mpr ⟨k, hbefore⟩
      rw [Bool.or_eq_true, List.any_eq_true]
      exact .inr ⟨before, hmem, by simp [hwas]⟩
  · simp [isCancelled_closeAll, hn]
  · have hnone : (r.currentHandles.any fun h => !h.closed && n == h.token) = false := by
      rw [List.any_eq_false]
      intro h hmem
      obtain ⟨l, hl⟩ := mem_currentHandles.mp hmem
      have htoken := ht.token_le hl
      have hne : n ≠ h.token := by omega
      simp [hne]
    rw [isCancelled_closeAll, rootCancelled_closeAll, ht.unused hn, hnone, Bool.or_false]

theorem cancelRoot (ht : r.Tracks sessions) :
    { r with tokens := r.tokens.cancelRoot }.Tracks sessions :=
  ht.of_shut rfl (fun _ => .inl rfl) (fun _ _ => by simp) (fun _ _ => by simp)
    (fun _ => by simp [Tokens.isCancelled, Tokens.cancelRoot])

/-- The books do not depend on the budgets. -/
theorem congr (ht : r.Tracks sessions) (hhandles : r'.handles = r.handles)
    (htokens : r'.tokens = r.tokens) (hlast : r'.lastSession = r.lastSession) :
    r'.Tracks sessions := by
  obtain ⟨handles, budgets, lastSession, tokens⟩ := r'
  subst hhandles htokens hlast
  exact ⟨ht.numbered, ht.stands, ht.shut_cancelled, ht.unused, ht.current⟩

theorem ensureBudget (ht : r.Tracks sessions) (l : LocalId) (n : Nat) :
    (r.ensureBudget l n).Tracks sessions :=
  ht.congr (handles_ensureBudget r l n) (tokens_ensureBudget r l n) (lastSession_ensureBudget r l n)

theorem reset (ht : r.Tracks sessions) (l : LocalId) : (r.reset l).2.Tracks sessions := by
  obtain ⟨budgets, hspend⟩ := (r.closeHandle l).2.spend_eq l
  refine (ht.closeHandle l).congr ?_ ?_ ?_
  all_goals rw [Registry.reset, hspend]

/-- A new session takes the place of the one before it. -/
theorem install (ht : r.Tracks sessions) (w : Workspace) (p : UInt16) :
    (r.install { workspace := w, port := p, token := r.lastSession + 1 }).2.Tracks
      (sessions ++ [⟨r.lastSession + 1, w, p⟩]) where
  numbered := by
    rw [List.map_append, ht.numbered, lastSession_install, List.range'_1_concat, Nat.add_comm 1]
    rfl
  stands {l h} hl := by
    rw [handles_install] at hl
    split at hl
    · next hkey =>
      obtain rfl := Option.some.inj hl
      exact ⟨hkey.symm, rfl, List.mem_append_right _ (List.mem_singleton.mpr rfl)⟩
    · obtain ⟨hkey, htoken, hmem⟩ := ht.stands hl
      exact ⟨hkey, htoken, List.mem_append_left _ hmem⟩
  shut_cancelled {l h} hl hclosed := by
    rw [handles_install] at hl
    split at hl
    · obtain rfl := Option.some.inj hl
      cases hclosed
    · simp [ht.shut_cancelled hl hclosed]
  unused {n} hn := by
    rw [lastSession_install] at hn
    rw [isCancelled_install, rootCancelled_install, ht.unused (by omega)]
    cases hl : r.handles[(⟨w, p, r.lastSession + 1, 0, false⟩ : Handle).localId]? with
    | none => simp
    | some h =>
      have htoken := ht.token_le hl
      have hne : n ≠ h.token := by omega
      simp [hne]
  current {x} hx hlive := by
    rw [isCancelled_install, Bool.or_eq_false_iff] at hlive
    obtain ⟨hlive, hspared⟩ := hlive
    rcases List.mem_append.mp hx with hold | hnew
    · obtain ⟨h, hl, rfl⟩ := ht.current hold hlive
      refine ⟨h, ?_, rfl⟩
      obtain ⟨-, htoken, -⟩ := ht.stands hl
      rw [handles_install, if_neg, hl]
      intro hkey
      -- The handle of the same local id was released, so its session is cancelled.
      rw [← hkey, hl] at hspared
      have hopen : h.closed = false := by
        cases hclosed : h.closed with
        | false => rfl
        | true =>
          have hdone := ht.shut_cancelled hl hclosed
          rw [htoken] at hdone
          exact hdone.symm.trans hlive
      simp [hopen, htoken, Handle.asSession] at hspared
    · obtain rfl := List.mem_singleton.mp hnew
      exact ⟨_, (handles_install _ _ _).trans (if_pos rfl), rfl⟩

end Tracks

end Registry

namespace Supervisor

variable {σ : Type} {setup : Setup σ} {s t : Supervisor σ}

/-- The books of a supervisor are in order. -/
structure Sound (s : Supervisor σ) : Prop where
  tracks : s.registry.Tracks s.sessions
  /-- Whoever is registered has a budget. -/
  budgeted : ∀ l ∈ s.registry.handles, l ∈ s.registry.budgets
  /-- Whoever is registered has a port. -/
  issued : ∀ l ∈ s.registry.handles, l ∈ s.assigner.issued
  /-- A pass is about workspaces that are registered. -/
  targets : ∀ w ∈ s.healthLoop.targets, w.localId ∈ s.registry.handles

namespace Sound

/-- The books do not depend on logs, history, tasks, store and mailbox. -/
theorem congr (hs : s.Sound) (hregistry : t.registry = s.registry)
    (hsessions : t.sessions = s.sessions) (hissued : ∀ l ∈ s.assigner.issued, l ∈ t.assigner.issued)
    (htargets : ∀ w ∈ t.healthLoop.targets, w.localId ∈ t.registry.handles) : t.Sound where
  tracks := by rw [hregistry, hsessions]; exact hs.tracks
  budgeted := by rw [hregistry]; exact hs.budgeted
  issued l hl := hissued l (hs.issued l (hregistry ▸ hl))
  targets := htargets

theorem note (hs : s.Sound) (lines : List LogLine) : (s.note lines).Sound :=
  hs.congr rfl rfl (fun _ hl => hl) hs.targets

theorem record (hs : s.Sound) (entries : List Happening) : (s.record entries).Sound :=
  hs.congr rfl rfl (fun _ hl => hl) hs.targets

theorem assign (hs : s.Sound) {assigner : Assigner} {store : σ} {lines : List LogLine}
    (hissued : ∀ l ∈ s.assigner.issued, l ∈ assigner.issued) :
    (s.assign assigner store lines).Sound :=
  hs.congr rfl rfl hissued hs.targets

theorem ensureBudget (hs : s.Sound) (l : LocalId) (n : Nat) : (s.ensureBudget l n).Sound where
  tracks := hs.tracks.ensureBudget l n
  budgeted k hk := by
    have hold : k ∈ s.registry.handles := (s.registry.handles_ensureBudget l n) ▸ hk
    exact Registry.mem_budgets_ensureBudget.mpr (.inr (hs.budgeted k hold))
  issued k hk := hs.issued k ((s.registry.handles_ensureBudget l n) ▸ hk)
  targets w hw := (s.registry.handles_ensureBudget l n).symm ▸ hs.targets w hw

theorem resetRegistered (hs : s.Sound) (l : LocalId) : (s.resetRegistered l).2.Sound where
  tracks := hs.tracks.reset l
  budgeted k hk :=
    Registry.mem_budgets_reset.mpr (hs.budgeted k (Registry.mem_handles_reset.mp hk))
  issued k hk := hs.issued k (Registry.mem_handles_reset.mp hk)
  targets w hw := Registry.mem_handles_reset.mpr (hs.targets w hw)

theorem enroll (hs : s.Sound) {w : Workspace} {p : UInt16}
    (hbudget : w.localId ∈ s.registry.budgets) (hport : w.localId ∈ s.assigner.issued) :
    (s.enroll w p).Sound where
  tracks := hs.tracks.install w p
  budgeted k hk := by
    rcases Registry.mem_handles_install.mp hk with rfl | hold
    · exact hbudget
    · exact hs.budgeted k hold
  issued k hk := by
    rcases Registry.mem_handles_install.mp hk with rfl | hold
    · exact hport
    · exact hs.issued k hold
  targets x hx := Registry.mem_handles_install.mpr (.inr (hs.targets x hx))

theorem closeHandle (hs : s.Sound) (l : LocalId) :
    { s with registry := (s.registry.closeHandle l).2 }.Sound where
  tracks := hs.tracks.closeHandle l
  budgeted k hk := by
    rw [Registry.budgets_closeHandle]
    exact hs.budgeted k (Registry.mem_handles_closeHandle.mp hk)
  issued k hk := hs.issued k (Registry.mem_handles_closeHandle.mp hk)
  targets w hw := Registry.mem_handles_closeHandle.mpr (hs.targets w hw)

theorem closeAll (hs : s.Sound) : { s with registry := s.registry.closeAll.2 }.Sound where
  tracks := hs.tracks.closeAll
  budgeted k hk := hs.budgeted k (Registry.mem_handles_closeAll.mp hk)
  issued k hk := hs.issued k (Registry.mem_handles_closeAll.mp hk)
  targets w hw := Registry.mem_handles_closeAll.mpr (hs.targets w hw)

theorem of_fresh (hs : s.IsFresh) : s.Sound := by
  obtain ⟨store, assigner, rfl⟩ := hs
  exact
    { tracks := .empty
      budgeted := by simp
      issued := by simp
      targets := by simp [HealthLoop.targets] }

theorem of_deed (hs : s.Sound) (h : Deed s t) : t.Sound := by
  cases h with
  | assign assigner store lines hissued => exact hs.assign hissued
  | note lines => exact hs.note lines
  | probe ws => exact hs.record _
  | budget l n => exact hs.ensureBudget l n
  | reset l => exact hs.resetRegistered l
  | start w p hstop hadmits hbudget hport => exact (hs.enroll hbudget hport).record _
  | restart w p n assigner store lines hstop hretry hadmits hissued hport =>
    refine ((hs.resetRegistered w.localId).assign hissued).enroll ?_ hport
    have hleft : s.registry.remaining? w.localId = some (n + 1) :=
      Registry.reset_eq_retry_iff.mp hretry
    exact Registry.mem_budgets_reset.mpr (Registry.mem_budgets_iff.mpr (by rw [hleft]; rfl))

/-- Every move keeps the books in order. -/
theorem of_move (hs : s.Sound) (h : Move s t) : t.Sound := by
  cases h with
  | deed h => exact hs.of_deed h
  | loop mailbox healthLoop entries lines hentries htargets =>
    refine hs.congr rfl rfl (fun _ hl => hl) fun w hw => ?_
    rcases htargets w hw with hold | hregistered
    · exact hs.targets w hold
    · obtain ⟨h, hmem, rfl⟩ := List.mem_map.mp hregistered
      obtain ⟨l, hl⟩ := Registry.mem_currentHandles.mp hmem
      obtain ⟨hkey, -⟩ := hs.tracks.stands hl
      change h.localId ∈ s.registry.handles
      rw [hkey]
      exact Registry.mem_handles_iff.mpr ⟨h, hl⟩
  | leave session => exact hs.congr rfl rfl (fun _ hl => hl) hs.targets
  | close l => exact hs.closeHandle l
  | closeAll => exact hs.closeAll
  | cancelRoot => exact ⟨hs.tracks.cancelRoot, hs.budgeted, hs.issued, hs.targets⟩
  | store store => exact hs.congr rfl rfl (fun _ hl => hl) hs.targets

theorem of_deeds (hs : s.Sound) (h : Deeds s t) : t.Sound := by
  induction h with
  | refl => exact hs
  | tail _ hdeed ih => exact ih.of_deed hdeed

variable {l : LocalId} {h : Handle}

/-- A handle is over if and only if its session's token is cancelled. -/
theorem isClosed_eq (hs : s.Sound) (hl : s.registry.handles[l]? = some h) :
    h.isClosed s.registry.tokens = s.registry.tokens.isCancelled h.session := by
  obtain ⟨-, htoken, -⟩ := hs.tracks.stands hl
  unfold Handle.isClosed
  cases hclosed : h.closed with
  | false => rw [htoken, Bool.false_or]
  | true => rw [← htoken, hs.tracks.shut_cancelled hl hclosed, Bool.true_or]

/-- Once its handle is released, a session is cancelled. -/
theorem isCancelled_or_release (hs : s.Sound) (hl : s.registry.handles[l]? = some h) :
    (s.registry.tokens.isCancelled h.session || (!h.closed && h.session == h.session)) = true := by
  obtain ⟨-, htoken, -⟩ := hs.tracks.stands hl
  cases hclosed : h.closed with
  | true => simp [← htoken, hs.tracks.shut_cancelled hl hclosed]
  | false => simp

/-- Whoever is registered has some retries left, possibly none. -/
theorem remaining_of_registered (hs : s.Sound) (hl : s.registry.handles[l]? = some h) :
    ∃ r, s.registry.remaining? l = some r := by
  have hmem : l ∈ s.registry.handles := Registry.mem_handles_iff.mpr ⟨h, hl⟩
  exact Option.isSome_iff_exists.mp (Registry.mem_budgets_iff.mp (hs.budgeted l hmem))

/-- The row of a registered workspace. -/
theorem statusOf_eq (hs : s.Sound) (hl : s.registry.handles[l]? = some h) :
    s.registry.statusOf l h =
      { localId := l
        port := h.port
        isOpen := !s.registry.tokens.isCancelled h.session
        session := h.session
        remaining := (s.registry.remaining? l).getD 0 } := by
  rw [Registry.statusOf, hs.isClosed_eq hl]

end Sound

/-- The books of a supervisor are in order in every state that a run reaches. -/
theorem Reachable.sound (hs : Reachable setup s) : s.Sound :=
  hs.of_moves (fun _ h => .of_fresh h) fun _ _ hmove h => h.of_move hmove

/-! ## Whoever is registered can be reset -/

variable {w : Workspace}

/-- A workspace that has a port gets an answer when it is to be started again. -/
theorem startTunnel_ne_aborted (setup : Setup σ) (hissued : w.localId ∈ s.assigner.issued) :
    (s.startTunnel setup w).1 ≠ .aborted := by
  obtain ⟨q, hq⟩ := Option.isSome_iff_exists.mp (Std.ExtTreeMap.mem_iff_isSome_getElem?.mp hissued)
  unfold startTunnel
  split
  · exact nofun
  · obtain ⟨e, -, hresolve⟩ | ⟨pin, assigner, logs, -, hresolve, -⟩ :=
      Assigner.resolve_of_issued setup.ports setup.sampler s.store hq
    · rw [hresolve]
      exact nofun
    · rw [hresolve]
      change ((s.assign assigner s.store logs).launch w (pin.getD q)).1 ≠ .aborted
      obtain ⟨current, -, -, hlaunch⟩ | ⟨-, hlaunch⟩ :=
        launch_cases w (pin.getD q) (s.assign assigner s.store logs)
      · rw [hlaunch]
        exact nofun
      · rw [hlaunch]
        exact nofun

theorem isSome_reset (setup : Setup σ) (hissued : w.localId ∈ s.assigner.issued) :
    (s.reset setup w).1.isSome = true := by
  unfold reset
  cases hreset : s.resetRegistered w.localId with
  | mk decision t =>
    have hassigner : t.assigner = s.assigner := by
      obtain rfl : (s.resetRegistered w.localId).2 = t := by rw [hreset]
      rfl
    cases decision with
    | retry n =>
      have hanswer := startTunnel_ne_aborted setup (s := t) (w := w) (hassigner ▸ hissued)
      cases hstart : t.startTunnel setup w with
      | mk o u =>
        rw [hstart] at hanswer
        cases o with
        | started p => simp only [hstart, Option.isSome_some]
        | refused e => simp only [hstart, Option.isSome_some]
        | aborted => exact absurd rfl hanswer
    | exhausted first => rfl
    | unknown => rfl

/-- An unhealthy workspace is reset after something was logged. -/
theorem treat_unhealthy (setup : Setup σ) (w : Workspace) (reason : Option String)
    (s : Supervisor σ) : ∃ lines, s.treat setup w (.unhealthy reason) =
      (((s.note lines).reset setup w).1.isSome, ((s.note lines).reset setup w).2) :=
  ⟨_, rfl⟩

/-- Acting on the verdict on a registered workspace lets the supervisor go on. -/
theorem Sound.treat_goesOn (setup : Setup σ) (hs : s.Sound) (v : Verdict)
    (hmem : w.localId ∈ s.registry.handles) : (s.treat setup w v).1 = true := by
  cases v with
  | healthy => rfl
  | unhealthy reason =>
    obtain ⟨lines, htreat⟩ := treat_unhealthy setup w reason s
    rw [htreat]
    exact isSome_reset setup (s := s.note lines) (hs.issued _ hmem)

/-- The health loop is through with its pass, or acts on the next verdict and goes on. -/
theorem Sound.treatNext_cases (hs : s.Sound) (h : s.treatNext setup = some t) :
    (s.healthLoop = .treating [] ∧ t = { s with healthLoop := .listening }.record [.passEnded]) ∨
      ∃ w v rest, s.healthLoop = .treating ((w, v) :: rest) ∧
        t = { (s.treat setup w v).2 with healthLoop := .treating rest } := by
  obtain hfinish | ⟨w, v, rest, hwas, ⟨-, rfl⟩ | ⟨hfails, -⟩⟩ := of_treatNext h
  · exact .inl hfinish
  · exact .inr ⟨w, v, rest, hwas, rfl⟩
  · have hregistered := hs.targets w (HealthLoop.mem_targets hwas)
    rw [hs.treat_goesOn setup v hregistered] at hfails
    cases hfails

end Supervisor

/-! ## A small fleet -/

namespace SmallFleet

/-- Ports are kept in a table and drawn in turn, and three retries are given. -/
def setup : Setup PinTable where
  ports := PinTable.asStore
  sampler := { number := id, bindable := fun _ _ => true }

/-- A workspace with the local id `web-1001`. -/
def web : Workspace := { id := "prod-1001", name := "web", address := "web.example.dev" }

/-- A workspace with the local id `db-2002`. -/
def db : Workspace := { id := "prod-2002", name := "db", address := "db.example.dev" }

/-- A supervisor that has done nothing yet and draws at most eight times for one port. -/
def fresh : Supervisor PinTable := { store := {}, assigner := { drawing := { maxAttempts := 8 } } }

/-- A supervisor that has just started the tunnels of both workspaces. -/
def started : Supervisor PinTable := (fresh.start setup [web, db]).2

theorem started_reachable : started.Reachable setup :=
  .step (.start [web, db]) (.fresh ⟨_, _, rfl⟩) rfl

end SmallFleet

end TunnelFleet
