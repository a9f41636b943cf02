import Mathlib.Logic.Relation
import TunnelFleet.Proofs.Ports.Resolution
import TunnelFleet.Proofs.Supervision.RegistryViews
import TunnelFleet.Supervision.Event

/-!
# Events as sequences of moves

One event can start, reset and replace any number of tunnels. This file takes every
event apart into moves that each change one thing. What each move preserves, every run
preserves; that is the only induction over runs that invariants need.

The moves that calls of the supervisor are made of are set apart as deeds: they never
touch the mailbox or the health loop.
-/

namespace TunnelFleet

/-- Whether an entry of the history is about signals or about a pass of the health loop. -/
def Happening.ofLoop : Happening → Bool
  | .reported _ _ | .received _ | .surveyed _ | .probed .healthLoop _ | .passEnded => true
  | _ => false

/-- An entry of a history that has grown is an old one or a new one. -/
theorem Happening.old_or_new {history entries before after : List Happening} {x : Happening}
    (h : history ++ entries = before ++ x :: after) :
    (∃ between, history = before ++ x :: between ∧ after = between ++ entries) ∨
      ∃ between, before = history ++ between ∧ entries = between ++ x :: after := by
  rcases List.append_eq_append_iff.mp h with ⟨between, hbefore, hentries⟩ | ⟨rest, hold, hrest⟩
  · exact .inr ⟨between, hbefore, hentries⟩
  · cases rest with
    | nil => exact .inr ⟨[], by simpa using hold.symm, hrest.symm⟩
    | cons y rest =>
      obtain ⟨rfl, hafter⟩ := List.cons.inj hrest
      exact .inl ⟨rest, hold, hafter⟩

/-- The workspaces that the current pass of the health loop is still about. -/
def HealthLoop.targets : HealthLoop → List Workspace
  | .probing ws => ws
  | .treating verdicts => verdicts.map Prod.fst
  | _ => []

/-- The workspace that a pass acts on next is one that it is about. -/
theorem HealthLoop.mem_targets {loop : HealthLoop} {w : Workspace} {v : Verdict}
    {rest : List (Workspace × Verdict)} (h : loop = .treating ((w, v) :: rest)) :
    w ∈ loop.targets := by
  rw [h]
  exact List.mem_cons_self

namespace Supervisor

variable {σ : Type} {setup : Setup σ} {s t : Supervisor σ}

/-- Takes over what a request for a port leaves behind. -/
def assign (assigner : Assigner) (store : σ) (lines : List LogLine) (s : Supervisor σ) :
    Supervisor σ :=
  { s with assigner, store }.note lines

/-- One more line belongs to what a request for a port leaves behind. -/
theorem say_assign (assigner : Assigner) (store : σ) (lines : List LogLine) (s : Supervisor σ)
    (level : LogLevel) (l : LocalId) (text : String) :
    (s.assign assigner store lines).say level l text =
      s.assign assigner store (lines ++ [.about level .supervisor l.text text]) := by
  simp only [assign, say, note, List.append_assoc]

/-- Registers the next session for a workspace and hands it to the provider. -/
def enroll (w : Workspace) (p : UInt16) (s : Supervisor σ) : Supervisor σ :=
  let number := s.registry.lastSession + 1
  { s with
    registry := (s.registry.install { workspace := w, port := p, token := number }).2
    tasks := s.tasks ++ [⟨number, w, p⟩]
    sessions := s.sessions ++ [⟨number, w, p⟩] }

/-! ## Deeds -/

/-- One thing that a call of the supervisor does. A new session is always paid for: a
start counts it, or a reset was granted a retry for it. -/
inductive Deed : Supervisor σ → Supervisor σ → Prop
  | assign (s : Supervisor σ) (assigner : Assigner) (store : σ) (lines : List LogLine)
      (hissued : ∀ l ∈ s.assigner.issued, l ∈ assigner.issued) :
      Deed s (s.assign assigner store lines)
  | note (s : Supervisor σ) (lines : List LogLine) : Deed s (s.note lines)
  | probe (s : Supervisor σ) (ws : List Workspace) : Deed s (s.record (ws.map (.probed .caller)))
  | budget (s : Supervisor σ) (l : LocalId) (n : Nat) : Deed s (s.ensureBudget l n)
  | reset (s : Supervisor σ) (l : LocalId) : Deed s (s.resetRegistered l).2
  | start (s : Supervisor σ) (w : Workspace) (p : UInt16) (hstop : s.isStopping = false)
      (hadmits : s.registry.Admits w) (hbudget : w.localId ∈ s.registry.budgets)
      (hport : w.localId ∈ s.assigner.issued) :
      Deed s ((s.enroll w p).record [.counted w])
  | restart (s : Supervisor σ) (w : Workspace) (p : UInt16) (n : Nat) (assigner : Assigner)
      (store : σ) (lines : List LogLine) (hstop : s.isStopping = false)
      (hretry : (s.resetRegistered w.localId).1 = .retry n)
      (hadmits : (s.resetRegistered w.localId).2.registry.Admits w)
      (hissued : ∀ l ∈ s.assigner.issued, l ∈ assigner.issued)
      (hport : w.localId ∈ assigner.issued) :
      Deed s (((s.resetRegistered w.localId).2.assign assigner store lines).enroll w p)

/-- What a call of the supervisor may do. -/
abbrev Deeds : Supervisor σ → Supervisor σ → Prop := Relation.ReflTransGen Deed

theorem Deed.deeds (h : Deed s t) : Deeds s t := .single h

/-- A deed leaves the mailbox and the health loop alone, and what it adds to the history
is not about them. -/
theorem Deed.frame (h : Deed s t) :
    t.mailbox = s.mailbox ∧ t.healthLoop = s.healthLoop ∧
      ∃ entries, t.history = s.history ++ entries ∧ ∀ x ∈ entries, x.ofLoop = false := by
  cases h with
  | assign assigner store lines => exact ⟨rfl, rfl, [], (List.append_nil _).symm, by simp⟩
  | note lines => exact ⟨rfl, rfl, [], (List.append_nil _).symm, by simp⟩
  | probe ws => exact ⟨rfl, rfl, _, rfl, by simp [Happening.ofLoop]⟩
  | budget l n =>
    refine ⟨rfl, rfl, _, rfl, ?_⟩
    split <;> simp [Happening.ofLoop]
  | reset l => exact ⟨rfl, rfl, _, rfl, by simp [Happening.ofLoop]⟩
  | start w p => exact ⟨rfl, rfl, _, rfl, by simp [Happening.ofLoop]⟩
  | restart w p n => exact ⟨rfl, rfl, _, rfl, by simp [Happening.ofLoop]⟩

/-- A call leaves the mailbox and the health loop alone, and what it adds to the history
is not about them. -/
theorem Deeds.frame (h : Deeds s t) :
    t.mailbox = s.mailbox ∧ t.healthLoop = s.healthLoop ∧
      ∃ entries, t.history = s.history ++ entries ∧ ∀ x ∈ entries, x.ofLoop = false := by
  induction h with
  | refl => exact ⟨rfl, rfl, [], (List.append_nil _).symm, by simp⟩
  | tail _ hdeed ih =>
    obtain ⟨hmailbox, hloop, entries, hhistory, hentries⟩ := ih
    obtain ⟨hmailbox', hloop', entries', hhistory', hentries'⟩ := hdeed.frame
    refine ⟨hmailbox'.trans hmailbox, hloop'.trans hloop, entries ++ entries', ?_, ?_⟩
    · rw [hhistory', hhistory, List.append_assoc]
    · intro x hx
      exact (List.mem_append.mp hx).elim (hentries x) (hentries' x)

/-- A launch either is refused and changes nothing, or registers the next session. -/
theorem launch_cases (w : Workspace) (p : UInt16) (s : Supervisor σ) :
    (∃ current : Handle, s.registry.handles[w.localId]? = some current ∧
      current.workspace.id ≠ w.id ∧
      s.launch w p = (.refused (.conflict w.localId current.workspace.id), s)) ∨
    (s.registry.Admits w ∧ s.launch w p = (.started p, s.enroll w p)) := by
  obtain ⟨current, hcurrent, hid, hreplace⟩ | ⟨hadmits, hreplace⟩ :=
    s.registry.replace_cases { workspace := w, port := p, token := s.registry.lastSession + 1 }
  · refine .inl ⟨current, hcurrent, hid, ?_⟩
    rw [launch, hreplace]
    rfl
  · refine .inr ⟨hadmits, ?_⟩
    rw [launch, hreplace]
    rfl

/-- The start of a tunnel asks for a port, unless the supervisor is stopping; it then
either fails or registers the next session. -/
theorem startTunnel_cases (setup : Setup σ) (w : Workspace) (s : Supervisor σ) :
    ∃ assigner store lines, (∀ l ∈ s.assigner.issued, l ∈ assigner.issued) ∧
      ((∃ o, (∀ p, o ≠ .started p) ∧ s.startTunnel setup w = (o, s.assign assigner store lines)) ∨
      ∃ p, s.isStopping = false ∧ w.localId ∈ assigner.issued ∧ s.registry.Admits w ∧
        s.startTunnel setup w = (.started p, (s.assign assigner store lines).enroll w p)) := by
  unfold startTunnel
  cases hstop : s.isStopping with
  | true =>
    refine ⟨s.assigner, s.store, [], fun l hl => hl, .inl ⟨.refused .shuttingDown, by simp, ?_⟩⟩
    simp [assign, note]
  | false =>
    let r := s.assigner.resolve setup.ports setup.sampler w.localId s.store
    refine ⟨r.assigner, r.store, r.logs, fun l hl => Assigner.mem_issued_resolve hl, ?_⟩
    simp only [Bool.false_eq_true, if_false]
    cases hresult : r.result with
    | aborted => exact .inl ⟨.aborted, by simp, rfl⟩
    | refused e => exact .inl ⟨.refused (.port e), by simp, rfl⟩
    | port p =>
      have hport := Assigner.mem_issued_resolve_self hresult
      obtain ⟨current, -, -, hlaunch⟩ | ⟨hadmits, hlaunch⟩ :=
        launch_cases w p (s.assign r.assigner r.store r.logs)
      · exact .inl ⟨_, by simp, hlaunch⟩
      · exact .inr ⟨p, trivial, hport, hadmits, hlaunch⟩

theorem startOne_deeds (setup : Setup σ) (w : Workspace) (s : Supervisor σ) :
    Deeds s (s.startOne setup w).2 := by
  have hbudget : Deeds s (s.ensureBudget w.localId setup.retryBudget) :=
    (Deed.budget s w.localId setup.retryBudget).deeds
  obtain ⟨assigner, store, lines, hissued, ⟨o, ho, hstart⟩ | ⟨p, hstop, hport, hadmits, hstart⟩⟩ :=
    startTunnel_cases setup w (s.ensureBudget w.localId setup.retryBudget)
  · have hassign := hbudget.tail (Deed.assign _ assigner store lines hissued)
    unfold startOne
    rw [hstart]
    cases o with
    | started p => exact absurd rfl (ho p)
    | refused e => exact hassign.tail (.note _ _)
    | aborted => exact hassign
  · have hassign := hbudget.tail (Deed.assign _ assigner store lines hissued)
    unfold startOne
    rw [hstart]
    refine hassign.tail (.start _ w p hstop hadmits ?_ hport)
    rw [Registry.mem_budgets_iff]
    exact (congrArg Option.isSome (s.registry.remaining?_ensureBudget _ _ _)).trans (by simp)

theorem startEach_deeds (setup : Setup σ) (ws : List Workspace) (s : Supervisor σ) :
    Deeds s (s.startEach setup ws).2 := by
  induction ws generalizing s with
  | nil => exact .refl
  | cons w ws ih =>
    have hone := startOne_deeds setup w s
    unfold startEach
    cases hstart : s.startOne setup w with
    | mk o t =>
      rw [hstart] at hone
      cases o with
      | started p => exact hone.trans (ih t)
      | refused e => exact hone.trans (ih t)
      | aborted => exact hone

/-- What a start does is a sequence of deeds. -/
theorem start_deeds (setup : Setup σ) (ws : List Workspace) (s : Supervisor σ) :
    Deeds s (s.start setup ws).2 := by
  unfold start
  split
  · exact .refl
  · exact .head (.assign s _ s.store _ fun l hl => Assigner.mem_issued_reserve hl)
      (startEach_deeds setup ws _)

/-- The reset of a workspace takes a retry and, if it got one, asks for a port. Then either
no session is registered, or the next one is. -/
theorem reset_outcomes (setup : Setup σ) (w : Workspace) (s : Supervisor σ) :
    ∃ assigner store lines, (∀ l ∈ s.assigner.issued, l ∈ assigner.issued) ∧
      ((∃ o, (∀ r p, o ≠ some (.restarted r p)) ∧
          s.reset setup w = (o, (s.resetRegistered w.localId).2.assign assigner store lines)) ∨
        ∃ r p, s.isStopping = false ∧ (s.resetRegistered w.localId).1 = .retry r ∧
          w.localId ∈ assigner.issued ∧ (s.resetRegistered w.localId).2.registry.Admits w ∧
          s.reset setup w = (some (.restarted r p),
            ((s.resetRegistered w.localId).2.assign assigner store lines).enroll w p)) := by
  unfold reset
  cases hdecision : s.resetRegistered w.localId with
  | mk decision t =>
    obtain rfl : (s.resetRegistered w.localId).2 = t := by rw [hdecision]
    cases decision with
    | unknown => exact ⟨s.assigner, s.store, _, fun l hl => hl, .inl ⟨_, by simp, rfl⟩⟩
    | exhausted first =>
      cases first with
      | true => exact ⟨s.assigner, s.store, _, fun l hl => hl, .inl ⟨_, by simp, rfl⟩⟩
      | false =>
        refine ⟨s.assigner, s.store, [], fun l hl => hl, .inl ⟨some .exhausted, by simp, ?_⟩⟩
        simp [assign, note, resetRegistered, record]
    | retry n =>
      obtain ⟨assigner, store, lines, hissued,
        ⟨o, ho, hstart⟩ | ⟨p, hstop, hport, hadmits, hstart⟩⟩ :=
        startTunnel_cases setup w (s.resetRegistered w.localId).2
      · simp only [hstart]
        cases o with
        | started p => exact absurd rfl (ho p)
        | refused e =>
          exact ⟨assigner, store, _, hissued, .inl ⟨some (.restartFailed n), by simp,
            congrArg (Prod.mk _) (say_assign assigner store lines _ _ _ _)⟩⟩
        | aborted => exact ⟨assigner, store, lines, hissued, .inl ⟨none, by simp, rfl⟩⟩
      · simp only [hstart]
        refine ⟨assigner, store, lines, hissued, .inr ⟨n, p, ?_, rfl, hport, hadmits, rfl⟩⟩
        exact (s.registry.rootCancelled_reset w.localId).symm.trans hstop

/-- What a reset does is a sequence of deeds. -/
theorem reset_deeds (setup : Setup σ) (w : Workspace) (s : Supervisor σ) :
    Deeds s (s.reset setup w).2 := by
  obtain ⟨assigner, store, lines, hissued,
    ⟨o, -, hreset⟩ | ⟨r, p, hstop, hretry, hport, hadmits, hreset⟩⟩ := reset_outcomes setup w s
  · rw [hreset]
    exact (Deed.reset s w.localId).deeds.tail (.assign _ assigner store lines hissued)
  · rw [hreset]
    exact Deed.deeds (.restart s w p r assigner store lines hstop hretry hadmits hissued hport)

theorem treat_deeds (setup : Setup σ) (w : Workspace) (v : Verdict) (s : Supervisor σ) :
    Deeds s (s.treat setup w v).2 := by
  cases v with
  | healthy => exact .refl
  | unhealthy reason => exact .head (.note s _) (reset_deeds setup w _)

theorem treatEach_deeds (setup : Setup σ) (verdicts : List (Workspace × Verdict))
    (s : Supervisor σ) : Deeds s (s.treatEach setup verdicts).2 := by
  induction verdicts generalizing s with
  | nil => exact .refl
  | cons verdict rest ih =>
    obtain ⟨w, v⟩ := verdict
    have hone := treat_deeds setup w v s
    unfold treatEach
    cases htreat : s.treat setup w v with
    | mk goesOn t =>
      rw [htreat] at hone
      cases goesOn with
      | true => exact hone.trans (ih t)
      | false => exact hone

/-- What a pass that somebody outside asks for does is a sequence of deeds. -/
theorem recheck_deeds (setup : Setup σ) (probe : Workspace → Verdict) (s : Supervisor σ) :
    Deeds s (s.recheck setup probe).2 :=
  .head (.probe s _) (treatEach_deeds setup _ _)

/-! ## Steps of the health loop -/

theorem of_receiveSignal (h : s.receiveSignal = some t) :
    ∃ signal, s.healthLoop = .listening ∧ s.mailbox.pending = some signal ∧
      t = ({ s with mailbox := s.mailbox.receive.2, healthLoop := .alerted }.record
        [.received signal]).note [received signal] := by
  unfold receiveSignal at h
  split at h
  · next signal mailbox hwas hreceive =>
    obtain rfl := Option.some.inj h
    obtain ⟨hpending, rfl⟩ := Prod.mk.inj hreceive
    exact ⟨signal, hwas, hpending, rfl⟩
  · cases h

theorem of_takeSnapshot (h : s.takeSnapshot = some t) :
    s.healthLoop = .alerted ∧
      t = { s with healthLoop := .probing s.registry.workspaces }.record
        [.surveyed s.registry.workspaces] := by
  unfold takeSnapshot at h
  split at h
  · next hwas => exact ⟨hwas, (Option.some.inj h).symm⟩
  · cases h

theorem of_collectVerdicts {probe : Workspace → Verdict} (h : s.collectVerdicts probe = some t) :
    ∃ ws, s.healthLoop = .probing ws ∧
      t = { s with healthLoop := .treating (ws.map fun w => (w, probe w)) }.record
        (ws.map (.probed .healthLoop)) := by
  unfold collectVerdicts at h
  split at h
  · next ws hwas => exact ⟨ws, hwas, (Option.some.inj h).symm⟩
  · cases h

/-- The treatment of a verdict is a call, after which the loop goes on or has to give up. -/
theorem of_treatNext (h : s.treatNext setup = some t) :
    (s.healthLoop = .treating [] ∧ t = { s with healthLoop := .listening }.record [.passEnded]) ∨
      ∃ w v rest, s.healthLoop = .treating ((w, v) :: rest) ∧
        ((s.treat setup w v).1 = true ∧
            t = { (s.treat setup w v).2 with healthLoop := .treating rest } ∨
          (s.treat setup w v).1 = false ∧ t = (s.treat setup w v).2.endLoop) := by
  unfold treatNext at h
  split at h
  · next hwas => exact .inl ⟨hwas, (Option.some.inj h).symm⟩
  · next w v rest hwas =>
    refine .inr ⟨w, v, rest, hwas, ?_⟩
    split at h
    · next u hu => exact .inl ⟨by rw [hu], by rw [hu]; exact (Option.some.inj h).symm⟩
    · next u hu => exact .inr ⟨by rw [hu], by rw [hu]; exact (Option.some.inj h).symm⟩
  · cases h

/-- A loop that acts on verdicts can act on the next one. -/
theorem isSome_treatNext {verdicts : List (Workspace × Verdict)}
    (h : s.healthLoop = .treating verdicts) : (s.treatNext setup).isSome = true := by
  cases verdicts with
  | nil => simp [treatNext, h]
  | cons x rest =>
    obtain ⟨w, v⟩ := x
    simp only [treatNext, h]
    split <;> rfl

theorem of_stopLoop (h : s.stopLoop = some t) :
    s.healthLoop = .listening ∧ s.isStopping = true ∧ t = s.endLoop := by
  unfold stopLoop at h
  split at h
  · next hwas =>
    obtain ⟨hstop, h⟩ := Option.ite_none_right_eq_some.mp h
    exact ⟨hwas, hstop, (Option.some.inj h).symm⟩
  · cases h

/-! ## Moves -/

/-- One thing that an event does. -/
inductive Move : Supervisor σ → Supervisor σ → Prop
  | deed {s t : Supervisor σ} (h : Deed s t) : Move s t
  /-- Signals come and go, and the health loop goes on. Its pass is about workspaces that
  it was about before or that are registered. -/
  | loop (s : Supervisor σ) (mailbox : Mailbox) (healthLoop : HealthLoop)
      (entries : List Happening) (lines : List LogLine)
      (hentries : ∀ x ∈ entries, x.ofLoop = true)
      (htargets : ∀ w ∈ healthLoop.targets,
        w ∈ s.healthLoop.targets ∨ w ∈ s.registry.workspaces) :
      Move s (({ s with mailbox, healthLoop }.record entries).note lines)
  | leave (s : Supervisor σ) (session : Session) : Move s { s with tasks := s.tasks.erase session }
  | close (s : Supervisor σ) (l : LocalId) :
      Move s { s with registry := (s.registry.closeHandle l).2 }
  | closeAll (s : Supervisor σ) : Move s { s with registry := s.registry.closeAll.2 }
  | cancelRoot (s : Supervisor σ) :
      Move s { s with registry := { s.registry with tokens := s.registry.tokens.cancelRoot } }
  | store (s : Supervisor σ) (store : σ) : Move s { s with store }

/-- What an event may do. -/
abbrev Moves : Supervisor σ → Supervisor σ → Prop := Relation.ReflTransGen Move

theorem Deeds.moves (h : Deeds s t) : Moves s t :=
  Relation.ReflTransGen.mono (fun _ _ => Move.deed) _ _ h

private theorem loop_moves (s : Supervisor σ) (mailbox : Mailbox) (healthLoop : HealthLoop)
    (entries : List Happening) (hentries : ∀ x ∈ entries, x.ofLoop = true)
    (htargets : ∀ w ∈ healthLoop.targets,
      w ∈ s.healthLoop.targets ∨ w ∈ s.registry.workspaces) :
    Moves s ({ s with mailbox, healthLoop }.record entries) := by
  have h := Move.loop s mailbox healthLoop entries [] hentries htargets
  simp only [note, List.append_nil] at h
  exact .single h

private theorem report_moves (s : Supervisor σ) (signal : Signal) : Moves s (s.report signal).2 :=
  loop_moves s _ s.healthLoop [.reported signal _] (by simp [Happening.ofLoop])
    fun _ hw => .inl hw

private theorem closeSession_moves (s : Supervisor σ) (l : LocalId) (n : Nat) :
    Moves s { s with registry := (s.registry.closeSession l n).2 } := by
  rw [Registry.closeSession_eq]
  split
  · exact .single (.close s l)
  · exact .refl

@[simp] theorem tasks_sessionEnded (s : Supervisor σ) (x : Session) (ending : Ending) :
    (s.sessionEnded x ending).tasks = s.tasks.erase x := by
  unfold sessionEnded
  dsimp only
  split <;> rfl

@[simp] theorem sessions_sessionEnded (s : Supervisor σ) (x : Session) (ending : Ending) :
    (s.sessionEnded x ending).sessions = s.sessions := by
  unfold sessionEnded
  dsimp only
  split <;> rfl

@[simp] theorem healthLoop_sessionEnded (s : Supervisor σ) (x : Session) (ending : Ending) :
    (s.sessionEnded x ending).healthLoop = s.healthLoop := by
  unfold sessionEnded
  dsimp only
  split <;> rfl

/-- A session that ends closes the handle of its local id, if that, and nothing else that is
registered. -/
theorem registry_sessionEnded (s : Supervisor σ) (x : Session) (ending : Ending) :
    (s.sessionEnded x ending).registry = s.registry ∨
      (s.sessionEnded x ending).registry = (s.registry.closeHandle x.localId).2 := by
  unfold sessionEnded
  dsimp only
  split
  · exact .inl rfl
  · change (s.registry.closeSession x.localId x.number).2 = _ ∨
      (s.registry.closeSession x.localId x.number).2 = _
    rw [Registry.closeSession_eq]
    split
    · exact .inr rfl
    · exact .inl rfl

private theorem sessionEnded_moves (s : Supervisor σ) (session : Session) (ending : Ending) :
    Moves s (s.sessionEnded session ending) := by
  have hleave : Moves s { s with tasks := s.tasks.erase session } := .single (.leave s session)
  unfold sessionEnded
  dsimp only
  split
  · exact hleave
  · refine .trans ?_ (report_moves _ _)
    refine .trans ?_ (closeSession_moves _ _ _)
    exact hleave.tail (.deed (.note _ _))

private theorem endLoop_moves (s : Supervisor σ) : Moves s s.endLoop := by
  have h := loop_moves s s.mailbox.abandon .ended [] (by simp) (by simp [HealthLoop.targets])
  simp only [record, List.append_nil] at h
  exact h

private theorem beginLoop_moves (s : Supervisor σ) : Moves s s.beginLoop.2 := by
  unfold beginLoop
  split
  · have h := loop_moves s s.mailbox .listening [] (by simp) (by simp [HealthLoop.targets])
    simpa only [record, List.append_nil] using h
  · exact .single (.deed (.note _ _))

private theorem receiveSignal_moves (h : s.receiveSignal = some t) : Moves s t := by
  obtain ⟨signal, -, -, rfl⟩ := of_receiveSignal h
  exact .single (.loop s _ .alerted _ _ (by simp [Happening.ofLoop]) (by simp [HealthLoop.targets]))

private theorem takeSnapshot_moves (h : s.takeSnapshot = some t) : Moves s t := by
  obtain ⟨-, rfl⟩ := of_takeSnapshot h
  exact loop_moves s s.mailbox (.probing s.registry.workspaces) _ (by simp [Happening.ofLoop])
    fun w hw => .inr hw

private theorem collectVerdicts_moves {probe : Workspace → Verdict}
    (h : s.collectVerdicts probe = some t) : Moves s t := by
  obtain ⟨targets, hloop, rfl⟩ := of_collectVerdicts h
  refine loop_moves s s.mailbox _ (targets.map (.probed .healthLoop))
    (by simp [Happening.ofLoop]) fun w hw => .inl ?_
  rw [hloop]
  simpa [HealthLoop.targets] using hw

private theorem treatNext_moves (h : s.treatNext setup = some t) : Moves s t := by
  obtain ⟨-, rfl⟩ | ⟨w, v, rest, hloop, ⟨-, rfl⟩ | ⟨-, rfl⟩⟩ := of_treatNext h
  · exact loop_moves s s.mailbox .listening _ (by simp [Happening.ofLoop])
      (by simp [HealthLoop.targets])
  · have htreat := treat_deeds setup w v s
    obtain ⟨-, hsame, -⟩ := htreat.frame
    have hrest := loop_moves (s.treat setup w v).2 (s.treat setup w v).2.mailbox (.treating rest)
      [] (by simp) fun x hx => .inl (by
        rw [hsame, hloop]
        exact List.mem_cons_of_mem _ hx)
    simp only [record, List.append_nil] at hrest
    exact htreat.moves.trans hrest
  · exact (treat_deeds setup w v s).moves.trans (endLoop_moves _)

private theorem stopLoop_moves (h : s.stopLoop = some t) : Moves s t := by
  obtain ⟨-, -, rfl⟩ := of_stopLoop h
  exact endLoop_moves s

/-- Every event is a sequence of moves. -/
theorem moves_of_apply {e : Event σ} (h : e.apply setup s = some t) : Moves s t := by
  cases e with
  | start ws => obtain rfl := Option.some.inj h; exact (start_deeds setup ws s).moves
  | reset w => obtain rfl := Option.some.inj h; exact (reset_deeds setup w s).moves
  | recheck probe => obtain rfl := Option.some.inj h; exact (recheck_deeds setup probe s).moves
  | report signal => obtain rfl := Option.some.inj h; exact report_moves s signal
  | sessionEnded session ending =>
    obtain ⟨-, h⟩ := Option.ite_none_right_eq_some.mp h
    obtain rfl := Option.some.inj h
    exact sessionEnded_moves s session ending
  | closeSession l n => obtain rfl := Option.some.inj h; exact closeSession_moves s l n
  | closeAll => obtain rfl := Option.some.inj h; exact .single (.closeAll s)
  | resetRegistered l => obtain rfl := Option.some.inj h; exact .single (.deed (.reset s l))
  | ensureBudget l n => obtain rfl := Option.some.inj h; exact .single (.deed (.budget s l n))
  | beginLoop => obtain rfl := Option.some.inj h; exact beginLoop_moves s
  | receiveSignal => exact receiveSignal_moves h
  | takeSnapshot => exact takeSnapshot_moves h
  | collectVerdicts probe => exact collectVerdicts_moves h
  | treatNext => exact treatNext_moves h
  | stopLoop => exact stopLoop_moves h
  | shutdown =>
    obtain rfl := Option.some.inj h
    exact .tail (.single (.cancelRoot s)) (.closeAll _)
  | storeChanged store => obtain rfl := Option.some.inj h; exact .single (.store s store)

/-! ## Runs -/

private theorem Deed.keeps_sessions (h : Deed s t) : s.sessions <+: t.sessions := by
  cases h with
  | start w p => exact List.prefix_append _ _
  | restart w p n => exact List.prefix_append _ _
  | _ => exact List.prefix_refl _

/-- No session is ever forgotten. -/
theorem Moves.keeps_sessions (h : Moves s t) : s.sessions <+: t.sessions := by
  induction h with
  | refl => exact List.prefix_refl _
  | tail _ hmove ih =>
    refine ih.trans ?_
    cases hmove with
    | deed h => exact h.keeps_sessions
    | _ => exact List.prefix_refl _

/-- What happened stays in the history. -/
theorem Moves.keeps_history (h : Moves s t) : s.history <+: t.history := by
  induction h with
  | refl => exact List.prefix_refl _
  | tail _ hmove ih =>
    refine ih.trans ?_
    cases hmove with
    | deed h =>
      obtain ⟨-, -, entries, hhistory, -⟩ := h.frame
      exact ⟨entries, hhistory.symm⟩
    | loop mailbox healthLoop entries lines => exact List.prefix_append _ _
    | _ => exact List.prefix_refl _

private theorem Deed.isStopping_eq (h : Deed s t) : t.isStopping = s.isStopping := by
  cases h with
  | budget l n =>
    exact congrArg Tokens.rootCancelled (s.registry.tokens_ensureBudget l n)
  | reset l => exact s.registry.rootCancelled_reset l
  | start w p => exact s.registry.rootCancelled_install _
  | restart w p n assigner store lines =>
    exact (Registry.rootCancelled_install _ _).trans (s.registry.rootCancelled_reset w.localId)
  | _ => rfl

/-- No call of the supervisor but a shutdown makes it stop. -/
theorem Deeds.isStopping_eq (h : Deeds s t) : t.isStopping = s.isStopping := by
  induction h with
  | refl => rfl
  | tail _ hdeed ih => exact hdeed.isStopping_eq.trans ih

/-- A shutdown is for good. -/
theorem Moves.isStopping (h : Moves s t) (hs : s.isStopping = true) : t.isStopping = true := by
  induction h with
  | refl => exact hs
  | tail _ hmove ih =>
    cases hmove with
    | deed h => exact h.isStopping_eq.trans ih
    | close l => exact (Registry.rootCancelled_closeHandle _ l).trans ih
    | closeAll => exact (Registry.rootCancelled_closeAll _).trans ih
    | cancelRoot => rfl
    | _ => exact ih

/-- A run leads from one state to another. -/
def Leads (setup : Setup σ) : Supervisor σ → Supervisor σ → Prop :=
  Relation.ReflTransGen fun s t => ∃ e : Event σ, e.apply setup s = some t

/-- The first of some events happens first. -/
theorem applyAll_cons {e : Event σ} {events : List (Event σ)} :
    Event.applyAll setup (e :: events) s = some t ↔
      ∃ m, e.apply setup s = some m ∧ Event.applyAll setup events m = some t := by
  rw [Event.applyAll, List.foldlM_cons]
  exact Option.bind_eq_some_iff

/-- Events that can happen one after the other are a run. -/
theorem Leads.of_foldlM {events : List (Event σ)}
    (h : events.foldlM (fun s e => e.apply setup s) s = some t) : Leads setup s t := by
  induction events generalizing s with
  | nil =>
    obtain rfl := Option.some.inj h
    exact .refl
  | cons e events ih =>
    obtain ⟨u, hu, hrest⟩ := applyAll_cons.mp h
    exact .head ⟨e, hu⟩ (ih hrest)

/-- What a run does is a sequence of moves. -/
theorem Leads.moves (h : Leads setup s t) : Moves s t := by
  induction h with
  | refl => exact .refl
  | tail _ hstep ih =>
    obtain ⟨e, he⟩ := hstep
    exact ih.trans (moves_of_apply he)

theorem Reachable.leads (hs : Reachable setup s) (h : Leads setup s t) : Reachable setup t := by
  induction h with
  | refl => exact hs
  | tail _ hstep ih =>
    obtain ⟨e, he⟩ := hstep
    exact .step e ih he

/-- What holds at first and is preserved by every move holds in every reachable state. -/
theorem Reachable.of_moves {P : Supervisor σ → Prop} (hfresh : ∀ s : Supervisor σ, s.IsFresh → P s)
    (hmove : ∀ s t : Supervisor σ, Move s t → P s → P t) (hs : Reachable setup s) : P s := by
  induction hs with
  | fresh h => exact hfresh _ h
  | step e _ ht ih =>
    have hmoves := moves_of_apply ht
    clear ht
    induction hmoves with
    | refl => exact ih
    | tail _ hlast ihmoves => exact hmove _ _ hlast ihmoves

end Supervisor

end TunnelFleet
