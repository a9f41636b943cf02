import Mathlib.Algebra.GroupWithZero.Nat
import Mathlib.Algebra.Order.BigOperators.Group.List
import Mathlib.Algebra.Order.Group.Nat
import TunnelFleet.Proofs.Supervision.SignalCoverage

/-!
# A cascade of failures dies out

A session that ends reports a signal, the signal leads to a pass, the pass restarts
workspaces, and the new sessions may end at once. Such a cascade feeds on two things only:
the sessions that have not ended, and the retries that the registered workspaces have left.
A restart turns one retry into one session, so together they never grow. The steps of the
passes in between are paid for in advance: each session that ends pays for the signal that
it may report and for the whole pass that the signal may lead to.
-/

namespace TunnelFleet

/-! ## The events of a cascade -/

namespace Event

variable {σ : Type}

/-- Whether an event needs nobody outside: a session ends, or the health loop goes on. -/
def ofCascade : Event σ → Bool
  | .sessionEnded _ _ | .receiveSignal | .takeSnapshot | .collectVerdicts _ | .treatNext
  | .stopLoop => true
  | _ => false

/-- Whether a signal may be reported: by somebody outside, or by a session that ends. -/
def reports : Event σ → Bool
  | .report _ | .sessionEnded _ _ => true
  | _ => false

/-- Whether a session ends. -/
def endsSession : Event σ → Bool
  | .sessionEnded _ _ => true
  | _ => false

/-- Whether a pass of the health loop begins: its signal is received. -/
def beginsPass : Event σ → Bool
  | .receiveSignal => true
  | _ => false

/-- Whether a pass of the health loop settles on the workspaces that it probes. -/
def surveys : Event σ → Bool
  | .takeSnapshot => true
  | _ => false

/-- In a cascade only sessions that end report signals. -/
theorem reports_of_ofCascade {e : Event σ} (h : e.ofCascade = true) :
    e.reports = e.endsSession := by
  cases e with
  | report signal => cases h
  | _ => rfl

end Event

/-! ## Retries that are left -/

namespace Registry

variable {r r' : Registry} {l : LocalId}

/-- The retries that all registered workspaces have left together. -/
def retriesLeft (r : Registry) : Nat := (r.status.map (·.remaining)).sum

theorem retriesLeft_eq (r : Registry) :
    r.retriesLeft =
      ((r.status.map (·.localId)).map fun l => (r.remaining? l).getD 0).sum := by
  rw [retriesLeft, status, List.map_map, List.map_map, List.map_map]
  rfl

theorem mem_map_localId_status : l ∈ r.status.map (·.localId) ↔ l ∈ r.handles := by
  rw [map_localId_status, Std.ExtTreeMap.map_fst_toList_eq_keys, Std.ExtTreeMap.mem_keys]

theorem size_eq (r : Registry) : r.size = (r.status.map (·.localId)).length := by
  rw [map_localId_status, List.length_map, Std.ExtTreeMap.length_toList, size]

theorem length_workspaces (r : Registry) : r.workspaces.length = r.size := by
  rw [workspaces, currentHandles, List.length_map, List.length_map, Std.ExtTreeMap.length_toList,
    size]

/-- If no workspace has more retries than before, neither have all of them together. -/
theorem retriesLeft_le (hkeys : ∀ k, k ∈ r'.handles ↔ k ∈ r.handles)
    (hleft : ∀ k, (r'.remaining? k).getD 0 ≤ (r.remaining? k).getD 0) :
    r'.retriesLeft ≤ r.retriesLeft := by
  rw [retriesLeft_eq, retriesLeft_eq, map_localId_status_congr hkeys]
  exact List.sum_le_sum fun k _ => hleft k

/-- If one of them has less retries than before, so have all of them together. -/
theorem retriesLeft_lt (hkeys : ∀ k, k ∈ r'.handles ↔ k ∈ r.handles)
    (hleft : ∀ k, (r'.remaining? k).getD 0 ≤ (r.remaining? k).getD 0) (hl : l ∈ r.handles)
    (hless : (r'.remaining? l).getD 0 < (r.remaining? l).getD 0) :
    r'.retriesLeft < r.retriesLeft := by
  rw [retriesLeft_eq, retriesLeft_eq, map_localId_status_congr hkeys]
  exact List.sum_lt_sum _ _ (fun k _ => hleft k) ⟨l, mem_map_localId_status.mpr hl, hless⟩

theorem remaining_reset_le (r : Registry) (l k : LocalId) :
    ((r.reset l).2.remaining? k).getD 0 ≤ (r.remaining? k).getD 0 := by
  rw [remaining?_reset]
  split
  · next hkl =>
    rw [hkl]
    cases r.remaining? l with
    | none => exact le_rfl
    | some n => exact Nat.sub_le n 1
  · exact le_rfl

end Registry

namespace Supervisor

variable {σ : Type} {setup : Setup σ} {s t u : Supervisor σ} {w : Workspace}

/-! ## Sessions are paid for -/

/-- A new session of a registered workspace registers nobody. -/
theorem mem_handles_enroll (hmem : w.localId ∈ s.registry.handles) (p : UInt16) (k : LocalId) :
    k ∈ (s.enroll w p).registry.handles ↔ k ∈ s.registry.handles := by
  refine Registry.mem_handles_install.trans ⟨fun h => ?_, .inr⟩
  rcases h with rfl | hk
  · exact hmem
  · exact hk

/-- A new session of a registered workspace leaves the budgets alone. -/
theorem retriesLeft_enroll_le (hmem : w.localId ∈ s.registry.handles) (p : UInt16) :
    (s.enroll w p).registry.retriesLeft ≤ s.registry.retriesLeft :=
  Registry.retriesLeft_le (mem_handles_enroll hmem p) fun _ => le_rfl

/-- What happens inside a cascade: nobody is registered who was not, and every new session is
paid for by a retry. -/
structure Pays (s t : Supervisor σ) : Prop where
  keys : ∀ k, k ∈ t.registry.handles ↔ k ∈ s.registry.handles
  sessions : t.sessions.length + t.registry.retriesLeft ≤
    s.sessions.length + s.registry.retriesLeft
  tasks : t.tasks.length + t.registry.retriesLeft ≤ s.tasks.length + s.registry.retriesLeft

namespace Pays

theorem size_eq (h : Pays s t) : t.registry.size = s.registry.size := by
  rw [Registry.size_eq, Registry.size_eq, Registry.map_localId_status_congr h.keys]

/-- Whoever leaves the registry and the sessions alone has nothing to pay. -/
theorem of_registry (hregistry : t.registry = s.registry) (hsessions : t.sessions = s.sessions)
    (htasks : t.tasks = s.tasks) : Pays s t where
  keys k := by rw [hregistry]
  sessions := by rw [hregistry, hsessions]
  tasks := by rw [hregistry, htasks]

theorem trans (hst : Pays s t) (htu : Pays t u) : Pays s u where
  keys k := (htu.keys k).trans (hst.keys k)
  sessions := htu.sessions.trans hst.sessions
  tasks := htu.tasks.trans hst.tasks

/-- The reset of a registered workspace takes a retry before it opens a session. -/
theorem of_reset (setup : Setup σ) (hmem : w.localId ∈ s.registry.handles) :
    Pays s (s.reset setup w).2 := by
  have hkeys : ∀ k, k ∈ (s.registry.reset w.localId).2.handles ↔ k ∈ s.registry.handles :=
    fun k => Registry.mem_handles_reset
  have hleft := s.registry.remaining_reset_le w.localId
  have hle := Registry.retriesLeft_le hkeys hleft
  obtain ⟨assigner, store, lines, -, ⟨o, -, hreset⟩ | ⟨r, p, -, hretry, -, -, hreset⟩⟩ :=
    reset_outcomes setup w s
  · rw [hreset]
    exact ⟨hkeys, Nat.add_le_add_left hle _, Nat.add_le_add_left hle _⟩
  · rw [hreset]
    have hr : s.registry.remaining? w.localId = some (r + 1) :=
      Registry.reset_eq_retry_iff.mp hretry
    have hless : (s.registry.reset w.localId).2.retriesLeft < s.registry.retriesLeft := by
      refine Registry.retriesLeft_lt hkeys hleft hmem ?_
      simp [hr]
    let m := (s.resetRegistered w.localId).2.assign assigner store lines
    have hmemm : w.localId ∈ m.registry.handles := (hkeys w.localId).mpr hmem
    have hsame : (m.enroll w p).registry.retriesLeft ≤ (s.registry.reset w.localId).2.retriesLeft :=
      retriesLeft_enroll_le hmemm p
    have hsessions : (m.enroll w p).sessions.length = s.sessions.length + 1 := by
      simp [m, enroll, assign, note, resetRegistered, record]
    have htasks : (m.enroll w p).tasks.length = s.tasks.length + 1 := by
      simp [m, enroll, assign, note, resetRegistered, record]
    refine ⟨fun k => (mem_handles_enroll hmemm p k).trans (hkeys k), ?_, ?_⟩
    · change (m.enroll w p).sessions.length + (m.enroll w p).registry.retriesLeft ≤ _
      omega
    · change (m.enroll w p).tasks.length + (m.enroll w p).registry.retriesLeft ≤ _
      omega

theorem of_treat (setup : Setup σ) (v : Verdict) (hmem : w.localId ∈ s.registry.handles) :
    Pays s (s.treat setup w v).2 := by
  cases v with
  | healthy => exact .of_registry rfl rfl rfl
  | unhealthy reason =>
    obtain ⟨lines, htreat⟩ := treat_unhealthy setup w reason s
    have hnote : Pays s (s.note lines) := .of_registry rfl rfl rfl
    have hreset : Pays (s.note lines) ((s.note lines).reset setup w).2 := of_reset setup hmem
    rw [htreat]
    exact hnote.trans hreset

/-- A session that ends is one session less to come. -/
theorem of_sessionEnded {x : Session} (hx : x ∈ s.tasks) (ending : Ending) :
    Pays s (s.sessionEnded x ending) ∧
      (s.sessionEnded x ending).tasks.length + (s.sessionEnded x ending).registry.retriesLeft <
        s.tasks.length + s.registry.retriesLeft := by
  have hkeys : ∀ k, k ∈ (s.sessionEnded x ending).registry.handles ↔ k ∈ s.registry.handles := by
    intro k
    rcases s.registry_sessionEnded x ending with hsame | hclosed
    · rw [hsame]
    · rw [hclosed, Registry.mem_handles_closeHandle]
  have hleft : (s.sessionEnded x ending).registry.retriesLeft ≤ s.registry.retriesLeft := by
    refine Registry.retriesLeft_le hkeys fun k => le_of_eq ?_
    rcases s.registry_sessionEnded x ending with hsame | hclosed
    · rw [hsame]
    · rw [hclosed, Registry.remaining?, Registry.budgets_closeHandle, Registry.remaining?]
  have hlength := List.length_erase_of_mem hx
  have hsome : 0 < s.tasks.length := List.length_pos_of_mem hx
  have hless : (s.sessionEnded x ending).tasks.length +
      (s.sessionEnded x ending).registry.retriesLeft <
        s.tasks.length + s.registry.retriesLeft := by
    rw [tasks_sessionEnded, hlength]
    omega
  refine ⟨⟨hkeys, ?_, hless.le⟩, hless⟩
  rw [sessions_sessionEnded]
  exact Nat.add_le_add_left hleft _

end Pays

/-! ## How much a cascade can still do -/

/-- How many signals are pending: one or none. -/
def waiting (s : Supervisor σ) : Nat := s.mailbox.pending.isSome.toNat

theorem waiting_le_one (s : Supervisor σ) : s.waiting ≤ 1 := Bool.toNat_le _

end Supervisor

/-- How many steps the health loop can still take without another signal, if so many
workspaces are registered. -/
def HealthLoop.effort (registered : Nat) : HealthLoop → Nat
  | .idle | .ended => 0
  | .listening => 1
  | .treating verdicts => verdicts.length + 2
  | .probing ws => ws.length + 3
  | .alerted => registered + 4

namespace Supervisor

variable {σ : Type} {setup : Setup σ} {s t u : Supervisor σ} {w : Workspace}

/-- What a cascade can still live on: a bound for the number of its events. A session that has
not ended, or a retry that may lead to one, is worth its end, a signal and a whole pass. -/
def unrest (s : Supervisor σ) : Nat :=
  (s.registry.size + 5) * (s.tasks.length + s.registry.retriesLeft) +
    (s.registry.size + 4) * s.waiting + s.healthLoop.effort s.registry.size

/-- A signal may be pending that was not, if a session has ended for it. -/
private theorem unrest_lt_of_ended (hpays : Pays s t) (hloop : t.healthLoop = s.healthLoop)
    (hless : t.tasks.length + t.registry.retriesLeft < s.tasks.length + s.registry.retriesLeft) :
    t.unrest < s.unrest := by
  have hwaiting := t.waiting_le_one
  have hsignal : (s.registry.size + 4) * t.waiting ≤ (s.registry.size + 4) * 1 :=
    Nat.mul_le_mul_left _ hwaiting
  have hended : (s.registry.size + 5) * (t.tasks.length + t.registry.retriesLeft + 1) ≤
      (s.registry.size + 5) * (s.tasks.length + s.registry.retriesLeft) :=
    Nat.mul_le_mul_left _ hless
  rw [Nat.mul_succ] at hended
  rw [unrest, unrest, hpays.size_eq, hloop]
  omega

/-- A step of the health loop takes some of its effort, and makes up for the signal that it
may have received. -/
private theorem unrest_lt_of_step (hpays : Pays s t)
    (hless : (s.registry.size + 4) * t.waiting + t.healthLoop.effort s.registry.size <
      (s.registry.size + 4) * s.waiting + s.healthLoop.effort s.registry.size) :
    t.unrest < s.unrest := by
  have hbooks : (s.registry.size + 5) * (t.tasks.length + t.registry.retriesLeft) ≤
      (s.registry.size + 5) * (s.tasks.length + s.registry.retriesLeft) :=
    Nat.mul_le_mul_left _ hpays.tasks
  rw [unrest, unrest, hpays.size_eq]
  omega

/-- A step of the health loop in which it treats nobody. -/
private theorem unrest_lt_of_quiet (hregistry : t.registry = s.registry)
    (hsessions : t.sessions = s.sessions) (htasks : t.tasks = s.tasks)
    (hless : (s.registry.size + 4) * t.waiting + t.healthLoop.effort s.registry.size <
      (s.registry.size + 4) * s.waiting + s.healthLoop.effort s.registry.size) :
    Pays s t ∧ t.unrest < s.unrest :=
  have hpays := Pays.of_registry hregistry hsessions htasks
  ⟨hpays, unrest_lt_of_step hpays hless⟩

/-- Every event of a cascade makes it have less to live on, and opens no session that is not
paid for. -/
theorem Sound.unrest_lt_of_apply (hs : s.Sound) {e : Event σ} (hcascade : e.ofCascade = true)
    (h : e.apply setup s = some t) : Pays s t ∧ t.unrest < s.unrest := by
  cases e with
  | sessionEnded x ending =>
    obtain ⟨hx, h⟩ := Option.ite_none_right_eq_some.mp h
    obtain rfl := Option.some.inj h
    obtain ⟨hpays, hless⟩ := Pays.of_sessionEnded hx ending
    exact ⟨hpays, unrest_lt_of_ended hpays (s.healthLoop_sessionEnded x ending) hless⟩
  | receiveSignal =>
    obtain ⟨signal, hwas, hpending, rfl⟩ := of_receiveSignal h
    refine unrest_lt_of_quiet rfl rfl rfl ?_
    simp [waiting, hpending, hwas, HealthLoop.effort, Supervisor.note, Supervisor.record,
      Mailbox.receive]
  | takeSnapshot =>
    obtain ⟨hwas, rfl⟩ := of_takeSnapshot h
    refine unrest_lt_of_quiet rfl rfl rfl ?_
    simp [waiting, hwas, HealthLoop.effort, Supervisor.record, Registry.length_workspaces]
  | collectVerdicts probe =>
    obtain ⟨ws, hwas, rfl⟩ := of_collectVerdicts h
    refine unrest_lt_of_quiet rfl rfl rfl ?_
    simp [waiting, hwas, HealthLoop.effort, Supervisor.record]
  | treatNext =>
    obtain ⟨hwas, rfl⟩ | ⟨w, v, rest, hwas, rfl⟩ := hs.treatNext_cases h
    · refine unrest_lt_of_quiet rfl rfl rfl ?_
      simp [waiting, hwas, HealthLoop.effort, Supervisor.record]
    · have htreat := Pays.of_treat setup v (hs.targets w (HealthLoop.mem_targets hwas))
      obtain ⟨hmailbox, -, -⟩ := (treat_deeds setup w v s).frame
      have hpays : Pays s { (s.treat setup w v).2 with healthLoop := .treating rest } :=
        htreat.trans (.of_registry rfl rfl rfl)
      refine ⟨hpays, unrest_lt_of_step hpays ?_⟩
      simp [waiting, hwas, hmailbox, HealthLoop.effort]
  | stopLoop =>
    obtain ⟨hwas, -, rfl⟩ := of_stopLoop h
    refine unrest_lt_of_quiet rfl rfl rfl ?_
    simp [waiting, endLoop, hwas, HealthLoop.effort, Mailbox.abandon]
  | _ => cases hcascade

/-- A cascade has at most as many events as it has to live on. -/
theorem Reachable.length_le_of_cascade (hs : Reachable setup s) {events : List (Event σ)}
    (hcascade : ∀ e ∈ events, e.ofCascade = true)
    (h : Event.applyAll setup events s = some t) :
    Pays s t ∧ events.length + t.unrest ≤ s.unrest := by
  induction events generalizing s with
  | nil =>
    obtain rfl := Option.some.inj h
    exact ⟨.of_registry rfl rfl rfl, by simp⟩
  | cons e events ih =>
    obtain ⟨m, hm, hrest⟩ := applyAll_cons.mp h
    obtain ⟨hpays, hless⟩ := hs.sound.unrest_lt_of_apply (hcascade e List.mem_cons_self) hm
    obtain ⟨hpays', hle⟩ := ih (hs.step e hm) (fun x hx => hcascade x (List.mem_cons_of_mem _ hx))
      hrest
    refine ⟨hpays.trans hpays', ?_⟩
    rw [List.length_cons]
    omega

/-! ## Passes need signals -/

/-- One if the health loop has received a signal whose pass has not looked at the registry. -/
def alerted (s : Supervisor σ) : Nat := if s.healthLoop = .alerted then 1 else 0

/-- What an event does to the number of signals that wait, and to a pass that is about to look
at the registry. -/
structure Heeds (e : Event σ) (s t : Supervisor σ) : Prop where
  /-- A signal waits because it was reported, and until a pass begins with it. -/
  waiting : t.waiting + (if e.beginsPass then 1 else 0) ≤ s.waiting + if e.reports then 1 else 0
  /-- A pass looks at the registry because it has begun, and once. -/
  alerted : t.alerted + (if e.surveys then 1 else 0) ≤ s.alerted + if e.beginsPass then 1 else 0

namespace Heeds

/-- An event that leaves the mailbox and the health loop alone. -/
private theorem of_quiet {e : Event σ} (hmailbox : t.mailbox = s.mailbox)
    (hloop : t.healthLoop = s.healthLoop) (hbegins : e.beginsPass = false)
    (hsurveys : e.surveys = false) : Heeds e s t where
  waiting := by rw [Supervisor.waiting, hmailbox, hbegins, Supervisor.waiting]; simp
  alerted := by rw [Supervisor.alerted, hloop, hbegins, hsurveys, Supervisor.alerted]

private theorem of_deeds {e : Event σ} (h : Deeds s t) (hbegins : e.beginsPass = false)
    (hsurveys : e.surveys = false) : Heeds e s t := by
  obtain ⟨hmailbox, hloop, -⟩ := h.frame
  exact of_quiet hmailbox hloop hbegins hsurveys

/-- An event in which a signal may be reported. -/
private theorem of_report {e : Event σ} (hreports : e.reports = true)
    (hloop : t.healthLoop = s.healthLoop) (hbegins : e.beginsPass = false)
    (hsurveys : e.surveys = false) : Heeds e s t where
  waiting := by
    have hle := t.waiting_le_one
    rw [hbegins, hreports]
    simp
    omega
  alerted := by rw [Supervisor.alerted, hloop, hbegins, hsurveys, Supervisor.alerted]

/-- A step of the health loop within a pass. -/
private theorem of_step {e : Event σ} (hmailbox : t.mailbox = s.mailbox)
    (hloop : t.healthLoop ≠ .alerted) (hbegins : e.beginsPass = false)
    (hsurveys : e.surveys = true → s.healthLoop = .alerted) : Heeds e s t where
  waiting := by rw [Supervisor.waiting, hmailbox, hbegins, Supervisor.waiting]; simp
  alerted := by
    rw [Supervisor.alerted, if_neg hloop, hbegins, Supervisor.alerted]
    cases hs : e.surveys with
    | false => simp
    | true => simp [hsurveys hs]

/-- The start of the loop touches nothing but the loop, and does not alert it. -/
private theorem of_beginLoop (s : Supervisor σ) {e : Event σ} (hbegins : e.beginsPass = false)
    (hsurveys : e.surveys = false) : Heeds e s s.beginLoop.2 := by
  unfold beginLoop
  split
  · exact of_step rfl (by simp) hbegins (by simp [hsurveys])
  · exact of_quiet rfl rfl hbegins hsurveys

/-- Every event heeds the signals. -/
theorem of_apply (hs : s.Sound) {e : Event σ} (h : e.apply setup s = some t) : Heeds e s t := by
  cases e with
  | start ws => obtain rfl := Option.some.inj h; exact of_deeds (start_deeds setup ws s) rfl rfl
  | reset w => obtain rfl := Option.some.inj h; exact of_deeds (reset_deeds setup w s) rfl rfl
  | recheck probe =>
    obtain rfl := Option.some.inj h
    exact of_deeds (recheck_deeds setup probe s) rfl rfl
  | report signal => obtain rfl := Option.some.inj h; exact of_report rfl rfl rfl rfl
  | sessionEnded x ending =>
    obtain ⟨-, h⟩ := Option.ite_none_right_eq_some.mp h
    obtain rfl := Option.some.inj h
    exact of_report rfl (s.healthLoop_sessionEnded x ending) rfl rfl
  | closeSession l n => obtain rfl := Option.some.inj h; exact of_quiet rfl rfl rfl rfl
  | closeAll => obtain rfl := Option.some.inj h; exact of_quiet rfl rfl rfl rfl
  | resetRegistered l =>
    obtain rfl := Option.some.inj h
    exact of_deeds (Deed.reset s l).deeds rfl rfl
  | ensureBudget l n =>
    obtain rfl := Option.some.inj h
    exact of_deeds (Deed.budget s l n).deeds rfl rfl
  | beginLoop => obtain rfl := Option.some.inj h; exact of_beginLoop s rfl rfl
  | receiveSignal =>
    obtain ⟨signal, hwas, hpending, rfl⟩ := of_receiveSignal h
    constructor
    · simp [Supervisor.waiting, hpending, Event.beginsPass, Event.reports, Supervisor.note,
        Supervisor.record, Mailbox.receive]
    · simp [Supervisor.alerted, hwas, Event.beginsPass, Event.surveys, Supervisor.note,
        Supervisor.record]
  | takeSnapshot =>
    obtain ⟨hwas, rfl⟩ := of_takeSnapshot h
    exact of_step rfl (by simp [Supervisor.record]) rfl fun _ => hwas
  | collectVerdicts probe =>
    obtain ⟨ws, hwas, rfl⟩ := of_collectVerdicts h
    exact of_step rfl (by simp [Supervisor.record]) rfl (by simp [Event.surveys])
  | treatNext =>
    obtain ⟨hwas, rfl⟩ | ⟨w, v, rest, hwas, rfl⟩ := hs.treatNext_cases h
    · exact of_step rfl (by simp [Supervisor.record]) rfl (by simp [Event.surveys])
    · obtain ⟨hmailbox, -⟩ := (treat_deeds setup w v s).frame
      exact of_step hmailbox (by simp) rfl (by simp [Event.surveys])
  | stopLoop =>
    obtain ⟨hwas, -, rfl⟩ := of_stopLoop h
    constructor
    · simp [Supervisor.waiting, endLoop, Mailbox.abandon, Event.beginsPass]
    · simp [Supervisor.alerted, endLoop, Event.surveys]
  | shutdown => obtain rfl := Option.some.inj h; exact of_quiet rfl rfl rfl rfl
  | storeChanged store => obtain rfl := Option.some.inj h; exact of_quiet rfl rfl rfl rfl

end Heeds

/-- In every run, passes begin with signals that were reported, and a pass looks at the registry
once. -/
theorem Reachable.passes_le (hs : Reachable setup s) {events : List (Event σ)}
    (h : Event.applyAll setup events s = some t) :
    t.waiting + events.countP Event.beginsPass ≤ s.waiting + events.countP Event.reports ∧
      t.alerted + events.countP Event.surveys ≤ s.alerted + events.countP Event.beginsPass := by
  induction events generalizing s with
  | nil =>
    obtain rfl := Option.some.inj h
    exact ⟨le_rfl, le_rfl⟩
  | cons e events ih =>
    obtain ⟨m, hm, hrest⟩ := applyAll_cons.mp h
    obtain ⟨hwaiting, halerted⟩ := Heeds.of_apply hs.sound hm
    obtain ⟨hwaiting', halerted'⟩ := ih (hs.step e hm) hrest
    rw [List.countP_cons, List.countP_cons, List.countP_cons]
    omega

/-! ## The end of a cascade -/

/-- Nothing is pending, and the health loop has nothing to do. -/
def IsIdle (s : Supervisor σ) : Prop :=
  s.mailbox.pending = none ∧ (s.healthLoop = .listening ∨ s.healthLoop = .ended)

instance (s : Supervisor σ) : Decidable s.IsIdle :=
  inferInstanceAs (Decidable (_ ∧ (_ ∨ _)))

/-- Once the health loop is over, no signal is pending. -/
theorem Reachable.pending_of_ended (hs : Reachable setup s) (hended : s.healthLoop = .ended) :
    s.mailbox.pending = none := by
  induction hs with
  | fresh h =>
    obtain ⟨store, assigner, rfl⟩ := h
    rfl
  | @step s t e hs ht ih =>
    obtain ⟨entries, -, hturn⟩ := Turns.of_apply hs.sound ht
    cases hturn with
    | call hentries hmailbox hloop => exact hmailbox ▸ ih (hloop.symm.trans hended)
    | report signal hmailbox hloop =>
      have hbefore := hloop.symm.trans hended
      have habandoned := hs.attentive.abandoned.mpr hbefore
      rw [hmailbox, Mailbox.report, habandoned]
      exact ih hbefore
    | stop hwas hstop hmailbox hloop => rw [hmailbox, Mailbox.abandon]
    | begin hwas hmailbox hloop => cases hloop.symm.trans hended
    | receive signal hwas hpending hmailbox hloop => cases hloop.symm.trans hended
    | snapshot hwas htaken hmailbox hloop => cases hloop.symm.trans hended
    | probe ws verdicts hwas hmailbox hloop => cases hloop.symm.trans hended
    | treat verdicts rest hentries hwas hmailbox hloop => cases hloop.symm.trans hended
    | finish hwas hmailbox hloop => cases hloop.symm.trans hended

/-- A health loop that was started never goes back to where it was not. -/
theorem Turn.begun {entries : List Happening} (hturn : Turn s t entries)
    (hbegun : s.healthLoop ≠ .idle) : t.healthLoop ≠ .idle := by
  cases hturn with
  | call hentries hmailbox hloop => rw [hloop]; exact hbegun
  | report signal hmailbox hloop => rw [hloop]; exact hbegun
  | begin hwas => exact absurd hwas hbegun
  | receive signal hwas hpending hmailbox hloop => rw [hloop]; exact nofun
  | snapshot hwas htaken hmailbox hloop => rw [hloop]; exact nofun
  | probe ws verdicts hwas hmailbox hloop => rw [hloop]; exact nofun
  | treat verdicts rest hentries hwas hmailbox hloop => rw [hloop]; exact nofun
  | finish hwas hmailbox hloop => rw [hloop]; exact nofun
  | stop hwas hstop hmailbox hloop => rw [hloop]; exact nofun

theorem Leads.begun (hs : Reachable setup s) (h : Leads setup s t)
    (hbegun : s.healthLoop ≠ .idle) : t.healthLoop ≠ .idle := by
  induction h with
  | refl => exact hbegun
  | tail hlead hstep ih =>
    obtain ⟨e, he⟩ := hstep
    obtain ⟨entries, -, hturn⟩ := Turns.of_apply (hs.leads hlead).sound he
    exact hturn.begun ih

/-- The steps of a health loop that is not interrupted, with the verdicts that it may find. -/
def loopSteps (probe : Workspace → Verdict) : List (Event σ) :=
  [.receiveSignal, .takeSnapshot, .collectVerdicts probe, .treatNext]

/-- A health loop that has something to do can go on. -/
theorem Reachable.isIdle_or_goesOn (hs : Reachable setup s) (hbegun : s.healthLoop ≠ .idle)
    (probe : Workspace → Verdict) :
    s.IsIdle ∨ ∃ e ∈ loopSteps probe, ∃ t, e.apply setup s = some t := by
  cases hloop : s.healthLoop with
  | idle => exact absurd hloop hbegun
  | ended => exact .inl ⟨hs.pending_of_ended hloop, .inr hloop⟩
  | listening =>
    cases hpending : s.mailbox.pending with
    | none => exact .inl ⟨hpending, .inl hloop⟩
    | some signal =>
      refine .inr ⟨.receiveSignal, by simp [loopSteps], Option.isSome_iff_exists.mp ?_⟩
      simp [Event.apply, receiveSignal, hloop, Mailbox.receive, hpending]
  | alerted =>
    refine .inr ⟨.takeSnapshot, by simp [loopSteps], Option.isSome_iff_exists.mp ?_⟩
    simp [Event.apply, takeSnapshot, hloop]
  | probing ws =>
    refine .inr ⟨.collectVerdicts probe, by simp [loopSteps], Option.isSome_iff_exists.mp ?_⟩
    simp [Event.apply, collectVerdicts, hloop]
  | treating verdicts =>
    exact .inr ⟨.treatNext, by simp [loopSteps],
      Option.isSome_iff_exists.mp (isSome_treatNext hloop)⟩

/-- The cascade of failures that a call from outside, or several, may cause dies out. Whatever
the sessions do and whatever the probes find, it has no more events than `unrest` says when the
call returns, and as long as it has not come to an idle state the health loop can go on. It
opens no more sessions than the registered workspaces have retries left when the call
returns. And no more passes begin in it than signals were reported by the call, were pending
before or are reported by sessions that end in it; only a pass that had begun when the call
returned may be left to look at the registry. -/
theorem Reachable.cascade_dies_out (hs : Reachable setup s) (hbegun : s.healthLoop ≠ .idle)
    {calls : List (Event σ)} (hcalls : Event.applyAll setup calls s = some t)
    {events : List (Event σ)} (hcascade : ∀ e ∈ events, e.ofCascade = true)
    (hevents : Event.applyAll setup events t = some u) :
    events.length ≤ t.unrest ∧
    (∀ probe, u.IsIdle ∨ ∃ e ∈ loopSteps probe, ∃ v, e.apply setup u = some v) ∧
    u.sessions.length ≤ t.sessions.length + t.registry.retriesLeft ∧
    events.countP Event.beginsPass ≤
      calls.countP Event.reports + s.waiting + events.countP Event.endsSession ∧
    events.countP Event.surveys ≤ events.countP Event.beginsPass + t.alerted := by
  have ht : Reachable setup t := hs.leads (.of_foldlM hcalls)
  have hu : Reachable setup u := ht.leads (.of_foldlM hevents)
  have hbegunt : t.healthLoop ≠ .idle := Leads.begun hs (.of_foldlM hcalls) hbegun
  have hbegunu : u.healthLoop ≠ .idle := Leads.begun ht (.of_foldlM hevents) hbegunt
  obtain ⟨hpays, hlength⟩ := ht.length_le_of_cascade hcascade hevents
  obtain ⟨hbefore, -⟩ := hs.passes_le hcalls
  obtain ⟨hpasses, hsurveys⟩ := ht.passes_le hevents
  have hreports : events.countP Event.reports = events.countP Event.endsSession :=
    List.countP_congr fun e he => by rw [Event.reports_of_ofCascade (hcascade e he)]
  have hsessions := hpays.sessions
  refine ⟨by omega, hu.isIdle_or_goesOn hbegunu, by omega, by omega, by omega⟩

/-- A signal leads to a pass that restarts one of two workspaces. The new session ends at once,
and its signal leads to a second pass. -/
theorem cascade_dies_out_second_pass :
    let s := SmallFleet.started.beginLoop.2
    let calls : List (Event PinTable) := [.report ⟨none, "reset by peer"⟩]
    let events : List (Event PinTable) :=
      [.receiveSignal, .takeSnapshot,
        .collectVerdicts fun w => if w = SmallFleet.web then .unhealthy none else .healthy,
        .treatNext, .treatNext, .sessionEnded ⟨3, SmallFleet.web, 1024⟩ (.ok ()), .treatNext,
        .receiveSignal, .takeSnapshot, .collectVerdicts fun _ => .healthy,
        .treatNext, .treatNext, .treatNext]
    ∃ t u : Supervisor PinTable, Reachable SmallFleet.setup s ∧ s.healthLoop ≠ .idle ∧
      Event.applyAll SmallFleet.setup calls s = some t ∧
      (∀ e ∈ events, e.ofCascade = true) ∧
      Event.applyAll SmallFleet.setup events t = some u ∧
      13 ≤ t.unrest ∧ u.sessions.length ≤ 2 + t.registry.retriesLeft ∧
      events.countP Event.beginsPass ≤ 2 := by
  intro s calls events
  let t := (s.report ⟨none, "reset by peer"⟩).2
  have hreachable : Reachable SmallFleet.setup s :=
    .step .beginLoop SmallFleet.started_reachable rfl
  have hbegun : s.healthLoop ≠ .idle := by decide +kernel
  have hcalls : Event.applyAll SmallFleet.setup calls s = some t := rfl
  have hcascade : ∀ e ∈ events, e.ofCascade = true := by simp [events, Event.ofCascade]
  have hhappens : (Event.applyAll SmallFleet.setup events t).isSome = true := by decide +kernel
  obtain ⟨u, hu⟩ := Option.isSome_iff_exists.mp hhappens
  have hopened : t.sessions.length = 2 := by decide +kernel
  have hwaiting : calls.countP Event.reports + s.waiting = 1 := by decide +kernel
  have hended : events.countP Event.endsSession = 1 := by rfl
  obtain ⟨hlength, -, hsessions, hpasses, -⟩ :=
    Reachable.cascade_dies_out hreachable hbegun hcalls hcascade hu
  rw [hopened] at hsessions
  rw [hwaiting, hended] at hpasses
  exact ⟨t, u, hreachable, hbegun, hcalls, hcascade, hu, hlength, hsessions, hpasses⟩

end Supervisor

end TunnelFleet
