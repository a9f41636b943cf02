import Mathlib.Algebra.GroupWithZero.Nat
import Mathlib.Algebra.Order.BigOperators.Group.List
import Mathlib.Algebra.Order.Group.Nat
import TunnelFleet.Proofs.Supervision.Cascade
import TunnelFleet.Supervision.Rehearsal

/-!
# What a supervisor can spend on sessions

A restart turns a retry into a session. So the sessions and all the retries together grow only
where a workspace is started or a budget is handed out, and an event says by how much at most
(`Event.outlay`). Other than in a cascade, workspaces may be registered meanwhile: what counts
are the budgets, not the workspaces that are registered.
-/

namespace TunnelFleet

/-! ## All the retries -/

namespace Registry

variable {r r' : Registry} {l : LocalId}

theorem allRetries_eq (r : Registry) :
    r.allRetries = (r.budgets.keys.map fun l => (r.remaining? l).getD 0).sum := rfl

/-- If no local id has more retries than before, neither have all of them together. -/
theorem allRetries_le (hkeys : ∀ k, k ∈ r'.budgets ↔ k ∈ r.budgets)
    (hleft : ∀ k, (r'.remaining? k).getD 0 ≤ (r.remaining? k).getD 0) :
    r'.allRetries ≤ r.allRetries := by
  rw [allRetries_eq, allRetries_eq, LocalId.keys_congr hkeys]
  exact List.sum_le_sum fun k _ => hleft k

theorem allRetries_reset_le (r : Registry) (l : LocalId) :
    (r.reset l).2.allRetries ≤ r.allRetries :=
  allRetries_le (fun _ => mem_budgets_reset) (r.remaining_reset_le l)

/-- A reset that is granted takes a retry. -/
theorem allRetries_reset_lt {n : Nat} (h : (r.reset l).1 = .retry n) :
    (r.reset l).2.allRetries < r.allRetries := by
  have hr : r.remaining? l = some (n + 1) := reset_eq_retry_iff.mp h
  have hl : l ∈ r.budgets := by rw [mem_budgets_iff, hr]; rfl
  rw [allRetries_eq, allRetries_eq, LocalId.keys_congr fun _ => mem_budgets_reset]
  refine List.sum_lt_sum _ _ (fun k _ => r.remaining_reset_le l k) ⟨l, ?_, ?_⟩
  · exact Std.ExtTreeMap.mem_keys.mpr hl
  · simp [hr]

/-- A budget adds the retries that it is handed out with, if it is new. -/
theorem allRetries_ensureBudget_le (r : Registry) (l : LocalId) (n : Nat) :
    (r.ensureBudget l n).allRetries ≤ r.allRetries + n := by
  by_cases hl : l ∈ r.budgets
  · rw [ensureBudget, if_pos hl]
    exact Nat.le_add_right _ _
  · have hnew : r.remaining? l = none := by
      rwa [mem_budgets_iff, Bool.not_eq_true, Option.isSome_eq_false_iff, Option.isNone_iff_eq_none]
        at hl
    have hkeys : ((r.ensureBudget l n).budgets.keys).Perm (l :: r.budgets.keys) := by
      refine (List.perm_ext_iff_of_nodup Std.ExtTreeMap.nodup_keys ?_).mpr fun k => ?_
      · exact List.nodup_cons.mpr ⟨fun h => hl (Std.ExtTreeMap.mem_keys.mp h),
          Std.ExtTreeMap.nodup_keys⟩
      · simp
    have hothers : r.budgets.keys.map (fun k => ((r.ensureBudget l n).remaining? k).getD 0) =
        r.budgets.keys.map fun k => (r.remaining? k).getD 0 := by
      refine List.map_congr_left fun k hk => ?_
      have hkl : k ≠ l := fun h => hl (h ▸ Std.ExtTreeMap.mem_keys.mp hk)
      rw [remaining?_ensureBudget, if_neg hkl]
    rw [allRetries_eq, (hkeys.map _).sum_eq, List.map_cons, List.sum_cons, hothers,
      remaining?_ensureBudget, if_pos rfl, hnew, allRetries_eq]
    exact (Nat.add_comm _ _).le

end Registry

/-! ## What happens costs -/

namespace Supervisor

variable {σ : Type} {setup : Setup σ} {s t u : Supervisor σ} {w : Workspace} {k n : Nat}

/-- No session is forgotten, and the sessions and all the retries together grow by no more than
this. -/
structure Costs (k : Nat) (s t : Supervisor σ) : Prop where
  sessions : s.sessions.length ≤ t.sessions.length
  total : t.sessions.length + t.registry.allRetries ≤
    s.sessions.length + s.registry.allRetries + k

namespace Costs

/-- Whoever leaves the budgets and the sessions alone spends nothing. -/
theorem of_budgets (hbudgets : t.registry.budgets = s.registry.budgets)
    (hsessions : t.sessions = s.sessions) : Costs 0 s t where
  sessions := by rw [hsessions]
  total := by
    have hretries : t.registry.allRetries = s.registry.allRetries := by
      simp only [Registry.allRetries, Registry.remaining?, hbudgets]
    rw [hsessions, hretries, Nat.add_zero]

theorem trans (hst : Costs k s t) (htu : Costs n t u) : Costs (k + n) s u where
  sessions := hst.sessions.trans htu.sessions
  total := by
    have h := hst.total
    have h' := htu.total
    omega

/-- Something more that leaves the budgets and the sessions alone. -/
theorem andThen (h : Costs k s t) (hbudgets : u.registry.budgets = t.registry.budgets)
    (hsessions : u.sessions = t.sessions) : Costs k s u :=
  h.trans (.of_budgets hbudgets hsessions)

theorem mono (h : Costs k s t) (hkn : k ≤ n) : Costs n s t :=
  ⟨h.sessions, h.total.trans (Nat.add_le_add_left hkn _)⟩

/-- A new session costs one. -/
theorem of_enroll (w : Workspace) (p : UInt16) (s : Supervisor σ) : Costs 1 s (s.enroll w p) := by
  have hsessions : (s.enroll w p).sessions.length = s.sessions.length + 1 := by simp [enroll]
  have hretries : (s.enroll w p).registry.allRetries = s.registry.allRetries := rfl
  exact ⟨by omega, by omega⟩

theorem of_ensureBudget (l : LocalId) (n : Nat) (s : Supervisor σ) :
    Costs n s (s.ensureBudget l n) where
  sessions := le_rfl
  total := by
    have hretries : (s.ensureBudget l n).registry.allRetries ≤ s.registry.allRetries + n :=
      s.registry.allRetries_ensureBudget_le l n
    have hsessions : (s.ensureBudget l n).sessions = s.sessions := rfl
    rw [hsessions]
    omega

theorem of_resetRegistered (l : LocalId) (s : Supervisor σ) :
    Costs 0 s (s.resetRegistered l).2 :=
  ⟨le_rfl, Nat.add_le_add_left (s.registry.allRetries_reset_le l) _⟩

/-- A restart costs the retry that it takes. -/
theorem of_reset (setup : Setup σ) (w : Workspace) (s : Supervisor σ) :
    Costs 0 s (s.reset setup w).2 := by
  obtain ⟨assigner, store, lines, -, ⟨o, -, hreset⟩ | ⟨r, p, -, hretry, -, -, hreset⟩⟩ :=
    reset_outcomes setup w s
  · rw [hreset]
    exact (of_resetRegistered w.localId s).andThen rfl rfl
  · rw [hreset]
    let m := (s.resetRegistered w.localId).2.assign assigner store lines
    have hless : m.registry.allRetries < s.registry.allRetries :=
      Registry.allRetries_reset_lt hretry
    have hsame : m.sessions = s.sessions := rfl
    obtain ⟨hsessions, htotal⟩ := of_enroll w p m
    rw [hsame] at hsessions htotal
    exact ⟨hsessions, htotal.trans (by omega)⟩

theorem of_treat (setup : Setup σ) (w : Workspace) (v : Verdict) (s : Supervisor σ) :
    Costs 0 s (s.treat setup w v).2 := by
  cases v with
  | healthy => exact .of_budgets rfl rfl
  | unhealthy reason =>
    obtain ⟨lines, htreat⟩ := treat_unhealthy setup w reason s
    have hnote : Costs 0 s (s.note lines) := .of_budgets rfl rfl
    rw [htreat]
    exact hnote.trans (of_reset setup w _)

theorem of_treatEach (setup : Setup σ) (verdicts : List (Workspace × Verdict))
    (s : Supervisor σ) : Costs 0 s (s.treatEach setup verdicts).2 := by
  induction verdicts generalizing s with
  | nil => exact .of_budgets rfl rfl
  | cons verdict rest ih =>
    obtain ⟨w, v⟩ := verdict
    have hone := of_treat setup w v s
    unfold treatEach
    cases htreat : s.treat setup w v with
    | mk goesOn t =>
      rw [htreat] at hone
      cases goesOn with
      | true => exact hone.trans (ih t)
      | false => exact hone

/-- The start of a tunnel costs the retries that are handed out, and the session. -/
theorem of_startOne (setup : Setup σ) (w : Workspace) (s : Supervisor σ) :
    Costs (setup.retryBudget + 1) s (s.startOne setup w).2 := by
  have hbudget := of_ensureBudget w.localId setup.retryBudget s
  obtain ⟨assigner, store, lines, -, ⟨o, ho, hstart⟩ | ⟨p, -, -, -, hstart⟩⟩ :=
    startTunnel_cases setup w (s.ensureBudget w.localId setup.retryBudget)
  · unfold startOne
    rw [hstart]
    have hfail := hbudget.mono (Nat.le_succ setup.retryBudget)
    cases o with
    | started p => exact absurd rfl (ho p)
    | refused e => exact hfail.andThen rfl rfl
    | aborted => exact hfail.andThen rfl rfl
  · unfold startOne
    rw [hstart]
    let m := (s.ensureBudget w.localId setup.retryBudget).assign assigner store lines
    have hassign : Costs setup.retryBudget s m := hbudget.andThen rfl rfl
    exact (hassign.trans (of_enroll w p m)).andThen rfl rfl

theorem of_startEach (setup : Setup σ) (ws : List Workspace) (s : Supervisor σ) :
    Costs (ws.length * (setup.retryBudget + 1)) s (s.startEach setup ws).2 := by
  induction ws generalizing s with
  | nil => exact (Costs.of_budgets rfl rfl).mono (Nat.zero_le _)
  | cons w ws ih =>
    have hone := of_startOne setup w s
    have hlength : (w :: ws).length * (setup.retryBudget + 1) =
        setup.retryBudget + 1 + ws.length * (setup.retryBudget + 1) := by
      rw [List.length_cons, Nat.succ_mul, Nat.add_comm]
    rw [hlength]
    unfold startEach
    cases hstart : s.startOne setup w with
    | mk o t =>
      rw [hstart] at hone
      cases o with
      | started p => exact hone.trans (ih t)
      | refused e => exact hone.trans (ih t)
      | aborted => exact hone.mono (Nat.le_add_right _ _)

theorem of_start (setup : Setup σ) (ws : List Workspace) (s : Supervisor σ) :
    Costs (ws.length * (setup.retryBudget + 1)) s (s.start setup ws).2 := by
  unfold start
  split
  · exact (Costs.of_budgets rfl rfl).mono (Nat.zero_le _)
  · have hreserve : Costs 0 s ({ s with
        assigner := (s.assigner.reserve setup.ports s.store ws).1 }.note
          (s.assigner.reserve setup.ports s.store ws).2) := .of_budgets rfl rfl
    exact (hreserve.trans (of_startEach setup ws _)).mono (by omega)

/-- The beginning of a run costs no more than a start of its tunnels. -/
theorem of_begin (setup : Setup σ) (run : Run) (s : Supervisor σ) :
    Costs (run.workspaces.length * (setup.retryBudget + 1)) s
      (run.begin setup s).2 := by
  have hnothing : Costs 0 s s := .of_budgets rfl rfl
  have hstart := Costs.of_start setup run.workspaces s
  unfold Run.begin
  split
  · exact hnothing.mono (Nat.zero_le _)
  · split
    · exact hnothing.mono (Nat.zero_le _)
    · split
      · next heq =>
        rw [heq] at hstart
        exact hstart
      · next heq =>
        rw [heq] at hstart
        exact hstart

end Costs

end Supervisor

/-- What an event may add to the sessions and all the retries together. -/
def Event.outlay {σ : Type} (setup : Setup σ) : Event σ → Nat
  | .start ws => ws.length * (setup.retryBudget + 1)
  | .ensureBudget _ attempts => attempts
  | _ => 0

namespace Supervisor

variable {σ : Type} {setup : Setup σ} {s t : Supervisor σ}

/-- Sessions and retries together grow only where something is started or handed out. -/
theorem Costs.of_apply {e : Event σ} (h : e.apply setup s = some t) :
    Costs (e.outlay setup) s t := by
  cases e with
  | start ws => obtain rfl := Option.some.inj h; exact .of_start setup ws s
  | reset w => obtain rfl := Option.some.inj h; exact .of_reset setup w s
  | recheck probe =>
    obtain rfl := Option.some.inj h
    have hprobe : Costs 0 s (s.probeEach .caller probe s.registry.workspaces).2 :=
      .of_budgets rfl rfl
    exact hprobe.trans (.of_treatEach setup _ _)
  | report signal => obtain rfl := Option.some.inj h; exact .of_budgets rfl rfl
  | sessionEnded x ending =>
    obtain ⟨-, h⟩ := Option.ite_none_right_eq_some.mp h
    obtain rfl := Option.some.inj h
    refine .of_budgets ?_ (s.sessions_sessionEnded x ending)
    rcases s.registry_sessionEnded x ending with hsame | hclosed
    · rw [hsame]
    · rw [hclosed, Registry.budgets_closeHandle]
  | closeSession l x =>
    obtain rfl := Option.some.inj h
    refine .of_budgets ?_ rfl
    change (s.registry.closeSession l x).2.budgets = _
    rw [Registry.closeSession_eq]
    split
    · exact s.registry.budgets_closeHandle l
    · rfl
  | closeAll => obtain rfl := Option.some.inj h; exact .of_budgets rfl rfl
  | resetRegistered l => obtain rfl := Option.some.inj h; exact .of_resetRegistered l s
  | ensureBudget l attempts => obtain rfl := Option.some.inj h; exact .of_ensureBudget l attempts s
  | beginLoop =>
    obtain rfl := Option.some.inj h
    unfold beginLoop
    split <;> exact .of_budgets rfl rfl
  | receiveSignal =>
    obtain ⟨signal, -, -, rfl⟩ := of_receiveSignal h
    exact .of_budgets rfl rfl
  | takeSnapshot =>
    obtain ⟨-, rfl⟩ := of_takeSnapshot h
    exact .of_budgets rfl rfl
  | collectVerdicts probe =>
    obtain ⟨targets, -, rfl⟩ := of_collectVerdicts h
    exact .of_budgets rfl rfl
  | treatNext =>
    obtain ⟨-, rfl⟩ | ⟨w, v, rest, -, ⟨-, rfl⟩ | ⟨-, rfl⟩⟩ := of_treatNext h
    · exact .of_budgets rfl rfl
    · exact (Costs.of_treat setup w v s).andThen rfl rfl
    · exact (Costs.of_treat setup w v s).andThen rfl rfl
  | stopLoop =>
    obtain ⟨-, -, rfl⟩ := of_stopLoop h
    exact .of_budgets rfl rfl
  | shutdown => obtain rfl := Option.some.inj h; exact .of_budgets rfl rfl
  | storeChanged store => obtain rfl := Option.some.inj h; exact .of_budgets rfl rfl

end Supervisor

end TunnelFleet
