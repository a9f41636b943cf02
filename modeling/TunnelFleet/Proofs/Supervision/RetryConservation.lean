import TunnelFleet.Proofs.Supervision.Bookkeeping

/-!
# Retries are conserved

A local id is given its retries once, and every retry that a reset is granted is taken
from them: what is left and what was granted always add up to what was given. Nothing
refills a budget. A session is paid for by a start that counts it or by a granted retry,
so the budget also limits how many sessions a workspace can ever have.
-/

namespace TunnelFleet

/-- A happening that neither gives, grants nor decides anything about a local id. -/
def Happening.IsSilent (l : LocalId) (x : Happening) : Prop :=
  x.attempts? l = none ∧ x.grants l = false ∧ ∀ d, x ≠ .decided l d

theorem Happening.isSilent_of_ofLoop {l : LocalId} {x : Happening} (h : x.ofLoop = true) :
    x.IsSilent l := by
  cases x with
  | budgeted k n => cases h
  | counted w => cases h
  | decided k d => cases h
  | _ => exact ⟨rfl, rfl, by simp⟩

theorem Happening.isSilent_decided {l k : LocalId} {d : ResetDecision} (h : k ≠ l) :
    (Happening.decided k d).IsSilent l := by
  refine ⟨rfl, ?_, by simp [h]⟩
  cases d <;> simp [Happening.grants, h]

namespace Supervisor

variable {σ : Type} {setup : Setup σ} {s t : Supervisor σ} {l k : LocalId}

/-- The attempts with which the budget of a local id was first created. -/
def allowance? (s : Supervisor σ) (l : LocalId) : Option Nat :=
  s.history.findSome? (Happening.attempts? l)

/-- How many resets of a local id were granted a retry. -/
def granted (s : Supervisor σ) (l : LocalId) : Nat := s.history.countP (Happening.grants l)

/-- The workspaces that starts counted as started, in order. -/
def counted (s : Supervisor σ) : List Workspace := s.history.filterMap Happening.counted?

/-- How often starts counted a workspace with this local id as started. -/
def countedAs (s : Supervisor σ) (l : LocalId) : Nat := s.counted.countP (·.localId == l)

/-- How many sessions were ever opened for a local id. -/
def opened (s : Supervisor σ) (l : LocalId) : Nat := s.sessions.countP (·.localId == l)

section Append

variable {entries : List Happening}

private theorem allowance?_append (h : t.history = s.history ++ entries) :
    t.allowance? l = (s.allowance? l).or (entries.findSome? (Happening.attempts? l)) := by
  rw [allowance?, h, List.findSome?_append, allowance?]

private theorem granted_append (h : t.history = s.history ++ entries) :
    t.granted l = s.granted l + entries.countP (Happening.grants l) := by
  rw [granted, h, List.countP_append, granted]

theorem counted_append (h : t.history = s.history ++ entries) :
    t.counted = s.counted ++ entries.filterMap Happening.counted? := by
  rw [counted, h, List.filterMap_append, counted]

theorem countedAs_le (h : t.history = s.history ++ entries) :
    s.countedAs l ≤ t.countedAs l := by
  rw [countedAs, countedAs, counted_append h, List.countP_append]
  exact Nat.le_add_right _ _

end Append

/-- How many retries a reset is granted: one or none. -/
theorem granted_resetRegistered (s : Supervisor σ) (l : LocalId) :
    (s.resetRegistered l).2.granted l =
      s.granted l + if (s.registry.remaining? l).getD 0 = 0 then 0 else 1 := by
  have hhistory : (s.resetRegistered l).2.history =
      s.history ++ [.decided l (s.registry.reset l).1] := rfl
  rw [granted_append hhistory]
  obtain ⟨hr, hd, -⟩ | ⟨first, hr, hd, -⟩ | ⟨n, hr, hd, -⟩ := s.registry.reset_cases l
  all_goals simp [hr, hd, Happening.grants]

private theorem countedAs_resetRegistered (s : Supervisor σ) (k l : LocalId) :
    (s.resetRegistered k).2.countedAs l = s.countedAs l := by
  have hhistory : (s.resetRegistered k).2.history =
      s.history ++ [.decided k (s.registry.reset k).1] := rfl
  simp [countedAs, counted_append hhistory, Happening.counted?]

/-- How many sessions a local id has once a workspace is registered. -/
theorem opened_enroll (s : Supervisor σ) (w : Workspace) (p : UInt16) (l : LocalId) :
    (s.enroll w p).opened l = s.opened l + if w.localId = l then 1 else 0 := by
  unfold opened enroll
  by_cases hl : w.localId = l <;> simp [Session.localId, hl]

/-- How often a local id is counted once a start of a workspace is. -/
theorem countedAs_started (s : Supervisor σ) (w : Workspace) (p : UInt16) (l : LocalId) :
    ((s.enroll w p).record [.counted w]).countedAs l =
      s.countedAs l + if w.localId = l then 1 else 0 := by
  simp [countedAs, counted, record, enroll, Happening.counted?, List.countP_cons]

/-- The retries of a local id are accounted for. -/
structure Balanced (l : LocalId) (s : Supervisor σ) : Prop where
  /-- What is left and what was granted add up to what was given. -/
  balance : (s.registry.remaining? l).map (· + s.granted l) = s.allowance? l
  unspent : s.registry.remaining? l = none → s.granted l = 0
  /-- Every session was paid for. -/
  paid : s.opened l ≤ s.countedAs l + s.granted l
  /-- A reset was granted a retry if and only if less had been granted before than given. -/
  fair : ∀ {before d after}, s.history = before ++ .decided l d :: after →
    ((∃ n, d = .retry n) ↔ ∃ b, before.findSome? (Happening.attempts? l) = some b ∧
      before.countP (Happening.grants l) < b)

namespace Balanced

/-- What is silent about a local id does not touch its account. -/
theorem extend (hs : s.Balanced l) {entries : List Happening}
    (hhistory : t.history = s.history ++ entries) (hsilent : ∀ x ∈ entries, x.IsSilent l)
    (hremaining : t.registry.remaining? l = s.registry.remaining? l)
    (hopened : t.opened l + s.countedAs l ≤ s.opened l + t.countedAs l) : t.Balanced l := by
  have hgranted : t.granted l = s.granted l := by
    rw [granted_append hhistory, List.countP_eq_zero.mpr fun x hx => by simp [(hsilent x hx).2.1],
      Nat.add_zero]
  have hallowance : t.allowance? l = s.allowance? l := by
    rw [allowance?_append hhistory, List.findSome?_eq_none_iff.mpr fun x hx => (hsilent x hx).1,
      Option.or_none]
  refine ⟨by rw [hremaining, hgranted, hallowance, hs.balance],
    fun h => by rw [hgranted, hs.unspent (hremaining ▸ h)], ?_, fun {before d after} h => ?_⟩
  · have hpaid := hs.paid
    omega
  · rw [hhistory] at h
    rcases Happening.old_or_new h with ⟨between, hold, -⟩ | ⟨between, -, hnew⟩
    · exact hs.fair hold
    · exact absurd rfl ((hsilent (.decided l d) (by rw [hnew]; simp)).2.2 d)

/-- What is about a local id has to be entered into its account. -/
theorem enter (hs : s.Balanced l) {x : Happening} (hhistory : t.history = s.history ++ [x])
    (hbalance : (t.registry.remaining? l).map (· + t.granted l) = t.allowance? l)
    (hunspent : t.registry.remaining? l = none → t.granted l = 0)
    (hpaid : t.opened l ≤ t.countedAs l + t.granted l)
    (hfair : ∀ d, x = .decided l d → ((∃ n, d = .retry n) ↔
      ∃ b, s.allowance? l = some b ∧ s.granted l < b)) : t.Balanced l := by
  refine ⟨hbalance, hunspent, hpaid, fun {before d after} h => ?_⟩
  rw [hhistory] at h
  rcases Happening.old_or_new h with ⟨between, hold, -⟩ | ⟨between, rfl, hnew⟩
  · exact hs.fair hold
  · cases between with
    | nil =>
      rw [List.append_nil]
      exact hfair d (List.cons.inj hnew).1
    | cons y between => simp at hnew

/-- A retry is left if and only if less was granted than given. -/
theorem granted_lt_iff (hs : s.Balanced l) :
    (∃ b, s.allowance? l = some b ∧ s.granted l < b) ↔
      ∃ r, s.registry.remaining? l = some r ∧ 0 < r := by
  rw [← hs.balance]
  cases s.registry.remaining? l with
  | none => simp
  | some r =>
    simp only [Option.map_some, Option.some.injEq, exists_eq_left']
    omega

/-- The budget of a local id is created once; a second one is ignored. -/
theorem ensureBudget (hs : s.Balanced l) (k : LocalId) (n : Nat) :
    (s.ensureBudget k n).Balanced l := by
  have hremaining : (s.ensureBudget k n).registry.remaining? l = _ :=
    s.registry.remaining?_ensureBudget k l n
  have hopened : (s.ensureBudget k n).opened l = s.opened l := rfl
  by_cases hk : k ∈ s.registry.budgets
  · have hhistory : (s.ensureBudget k n).history = s.history ++ [] := by
      simp [Supervisor.ensureBudget, record, hk]
    have hcounted : (s.ensureBudget k n).countedAs l = s.countedAs l := by
      rw [countedAs, counted_append hhistory, List.filterMap_nil, List.append_nil, countedAs]
    refine hs.extend hhistory (by simp) (hremaining.trans ?_) (by rw [hopened, hcounted])
    obtain ⟨m, hm⟩ := Option.isSome_iff_exists.mp (Registry.mem_budgets_iff.mp hk)
    by_cases hlk : l = k <;> simp [hlk, hm]
  · have hhistory : (s.ensureBudget k n).history = s.history ++ [.budgeted k n] := by
      simp [Supervisor.ensureBudget, record, hk]
    have hcounted : (s.ensureBudget k n).countedAs l = s.countedAs l := by
      simp [countedAs, counted_append hhistory, Happening.counted?]
    have hgranted : (s.ensureBudget k n).granted l = s.granted l := by
      simp [granted_append hhistory, Happening.grants]
    by_cases hlk : l = k
    · subst hlk
      have hnone : s.registry.remaining? l = none := by
        rwa [Registry.mem_budgets_iff, Bool.not_eq_true, Option.isSome_eq_false_iff,
          Option.isNone_iff_eq_none] at hk
      have hnow : (s.ensureBudget l n).registry.remaining? l = some n := by
        rw [hremaining, if_pos rfl, hnone, Option.getD_none]
      have hbefore : s.allowance? l = none := by rw [← hs.balance, hnone, Option.map_none]
      refine hs.enter hhistory ?_ (by simp [hnow]) ?_ (by simp)
      · rw [hnow, hgranted, hs.unspent hnone, allowance?_append hhistory, hbefore]
        simp [Happening.attempts?]
      · rw [hopened, hcounted, hgranted]
        exact hs.paid
    · refine hs.extend hhistory ?_ (hremaining.trans (if_neg hlk)) (by rw [hopened, hcounted])
      have hkl : k ≠ l := fun h => hlk h.symm
      simp [Happening.IsSilent, Happening.attempts?, Happening.grants, hkl]

/-- A reset takes the retry that it is granted from what is left. -/
theorem resetRegistered (hs : s.Balanced l) (k : LocalId) :
    (s.resetRegistered k).2.Balanced l := by
  have hhistory : (s.resetRegistered k).2.history =
      s.history ++ [.decided k (s.registry.reset k).1] := rfl
  have hopened : (s.resetRegistered k).2.opened l = s.opened l := rfl
  have hcounted := countedAs_resetRegistered s k l
  have hremaining : ∀ j, (s.resetRegistered k).2.registry.remaining? j =
      (s.registry.reset k).2.remaining? j := fun _ => rfl
  by_cases hkl : k = l
  · subst hkl
    have hgranted := granted_resetRegistered s k
    have hallowance : (s.resetRegistered k).2.allowance? k = s.allowance? k := by
      simp [allowance?_append hhistory, Happening.attempts?]
    have hfair : ∀ d, Happening.decided k (s.registry.reset k).1 = .decided k d →
        ((∃ n, d = .retry n) ↔ ∃ b, s.allowance? k = some b ∧ s.granted k < b) := by
      rintro d ⟨⟩
      rw [hs.granted_lt_iff]
      exact Registry.exists_reset_eq_retry_iff
    have hpaid := hs.paid
    have hbalance := hs.balance
    have hunspent := hs.unspent
    refine hs.enter hhistory ?_ ?_ (by omega) hfair
    · rw [hallowance, hgranted, hremaining, ← hbalance]
      obtain ⟨hr, -, hleft⟩ | ⟨first, hr, -, hleft⟩ | ⟨n, hr, -, hleft⟩ :=
        s.registry.reset_cases k
      all_goals simp [hleft, hr]
      omega
    · rw [hgranted, hremaining]
      obtain ⟨hr, -, hleft⟩ | ⟨first, hr, -, hleft⟩ | ⟨n, hr, -, hleft⟩ :=
        s.registry.reset_cases k
      all_goals simp [hleft, hr]
      exact hunspent hr
  · refine hs.extend hhistory ?_ ?_ (by rw [hopened, hcounted])
    · simpa using Happening.isSilent_decided hkl
    · have hlk : l ≠ k := fun h => hkl h.symm
      rw [hremaining]
      obtain ⟨-, -, hleft⟩ | ⟨first, -, -, hleft⟩ | ⟨n, -, -, hleft⟩ := s.registry.reset_cases k
      all_goals simp [hleft, hlk]

theorem of_fresh (hs : s.IsFresh) (l : LocalId) : s.Balanced l := by
  obtain ⟨store, assigner, rfl⟩ := hs
  exact ⟨rfl, fun _ => rfl, Nat.zero_le _, fun h => by simp at h⟩

theorem of_deed (hs : s.Balanced l) (h : Deed s t) : t.Balanced l := by
  cases h with
  | assign assigner store lines =>
    exact hs.extend (List.append_nil _).symm (by simp) rfl le_rfl
  | note lines => exact hs.extend (List.append_nil _).symm (by simp) rfl le_rfl
  | probe ws =>
    refine hs.extend rfl ?_ rfl (le_of_eq ?_)
    · simp [Happening.IsSilent, Happening.attempts?, Happening.grants]
    · simp [opened, countedAs, counted, record, Happening.counted?]
  | budget k n => exact hs.ensureBudget k n
  | reset k => exact hs.resetRegistered k
  | start w p =>
    refine hs.extend rfl ?_ rfl (le_of_eq ?_)
    · simp [Happening.IsSilent, Happening.attempts?, Happening.grants]
    · have hopened : ((s.enroll w p).record [.counted w]).opened l = _ := opened_enroll s w p l
      have hcounted := countedAs_started s w p l
      omega
  | restart w p n assigner store lines hstop hretry =>
    have hreset := hs.resetRegistered w.localId
    have hleft : s.registry.remaining? w.localId = some (n + 1) :=
      Registry.reset_eq_retry_iff.mp hretry
    refine ⟨hreset.balance, hreset.unspent, ?_, hreset.fair⟩
    -- The new session of the local id is paid for by the retry that was just granted.
    have hopened := opened_enroll
      ((s.resetRegistered w.localId).2.assign assigner store lines) w p l
    have hbefore : ((s.resetRegistered w.localId).2.assign assigner store lines).opened l =
      s.opened l := rfl
    by_cases hl : w.localId = l
    · have hcounted := countedAs_resetRegistered s w.localId l
      have hgranted := granted_resetRegistered s w.localId
      have hpaid := hs.paid
      rw [hleft, hl] at hgranted
      simp only [Option.getD_some, Nat.add_one_ne_zero, if_false] at hgranted
      rw [hopened, hbefore, if_pos hl]
      change _ ≤ (s.resetRegistered w.localId).2.countedAs l +
        (s.resetRegistered w.localId).2.granted l
      rw [hl] at hcounted ⊢
      omega
    · have hpaid := hreset.paid
      rw [hopened, hbefore, if_neg hl]
      exact hpaid

/-- Every move keeps the account balanced. -/
theorem of_move (hs : s.Balanced l) (h : Move s t) : t.Balanced l := by
  cases h with
  | deed h => exact hs.of_deed h
  | loop mailbox healthLoop entries lines hentries =>
    exact hs.extend rfl (fun x hx => Happening.isSilent_of_ofLoop (hentries x hx)) rfl
      (Nat.add_le_add_left (countedAs_le rfl) _)
  | leave session => exact hs.extend (List.append_nil _).symm (by simp) rfl le_rfl
  | close k =>
    refine hs.extend (List.append_nil _).symm (by simp) ?_ le_rfl
    simp [Registry.remaining?]
  | closeAll => exact hs.extend (List.append_nil _).symm (by simp) rfl le_rfl
  | cancelRoot => exact hs.extend (List.append_nil _).symm (by simp) rfl le_rfl
  | store store => exact hs.extend (List.append_nil _).symm (by simp) rfl le_rfl

/-- As the history goes on, what was given stays and what is left does not grow. -/
theorem remaining_le (hs : s.Balanced l) (ht : t.Balanced l) (hgrows : s.history <+: t.history)
    {b : Nat} (hb : s.allowance? l = some b) :
    t.allowance? l = some b ∧ ∃ r r', s.registry.remaining? l = some r ∧
      t.registry.remaining? l = some r' ∧ r' ≤ r := by
  obtain ⟨entries, hhistory⟩ := hgrows
  have hallowance : t.allowance? l = some b := by
    rw [allowance?_append hhistory.symm, hb, Option.some_or]
  have hgranted := granted_append (l := l) hhistory.symm
  obtain ⟨r, hr, hsum⟩ := Option.map_eq_some_iff.mp (hs.balance.trans hb)
  obtain ⟨r', hr', hsum'⟩ := Option.map_eq_some_iff.mp (ht.balance.trans hallowance)
  exact ⟨hallowance, r, r', hr, hr', by omega⟩

end Balanced

/-- In every state that a run reaches, the retries of every local id are accounted for. -/
theorem Reachable.balanced (hs : Reachable setup s) (l : LocalId) : s.Balanced l :=
  hs.of_moves (fun _ h => .of_fresh h l) fun _ _ hmove h => h.of_move hmove

/-! ## What starts count -/

private theorem startOne_counted (setup : Setup σ) (w : Workspace) (s : Supervisor σ) :
    (s.startOne setup w).2.counted = s.counted ++
      match (s.startOne setup w).1 with
      | .started _ => [w]
      | _ => [] := by
  have hbudget : (s.ensureBudget w.localId setup.retryBudget).counted = s.counted := by
    unfold Supervisor.ensureBudget counted record
    split <;> simp [Happening.counted?]
  obtain ⟨assigner, store, lines, -, ⟨o, ho, hstart⟩ | ⟨p, -, -, -, hstart⟩⟩ :=
    startTunnel_cases setup w (s.ensureBudget w.localId setup.retryBudget)
  · unfold startOne
    rw [hstart]
    cases o with
    | started p => exact absurd rfl (ho p)
    | refused e => rw [List.append_nil, ← hbudget]; rfl
    | aborted => rw [List.append_nil, ← hbudget]; rfl
  · unfold startOne
    rw [hstart, ← hbudget]
    simp [counted, record, enroll, assign, note, Happening.counted?]

private theorem startEach_counted (setup : Setup σ) (ws : List Workspace) (s : Supervisor σ) :
    ∃ started : List Workspace, started.Sublist ws ∧
      (s.startEach setup ws).2.counted = s.counted ++ started ∧
      ∀ n, (s.startEach setup ws).1 = some n → started.length = n := by
  induction ws generalizing s with
  | nil => exact ⟨[], .slnil, by simp [startEach], by simp [startEach]⟩
  | cons w ws ih =>
    have hone := startOne_counted setup w s
    unfold startEach
    cases hstart : s.startOne setup w with
    | mk o t =>
      rw [hstart] at hone
      obtain ⟨started, hsub, hcounted, hlength⟩ := ih t
      cases o with
      | started p =>
        refine ⟨w :: started, hsub.cons_cons w, by simp [hcounted, hone], fun n hn => ?_⟩
        obtain ⟨m, hm, rfl⟩ := Option.map_eq_some_iff.mp hn
        rw [List.length_cons, hlength m hm]
      | refused e => exact ⟨started, hsub.cons w, by simp [hcounted, hone], hlength⟩
      | aborted => exact ⟨[], List.nil_sublist _, hone, by simp⟩

/-- A start counts some of the workspaces that it is for, and answers how many. -/
theorem start_counted (setup : Setup σ) (ws : List Workspace) (s : Supervisor σ) :
    ∃ started : List Workspace, started.Sublist ws ∧
      (s.start setup ws).2.counted = s.counted ++ started ∧
      ∀ n, (s.start setup ws).1 = some n → started.length = n := by
  unfold start
  split
  · exact ⟨[], List.nil_sublist _, by simp, by simp⟩
  · exact startEach_counted setup ws _

/-- The retries of a local id are conserved in every run. Once it was given `b` attempts,
what is left and the resets that were granted a retry add up to `b`, whatever happens later;
what is left never grows; and no more sessions were ever opened for it than starts counted
and `b` retries pay for. A reset is granted a retry if and only if one is left, now and at
each reset that was ever made. -/
theorem Reachable.retries_conserved (hs : Reachable setup s) (l : LocalId) :
    (∀ b, s.allowance? l = some b →
      (∃ r, s.registry.remaining? l = some r ∧ r + s.granted l = b) ∧
      s.opened l ≤ s.countedAs l + b ∧
      ∀ t : Supervisor σ, Leads setup s t → t.allowance? l = some b ∧
        ∃ r r', s.registry.remaining? l = some r ∧ t.registry.remaining? l = some r' ∧ r' ≤ r) ∧
    (s.allowance? l = none → s.registry.remaining? l = none ∧ s.granted l = 0) ∧
    ((∃ n, (s.resetRegistered l).1 = .retry n) ↔ ∃ r, s.registry.remaining? l = some r ∧ 0 < r) ∧
    (∀ before d after, s.history = before ++ .decided l d :: after →
      ((∃ n, d = .retry n) ↔ ∃ b, before.findSome? (Happening.attempts? l) = some b ∧
        before.countP (Happening.grants l) < b)) ∧
    ∀ ws : List Workspace, ∃ started : List Workspace, started.Sublist ws ∧
      (s.start setup ws).2.counted = s.counted ++ started ∧
      ∀ n, (s.start setup ws).1 = some n → started.length = n := by
  have hbalanced := hs.balanced l
  refine ⟨fun b hb => ⟨?_, ?_, fun t hlead => ?_⟩, fun hnone => ?_,
    Registry.exists_reset_eq_retry_iff, fun _ _ _ h => hbalanced.fair h,
    fun ws => start_counted setup ws s⟩
  · exact Option.map_eq_some_iff.mp (hbalanced.balance.trans hb)
  · obtain ⟨r, -, hsum⟩ := Option.map_eq_some_iff.mp (hbalanced.balance.trans hb)
    have hpaid := hbalanced.paid
    omega
  · exact hbalanced.remaining_le ((hs.leads hlead).balanced l) hlead.moves.keeps_history hb
  · have hleft := Option.map_eq_none_iff.mp (hbalanced.balance.trans hnone)
    exact ⟨hleft, hbalanced.unspent hleft⟩

/-- A workspace that is reset once has two of its three retries left. -/
theorem retries_conserved_one_reset :
    let s := (SmallFleet.started.reset SmallFleet.setup SmallFleet.web).2
    let l := SmallFleet.web.localId
    Reachable SmallFleet.setup s ∧ s.allowance? l = some 3 ∧ s.granted l = 1 ∧
      s.registry.remaining? l = some 2 ∧ s.opened l ≤ s.countedAs l + 3 := by
  intro s l
  have hreachable : Reachable SmallFleet.setup s :=
    .step (.reset SmallFleet.web) SmallFleet.started_reachable rfl
  have hallowance : s.allowance? l = some 3 := by decide +kernel
  have hgranted : s.granted l = 1 := by decide +kernel
  obtain ⟨hgiven, -⟩ := Reachable.retries_conserved hreachable l
  obtain ⟨⟨r, hleft, hsum⟩, hopened, -⟩ := hgiven 3 hallowance
  obtain rfl : r = 2 := by omega
  exact ⟨hreachable, hallowance, hgranted, hleft, hopened⟩

end Supervisor

end TunnelFleet
