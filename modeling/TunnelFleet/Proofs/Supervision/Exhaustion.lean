import TunnelFleet.Proofs.Supervision.Notices
import TunnelFleet.Proofs.Supervision.RetryConservation

/-!
# Spent retries stay spent

A reset that finds no retry left closes the tunnel of the local id and notes that it said so.
From then on nothing but a start opens the tunnel again: whatever else happens, the handle and
the budget of the local id stay what they are, and a further reset changes nothing at all. The
note is never taken back, not even by a start, so that the retries are spent is found for the
first time once in a run.
-/

namespace TunnelFleet

namespace Registry

variable {r r' : Registry} {l : LocalId}

/-! ## Spent local ids -/

/-- The retries of a local id are spent, that was noted, and its handle is closed. -/
structure Spent (r : Registry) (l : LocalId) : Prop where
  budget : r.budgets[l]? = some ⟨0, true⟩
  closed : ∀ h : Handle, r.handles[l]? = some h → h.closed = true

/-- Two registries have the same handle and the same budget for a local id. -/
def AgreesAt (l : LocalId) (r r' : Registry) : Prop :=
  r'.handles[l]? = r.handles[l]? ∧ r'.budgets[l]? = r.budgets[l]?

theorem AgreesAt.trans {r'' : Registry} (h : AgreesAt l r r') (h' : AgreesAt l r' r'') :
    AgreesAt l r r'' :=
  ⟨h'.1.trans h.1, h'.2.trans h.2⟩

/-- A reset that finds the retries spent leaves them noted and the handle closed. -/
theorem spent_of_reset {first : Bool} (h : (r.reset l).1 = .exhausted first) :
    (r.reset l).2.Spent l where
  budget := by
    rw [budgets_reset, if_pos rfl, reset_eq_exhausted_iff.mp h]
    rfl
  closed handle hl := by
    rw [handles_reset, if_pos rfl] at hl
    obtain ⟨old, -, rfl⟩ := Option.map_eq_some_iff.mp hl
    rfl

namespace Spent

theorem of_agrees (hs : r.Spent l) (h : AgreesAt l r r') : r'.Spent l where
  budget := h.2.trans hs.budget
  closed handle hl := hs.closed handle (h.1.symm.trans hl)

theorem remaining? (hs : r.Spent l) : r.remaining? l = some 0 := by
  rw [Registry.remaining?, hs.budget]
  rfl

/-- A closed handle is not changed by closing it. -/
theorem shut_eq (hs : r.Spent l) {h : Handle} (hl : r.handles[l]? = some h) : h.shut = h := by
  rw [Handle.shut, ← hs.closed h hl]

theorem map_shut (hs : r.Spent l) : r.handles[l]?.map Handle.shut = r.handles[l]? := by
  cases hl : r.handles[l]? with
  | none => rfl
  | some h => rw [Option.map_some, hs.shut_eq hl]

theorem closeHandle_eq (hs : r.Spent l) : (r.closeHandle l).2 = r := by
  unfold closeHandle
  cases hl : r.handles[l]? with
  | none => rfl
  | some h =>
    simp [Handle.close, Handle.release, hs.closed h hl, hs.shut_eq hl, LocalId.insert_eq_self hl]

/-- A further reset changes nothing. -/
theorem reset_eq (hs : r.Spent l) : r.reset l = (.exhausted false, r) := by
  rw [reset, hs.closeHandle_eq, spend, hs.budget]
  simp [RetryBudget.consume, LocalId.insert_eq_self hs.budget]

theorem agrees_closeHandle (hs : r.Spent l) (k : LocalId) :
    AgreesAt l r (r.closeHandle k).2 := by
  refine ⟨?_, by rw [budgets_closeHandle]⟩
  rw [handles_closeHandle]
  split
  · next hlk => rw [← hlk, hs.map_shut]
  · rfl

theorem agrees_closeAll (hs : r.Spent l) : AgreesAt l r r.closeAll.2 :=
  ⟨by rw [handles_closeAll, hs.map_shut], rfl⟩

/-- Who has a budget is not given another one. -/
theorem agrees_ensureBudget (hs : r.Spent l) (k : LocalId) (n : Nat) :
    AgreesAt l r (r.ensureBudget k n) := by
  refine ⟨by rw [handles_ensureBudget], ?_⟩
  unfold ensureBudget
  split
  · rfl
  · next hk =>
    have hkl : k ≠ l := by
      rintro rfl
      refine hk (Std.ExtTreeMap.mem_iff_isSome_getElem?.mpr ?_)
      rw [hs.budget]
      rfl
    simp [Std.ExtTreeMap.getElem?_insert, hkl]

theorem agrees_reset (hs : r.Spent l) (k : LocalId) : AgreesAt l r (r.reset k).2 := by
  by_cases hk : l = k
  · rw [← hk, hs.reset_eq]
    exact ⟨rfl, rfl⟩
  · exact ⟨by rw [handles_reset, if_neg hk], by rw [budgets_reset, if_neg hk]⟩

/-- The row of a spent local id is that of its handle, closed and without retries. -/
theorem mem_status_iff (hs : r.Spent l) {row : TunnelStatus} (hrow : row.localId = l) :
    row ∈ r.status ↔ ∃ h : Handle, r.handles[l]? = some h ∧
      row = ⟨l, h.port, false, h.session, 0⟩ := by
  have hstatus : ∀ h : Handle, r.handles[l]? = some h →
      r.statusOf l h = ⟨l, h.port, false, h.session, 0⟩ := fun h hl => by
    simp [statusOf, Handle.isClosed, hs.closed h hl, hs.remaining?]
  rw [mem_status]
  constructor
  · rintro ⟨k, h, hk, rfl⟩
    obtain rfl : k = l := hrow
    exact ⟨h, hk, hstatus h hk⟩
  · rintro ⟨h, hl, rfl⟩
    exact ⟨l, h, hl, hstatus h hl⟩

end Spent

/-- Who takes up a handle touches only their own local id. -/
theorem agrees_install {h : Handle} (hl : h.localId ≠ l) : AgreesAt l r (r.install h).2 :=
  ⟨by rw [handles_install, if_neg hl.symm], rfl⟩

/-! ## Noted local ids -/

/-- Whether it was noted that the retries of a local id are spent. -/
def noted (r : Registry) (l : LocalId) : Bool := r.budgets[l]?.any (·.exhaustionReported)

/-- A new budget is not noted as spent. -/
theorem noted_ensureBudget (r : Registry) (k l : LocalId) (n : Nat) :
    (r.ensureBudget k n).noted l = r.noted l := by
  unfold ensureBudget noted
  split
  · rfl
  · next hk =>
    by_cases hkl : k = l
    · subst hkl
      simp [Std.ExtTreeMap.getElem?_eq_none hk]
    · simp [Std.ExtTreeMap.getElem?_insert, hkl]

/-- A reset that is the first to find the retries of a local id spent notes it, and no other reset
changes what is noted. -/
theorem noted_reset (r : Registry) (k l : LocalId) :
    (.decided k (r.reset k).1 = Happening.decided l (.exhausted true) ∧ r.noted l = false ∧
      (r.reset k).2.noted l = true) ∨
    (.decided k (r.reset k).1 ≠ Happening.decided l (.exhausted true) ∧
      (r.reset k).2.noted l = r.noted l) := by
  unfold noted
  by_cases hk : k = l
  · subst hk
    rw [budgets_reset, if_pos rfl]
    by_cases hfirst : (r.reset k).1 = .exhausted true
    · rw [hfirst, reset_eq_exhausted_iff.mp hfirst]
      exact .inl ⟨rfl, rfl, rfl⟩
    · refine .inr ⟨fun h => hfirst (Happening.decided.inj h).2, ?_⟩
      cases hb : r.budgets[k]? with
      | none => rfl
      | some b =>
        obtain ⟨remaining, reported⟩ := b
        cases remaining with
        | succ n => rfl
        | zero =>
          cases reported with
          | true => rfl
          | false => exact absurd (reset_eq_exhausted_iff.mpr hb) hfirst
  · have hlk : l ≠ k := fun h => hk h.symm
    refine .inr ⟨fun h => hk (Happening.decided.inj h).1, ?_⟩
    rw [budgets_reset, if_neg hlk]

end Registry

namespace Supervisor

variable {σ : Type} {setup : Setup σ} {s t : Supervisor σ} {l : LocalId}
  {entries : List Happening}

/-- A reset of the local id found its retries spent, and no start has counted it since. -/
def LeftDown (s : Supervisor σ) (l : LocalId) : Prop :=
  ∃ before first after, s.history = before ++ .decided l (.exhausted first) :: after ∧
    ∀ x, .counted x ∈ after → x.localId ≠ l

/-- A run without an event that is to start a workspace with this local id. -/
def LeadsWithoutStart (setup : Setup σ) (l : LocalId) : Supervisor σ → Supervisor σ → Prop :=
  Relation.ReflTransGen fun s t =>
    ∃ e : Event σ, (∀ x ∈ e.toStart, x.localId ≠ l) ∧ e.apply setup s = some t

theorem LeadsWithoutStart.leads (h : LeadsWithoutStart setup l s t) : Leads setup s t :=
  Relation.ReflTransGen.mono (fun _ _ ⟨e, _, he⟩ => ⟨e, he⟩) _ _ h

/-! ## No start counts -/

/-- A local id is counted as often as before if no new entry of the history counts it. -/
theorem countedAs_eq (h : t.history = s.history ++ entries)
    (hnone : ∀ x, .counted x ∈ entries → x.localId ≠ l) : t.countedAs l = s.countedAs l := by
  have hnew : (entries.filterMap Happening.counted?).countP (·.localId == l) = 0 := by
    refine List.countP_eq_zero.mpr fun x hx => ?_
    obtain ⟨y, hy, hyx⟩ := List.mem_filterMap.mp hx
    cases y with
    | counted z =>
      obtain rfl := Option.some.inj hyx
      simpa using hnone z hy
    | _ => cases hyx
  rw [countedAs, counted_append h, List.countP_append, hnew, Nat.add_zero, countedAs]

theorem LeadsWithoutStart.countedAs_eq {w : Workspace}
    (h : LeadsWithoutStart setup w.localId s t) :
    t.countedAs w.localId = s.countedAs w.localId := by
  induction h with
  | refl => rfl
  | tail _ hstep ih =>
    obtain ⟨e, hnone, he⟩ := hstep
    obtain ⟨lines, entries, -, hhistory, -, hcounted⟩ := adds_of_apply w he
    exact (Supervisor.countedAs_eq hhistory fun x hx => hnone x (hcounted x hx)).trans ih

theorem Moves.countedAs_le (h : Moves s t) : s.countedAs l ≤ t.countedAs l := by
  obtain ⟨entries, hhistory⟩ := h.keeps_history
  exact Supervisor.countedAs_le hhistory.symm

/-! ## What no start touches -/

private theorem Deed.agreesAt (h : Deed s t) (hs : s.registry.Spent l)
    (hcounted : t.countedAs l = s.countedAs l) :
    Registry.AgreesAt l s.registry t.registry ∧ t.opened l = s.opened l := by
  cases h with
  | budget k n => exact ⟨hs.agrees_ensureBudget k n, rfl⟩
  | reset k => exact ⟨hs.agrees_reset k, rfl⟩
  | start w p =>
    have hl : w.localId ≠ l := fun hl => by
      rw [countedAs_started, if_pos hl] at hcounted
      omega
    refine ⟨Registry.agrees_install hl, (opened_enroll s w p l).trans ?_⟩
    rw [if_neg hl, Nat.add_zero]
  | restart w p n assigner store lines hstop hretry =>
    have hl : w.localId ≠ l := by
      rintro rfl
      have hleft : s.registry.remaining? w.localId = some (n + 1) :=
        Registry.reset_eq_retry_iff.mp hretry
      rw [hs.remaining?] at hleft
      cases hleft
    refine ⟨(hs.agrees_reset w.localId).trans (Registry.agrees_install hl),
      (opened_enroll _ w p l).trans ?_⟩
    rw [if_neg hl]
    rfl
  | _ => exact ⟨⟨rfl, rfl⟩, rfl⟩

/-- A move that counts no start of a spent local id touches neither its handle nor its budget, and
opens no session for it. -/
theorem Move.agreesAt (h : Move s t) (hs : s.registry.Spent l)
    (hcounted : t.countedAs l = s.countedAs l) :
    Registry.AgreesAt l s.registry t.registry ∧ t.opened l = s.opened l := by
  cases h with
  | deed h => exact h.agreesAt hs hcounted
  | close k => exact ⟨hs.agrees_closeHandle k, rfl⟩
  | closeAll => exact ⟨hs.agrees_closeAll, rfl⟩
  | _ => exact ⟨⟨rfl, rfl⟩, rfl⟩

/-- The same for any number of moves. -/
theorem Moves.agreesAt (h : Moves s t) (hs : s.registry.Spent l)
    (hcounted : t.countedAs l = s.countedAs l) :
    Registry.AgreesAt l s.registry t.registry ∧ t.opened l = s.opened l := by
  induction h with
  | refl => exact ⟨⟨rfl, rfl⟩, rfl⟩
  | @tail u t hmoves hmove ih =>
    have hbefore : s.countedAs l ≤ u.countedAs l := Moves.countedAs_le hmoves
    have hafter : u.countedAs l ≤ t.countedAs l := Moves.countedAs_le (.single hmove)
    obtain ⟨hagrees, hopened⟩ := ih (by omega)
    obtain ⟨hagrees', hopened'⟩ := hmove.agreesAt (hs.of_agrees hagrees) (by omega)
    exact ⟨hagrees.trans hagrees', hopened'.trans hopened⟩

/-! ## Whoever is left down is spent -/

/-- The move that decided that no retry was left. -/
theorem Move.of_decided (h : Move s t) (hhistory : t.history = s.history ++ entries) {first : Bool}
    (hmem : .decided l (.exhausted first) ∈ entries) :
    t = (s.resetRegistered l).2 ∧ (s.registry.reset l).1 = .exhausted first := by
  have hnew : ∀ new, t.history = s.history ++ new → .decided l (.exhausted first) ∈ new :=
    fun new h => by
      rw [List.append_cancel_left (h.symm.trans hhistory)]
      exact hmem
  cases h with
  | deed h =>
    cases h with
    | probe ws => exact absurd (hnew _ rfl) (by simp)
    | budget k n =>
      have hbudgeted := hnew _ rfl
      split at hbudgeted <;> simp at hbudgeted
    | reset k =>
      have hdecided := List.mem_singleton.mp (hnew [.decided k (s.registry.reset k).1] rfl)
      obtain ⟨rfl, hdecision⟩ := Happening.decided.inj hdecided
      exact ⟨rfl, hdecision.symm⟩
    | start w p => exact absurd (hnew [.counted w] rfl) (by simp)
    | restart w p n assigner store lines hstop hretry =>
      have hdecided := List.mem_singleton.mp
        (hnew [.decided w.localId (s.registry.reset w.localId).1] rfl)
      obtain ⟨-, hdecision⟩ := Happening.decided.inj hdecided
      cases hdecision.trans hretry
    | _ => exact absurd (hnew [] (List.append_nil _).symm) List.not_mem_nil
  | loop mailbox healthLoop entries lines hentries =>
    exact absurd (hentries _ (hnew _ rfl)) (by simp [Happening.ofLoop])
  | _ => exact absurd (hnew [] (List.append_nil _).symm) List.not_mem_nil

/-- Whoever is left down has no retry left and a closed handle. -/
theorem Reachable.spent (hs : Reachable setup s) (h : s.LeftDown l) : s.registry.Spent l := by
  revert h
  refine hs.of_moves (P := fun s => s.LeftDown l → s.registry.Spent l) ?_ ?_
  · rintro s ⟨store, assigner, rfl⟩ ⟨before, first, after, hhistory, -⟩
    simp at hhistory
  · rintro s t hmove hspent ⟨before, first, after, hhistory, hnone⟩
    obtain ⟨entries, hgrown⟩ := Moves.keeps_history (.single hmove)
    rw [← hgrown] at hhistory
    rcases Happening.old_or_new hhistory with ⟨between, hold, rfl⟩ | ⟨between, -, rfl⟩
    · have hs := hspent ⟨before, first, between, hold, fun x hx =>
        hnone x (List.mem_append_left _ hx)⟩
      have hcounted := Supervisor.countedAs_eq hgrown.symm fun x hx =>
        hnone x (List.mem_append_right _ hx)
      exact hs.of_agrees (hmove.agreesAt hs hcounted).1
    · obtain ⟨rfl, hdecision⟩ := hmove.of_decided hgrown.symm
        (List.mem_append_right _ List.mem_cons_self)
      exact Registry.spent_of_reset hdecision

/-- A reset that answers that no retry is left leaves the local id down. -/
theorem leftDown_of_reset {w : Workspace} (h : (s.reset setup w).1 = some .exhausted) :
    (s.reset setup w).2.LeftDown w.localId := by
  unfold reset at h ⊢
  cases hreset : s.resetRegistered w.localId with
  | mk decision t =>
    have hhistory : t.history = s.history ++ [.decided w.localId decision] := by
      obtain rfl : (s.resetRegistered w.localId).2 = t := congrArg Prod.snd hreset
      obtain rfl : (s.registry.reset w.localId).1 = decision := congrArg Prod.fst hreset
      rfl
    rw [hreset] at h
    cases decision with
    | retry n =>
      dsimp only at h
      split at h <;> cases h
    | exhausted first =>
      refine ⟨s.history, first, [], ?_, by simp⟩
      cases first <;> exact hhistory
    | unknown => cases h

/-- The reset of a spent local id changes nothing but the history. -/
theorem reset_of_spent (setup : Setup σ) {w : Workspace} (hs : s.registry.Spent w.localId) :
    s.reset setup w = (some .exhausted, s.record [.decided w.localId (.exhausted false)]) := by
  rw [reset, resetRegistered, hs.reset_eq]
  rfl

/-! ## First found once -/

/-- How often the retries of a local id were found spent for the first time: once if that is
noted, and never otherwise. -/
def FoundOnce (l : LocalId) (s : Supervisor σ) : Prop :=
  s.history.countP (Happening.isFirstExhaustion l) = if s.registry.noted l then 1 else 0

namespace FoundOnce

theorem extend (hs : FoundOnce l s) (hhistory : t.history = s.history ++ entries)
    (hnone : ∀ x ∈ entries, x.isFirstExhaustion l = false)
    (hnoted : t.registry.noted l = s.registry.noted l) : FoundOnce l t := by
  have hnew : entries.countP (Happening.isFirstExhaustion l) = 0 :=
    List.countP_eq_zero.mpr fun x hx => by simp [hnone x hx]
  rw [FoundOnce, hhistory, List.countP_append, hnew, hnoted]
  exact hs

/-- What changes neither the history nor the budgets. -/
theorem congr (hs : FoundOnce l s) (hhistory : t.history = s.history)
    (hbudgets : t.registry.budgets = s.registry.budgets) : FoundOnce l t := by
  rw [FoundOnce, hhistory, Registry.noted, hbudgets]
  exact hs

theorem ensureBudget (hs : FoundOnce l s) (k : LocalId) (n : Nat) :
    FoundOnce l (s.ensureBudget k n) := by
  refine hs.extend rfl (fun x hx => ?_) (s.registry.noted_ensureBudget k l n)
  split at hx
  · simp at hx
  · rw [List.mem_singleton.mp hx]
    rfl

theorem resetRegistered (hs : FoundOnce l s) (k : LocalId) :
    FoundOnce l (s.resetRegistered k).2 := by
  have hhistory : (s.resetRegistered k).2.history =
      s.history ++ [.decided k (s.registry.reset k).1] := rfl
  obtain ⟨hfirst, hbefore, hafter⟩ | ⟨hother, hsame⟩ := s.registry.noted_reset k l
  · have hafter' : (s.resetRegistered k).2.registry.noted l = true := hafter
    rw [FoundOnce, hbefore] at hs
    rw [FoundOnce, hhistory, List.countP_append, hs, hfirst, hafter']
    simp [Happening.isFirstExhaustion]
  · refine hs.extend hhistory (fun x hx => ?_) hsame
    rw [List.mem_singleton.mp hx, ← Bool.not_eq_true, Happening.isFirstExhaustion_iff]
    exact hother

theorem of_deed (hs : FoundOnce l s) (h : Deed s t) : FoundOnce l t := by
  cases h with
  | probe ws =>
    refine hs.extend rfl (fun x hx => ?_) rfl
    obtain ⟨w, -, rfl⟩ := List.mem_map.mp hx
    rfl
  | budget k n => exact hs.ensureBudget k n
  | reset k => exact hs.resetRegistered k
  | start w p =>
    refine hs.extend (t := (s.enroll w p).record [.counted w]) rfl (fun x hx => ?_) rfl
    rw [List.mem_singleton.mp hx]
    rfl
  | restart w p n assigner store lines => exact (hs.resetRegistered w.localId).congr rfl rfl
  | _ => exact hs.congr rfl rfl

theorem of_move (hs : FoundOnce l s) (h : Move s t) : FoundOnce l t := by
  cases h with
  | deed h => exact hs.of_deed h
  | loop mailbox healthLoop entries lines hentries =>
    refine hs.extend rfl (fun x hx => ?_) rfl
    have hloop := hentries x hx
    cases x with
    | decided k d => cases hloop
    | _ => rfl
  | close k => exact hs.congr rfl (s.registry.budgets_closeHandle k)
  | _ => exact hs.congr rfl rfl

end FoundOnce

/-- That the retries of a local id are spent is found for the first time at most once in a run. -/
theorem Reachable.foundOnce (hs : Reachable setup s) (l : LocalId) : FoundOnce l s := by
  refine hs.of_moves ?_ fun _ _ hmove h => h.of_move hmove
  rintro s ⟨store, assigner, rfl⟩
  rfl

/-- Exhaustion is for good and told once. A reset that answers that no retry is left leaves the
local id down. A local id that was left down, by such a reset or in a pass over all workspaces,
stays as it is in every run that is not to start it again: its row, if it has one, keeps its
session and its port, is not open and shows no retries; no session is opened for it; and each
further reset, whoever it is for, gives the same answer and changes nothing but the history. And
in every run, whatever is started later, at most one reset of the local id is the first to find
its retries spent, and the log tells of that at most once. -/
theorem Reachable.exhaustion_absorbing (hs : Reachable setup s) (w : Workspace) :
    let l := w.localId
    ((s.reset setup w).1 = some .exhausted → (s.reset setup w).2.LeftDown l) ∧
    (s.LeftDown l → ∀ t : Supervisor σ, LeadsWithoutStart setup l s t →
      (∀ row : TunnelStatus, row.localId = l →
        (row ∈ t.registry.status ↔ row ∈ s.registry.status) ∧
        (row ∈ t.registry.status → row.isOpen = false ∧ row.remaining = 0)) ∧
      t.opened l = s.opened l ∧
      ∀ x : Workspace, x.localId = l →
        t.reset setup x = (some .exhausted, t.record [.decided l (.exhausted false)])) ∧
    s.history.countP (Happening.isFirstExhaustion l) ≤ 1 ∧
    s.logs.count (exhaustionNotice l) ≤ 1 := by
  intro l
  have honce : s.history.countP (Happening.isFirstExhaustion l) ≤ 1 := by
    rw [hs.foundOnce l]
    split <;> decide
  refine ⟨leftDown_of_reset, fun hdown t ht => ?_, honce,
    (hs.count_exhaustionNotice_le w).trans honce⟩
  have hspent := hs.spent hdown
  obtain ⟨hagrees, hopened⟩ := ht.leads.moves.agreesAt hspent ht.countedAs_eq
  have hstill := hspent.of_agrees hagrees
  refine ⟨fun row hrow => ⟨?_, fun hmem => ?_⟩, hopened, fun x hx => ?_⟩
  · rw [hstill.mem_status_iff hrow, hspent.mem_status_iff hrow, hagrees.1]
  · obtain ⟨h, -, rfl⟩ := (hstill.mem_status_iff hrow).mp hmem
    exact ⟨rfl, rfl⟩
  · rw [← hx] at hstill ⊢
    exact reset_of_spent setup hstill

/-- A workspace that is reset four times has no retry left. A pass that finds everybody unhealthy
and a start of another workspace leave it down with its last session. -/
theorem exhaustion_absorbing_pass :
    let reset := fun s : Supervisor PinTable => (s.reset SmallFleet.setup SmallFleet.web).2
    let s := reset (reset (reset SmallFleet.started))
    let t := (((reset s).recheck SmallFleet.setup fun _ => .unhealthy none).2.start
      SmallFleet.setup [SmallFleet.db]).2
    let l := SmallFleet.web.localId
    Reachable SmallFleet.setup s ∧ (s.reset SmallFleet.setup SmallFleet.web).1 = some .exhausted ∧
      LeadsWithoutStart SmallFleet.setup l (reset s) t ∧
      t.opened l = 4 ∧ (t.reset SmallFleet.setup SmallFleet.web).1 = some .exhausted ∧
      t.logs.count (exhaustionNotice l) ≤ 1 := by
  intro reset s t l
  have hstep : ∀ u : Supervisor PinTable, Reachable SmallFleet.setup u →
      Reachable SmallFleet.setup (reset u) := fun u hu => .step (.reset SmallFleet.web) hu rfl
  have hs : Reachable SmallFleet.setup s :=
    hstep _ (hstep _ (hstep _ SmallFleet.started_reachable))
  have hanswer : (s.reset SmallFleet.setup SmallFleet.web).1 = some .exhausted := by
    decide +kernel
  have hopened : (reset s).opened l = 4 := by decide +kernel
  have hlead : LeadsWithoutStart SmallFleet.setup l (reset s) t :=
    .tail (.single ⟨.recheck fun _ => .unhealthy none, by simp [Event.toStart], rfl⟩)
      ⟨.start [SmallFleet.db], by decide +kernel, rfl⟩
  obtain ⟨hdown, -⟩ := Reachable.exhaustion_absorbing hs SmallFleet.web
  obtain ⟨-, habsorbing, -⟩ := Reachable.exhaustion_absorbing (hstep s hs) SmallFleet.web
  obtain ⟨-, hsame, hagain⟩ := habsorbing (hdown hanswer) t hlead
  obtain ⟨-, -, -, honce⟩ :=
    Reachable.exhaustion_absorbing ((hstep s hs).leads hlead.leads) SmallFleet.web
  exact ⟨hs, hanswer, hlead, hsame.trans hopened,
    congrArg Prod.fst (hagain SmallFleet.web rfl), honce⟩

end Supervisor

end TunnelFleet
