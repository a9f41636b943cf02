import TunnelFleet.Supervision.Registry

/-!
# What registry operations leave behind

Each operation of the registry is described by what it does to the four views of a
registry: the handle of a local id, the retries of a local id, the cancelled tokens
and the number of the last session. Later proofs use these descriptions and do not
open the operations.
-/

namespace TunnelFleet

@[simp] theorem LocalId.compare_eq_iff (k l : LocalId) : compare k l = .eq ↔ k = l :=
  Std.LawfulEqCmp.compare_eq_iff_eq

/-- Inserting what is there already changes nothing. -/
theorem LocalId.insert_eq_self {β : Type} {m : Std.ExtTreeMap LocalId β} {l : LocalId} {b : β}
    (h : m[l]? = some b) : m.insert l b = m := by
  refine Std.ExtTreeMap.ext_getElem? fun k => ?_
  by_cases hk : l = k
  · simp [← hk, h]
  · simp [Std.ExtTreeMap.getElem?_insert, hk]

/-- Maps with the same local ids list them alike. -/
theorem LocalId.keys_congr {β : Type} {m m' : Std.ExtTreeMap LocalId β}
    (h : ∀ k, k ∈ m' ↔ k ∈ m) : m'.keys = m.keys := by
  have hunits : m'.map (fun _ _ => ()) = m.map fun _ _ => () :=
    Std.ExtTreeMap.ext_mem_unit fun k => by simpa using h k
  have hkeys := congrArg Std.ExtTreeMap.keys hunits
  rwa [Std.ExtTreeMap.keys_map, Std.ExtTreeMap.keys_map] at hkeys

namespace Handle

@[simp] theorem port_shut (h : Handle) : h.shut.port = h.port := rfl
@[simp] theorem session_shut (h : Handle) : h.shut.session = h.session := rfl
@[simp] theorem token_shut (h : Handle) : h.shut.token = h.token := rfl
@[simp] theorem closed_shut (h : Handle) : h.shut.closed = true := rfl

/-- Releasing a handle cancels its token, unless the handle was closed before. -/
@[simp] theorem isCancelled_release (h : Handle) (t : Tokens) (n : Nat) :
    (h.release t).isCancelled n = (t.isCancelled n || (!h.closed && n == h.token)) := by
  unfold release
  cases h.closed <;> simp [Bool.or_comm]

@[simp] theorem rootCancelled_release (h : Handle) (t : Tokens) :
    (h.release t).rootCancelled = t.rootCancelled := by
  unfold release
  split <;> rfl

end Handle

namespace Registry

theorem mem_handles_iff {r : Registry} {l : LocalId} :
    l ∈ r.handles ↔ ∃ h : Handle, r.handles[l]? = some h :=
  Std.ExtTreeMap.mem_iff_isSome_getElem?.trans Option.isSome_iff_exists

/-! ## Closing -/

/-- Closing the handle of a local id shuts this handle and no other. -/
@[simp] theorem handles_closeHandle (r : Registry) (l k : LocalId) :
    (r.closeHandle l).2.handles[k]? =
      if k = l then r.handles[l]?.map Handle.shut else r.handles[k]? := by
  unfold closeHandle
  cases hl : r.handles[l]? with
  | none =>
    by_cases hk : k = l
    · simp [hk, hl]
    · simp [hk]
  | some h =>
    by_cases hk : k = l
    · simp [Handle.close, hk]
    · have hlk : l ≠ k := fun h => hk h.symm
      simp [Handle.close, Std.ExtTreeMap.getElem?_insert, hk, hlk]

/-- Closing the handle of a local id leaves each handle as it is or shuts it. -/
theorem kept_or_shut_closeHandle (r : Registry) (l k : LocalId) :
    (r.closeHandle l).2.handles[k]? = r.handles[k]? ∨
      (r.closeHandle l).2.handles[k]? = r.handles[k]?.map Handle.shut := by
  rw [handles_closeHandle]
  split
  · next hkl => exact .inr (by rw [hkl])
  · exact .inl rfl

@[simp] theorem mem_handles_closeHandle {r : Registry} {l k : LocalId} :
    k ∈ (r.closeHandle l).2.handles ↔ k ∈ r.handles := by
  rw [Std.ExtTreeMap.mem_iff_isSome_getElem?, handles_closeHandle,
    Std.ExtTreeMap.mem_iff_isSome_getElem?]
  split
  · next hkl => rw [hkl, Option.isSome_map]
  · rfl

@[simp] theorem budgets_closeHandle (r : Registry) (l : LocalId) :
    (r.closeHandle l).2.budgets = r.budgets := by
  unfold closeHandle
  split <;> rfl

@[simp] theorem lastSession_closeHandle (r : Registry) (l : LocalId) :
    (r.closeHandle l).2.lastSession = r.lastSession := by
  unfold closeHandle
  split <;> rfl

/-- Closing the handle of a local id cancels its token and no other. -/
@[simp] theorem isCancelled_closeHandle (r : Registry) (l : LocalId) (n : Nat) :
    (r.closeHandle l).2.tokens.isCancelled n =
      (r.tokens.isCancelled n || r.handles[l]?.any fun h => !h.closed && n == h.token) := by
  unfold closeHandle
  cases r.handles[l]? <;> simp [Handle.close]

@[simp] theorem rootCancelled_closeHandle (r : Registry) (l : LocalId) :
    (r.closeHandle l).2.tokens.rootCancelled = r.tokens.rootCancelled := by
  unfold closeHandle
  cases r.handles[l]? <;> simp [Handle.close]

/-- Closing a session closes the handle of its local id if this is its handle, and does
nothing otherwise. -/
theorem closeSession_eq (r : Registry) (l : LocalId) (n : Nat) :
    (r.closeSession l n).2 =
      if r.handles[l]?.any (fun h => h.session == n) then (r.closeHandle l).2 else r := by
  unfold closeSession
  cases r.handles[l]? with
  | none => simp
  | some h => by_cases hn : h.session = n <;> simp [hn]

@[simp] theorem handles_closeAll (r : Registry) (k : LocalId) :
    r.closeAll.2.handles[k]? = r.handles[k]?.map Handle.shut := by
  simp [closeAll]

@[simp] theorem mem_handles_closeAll {r : Registry} {k : LocalId} :
    k ∈ r.closeAll.2.handles ↔ k ∈ r.handles := by
  rw [Std.ExtTreeMap.mem_iff_isSome_getElem?, handles_closeAll, Option.isSome_map,
    Std.ExtTreeMap.mem_iff_isSome_getElem?]

/-- A handle is among the current ones if and only if it is the handle of a local id. -/
theorem mem_currentHandles {r : Registry} {h : Handle} :
    h ∈ r.currentHandles ↔ ∃ l : LocalId, r.handles[l]? = some h := by
  simp [currentHandles, Std.ExtTreeMap.mem_toList_iff_getElem?_eq_some]

/-- A row is shown for each handle, and no other row is shown. -/
theorem mem_status {r : Registry} {row : TunnelStatus} :
    row ∈ r.status ↔
      ∃ (l : LocalId) (h : Handle), r.handles[l]? = some h ∧ r.statusOf l h = row := by
  simp [status, Std.ExtTreeMap.mem_toList_iff_getElem?_eq_some]

theorem map_localId_status (r : Registry) :
    r.status.map (·.localId) = r.handles.toList.map Prod.fst := by
  rw [status, List.map_map]
  rfl

/-- The rows are in the order of their local ids, one for each. -/
theorem pairwise_status (r : Registry) :
    r.status.Pairwise fun x y => compare x.localId y.localId = .lt :=
  List.pairwise_map.mpr Std.ExtTreeMap.ordered_keys_toList

/-- Rows appear and disappear only together with handles. -/
theorem map_localId_status_congr {r r' : Registry} (h : ∀ k, k ∈ r'.handles ↔ k ∈ r.handles) :
    r'.status.map (·.localId) = r.status.map (·.localId) := by
  rw [map_localId_status, map_localId_status, Std.ExtTreeMap.map_fst_toList_eq_keys,
    Std.ExtTreeMap.map_fst_toList_eq_keys, LocalId.keys_congr h]

private theorem isCancelled_foldl_release (hs : List Handle) (t : Tokens) (n : Nat) :
    (hs.foldl (fun t h => h.release t) t).isCancelled n =
      (t.isCancelled n || hs.any fun h => !h.closed && n == h.token) := by
  induction hs generalizing t with
  | nil => simp
  | cons h hs ih => rw [List.foldl_cons, ih, Handle.isCancelled_release, List.any_cons,
      Bool.or_assoc]

/-- Closing all handles cancels the tokens of those that were not closed before. -/
theorem isCancelled_closeAll (r : Registry) (n : Nat) :
    r.closeAll.2.tokens.isCancelled n =
      (r.tokens.isCancelled n || r.currentHandles.any fun h => !h.closed && n == h.token) :=
  isCancelled_foldl_release _ _ _

@[simp] theorem rootCancelled_closeAll (r : Registry) :
    r.closeAll.2.tokens.rootCancelled = r.tokens.rootCancelled := by
  suffices h : ∀ (hs : List Handle) (t : Tokens),
      (hs.foldl (fun t h => h.release t) t).rootCancelled = t.rootCancelled from h _ _
  intro hs
  induction hs with
  | nil => intro t; rfl
  | cons h hs ih => intro t; rw [List.foldl_cons, ih, Handle.rootCancelled_release]

/-! ## Budgets -/

@[simp] theorem handles_ensureBudget (r : Registry) (l : LocalId) (n : Nat) :
    (r.ensureBudget l n).handles = r.handles := by
  unfold ensureBudget
  split <;> rfl

@[simp] theorem tokens_ensureBudget (r : Registry) (l : LocalId) (n : Nat) :
    (r.ensureBudget l n).tokens = r.tokens := by
  unfold ensureBudget
  split <;> rfl

@[simp] theorem lastSession_ensureBudget (r : Registry) (l : LocalId) (n : Nat) :
    (r.ensureBudget l n).lastSession = r.lastSession := by
  unfold ensureBudget
  split <;> rfl

/-- A local id has retries left, possibly none, if and only if it has a budget. -/
theorem mem_budgets_iff {r : Registry} {l : LocalId} :
    l ∈ r.budgets ↔ (r.remaining? l).isSome = true := by
  rw [remaining?, Option.isSome_map, Std.ExtTreeMap.mem_iff_isSome_getElem?]

/-- A new budget leaves the other ones alone, and an old one is never refilled. -/
theorem remaining?_ensureBudget (r : Registry) (l k : LocalId) (n : Nat) :
    (r.ensureBudget l n).remaining? k =
      if k = l then some ((r.remaining? l).getD n) else r.remaining? k := by
  unfold ensureBudget
  by_cases hl : l ∈ r.budgets
  · rw [if_pos hl]
    obtain ⟨m, hm⟩ := Option.isSome_iff_exists.mp (mem_budgets_iff.mp hl)
    by_cases hk : k = l <;> simp [hk, hm]
  · have hnone : r.remaining? l = none := by
      rwa [mem_budgets_iff, Bool.not_eq_true, Option.isSome_eq_false_iff, Option.isNone_iff_eq_none]
        at hl
    rw [if_neg hl, hnone]
    by_cases hk : k = l
    · simp [hk, remaining?]
    · have hlk : l ≠ k := fun h => hk h.symm
      simp [hk, hlk, remaining?, Std.ExtTreeMap.getElem?_insert]

@[simp] theorem mem_budgets_ensureBudget {r : Registry} {l k : LocalId} {n : Nat} :
    k ∈ (r.ensureBudget l n).budgets ↔ k = l ∨ k ∈ r.budgets := by
  rw [mem_budgets_iff, mem_budgets_iff, remaining?_ensureBudget]
  split <;> simp_all

private theorem remaining?_insert (r : Registry) (l k : LocalId) (b : RetryBudget) :
    { r with budgets := r.budgets.insert l b }.remaining? k =
      if k = l then some b.remaining else r.remaining? k := by
  by_cases hk : k = l
  · simp [remaining?, hk]
  · have hlk : l ≠ k := fun h => hk h.symm
    simp [remaining?, Std.ExtTreeMap.getElem?_insert, hk, hlk]

/-- What taking a retry from the budget of a local id leads to: nothing without a budget,
one retry less if there was one, and no change of the retries at zero. -/
theorem spend_cases (r : Registry) (l : LocalId) :
    (r.remaining? l = none ∧ r.spend l = (.unknown, r)) ∨
    (∃ first budgets, r.remaining? l = some 0 ∧
      r.spend l = (.exhausted first, { r with budgets }) ∧
      ∀ k, { r with budgets }.remaining? k = r.remaining? k) ∨
    (∃ n budgets, r.remaining? l = some (n + 1) ∧
      r.spend l = (.retry n, { r with budgets }) ∧
      ∀ k, { r with budgets }.remaining? k = if k = l then some n else r.remaining? k) := by
  unfold spend
  cases hb : r.budgets[l]? with
  | none => exact .inl ⟨by simp [remaining?, hb], rfl⟩
  | some b =>
    right
    obtain ⟨remaining, reported⟩ := b
    cases remaining with
    | zero =>
      refine .inl ⟨_, _, by simp [remaining?, hb], rfl, fun k => ?_⟩
      rw [remaining?_insert]
      split
      · next hk => simp [hk, remaining?, hb]
      · rfl
    | succ n =>
      exact .inr ⟨n, _, by simp [remaining?, hb], rfl, fun k => remaining?_insert r l k _⟩

/-- Taking a retry changes the budgets only. -/
theorem spend_eq (r : Registry) (l : LocalId) :
    ∃ budgets, (r.spend l).2 = { r with budgets } := by
  obtain ⟨-, h⟩ | ⟨_, budgets, -, h, -⟩ | ⟨_, budgets, -, h, -⟩ := r.spend_cases l
  · exact ⟨r.budgets, by rw [h]⟩
  · exact ⟨budgets, by rw [h]⟩
  · exact ⟨budgets, by rw [h]⟩

/-! ## Resetting -/

@[simp] theorem handles_reset (r : Registry) (l k : LocalId) :
    (r.reset l).2.handles[k]? = if k = l then r.handles[l]?.map Handle.shut else r.handles[k]? := by
  obtain ⟨budgets, h⟩ := (r.closeHandle l).2.spend_eq l
  rw [reset, h, ← handles_closeHandle]

/-- A reset leaves each handle as it is or shuts it. -/
theorem kept_or_shut_reset (r : Registry) (l k : LocalId) :
    (r.reset l).2.handles[k]? = r.handles[k]? ∨
      (r.reset l).2.handles[k]? = r.handles[k]?.map Handle.shut := by
  obtain ⟨budgets, h⟩ := (r.closeHandle l).2.spend_eq l
  rw [reset, h]
  exact r.kept_or_shut_closeHandle l k

@[simp] theorem mem_handles_reset {r : Registry} {l k : LocalId} :
    k ∈ (r.reset l).2.handles ↔ k ∈ r.handles := by
  obtain ⟨budgets, h⟩ := (r.closeHandle l).2.spend_eq l
  rw [reset, h]
  exact mem_handles_closeHandle

/-- A reset cancels the token of the local id and no other. -/
@[simp] theorem isCancelled_reset (r : Registry) (l : LocalId) (n : Nat) :
    (r.reset l).2.tokens.isCancelled n =
      (r.tokens.isCancelled n || r.handles[l]?.any fun h => !h.closed && n == h.token) := by
  obtain ⟨budgets, h⟩ := (r.closeHandle l).2.spend_eq l
  rw [reset, h, ← isCancelled_closeHandle]

@[simp] theorem rootCancelled_reset (r : Registry) (l : LocalId) :
    (r.reset l).2.tokens.rootCancelled = r.tokens.rootCancelled := by
  obtain ⟨budgets, h⟩ := (r.closeHandle l).2.spend_eq l
  rw [reset, h, ← rootCancelled_closeHandle r l]

@[simp] theorem lastSession_reset (r : Registry) (l : LocalId) :
    (r.reset l).2.lastSession = r.lastSession := by
  obtain ⟨budgets, h⟩ := (r.closeHandle l).2.spend_eq l
  rw [reset, h, ← lastSession_closeHandle r l]

/-- What a reset decides, and what it does to the retries: without a budget it does nothing
to them, at zero they stay at zero, and otherwise the local id has one retry less. -/
theorem reset_cases (r : Registry) (l : LocalId) :
    (r.remaining? l = none ∧ (r.reset l).1 = .unknown ∧
      ∀ k, (r.reset l).2.remaining? k = r.remaining? k) ∨
    (∃ first, r.remaining? l = some 0 ∧ (r.reset l).1 = .exhausted first ∧
      ∀ k, (r.reset l).2.remaining? k = r.remaining? k) ∨
    (∃ n, r.remaining? l = some (n + 1) ∧ (r.reset l).1 = .retry n ∧
      ∀ k, (r.reset l).2.remaining? k = if k = l then some n else r.remaining? k) := by
  have hclose : ∀ k, (r.closeHandle l).2.remaining? k = r.remaining? k := fun k => by
    rw [remaining?, budgets_closeHandle, remaining?]
  obtain ⟨hr, h⟩ | ⟨first, budgets, hr, h, hk⟩ | ⟨n, budgets, hr, h, hk⟩ :=
    (r.closeHandle l).2.spend_cases l
  · exact .inl ⟨by rw [← hclose, hr], by rw [reset, h], fun k => by rw [reset, h, hclose]⟩
  · exact .inr (.inl ⟨first, by rw [← hclose, hr], by rw [reset, h],
      fun k => by rw [reset, h, hk, hclose]⟩)
  · exact .inr (.inr ⟨n, by rw [← hclose, hr], by rw [reset, h],
      fun k => by rw [reset, h, hk, hclose]⟩)

/-- A reset takes a retry of the local id, as long as there is one, and no other. -/
@[simp] theorem remaining?_reset (r : Registry) (l k : LocalId) :
    (r.reset l).2.remaining? k =
      if k = l then (r.remaining? l).map (· - 1) else r.remaining? k := by
  obtain ⟨hr, -, hk⟩ | ⟨first, hr, -, hk⟩ | ⟨n, hr, -, hk⟩ := r.reset_cases l
  all_goals
    rw [hk]
    by_cases hkl : k = l <;> simp [hkl, hr]

/-- A reset neither gives nor takes a budget. -/
@[simp] theorem mem_budgets_reset {r : Registry} {l k : LocalId} :
    k ∈ (r.reset l).2.budgets ↔ k ∈ r.budgets := by
  rw [mem_budgets_iff, mem_budgets_iff, remaining?_reset]
  split
  · next hkl => rw [hkl, Option.isSome_map]
  · rfl

/-- A reset is granted a retry if and only if one was left. -/
theorem reset_eq_retry_iff {r : Registry} {l : LocalId} {n : Nat} :
    (r.reset l).1 = .retry n ↔ r.remaining? l = some (n + 1) := by
  obtain ⟨hr, hd, -⟩ | ⟨first, hr, hd, -⟩ | ⟨m, hr, hd, -⟩ := r.reset_cases l
  · simp [hr, hd]
  · simp [hr, hd]
  · simp [hr, hd]

/-- A reset is granted some retry if and only if one was left. -/
theorem exists_reset_eq_retry_iff {r : Registry} {l : LocalId} :
    (∃ n, (r.reset l).1 = .retry n) ↔ ∃ m, r.remaining? l = some m ∧ 0 < m := by
  simp only [reset_eq_retry_iff]
  exact ⟨fun ⟨n, hn⟩ => ⟨n + 1, hn, n.succ_pos⟩,
    fun ⟨m, hm, hpos⟩ => ⟨m - 1, by rw [hm, Nat.sub_add_cancel hpos]⟩⟩

/-- What a reset makes of the budgets: a retry of the local id is taken, or it is noted that
none is left. -/
theorem budgets_reset (r : Registry) (l k : LocalId) :
    (r.reset l).2.budgets[k]? =
      if k = l then r.budgets[l]?.map fun b =>
        if b.remaining = 0 then { b with exhaustionReported := true }
        else { b with remaining := b.remaining - 1 }
      else r.budgets[k]? := by
  unfold reset spend
  rw [budgets_closeHandle]
  cases hb : r.budgets[l]? with
  | none => by_cases hk : k = l <;> simp [hk, hb]
  | some b =>
    obtain ⟨remaining, reported⟩ := b
    by_cases hk : k = l
    · cases remaining <;> simp [hk, RetryBudget.consume]
    · have hlk : l ≠ k := fun h => hk h.symm
      cases remaining <;> simp [hk, hlk, RetryBudget.consume, Std.ExtTreeMap.getElem?_insert]

/-- A reset finds the retries of a local id spent if none is left, and for the first time if that
was not noted before. -/
theorem reset_eq_exhausted_iff {r : Registry} {l : LocalId} {first : Bool} :
    (r.reset l).1 = .exhausted first ↔ r.budgets[l]? = some ⟨0, !first⟩ := by
  unfold reset spend
  rw [budgets_closeHandle]
  cases hb : r.budgets[l]? with
  | none => simp
  | some b =>
    obtain ⟨remaining, reported⟩ := b
    cases remaining with
    | zero => cases first <;> cases reported <;> simp [RetryBudget.consume]
    | succ n => simp [RetryBudget.consume]

/-! ## Replacing -/

/-- Whether a workspace may hold its local id: nobody else holds it. -/
def Admits (r : Registry) (w : Workspace) : Prop :=
  ∀ h : Handle, r.handles[w.localId]? = some h → h.workspace.id = w.id

@[simp] theorem handles_install (r : Registry) (h : Handle) (k : LocalId) :
    (r.install h).2.handles[k]? =
      if k = h.localId then some { h with session := r.lastSession + 1 } else r.handles[k]? := by
  by_cases hk : k = h.localId
  · simp [install, hk]
  · have hlk : h.localId ≠ k := fun h => hk h.symm
    simp [install, Std.ExtTreeMap.getElem?_insert, hk, hlk]

@[simp] theorem mem_handles_install {r : Registry} {h : Handle} {k : LocalId} :
    k ∈ (r.install h).2.handles ↔ k = h.localId ∨ k ∈ r.handles := by
  rw [Std.ExtTreeMap.mem_iff_isSome_getElem?, handles_install,
    Std.ExtTreeMap.mem_iff_isSome_getElem?]
  split <;> simp_all

@[simp] theorem remaining?_install (r : Registry) (h : Handle) (k : LocalId) :
    (r.install h).2.remaining? k = r.remaining? k := rfl

@[simp] theorem lastSession_install (r : Registry) (h : Handle) :
    (r.install h).2.lastSession = r.lastSession + 1 := rfl

/-- Taking up a handle cancels the token of the handle before it and no other. -/
@[simp] theorem isCancelled_install (r : Registry) (h : Handle) (n : Nat) :
    (r.install h).2.tokens.isCancelled n =
      (r.tokens.isCancelled n ||
        r.handles[h.localId]?.any fun h => !h.closed && n == h.token) := by
  unfold install
  cases r.handles[h.localId]? <;> simp

@[simp] theorem rootCancelled_install (r : Registry) (h : Handle) :
    (r.install h).2.tokens.rootCancelled = r.tokens.rootCancelled := by
  unfold install
  cases r.handles[h.localId]? <;> simp

/-- A handle is refused if another workspace holds its local id, and taken up otherwise. -/
theorem replace_cases (r : Registry) (h : Handle) :
    (∃ current : Handle, r.handles[h.localId]? = some current ∧
      current.workspace.id ≠ h.workspace.id ∧
      r.replace h = (.error (.conflict h.localId current.workspace.id), r)) ∨
    (r.Admits h.workspace ∧ r.replace h = (.ok (r.lastSession + 1), (r.install h).2)) := by
  unfold replace
  cases hl : r.handles[h.localId]? with
  | none =>
    refine .inr ⟨fun current hcurrent => ?_, rfl⟩
    have hne : none = some current := hl.symm.trans hcurrent
    cases hne
  | some current =>
    by_cases hid : current.workspace.id = h.workspace.id
    · refine .inr ⟨fun other hother => ?_, by simp only [if_pos hid]; rfl⟩
      obtain rfl : current = other := Option.some.inj (hl.symm.trans hother)
      exact hid
    · exact .inl ⟨current, rfl, hid, by simp only [if_neg hid]⟩

end Registry

end TunnelFleet
