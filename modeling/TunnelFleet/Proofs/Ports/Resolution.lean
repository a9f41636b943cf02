import TunnelFleet.Ports.Assigner

/-!
# What port requests do to the issued ports

A request for a port ends in one of four ways, which `resolve_cases` tells apart, and it
changes the issued ports only at the local id that it is for. So a local id that was issued a
port keeps one for the rest of the run. One that has a port is never drawn another: only the
store can refuse it, and the store is not written to.
-/

namespace TunnelFleet.Assigner

variable {σ : Type} {ports : PortStore σ} {sampler : Sampler} {a : Assigner} {store : σ}
  {l k : LocalId} {p q : UInt16}

@[simp] theorem issued_issue (a : Assigner) (l k : LocalId) (p : UInt16) :
    (a.issue l p).issued[k]? = if k = l then some p else a.issued[k]? := by
  by_cases hk : k = l
  · simp [issue, hk]
  · have hlk : compare l k ≠ .eq := fun h => hk (Std.LawfulEqCmp.compare_eq_iff_eq.mp h).symm
    simp [issue, Std.ExtTreeMap.getElem?_insert, hk, hlk]

@[simp] theorem issued_claim (a : Assigner) (l k : LocalId) (p : UInt16) :
    (a.claim l p).1.issued[k]? = if k = l then some p else a.issued[k]? :=
  issued_issue a l k p

/-! ## Holders -/

theorem isIssued_iff : a.isIssued p = true ↔ ∃ k : LocalId, a.issued[k]? = some p := by
  simp only [isIssued, List.any_eq_true, Prod.exists, beq_iff_eq,
    Std.ExtTreeMap.mem_toList_iff_getElem?_eq_some]
  constructor
  · rintro ⟨k, q, hk, rfl⟩
    exact ⟨k, hk⟩
  · rintro ⟨k, hk⟩
    exact ⟨k, p, hk, rfl⟩

/-- If another local id holds a port, another holder of it is found. -/
theorem exists_otherHolder (hk : a.issued[k]? = some p) (hne : k ≠ l) :
    ∃ other, a.otherHolder? l p = some other ∧ other ≠ l := by
  have hfound : (a.otherHolder? l p).isSome = true := by
    rw [otherHolder?, Option.isSome_map, List.find?_isSome]
    exact ⟨(k, p), Std.ExtTreeMap.mem_toList_iff_getElem?_eq_some.mpr hk, by simp [hne]⟩
  obtain ⟨other, hother⟩ := Option.isSome_iff_exists.mp hfound
  refine ⟨other, hother, ?_⟩
  obtain ⟨⟨other, q⟩, hfind, rfl⟩ := Option.map_eq_some_iff.mp hother
  have hne' := List.find?_some hfind
  simp only [Bool.and_eq_true, beq_iff_eq, bne_iff_ne, ne_eq] at hne'
  exact hne'.2

/-- A claim of a port that another local id holds is logged. -/
theorem exists_shared_mem_claim (hk : a.issued[k]? = some p) (hne : k ≠ l) :
    ∃ other, other ≠ l ∧ shared l p other ∈ (a.claim l p).2 := by
  obtain ⟨other, hfound, hother⟩ := exists_otherHolder hk hne
  exact ⟨other, hother, by simp [claim, hfound]⟩

/-- If two local ids come to have the same port when one port is set, then it was set for one of
them and the other had it already. -/
theorem had_of_set {f g : LocalId → Option UInt16} {x : LocalId} (hne : l ≠ k)
    (hset : ∀ y, g y = if y = x then some q else f y) (hbefore : ¬ (f l = some p ∧ f k = some p))
    (hl : g l = some p) (hk : g k = some p) :
    q = p ∧ ((x = l ∧ f k = some p) ∨ (x = k ∧ f l = some p)) := by
  rw [hset] at hl hk
  by_cases hxl : l = x
  · have hxk : k ≠ x := fun h => hne (hxl.trans h.symm)
    rw [if_pos hxl] at hl
    rw [if_neg hxk] at hk
    exact ⟨Option.some.inj hl, .inl ⟨hxl.symm, hk⟩⟩
  · rw [if_neg hxl] at hl
    by_cases hxk : k = x
    · rw [if_pos hxk] at hk
      exact ⟨Option.some.inj hk, .inr ⟨hxk.symm, hl⟩⟩
    · rw [if_neg hxk] at hk
      exact absurd ⟨hl, hk⟩ hbefore

/-! ## Pins set aside -/

private theorem issued_reserveOne (ports : PortStore σ) (store : σ) (a : Assigner)
    (l k : LocalId) :
    (reserveOne ports store a l).1.issued[k]? =
      if k = l then (ports.pin? store l).or a.issued[k]? else a.issued[k]? := by
  unfold reserveOne PortStore.pin?
  cases ports.lookup store l with
  | error e => simp
  | ok pin =>
    cases pin with
    | none => simp
    | some p => simp

/-- Afterwards each of the workspaces holds its pinned port, if it has one that can be looked
up. -/
theorem issued_reserve (ports : PortStore σ) (store : σ) (a : Assigner) (ws : List Workspace)
    (k : LocalId) :
    (reserve ports store a ws).1.issued[k]? =
      if ∃ w ∈ ws, w.localId = k then (ports.pin? store k).or a.issued[k]? else a.issued[k]? := by
  induction ws generalizing a with
  | nil => simp [reserve]
  | cons w ws ih =>
    refine (ih (reserveOne ports store a w.localId).1).trans ?_
    rw [issued_reserveOne]
    by_cases hw : w.localId = k
    · subst hw
      cases ports.pin? store w.localId <;> simp
    · have hkw : k ≠ w.localId := fun h => hw h.symm
      simp [hw, hkw]

/-- Reserving pinned ports takes no local id's port away. -/
theorem mem_issued_reserve {ws : List Workspace} (hk : k ∈ a.issued) :
    k ∈ (reserve ports store a ws).1.issued := by
  rw [Std.ExtTreeMap.mem_iff_isSome_getElem?] at hk ⊢
  rw [issued_reserve]
  split
  · rw [Option.isSome_or, hk, Bool.or_true]
  · exact hk

/-! ## Draws and requests -/

/-- What a search finds was accepted at one of its draws. -/
theorem exists_accepts_of_search {attempts n m : Nat}
    (h : a.search sampler attempts n = (some p, m)) : ∃ i, a.accepts sampler i p = true := by
  induction attempts generalizing n with
  | zero => cases h
  | succ attempts ih =>
    unfold search at h
    dsimp only at h
    split at h
    · next haccepts =>
      obtain ⟨hp, -⟩ := Prod.mk.inj h
      obtain rfl := Option.some.inj hp
      exact ⟨n, haccepts⟩
    · exact ih h

/-- A draw is cut short, or fails and only counts its attempts, or finds a port that nobody
holds, issues it and offers it to the store. -/
theorem draw_cases (ports : PortStore σ) (sampler : Sampler) (l : LocalId) (a : Assigner)
    (store : σ) :
    (a.drawing.range.size = 0 ∧
      a.draw ports sampler l store = { result := .aborted, assigner := a, store }) ∨
    (∃ n, a.draw ports sampler l store =
      { result := .refused (.exhausted a.drawing.maxAttempts)
        assigner := { a with drawn := n }, store }) ∨
    ∃ p n, a.isIssued p = false ∧ a.draw ports sampler l store =
      { result := .port p
        assigner := { a.issue l p with drawn := n }
        store := (ports.save store l p).2
        logs := match (ports.save store l p).1 with
          | .ok () => []
          | .error e => [unsaved l p e] } := by
  unfold draw
  by_cases hsize : a.drawing.range.size = 0
  · exact .inl ⟨hsize, if_pos hsize⟩
  · rw [if_neg hsize]
    right
    cases hsearch : a.search sampler a.drawing.maxAttempts a.drawn with
    | mk found n =>
      cases found with
      | none => exact .inl ⟨n, rfl⟩
      | some p =>
        obtain ⟨i, haccepts⟩ := exists_accepts_of_search hsearch
        simp only [accepts, Bool.and_eq_true, Bool.not_eq_eq_eq_not, Bool.not_true] at haccepts
        exact .inr ⟨p, n, haccepts.1, rfl⟩

/-- Whether a request for the port of a local id comes down to a draw: the local id has
neither a pin nor an issued port. -/
def NeedsDraw (ports : PortStore σ) (a : Assigner) (store : σ) (l : LocalId) : Prop :=
  ports.lookup store l = .ok none ∧ a.issued[l]? = none

/-- A request fails with the store, claims the pinned port, gives the issued port again, or
comes down to a draw. -/
theorem resolve_cases (ports : PortStore σ) (sampler : Sampler) (l : LocalId) (a : Assigner)
    (store : σ) :
    (∃ e, ports.lookup store l = .error e ∧
      a.resolve ports sampler l store = { result := .refused (.store e), assigner := a, store }) ∨
    (∃ p, ports.lookup store l = .ok (some p) ∧
      a.resolve ports sampler l store =
        { result := .port p, assigner := (a.claim l p).1, store, logs := (a.claim l p).2 }) ∨
    (∃ p, ports.lookup store l = .ok none ∧ a.issued[l]? = some p ∧
      a.resolve ports sampler l store = { result := .port p, assigner := a, store }) ∨
    (a.NeedsDraw ports store l ∧
      a.resolve ports sampler l store = a.draw ports sampler l store) := by
  unfold resolve
  cases hlookup : ports.lookup store l with
  | error e => exact .inl ⟨e, rfl, rfl⟩
  | ok pin =>
    cases pin with
    | some p => exact .inr (.inl ⟨p, rfl, rfl⟩)
    | none =>
      cases hissued : a.issued[l]? with
      | some p => exact .inr (.inr (.inl ⟨p, rfl, rfl, rfl⟩))
      | none => exact .inr (.inr (.inr ⟨⟨hlookup, hissued⟩, rfl⟩))

/-- A request that comes down to a draw and is answered with a port: nobody held the port, it is
issued to the local id, and it was offered to the store. -/
theorem resolve_of_draw (hneeds : a.NeedsDraw ports store l)
    (hp : (a.resolve ports sampler l store).result = .port p) :
    a.isIssued p = false ∧ ∃ n, a.resolve ports sampler l store =
      { result := .port p
        assigner := { a.issue l p with drawn := n }
        store := (ports.save store l p).2
        logs := match (ports.save store l p).1 with
          | .ok () => []
          | .error e => [unsaved l p e] } := by
  obtain ⟨e, hlookup, -⟩ | ⟨q, hlookup, -⟩ | ⟨q, -, hissued, -⟩ | ⟨-, hresolve⟩ :=
    resolve_cases ports sampler l a store
  · rw [hneeds.1] at hlookup
    cases hlookup
  · rw [hneeds.1] at hlookup
    cases hlookup
  · rw [hneeds.2] at hissued
    cases hissued
  · rw [hresolve] at hp ⊢
    obtain ⟨-, hdraw⟩ | ⟨n, hdraw⟩ | ⟨q, n, hfree, hdraw⟩ := draw_cases ports sampler l a store
    · rw [hdraw] at hp
      cases hp
    · rw [hdraw] at hp
      cases hp
    · rw [hdraw] at hp
      obtain rfl := Resolution.port.inj hp
      exact ⟨hfree, n, hdraw⟩

/-- A request leaves the store alone, unless it is answered with a port that it drew. -/
theorem store_resolve (ports : PortStore σ) (sampler : Sampler) (l : LocalId) (a : Assigner)
    (store : σ) :
    (a.resolve ports sampler l store).store = store ∨
      ∃ p, a.NeedsDraw ports store l ∧ (a.resolve ports sampler l store).result = .port p := by
  obtain ⟨e, -, hresolve⟩ | ⟨p, -, hresolve⟩ | ⟨p, -, -, hresolve⟩ | ⟨hneeds, hresolve⟩ :=
    resolve_cases ports sampler l a store
  · exact .inl (by rw [hresolve])
  · exact .inl (by rw [hresolve])
  · exact .inl (by rw [hresolve])
  · rw [hresolve]
    obtain ⟨-, hdraw⟩ | ⟨n, hdraw⟩ | ⟨p, n, -, hdraw⟩ := draw_cases ports sampler l a store
    · exact .inl (by rw [hdraw])
    · exact .inl (by rw [hdraw])
    · exact .inr ⟨p, hneeds, by rw [hdraw]⟩

/-- A request changes the issued ports only in that the local id holds the port that is the
answer. -/
theorem issued_resolve (ports : PortStore σ) (sampler : Sampler) (l : LocalId) (a : Assigner)
    (store : σ) (k : LocalId) :
    (a.resolve ports sampler l store).assigner.issued[k]? =
      if k = l then (a.resolve ports sampler l store).result.port?.or a.issued[k]?
      else a.issued[k]? := by
  obtain ⟨e, -, hresolve⟩ | ⟨p, -, hresolve⟩ | ⟨p, -, hissued, hresolve⟩ | ⟨-, hresolve⟩ :=
    resolve_cases ports sampler l a store
  · simp [hresolve, Resolution.port?]
  · simp [hresolve, Resolution.port?]
  · rw [hresolve]
    by_cases hk : k = l
    · simp [hk, hissued, Resolution.port?]
    · simp [hk]
  · rw [hresolve]
    obtain ⟨-, hdraw⟩ | ⟨n, hdraw⟩ | ⟨p, n, -, hdraw⟩ := draw_cases ports sampler l a store
    · simp [hdraw, Resolution.port?]
    · simp [hdraw, Resolution.port?]
    · rw [hdraw]
      refine (a.issued_issue l k p).trans ?_
      simp [Resolution.port?]

/-- A request for a port takes no local id's port away. -/
theorem mem_issued_resolve (hk : k ∈ a.issued) :
    k ∈ (a.resolve ports sampler l store).assigner.issued := by
  rw [Std.ExtTreeMap.mem_iff_isSome_getElem?] at hk ⊢
  rw [issued_resolve]
  split
  · rw [Option.isSome_or, hk, Bool.or_true]
  · exact hk

/-- A request that is answered with a port leaves the local id with a port. -/
theorem mem_issued_resolve_self (h : (a.resolve ports sampler l store).result = .port p) :
    l ∈ (a.resolve ports sampler l store).assigner.issued := by
  rw [Std.ExtTreeMap.mem_iff_isSome_getElem?, issued_resolve, if_pos rfl, h]
  rfl

/-! ## Requests for a local id that holds a port -/

/-- The port of a local id that has one: a pin wins over the issued port. No port is drawn,
the store stays as it is, and other local ids keep their ports. -/
theorem resolve_of_issued (ports : PortStore σ) (sampler : Sampler) (store : σ)
    (hq : a.issued[l]? = some q) :
    (∃ e, ports.lookup store l = .error e ∧
      a.resolve ports sampler l store =
        { result := .refused (.store e), assigner := a, store }) ∨
    ∃ pin assigner logs, ports.lookup store l = .ok pin ∧
      a.resolve ports sampler l store = { result := .port (pin.getD q), assigner, store, logs } ∧
      ∀ k, assigner.issued[k]? = if k = l then some (pin.getD q) else a.issued[k]? := by
  obtain ⟨e, hlookup, hresolve⟩ | ⟨p, hlookup, hresolve⟩ | ⟨p, hlookup, hp, hresolve⟩ |
    ⟨hneeds, -⟩ := resolve_cases ports sampler l a store
  · exact .inl ⟨e, hlookup, hresolve⟩
  · exact .inr ⟨some p, _, _, hlookup, hresolve, fun k => a.issued_claim l k p⟩
  · obtain rfl : q = p := Option.some.inj (hq.symm.trans hp)
    refine .inr ⟨none, a, [], hlookup, hresolve, fun k => ?_⟩
    split
    · next hk =>
      rw [hk]
      exact hq
    · rfl
  · rw [hneeds.2] at hq
    cases hq

/-- A local id that holds a port is only ever given this one, unless it is pinned to another
one. -/
theorem result_of_issued (hp : a.issued[l]? = some p)
    (hpin : ∀ q, ports.lookup store l = .ok (some q) → q = p)
    (hq : (a.resolve ports sampler l store).result = .port q) : q = p := by
  obtain ⟨e, -, hresolve⟩ | ⟨pin, assigner, logs, hlookup, hresolve, -⟩ :=
    resolve_of_issued ports sampler store hp
  · rw [hresolve] at hq
    cases hq
  · rw [hresolve] at hq
    obtain rfl := Resolution.port.inj hq
    cases pin with
    | none => rfl
    | some q => exact hpin q hlookup

/-- A local id that holds a port goes on holding it when ports are asked for, unless it is
pinned to another one. -/
theorem issued_resolve_of_pin (hp : a.issued[l]? = some p)
    (hpin : ∀ q, ports.lookup store l = .ok (some q) → q = p) (sampler : Sampler) (k : LocalId) :
    (a.resolve ports sampler k store).assigner.issued[l]? = some p := by
  rw [issued_resolve, hp]
  split
  · next hlk =>
    subst hlk
    cases hq : (a.resolve ports sampler l store).result with
    | port q => exact congrArg some (result_of_issued hp hpin hq)
    | refused e => rfl
    | aborted => rfl
  · rfl

/-- Only a lookup that fails makes a request fail with the store. -/
theorem lookup_of_result_store {e : StoreUnavailable}
    (h : (a.resolve ports sampler l store).result = .refused (.store e)) :
    ports.lookup store l = .error e := by
  obtain ⟨e', hlookup, hresolve⟩ | ⟨p, -, hresolve⟩ | ⟨p, -, -, hresolve⟩ | ⟨-, hresolve⟩ :=
    resolve_cases ports sampler l a store
  · rw [hresolve] at h
    cases h
    exact hlookup
  · rw [hresolve] at h
    cases h
  · rw [hresolve] at h
    cases h
  · rw [hresolve] at h
    obtain ⟨-, hdraw⟩ | ⟨n, hdraw⟩ | ⟨p, n, -, hdraw⟩ := draw_cases ports sampler l a store
    all_goals
      rw [hdraw] at h
      cases h

end TunnelFleet.Assigner

/-! ## A small run -/

namespace TunnelFleet.SmallRun

/-- Two ports to draw from, of which any can be bound. -/
def twoPorts : Drawing := { Drawing.usual with range := ⟨30000, 30002⟩, checksBind := false }

/-- A sampler that takes the ports of a range in turn. -/
def inTurn : Sampler := { number := id, bindable := fun _ _ => true }

/-- A workspace with the local id `web-1001`. -/
def web : Workspace := { id := "prod-1001", name := "web", address := "web.example.dev" }

/-- A workspace with the local id `db-2002`. -/
def db : Workspace := { id := "prod-2002", name := "db", address := "db.example.dev" }

end TunnelFleet.SmallRun
