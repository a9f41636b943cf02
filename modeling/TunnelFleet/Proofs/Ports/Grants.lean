import TunnelFleet.Ports.Run
import TunnelFleet.Proofs.Ports.Resolution

/-!
# Answers follow what was granted before

Two places know the port of a local id: the store, which anybody may change, and the
assigner, which is written to by draws and by claims. `Faithful` says that the assigner
never loses track: whatever the store did meanwhile, it holds for each local id the port
that was claimed for it or given to it last, if there is one. So the answer to a request can
be told from the store and the course of the run, and a local id keeps its port for as long
as nobody else touches its pin.
-/

namespace TunnelFleet.PortRun

variable {σ : Type} {ports : PortStore σ} {first : Assigner} {r : PortRun σ} {l : LocalId}
  {p : UInt16}

/-- The assigner holds for each local id the port that it was granted last. If it was granted
none, the assigner holds for it what the first assigner of the run held. -/
def Faithful (first : Assigner) (r : PortRun σ) : Prop :=
  ∀ l : LocalId, r.assigner.issued[l]? = (r.lastGrant? l).or first.issued[l]?

private theorem lookup_reverse_pinned (ports : PortStore σ) (store : σ) (ws : List Workspace)
    (l : LocalId) :
    (pinned ports store ws).reverse.lookup l =
      if ∃ w ∈ ws, w.localId = l then ports.pin? store l else none := by
  induction ws with
  | nil => simp [pinned]
  | cons w ws ih =>
    have hcons : pinned ports store (w :: ws) =
        ((ports.pin? store w.localId).map (w.localId, ·)).toList ++ pinned ports store ws := by
      cases h : ports.pin? store w.localId <;> simp [pinned, h]
    rw [hcons, List.reverse_append, List.lookup_append, ih]
    by_cases hw : w.localId = l
    · subst hw
      cases ports.pin? store w.localId with
      | none => simp
      | some p => split <;> simp
    · have hlw : (l == w.localId) = false := by simpa using fun h => hw h.symm
      cases ports.pin? store w.localId <;> simp [List.lookup_cons, hw, hlw]

namespace Faithful

/-- An assigner with which a run begins has not lost track. -/
theorem start (a : Assigner) (store : σ) : Faithful a { assigner := a, store } := by
  intro l
  simp [lastGrant?]

theorem reserve (hr : r.Faithful first) (ws : List Workspace) :
    (r.reserve ports ws).Faithful first := by
  intro l
  refine (Assigner.issued_reserve ports r.store r.assigner ws l).trans ?_
  change _ = ((r.granted ++ pinned ports r.store ws).reverse.lookup l).or _
  rw [List.reverse_append, List.lookup_append, lookup_reverse_pinned, hr l, Option.or_assoc]
  split <;> rfl

theorem resolve (hr : r.Faithful first) (sampler : Sampler) (l : LocalId) :
    (r.resolve ports sampler l).Faithful first := by
  intro k
  refine (Assigner.issued_resolve ports sampler l r.assigner r.store k).trans ?_
  change _ = ((r.granted ++ (Option.map (l, ·) _).toList).reverse.lookup k).or _
  rw [List.reverse_append, List.lookup_append, hr k, Option.or_assoc]
  by_cases hk : k = l
  · cases (r.assigner.resolve ports sampler l r.store).result.port? <;> simp [hk, lastGrant?]
  · have hkl : (k == l) = false := by simpa using hk
    cases (r.assigner.resolve ports sampler l r.store).result.port? <;>
      simp [hk, hkl, List.lookup_cons, lastGrant?]

/-- No event makes the assigner lose track. -/
theorem after (hr : r.Faithful first) (events : List (PortEvent σ)) :
    (r.after ports events).Faithful first := by
  induction events generalizing r with
  | nil => exact hr
  | cons e events ih =>
    cases e with
    | reserve ws => exact ih (hr.reserve ws)
    | resolve sampler l => exact ih (hr.resolve sampler l)
    | storeChanged store => exact ih (r := { r with store }) hr

end Faithful

/-- In a run that begins with a new assigner, nothing is held but what was granted. -/
theorem issued_after_fresh (ports : PortStore σ) (drawing : Drawing) (store : σ)
    (events : List (PortEvent σ)) (l : LocalId) :
    ((fresh drawing store).after ports events).assigner.issued[l]? =
      ((fresh drawing store).after ports events).lastGrant? l := by
  have hfaithful : ((fresh drawing store).after ports events).Faithful { drawing } :=
    (Faithful.start { drawing } store).after events
  simpa using hfaithful l

/-! ## Keeping a port -/

/-- A local id that holds a port goes on holding it in an event, unless it is pinned to
another one. -/
theorem issued_apply (hp : r.assigner.issued[l]? = some p)
    (hpin : ∀ q, ports.lookup r.store l = .ok (some q) → q = p) (e : PortEvent σ) :
    (e.apply ports r).assigner.issued[l]? = some p := by
  cases e with
  | reserve ws =>
    refine (Assigner.issued_reserve ports r.store r.assigner ws l).trans ?_
    rw [hp]
    split
    · cases hq : ports.pin? r.store l with
      | none => rfl
      | some q => exact congrArg some (hpin q (PortStore.pin?_eq_some.mp hq))
    · rfl
  | resolve sampler k => exact Assigner.issued_resolve_of_pin hp hpin sampler k
  | storeChanged store => exact hp

/-- A local id that holds a port goes on holding it for as long as it is not pinned to another
one. -/
theorem issued_after {events : List (PortEvent σ)} (hp : r.assigner.issued[l]? = some p)
    (hpin : ∀ before, before <+: events → ∀ q,
      ports.lookup (r.after ports before).store l = .ok (some q) → q = p) :
    (r.after ports events).assigner.issued[l]? = some p := by
  induction events generalizing r with
  | nil => exact hp
  | cons e events ih =>
    refine ih (issued_apply hp (hpin [] (List.nil_prefix)) e) fun before hbefore => ?_
    exact hpin (e :: before) (List.cons_prefix_cons.mpr ⟨rfl, hbefore⟩)

/-- Whether only a draw of its own has touched the pin of a local id since it was given the
port `p` in the run `r`: if its pin can be looked up in the store, it is the one from before
the request, or it is `p` and the request drew it. -/
def PinUntouched (ports : PortStore σ) (r : PortRun σ) (l : LocalId) (p : UInt16)
    (store : σ) : Prop :=
  ∀ pin, ports.lookup store l = .ok pin →
    ports.lookup r.store l = .ok pin ∨ r.assigner.NeedsDraw ports r.store l ∧ pin = some p

/-- At any point of a run, a request fails with the store exactly if the lookup fails. Else the
answer is the pinned port if there is one, or else the port that was claimed for the local id or
given to it last, or else what a draw comes to. So two requests for the same local id that are
both answered with a port are answered with the same one, provided that its pin was only
touched by its own draw: whoever else asked for ports in between, and whatever became of what
was saved. -/
theorem answers_follow_grants (ports : PortStore σ) (drawing : Drawing) (store : σ)
    (events : List (PortEvent σ)) (sampler : Sampler) (l : LocalId) :
    let r := (fresh drawing store).after ports events
    let answer := (r.assigner.resolve ports sampler l r.store).result
    (∀ e, answer = .refused (.store e) ↔ ports.lookup r.store l = .error e) ∧
    (∀ p, ports.lookup r.store l = .ok (some p) → answer = .port p) ∧
    (∀ p, ports.lookup r.store l = .ok none → r.lastGrant? l = some p → answer = .port p) ∧
    (ports.lookup r.store l = .ok none → r.lastGrant? l = none →
      answer = (r.assigner.draw ports sampler l r.store).result) ∧
    ∀ (p q : UInt16) (later : List (PortEvent σ)) (sampler' : Sampler),
      let s := r.resolve ports sampler l
      let t := s.after ports later
      answer = .port p →
      (∀ before, before <+: later → r.PinUntouched ports l p (s.after ports before).store) →
      (t.assigner.resolve ports sampler' l t.store).result = .port q → q = p := by
  intro r answer
  have hissued : r.assigner.issued[l]? = r.lastGrant? l :=
    issued_after_fresh ports drawing store events l
  refine ⟨fun e => ⟨fun hanswer => ?_, fun hlookup => ?_⟩, fun p hlookup => ?_,
    fun p hlookup hgrant => ?_, fun hlookup hgrant => ?_, ?_⟩
  · exact Assigner.lookup_of_result_store hanswer
  · simp only [answer, Assigner.resolve, hlookup]
  · simp only [answer, Assigner.resolve, hlookup]
  · simp only [answer, Assigner.resolve, hlookup, hissued.trans hgrant]
  · simp only [answer, Assigner.resolve, hlookup, hissued.trans hgrant]
  · intro p q later sampler' s t hp huntouched hq
    -- Right after the first request the local id holds `p`.
    have hissued : s.assigner.issued[l]? = some p := by
      refine (Assigner.issued_resolve ports sampler l r.assigner r.store l).trans ?_
      simp [show (r.assigner.resolve ports sampler l r.store).result = .port p from hp,
        Resolution.port?]
    -- Whatever pin shows up later, it is `p`.
    have hpin : ∀ before, before <+: later → ∀ q,
        ports.lookup (s.after ports before).store l = .ok (some q) → q = p := by
      intro before hbefore q hlookup
      rcases huntouched before hbefore (some q) hlookup with hold | ⟨-, hdrawn⟩
      · have hq : answer = .port q := by simp only [answer, Assigner.resolve, hold]
        exact Resolution.port.inj (hq.symm.trans hp)
      · exact Option.some.inj hdrawn
    exact Assigner.result_of_issued (issued_after hissued hpin)
      (hpin later (List.prefix_refl later)) hq

/-- The port of a workspace that could not be saved, after another workspace was pinned to it. -/
theorem answers_follow_grants_unsaved :
    let web := SmallRun.web.localId
    let db := SmallRun.db.localId
    let inTurn := SmallRun.inTurn
    let store : PinTable := { saveFaults := .ofList [(web, "read-only")] }
    let later : List (PortEvent PinTable) :=
      [.storeChanged (store.pin db 30000), .reserve [SmallRun.db], .resolve inTurn db]
    let r := fresh SmallRun.twoPorts store
    let s := r.resolve PinTable.asStore inTurn web
    let t := s.after PinTable.asStore later
    (r.assigner.resolve PinTable.asStore inTurn web store).result = .port 30000 ∧
    (∀ before, before <+: later →
      r.PinUntouched PinTable.asStore web 30000 (s.after PinTable.asStore before).store) ∧
    t.assigner.issued[db]? = some 30000 ∧
    (t.assigner.resolve PinTable.asStore inTurn web t.store).result = .port 30000 := by
  intro web db inTurn store later r s t
  have hanswer : (r.assigner.resolve PinTable.asStore inTurn web store).result = .port 30000 := by
    decide +kernel
  -- The pin of `web` is never touched.
  have hnever : ∀ before, before <+: later →
      PinTable.asStore.lookup (s.after PinTable.asStore before).store web = .ok none := by
    intro before hbefore
    rw [List.prefix_iff_eq_take.mp hbefore]
    apply PinTable.lookup_eq_ok.mpr
    match before.length with
    | 0 => decide +kernel
    | 1 => decide +kernel
    | 2 => decide +kernel
    | n + 3 =>
      rw [List.take_of_length_le (by simp [later])]
      decide +kernel
  have huntouched : ∀ before, before <+: later →
      r.PinUntouched PinTable.asStore web 30000 (s.after PinTable.asStore before).store := by
    intro before hbefore pin hpin
    rw [hnever before hbefore] at hpin
    exact .inl hpin
  have hdb : t.assigner.issued[db]? = some 30000 := by decide +kernel
  have hagain :
      (t.assigner.resolve PinTable.asStore inTurn web t.store).result.port?.isSome = true := by
    decide +kernel
  obtain ⟨-, -, -, -, hsame⟩ :=
    answers_follow_grants PinTable.asStore SmallRun.twoPorts store [] inTurn web
  cases hresult : (t.assigner.resolve PinTable.asStore inTurn web t.store).result with
  | port q =>
    obtain rfl := hsame 30000 q later inTurn hanswer huntouched hresult
    exact ⟨hanswer, huntouched, hdb, rfl⟩
  | refused e => simp [hresult, Resolution.port?] at hagain
  | aborted => simp [hresult, Resolution.port?] at hagain

end TunnelFleet.PortRun
