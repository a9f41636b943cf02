import Mathlib.Data.List.Induction
import Mathlib.Data.List.Nodup
import Mathlib.Data.List.TakeWhile
import TunnelFleet.Proofs.Supervision.RegistryViews
import TunnelFleet.Supervision.RegistryRun

/-!
# Session numbers

Whoever closes a session late names the session that it means. A session number is given away
once, so the registry can tell whether the session that is meant is still the current one of its
local id, and what is closed is never its successor.
-/

namespace TunnelFleet

namespace Registry

/-- A session is closed by its number if it is the current one and its handle was not closed. -/
theorem closeSession_eq_true_iff {r : Registry} {l : LocalId} {s : Nat} :
    (r.closeSession l s).1 = true ↔
      ∃ h : Handle, r.handles[l]? = some h ∧ h.session = s ∧ h.closed = false := by
  unfold closeSession closeHandle
  cases r.handles[l]? with
  | none => simp
  | some h => by_cases hs : h.session = s <;> simp [hs, Handle.close]

/-- A close that is not effective changes nothing. -/
theorem closeSession_of_false {r : Registry} {l : LocalId} {s : Nat}
    (h : (r.closeSession l s).1 = false) : (r.closeSession l s).2 = r := by
  rw [closeSession_eq]
  cases hh : r.handles[l]? with
  | none => rfl
  | some current =>
    by_cases hs : current.session = s
    · have hclosed : current.closed = true := by
        by_contra hopen
        have htrue := closeSession_eq_true_iff.mpr
          ⟨current, hh, hs, Bool.eq_false_iff.mpr hopen⟩
        rw [h] at htrue
        cases htrue
      -- Shutting a closed handle once more leaves the handle and its token alone.
      have hshut : current.shut = current := by
        obtain ⟨w, port, token, session, closed⟩ := current
        cases hclosed
        rfl
      rw [if_pos (by simpa using hs)]
      simp only [closeHandle, hh, Handle.close, hshut, LocalId.insert_eq_self hh, Handle.release,
        if_pos hclosed]
    · rw [if_neg (by simpa using hs)]

end Registry

namespace RegistryCall

variable (r : Registry)

/-- What one call does to the handles and to the number of the last session: either it registers a
handle under the next number, or no number is given away and at most some handles are shut. -/
theorem perform_cases (c : RegistryCall) :
    (∃ h, c = .replace h ∧ (c.perform r).1 = .registered (r.lastSession + 1) ∧
      (c.perform r).2.lastSession = r.lastSession + 1 ∧
      ∀ k, (c.perform r).2.handles[k]? =
        if k = h.localId then some { h with session := r.lastSession + 1 } else r.handles[k]?) ∨
    (RegistryEntry.registration? (c, (c.perform r).1) = none ∧
      (c.perform r).2.lastSession = r.lastSession ∧
      ∀ k, (c.perform r).2.handles[k]? = r.handles[k]?.map fun h =>
        if RegistryEntry.closes k h.session (c, (c.perform r).1) then h.shut else h) := by
  have hsame : ∀ k : LocalId,
      r.handles[k]? = r.handles[k]?.map fun h => if false then h.shut else h :=
    fun k => by simp
  cases c with
  | replace h =>
    let offering : Registry :=
      { r with tokens := if h.closed then r.tokens.cancel h.token else r.tokens }
    obtain ⟨current, -, -, hrefused⟩ | ⟨-, hreplaced⟩ := offering.replace_cases h
    · have hperform : (RegistryCall.replace h).perform r =
          (.refused (.conflict h.localId current.workspace.id), offering) := by
        simp only [perform]
        rw [hrefused]
      rw [hperform]
      exact .inr ⟨rfl, rfl, hsame⟩
    · have hperform : (RegistryCall.replace h).perform r =
          (.registered (r.lastSession + 1), (offering.install h).2) := by
        simp only [perform]
        rw [hreplaced]
      rw [hperform]
      exact .inl ⟨h, rfl, rfl, rfl, offering.handles_install h⟩
  | closeSession l n =>
    change _ ∨ _ ∧ (r.closeSession l n).2.lastSession = _ ∧
      ∀ k, (r.closeSession l n).2.handles[k]? = _
    rw [r.closeSession_eq]
    refine .inr ⟨rfl, by split <;> simp, fun k => ?_⟩
    by_cases hk : k = l
    · subst hk
      cases hh : r.handles[k]? with
      | none => simp [hh]
      | some h =>
        by_cases hn : h.session = n
        · simp [hh, hn, RegistryEntry.closes]
        · have hne : ¬n = h.session := fun heq => hn heq.symm
          simp [hh, hn, hne, RegistryEntry.closes]
    · have hne : ¬l = k := fun heq => hk heq.symm
      split <;> simp [hk, hne, RegistryEntry.closes]
  | closeAll =>
    refine .inr ⟨rfl, rfl, fun k => ?_⟩
    change r.closeAll.2.handles[k]? = _
    simp [RegistryEntry.closes]
  | reset l =>
    refine .inr ⟨rfl, r.lastSession_reset l, fun k => ?_⟩
    change (r.reset l).2.handles[k]? = _
    rw [r.handles_reset]
    by_cases hk : k = l
    · simp [hk, RegistryEntry.closes]
    · have hne : ¬l = k := fun heq => hk heq.symm
      simp [hk, hne, RegistryEntry.closes]
  | ensureBudget l attempts =>
    refine .inr ⟨rfl, r.lastSession_ensureBudget l attempts, fun k => ?_⟩
    change (r.ensureBudget l attempts).handles[k]? = _
    rw [r.handles_ensureBudget]
    exact hsame k
  | cancel token => exact .inr ⟨rfl, rfl, hsame⟩
  | cancelRoot => exact .inr ⟨rfl, rfl, hsame⟩

/-- A call about a local id cancels no token but that of its current handle and that of the handle
that is offered. -/
theorem isCancelled_perform {c : RegistryCall} {l : LocalId} {n : Nat} (hl : c.subject? = some l)
    (hcurrent : ∀ h : Handle, r.handles[l]? = some h → h.token ≠ n)
    (hoffered : ∀ h, c.offered? = some h → h.token ≠ n) :
    (c.perform r).2.tokens.isCancelled n = r.tokens.isCancelled n := by
  have hnone : (r.handles[l]?.any fun h => !h.closed && n == h.token) = false := by
    cases hh : r.handles[l]? with
    | none => rfl
    | some h =>
      have hne : ¬n = h.token := fun heq => hcurrent h hh heq.symm
      simp [hne]
  cases c with
  | replace h =>
    obtain rfl := Option.some.inj hl
    let offering : Registry :=
      { r with tokens := if h.closed then r.tokens.cancel h.token else r.tokens }
    have hoffering : offering.tokens.isCancelled n = r.tokens.isCancelled n := by
      have hne : ¬n = h.token := fun heq => hoffered h rfl heq.symm
      simp only [offering]
      split <;> simp [hne]
    obtain ⟨current, -, -, hrefused⟩ | ⟨-, hreplaced⟩ := offering.replace_cases h
    · simp only [perform]
      rw [hrefused]
      exact hoffering
    · simp only [perform]
      rw [hreplaced]
      change (offering.install h).2.tokens.isCancelled n = _
      rw [Registry.isCancelled_install, hoffering]
      change (_ || r.handles[h.localId]?.any _) = _
      rw [hnone, Bool.or_false]
  | closeSession k s =>
    obtain rfl := Option.some.inj hl
    change (r.closeSession k s).2.tokens.isCancelled n = _
    rw [r.closeSession_eq]
    split
    · rw [r.isCancelled_closeHandle, hnone, Bool.or_false]
    · rfl
  | reset k =>
    obtain rfl := Option.some.inj hl
    change (r.reset k).2.tokens.isCancelled n = _
    rw [r.isCancelled_reset, hnone, Bool.or_false]
  | closeAll => cases hl
  | ensureBudget k attempts => cases hl
  | cancel token => cases hl
  | cancelRoot => cases hl

end RegistryCall

namespace RegistryRun

variable {run : RegistryRun}

/-! ## What the history tells -/

theorem filterMap_history_call {α : Type} (run : RegistryRun) (c : RegistryCall)
    (f : RegistryEntry → Option α) :
    (run.call c).history.filterMap f =
      run.history.filterMap f ++ (f (c, (c.perform run.registry).1)).toList := by
  have hone : ∀ e : RegistryEntry, [e].filterMap f = (f e).toList := fun e => by
    rw [List.filterMap_cons]
    cases f e <;> rfl
  exact (List.filterMap_append ..).trans (congrArg _ (hone _))

theorem numbers_eq (run : RegistryRun) :
    run.numbers = (run.history.filterMap RegistryEntry.registration?).map Prod.snd :=
  (List.map_filterMap ..).symm

theorem lastRegistered?_call (run : RegistryRun) (c : RegistryCall) (l : LocalId) :
    (run.call c).lastRegistered? l =
      match RegistryEntry.registration? (c, (c.perform run.registry).1) with
      | some (k, n) => if l = k then some n else run.lastRegistered? l
      | none => run.lastRegistered? l := by
  rw [lastRegistered?, filterMap_history_call]
  cases RegistryEntry.registration? (c, (c.perform run.registry).1) with
  | none => rw [Option.toList_none, List.append_nil, lastRegistered?]
  | some registration =>
    obtain ⟨k, n⟩ := registration
    rw [Option.toList_some, List.reverse_concat, List.lookup_cons]
    by_cases hk : l = k
    · simp [hk]
    · rw [beq_false_of_ne hk]
      simp [hk, lastRegistered?]

/-- Once a session is registered, its handle is closed if it was before or is closed by the next
call. -/
theorem closeCalled_call {s : Nat} (hs : s ∈ run.numbers) (l : LocalId) (c : RegistryCall) :
    (run.call c).closeCalled l s =
      (run.closeCalled l s || RegistryEntry.closes l s (c, (c.perform run.registry).1)) := by
  obtain ⟨e, he, hnumber⟩ := List.mem_filterMap.mp hs
  have hfound : run.history.dropWhile (RegistryEntry.number? · ≠ some s) ≠ [] := fun hnil =>
    absurd hnumber (of_decide_eq_true (List.dropWhile_eq_nil_iff.mp hnil e he))
  have hkept : (run.call c).history.dropWhile (RegistryEntry.number? · ≠ some s) =
      run.history.dropWhile (RegistryEntry.number? · ≠ some s) ++
        [(c, (c.perform run.registry).1)] := by
    refine List.dropWhile_append.trans (if_neg ?_)
    rwa [List.isEmpty_iff]
  rw [closeCalled, hkept, List.any_append, List.any_cons, List.any_nil, Bool.or_false, closeCalled]

/-- A session that is registered just now is closed if its handle is. -/
theorem closeCalled_call_of_new {s : Nat} {c : RegistryCall} (hs : s ∉ run.numbers)
    (hnumber : RegistryEntry.number? (c, (c.perform run.registry).1) = some s) (l : LocalId) :
    (run.call c).closeCalled l s = RegistryEntry.closes l s (c, (c.perform run.registry).1) := by
  have hnone : run.history.dropWhile (RegistryEntry.number? · ≠ some s) = [] :=
    List.dropWhile_eq_nil_iff.mpr fun e he =>
      decide_eq_true fun heq => hs (List.mem_filterMap.mpr ⟨e, he, heq⟩)
  have hkept : (run.call c).history.dropWhile (RegistryEntry.number? · ≠ some s) =
      [(c, (c.perform run.registry).1)] := by
    refine List.dropWhile_append.trans ?_
    rw [hnone, List.isEmpty_nil, if_pos rfl]
    exact List.dropWhile_cons_of_neg (by rw [decide_eq_true_iff]; exact fun hne => hne hnumber)
  rw [closeCalled, hkept, List.any_cons, List.any_nil, Bool.or_false]

/-! ## The account of a run -/

/-- What a registry has to do with the calls so far. -/
structure Accounted (run : RegistryRun) : Prop where
  /-- The numbers were given away one after the other. -/
  numbers : run.numbers = List.range' 1 run.registry.lastSession
  /-- The current session of a local id is the one registered last. -/
  session (l : LocalId) : run.registry.session? l = run.lastRegistered? l
  key (l : LocalId) (h : Handle) : run.registry.handles[l]? = some h → h.localId = l
  /-- A handle is closed exactly if this was asked for. -/
  closed (l : LocalId) (h : Handle) : run.registry.handles[l]? = some h →
    h.closed = run.closeCalled l h.session
  /-- The token of a current handle is that of an offered one. -/
  token (l : LocalId) (h : Handle) : run.registry.handles[l]? = some h →
    ∃ h' ∈ run.offered, h'.localId = l ∧ h'.token = h.token

namespace Accounted

variable {l : LocalId} {h : Handle}

/-- The session of a handle is on record. -/
theorem mem_registrations (hrun : run.Accounted) (hh : run.registry.handles[l]? = some h) :
    (l, h.session) ∈ run.history.filterMap RegistryEntry.registration? := by
  have hlast : run.lastRegistered? l = some h.session := by
    rw [← hrun.session, Registry.session?, hh, Option.map_some]
  obtain ⟨_, _, hsplit, -⟩ := List.lookup_eq_some_iff.mp hlast
  rw [← List.mem_reverse, hsplit]
  simp

theorem mem_numbers (hrun : run.Accounted) (hh : run.registry.handles[l]? = some h) :
    h.session ∈ run.numbers := by
  rw [run.numbers_eq]
  exact List.mem_map_of_mem (f := Prod.snd) (hrun.mem_registrations hh)

/-- Different local ids have sessions of different numbers. -/
theorem localId_eq {l' : LocalId} {h' : Handle} (hrun : run.Accounted)
    (hh : run.registry.handles[l]? = some h) (hh' : run.registry.handles[l']? = some h')
    (hsession : h.session = h'.session) : l = l' := by
  have hnodup : ((run.history.filterMap RegistryEntry.registration?).map Prod.snd).Nodup := by
    rw [← run.numbers_eq, hrun.numbers]
    exact List.nodup_range'
  have hsame := List.inj_on_of_nodup_map hnodup (hrun.mem_registrations hh)
    (hrun.mem_registrations hh') hsession
  exact congrArg Prod.fst hsame

theorem empty : ({} : RegistryRun).Accounted where
  numbers := rfl
  session _ := by simp [Registry.session?, lastRegistered?]
  key _ _ hh := by simp at hh
  closed _ _ hh := by simp at hh
  token _ _ hh := by simp at hh

/-- A call that registers a handle keeps the account. -/
theorem call_of_registered {h' : Handle} (hrun : run.Accounted)
    (hanswer : ((RegistryCall.replace h').perform run.registry).1 =
      .registered (run.registry.lastSession + 1))
    (hlast : ((RegistryCall.replace h').perform run.registry).2.lastSession =
      run.registry.lastSession + 1)
    (hhandles : ∀ k : LocalId, ((RegistryCall.replace h').perform run.registry).2.handles[k]? =
      if k = h'.localId then some { h' with session := run.registry.lastSession + 1 }
      else run.registry.handles[k]?) :
    (run.call (.replace h')).Accounted := by
  have hentry : RegistryEntry.number?
      (.replace h', ((RegistryCall.replace h').perform run.registry).1) =
        some (run.registry.lastSession + 1) := by
    rw [hanswer]
    rfl
  have hnew : run.registry.lastSession + 1 ∉ run.numbers := by
    rw [hrun.numbers, List.mem_range'_1]
    omega
  constructor
  case numbers =>
    rw [RegistryRun.numbers, filterMap_history_call, ← RegistryRun.numbers, hrun.numbers, hentry]
    change _ = List.range' 1 ((RegistryCall.replace h').perform run.registry).2.lastSession
    rw [hlast, List.range'_concat]
    simp [Nat.add_comm]
  case session =>
    intro l
    rw [lastRegistered?_call, hanswer]
    change Option.map _ ((RegistryCall.replace h').perform run.registry).2.handles[l]? =
      if l = h'.localId then some _ else _
    rw [hhandles, ← hrun.session, Registry.session?]
    split <;> rfl
  case key =>
    intro l h hh
    replace hh := (hhandles l).symm.trans hh
    split at hh
    · next hl =>
      cases hh
      exact hl.symm
    · exact hrun.key l h hh
  case closed =>
    intro l h hh
    replace hh := (hhandles l).symm.trans hh
    split at hh
    · cases hh
      rw [closeCalled_call_of_new hnew hentry, hanswer]
      simp [RegistryEntry.closes]
    · have hold := hrun.mem_numbers hh
      have hne : ¬run.registry.lastSession + 1 = h.session := fun heq => hnew (heq ▸ hold)
      rw [closeCalled_call hold, hrun.closed l h hh, hanswer]
      simp [RegistryEntry.closes, hne]
  case token =>
    intro l h hh
    rw [offered, filterMap_history_call]
    replace hh := (hhandles l).symm.trans hh
    split at hh
    · next hl =>
      cases hh
      exact ⟨h', List.mem_append_right _ (by simp [RegistryCall.offered?]), hl.symm, rfl⟩
    · obtain ⟨h₀, hmem, hkey, htoken⟩ := hrun.token l h hh
      exact ⟨h₀, List.mem_append_left _ hmem, hkey, htoken⟩

/-- A call that registers nothing keeps the account. -/
theorem call_of_unregistered {c : RegistryCall} (hrun : run.Accounted)
    (hnone : RegistryEntry.registration? (c, (c.perform run.registry).1) = none)
    (hlast : (c.perform run.registry).2.lastSession = run.registry.lastSession)
    (hhandles : ∀ k : LocalId, (c.perform run.registry).2.handles[k]? =
      run.registry.handles[k]?.map fun h =>
        if RegistryEntry.closes k h.session (c, (c.perform run.registry).1) then h.shut else h) :
    (run.call c).Accounted := by
  -- A handle has the same local id, session and token, whether it is shut or not.
  have hfrom : ∀ {l : LocalId} {h : Handle}, (run.call c).registry.handles[l]? = some h →
      ∃ h₀, run.registry.handles[l]? = some h₀ ∧ h.localId = h₀.localId ∧
        h.session = h₀.session ∧ h.token = h₀.token ∧
        h.closed = (h₀.closed ||
          RegistryEntry.closes l h₀.session (c, (c.perform run.registry).1)) := by
    intro l h hh
    obtain ⟨h₀, hh₀, hmap⟩ := Option.map_eq_some_iff.mp ((hhandles l).symm.trans hh)
    refine ⟨h₀, hh₀, ?_⟩
    split at hmap
    · next hcloses =>
      rw [← hmap, hcloses, Bool.or_true]
      exact ⟨rfl, rfl, rfl, rfl⟩
    · next hcloses =>
      rw [← hmap, Bool.eq_false_iff.mpr hcloses, Bool.or_false]
      exact ⟨rfl, rfl, rfl, rfl⟩
  constructor
  case numbers =>
    rw [RegistryRun.numbers, filterMap_history_call, ← RegistryRun.numbers, hrun.numbers,
      RegistryEntry.number?, hnone]
    change _ = List.range' 1 (c.perform run.registry).2.lastSession
    rw [hlast]
    simp
  case session =>
    intro l
    rw [lastRegistered?_call, hnone]
    change Option.map _ (c.perform run.registry).2.handles[l]? = run.lastRegistered? l
    rw [hhandles, ← hrun.session, Registry.session?, Option.map_map]
    refine congrArg (Option.map · _) (funext fun h => ?_)
    dsimp only [Function.comp_apply]
    split <;> rfl
  case key =>
    intro l h hh
    obtain ⟨h₀, hh₀, hkey, -⟩ := hfrom hh
    exact hkey.trans (hrun.key l h₀ hh₀)
  case closed =>
    intro l h hh
    obtain ⟨h₀, hh₀, -, hsession, -, hclosed⟩ := hfrom hh
    rw [hclosed, hsession, closeCalled_call (hrun.mem_numbers hh₀), hrun.closed l h₀ hh₀]
  case token =>
    intro l h hh
    obtain ⟨h₀, hh₀, -, -, htoken, -⟩ := hfrom hh
    obtain ⟨h', hmem, hkey, htoken'⟩ := hrun.token l h₀ hh₀
    rw [offered, filterMap_history_call]
    exact ⟨h', List.mem_append_left _ hmem, hkey, htoken'.trans htoken.symm⟩

/-- Each call keeps the account. -/
theorem call (hrun : run.Accounted) (c : RegistryCall) : (run.call c).Accounted := by
  obtain ⟨h', rfl, hanswer, hlast, hhandles⟩ | ⟨hnone, hlast, hhandles⟩ :=
    RegistryCall.perform_cases run.registry c
  · exact hrun.call_of_registered hanswer hlast hhandles
  · exact hrun.call_of_unregistered hnone hlast hhandles

/-- Every run of a new registry is accounted for. -/
theorem ofCalls (calls : List RegistryCall) : (RegistryRun.ofCalls calls).Accounted := by
  induction calls using List.reverseRecOn with
  | nil => exact empty
  | append_singleton calls c ih =>
    rw [RegistryRun.ofCalls, List.foldl_concat]
    exact ih.call c

end Accounted

theorem offered_ofCalls (calls : List RegistryCall) :
    (ofCalls calls).offered = calls.filterMap RegistryCall.offered? := by
  induction calls using List.reverseRecOn with
  | nil => rfl
  | append_singleton calls c ih =>
    rw [ofCalls, List.foldl_concat, ← ofCalls, offered, filterMap_history_call, ← offered, ih,
      List.filterMap_append]
    rw [List.filterMap_cons]
    dsimp only
    cases c.offered? <;> rfl

/-- A call about one local id cancels no token of another. -/
theorem isCancelled_of_other {before after : List RegistryCall} {c : RegistryCall} {l : LocalId}
    {h : Handle} (htokens :
      (((before ++ c :: after).filterMap RegistryCall.offered?).map Handle.token).Nodup)
    (hl : c.subject? = some l) (hh : .replace h ∈ before) (hother : h.localId ≠ l) :
    (c.perform (ofCalls before).registry).2.tokens.isCancelled h.token =
      (ofCalls before).registry.tokens.isCancelled h.token := by
  have hmem : h ∈ before.filterMap RegistryCall.offered? := List.mem_filterMap.mpr ⟨_, hh, rfl⟩
  rw [List.filterMap_append, List.map_append] at htokens
  obtain ⟨hbefore, -, hdisjoint⟩ := List.nodup_append.mp htokens
  refine RegistryCall.isCancelled_perform _ hl (fun current hcurrent heq => hother ?_)
    fun h' hoffered heq => ?_
  · -- The token of the current handle belongs to the one that was offered for this local id.
    obtain ⟨h', hmem', hlocal, htoken⟩ := (Accounted.ofCalls before).token l current hcurrent
    rw [offered_ofCalls] at hmem'
    rw [← hlocal, List.inj_on_of_nodup_map hbefore hmem hmem' (heq.symm.trans htoken.symm)]
  · have hnext : h' ∈ (c :: after).filterMap RegistryCall.offered? :=
      List.mem_filterMap.mpr ⟨c, List.mem_cons_self, hoffered⟩
    exact hdisjoint _ (List.mem_map_of_mem hmem) _ (List.mem_map_of_mem hnext) heq.symm

/-- Whatever a new registry is asked for, as long as each handle has its own token: the handles that
are registered get the numbers one, two, three and so on, and a handle that is refused takes none.
Each handle is kept under its own local id, no two under the same number, and the current session of
a local id is the one registered last. A close is effective exactly if it names the current session
and the handle of this session was not closed, which a token that was cancelled does not amount to;
every other close changes nothing. No call to register, to close or to reset a session of one local
id cancels a token that was handed in for another. -/
theorem stale_closes_change_nothing (calls : List RegistryCall)
    (htokens : ((calls.filterMap RegistryCall.offered?).map Handle.token).Nodup) :
    let run := ofCalls calls
    let r := run.registry
    run.numbers = List.range' 1 r.lastSession ∧
    (∀ h e, (r.replace h).1 = .error e → (r.replace h).2 = r) ∧
    (∀ (l : LocalId) (h : Handle), r.handles[l]? = some h → h.localId = l) ∧
    (∀ (l l' : LocalId) (h h' : Handle), r.handles[l]? = some h → r.handles[l']? = some h' →
      h.session = h'.session → l = l') ∧
    (∀ l, r.session? l = run.lastRegistered? l) ∧
    (∀ l s, ((r.closeSession l s).1 = true ↔
        r.session? l = some s ∧ run.closeCalled l s = false) ∧
      ((r.closeSession l s).1 = false → (r.closeSession l s).2 = r)) ∧
    ∀ before c after l h, calls = before ++ c :: after → c.subject? = some l →
      .replace h ∈ before → h.localId ≠ l →
        (c.perform (ofCalls before).registry).2.tokens.isCancelled h.token =
          (ofCalls before).registry.tokens.isCancelled h.token := by
  intro run r
  have hrun : run.Accounted := .ofCalls calls
  refine ⟨hrun.numbers, fun h e herror => ?_, hrun.key,
    fun l l' h h' hh hh' => hrun.localId_eq hh hh', hrun.session,
    fun l s => ⟨?_, Registry.closeSession_of_false⟩, ?_⟩
  · obtain ⟨current, -, -, hrefused⟩ | ⟨-, hreplaced⟩ := r.replace_cases h
    · rw [hrefused]
    · rw [hreplaced] at herror
      cases herror
  · rw [Registry.closeSession_eq_true_iff, Registry.session?, Option.map_eq_some_iff]
    constructor
    · rintro ⟨h, hh, rfl, hopen⟩
      exact ⟨⟨h, hh, rfl⟩, (hrun.closed l h hh).symm.trans hopen⟩
    · rintro ⟨⟨h, hh, rfl⟩, hopen⟩
      exact ⟨h, hh, rfl, (hrun.closed l h hh).trans hopen⟩
  · rintro before c after l h rfl hl hh hother
    exact isCancelled_of_other htokens hl hh hother

/-- A tunnel gets a second session, and then somebody closes the first one by its number. The tunnel
of another workspace, whose token was cancelled, can still be closed. -/
theorem stale_closes_change_nothing_replaced :
    let web : Workspace := { id := "1001", name := "web", address := "web.example.dev" }
    let db : Workspace := { id := "1002", name := "db", address := "db.example.dev" }
    let rival : Workspace := { web with id := "x-1001" }
    let replaced : List RegistryCall :=
      [.replace { workspace := web, port := 4001, token := 0 },
        .replace { workspace := db, port := 4002, token := 1 }, .cancel 1]
    let second : RegistryCall := .replace { workspace := web, port := 4003, token := 2 }
    let refused : RegistryCall :=
      .replace { workspace := rival, port := 4004, token := 3, closed := true }
    let run := ofCalls (replaced ++ [second, refused])
    run.numbers = [1, 2, 3] ∧
      (run.registry.closeSession web.localId 1).2 = run.registry ∧
      (run.registry.closeSession web.localId 3).1 = true ∧
      (run.registry.closeSession db.localId 2).1 = true ∧
      (second.perform (ofCalls replaced).registry).2.tokens.isCancelled 1 =
        (ofCalls replaced).registry.tokens.isCancelled 1 := by
  intro web db rival replaced second refused run
  obtain ⟨hnumbers, -, -, -, -, hclose, hother⟩ :=
    stale_closes_change_nothing (replaced ++ [second, refused]) (by decide)
  have hlast : (ofCalls (replaced ++ [second, refused])).registry.lastSession = 3 := by
    decide +kernel
  rw [hlast] at hnumbers
  refine ⟨hnumbers, (hclose web.localId 1).2 (by decide +kernel),
    (hclose web.localId 3).1.mpr (by decide +kernel),
    (hclose db.localId 2).1.mpr (by decide +kernel), ?_⟩
  exact hother replaced second [refused] web.localId
    { workspace := db, port := 4002, token := 1 } rfl rfl (by decide) (by decide +kernel)

end RegistryRun

end TunnelFleet
