import TunnelFleet.Proofs.Supervision.Moves
import TunnelFleet.Proofs.Workspace.LocalId

/-!
# What is told of spent retries

The log tells of the spent retries of a workspace only when a reset finds them spent for the
first time. A line names its workspace in brackets, and a local id may hold brackets itself,
but only among its last four characters: no other line can be taken for the one about spent
retries.
-/

namespace TunnelFleet

/-- Whether a reset of this local id was the first that found its retries spent. -/
def Happening.isFirstExhaustion (l : LocalId) : Happening → Bool
  | .decided k (.exhausted true) => k == l
  | _ => false

theorem Happening.isFirstExhaustion_iff {l : LocalId} {x : Happening} :
    x.isFirstExhaustion l = true ↔ x = .decided l (.exhausted true) := by
  unfold isFirstExhaustion
  split
  · simp
  · next hne => exact iff_of_false Bool.false_ne_true fun h => hne l h

/-- The workspaces that an event is to start. -/
def Event.toStart {σ : Type} : Event σ → List Workspace
  | .start ws => ws
  | _ => []

/-- The line that tells of the spent retries of a local id. -/
def exhaustionNotice (l : LocalId) : LogLine :=
  .about .error .supervisor l.text "Retries exhausted, leaving workspace down for this run"

/-! ## Telling lines apart -/

section Lines

variable {level : LogLevel} {source : LogSource} {subject text : String}

theorem LogLine.toList_text_about :
    (about level source subject text).text.toList =
      '[' :: (subject.toList ++ ']' :: ' ' :: text.toList) := by
  simp [about, toString]

/-- A bracket in a local id has at most three characters behind it. -/
theorem LocalId.length_le_of_bracket {name id : String} {before after : List Char}
    (h : (ofNameAndId name id).text.toList = before ++ ']' :: after) : after.length ≤ 3 := by
  obtain ⟨front, hchars, hclean⟩ := exists_toList_text_eq name id
  have hsuffix := length_idSuffix_le id.toList
  rw [hchars] at h
  rcases List.append_eq_append_iff.mp h with ⟨rest, -, hrest⟩ | ⟨rest, hfront, hrest⟩
  · rw [hrest, List.length_append, List.length_cons, suffixLength] at hsuffix
    omega
  · cases rest with
    | nil =>
      rw [List.nil_append] at hrest
      rw [← hrest, List.length_cons, suffixLength] at hsuffix
      omega
    | cons c rest =>
      obtain ⟨rfl, -⟩ := List.cons.inj hrest
      have hbracket := hclean ']' (by simp [hfront])
      exact absurd hbracket (by decide)

/-- Two lines, each a subject in brackets and a text, differ if their texts differ within the first
three characters. The one text must be free of brackets and the other one up to there, and the
subject of the first must have at most three characters behind a bracket of its own. -/
theorem subject_text_ne {l k message other : List Char}
    (hbracket : ∀ before after, l = before ++ ']' :: after → after.length ≤ 3)
    (hmessage : ']' ∉ message) (hother : ']' ∉ other.take 3)
    (hne : message.take 3 ≠ other.take 3) :
    k ++ ']' :: ' ' :: other ≠ l ++ ']' :: ' ' :: message := by
  intro h
  rcases List.append_eq_append_iff.mp h with ⟨rest, hl, hrest⟩ | ⟨rest, -, hrest⟩
  · cases rest with
    | nil =>
      simp only [List.nil_append, List.cons.injEq, true_and] at hrest
      exact hne (by rw [hrest])
    | cons c rest =>
      simp only [List.cons_append, List.cons.injEq] at hrest
      obtain ⟨rfl, hrest⟩ := hrest
      have hlength := hbracket k rest hl
      -- Behind the bracket in `l` come the blank and the beginning of `other`.
      cases rest with
      | nil => exact absurd (List.cons.inj hrest).1 (by decide)
      | cons d rest =>
        simp only [List.cons_append, List.cons.injEq] at hrest
        rw [List.length_cons] at hlength
        obtain ⟨n, hn⟩ : ∃ n, 3 - rest.length = n + 1 := ⟨2 - rest.length, by omega⟩
        refine hother ?_
        rw [hrest.2, List.take_append, hn, List.take_succ_cons]
        exact List.mem_append_right _ List.mem_cons_self
  · cases rest with
    | nil =>
      simp only [List.nil_append, List.cons.injEq, true_and] at hrest
      exact hne (by rw [hrest])
    | cons c rest =>
      simp only [List.cons_append, List.cons.injEq] at hrest
      have hmem : ']' ∈ ' ' :: message := by
        rw [hrest.2]
        exact List.mem_append_right _ List.mem_cons_self
      rcases List.mem_cons.mp hmem with hblank | htext
      · exact absurd hblank (by decide)
      · exact hmessage htext

/-- Another line about a workspace is not the one about spent retries if the other text differs
in its first three characters. -/
theorem about_ne_exhaustionNotice (w : Workspace) (opening : String)
    (hlength : 3 ≤ opening.toList.length) (hne : "Ret".toList ≠ opening.toList.take 3)
    (hbracket : ']' ∉ opening.toList.take 3) (rest : String) :
    LogLine.about level source subject (opening ++ rest) ≠ exhaustionNotice w.localId := by
  intro h
  have htext := congrArg (·.text.toList) h
  simp only [exhaustionNotice, LogLine.toList_text_about, List.cons.injEq, true_and] at htext
  refine subject_text_ne (fun before after => LocalId.length_le_of_bracket) (by decide) ?_ ?_ htext
  · rwa [String.toList_append, List.take_append_of_le_length hlength]
  · rw [String.toList_append, List.take_append_of_le_length hlength]
    exact hne

theorem exhaustionNotice_inj {l k : LocalId} (h : exhaustionNotice l = exhaustionNotice k) :
    l = k := by
  have htext := congrArg (·.text.toList) h
  simp only [exhaustionNotice, LogLine.toList_text_about, List.cons.injEq, true_and,
    List.append_cancel_right_eq] at htext
  cases l
  cases k
  exact congrArg LocalId.mk (String.toList_inj.mp htext)

end Lines

/-! ## Requests for ports -/

namespace Assigner

variable {σ : Type} {ports : PortStore σ} {a : Assigner} {l : LocalId} {store : σ} {line : LogLine}

/-- What a claim of a port leaves in the log is said about ports. -/
theorem source_of_claim {p : UInt16} (h : line ∈ (a.claim l p).2) : line.source = .ports := by
  obtain ⟨other, -, rfl⟩ := Option.map_eq_some_iff.mp (Option.mem_toList.mp h)
  rfl

/-- What a request for a port leaves in the log is said about ports. -/
theorem source_of_resolve {sampler : Sampler}
    (h : line ∈ (a.resolve ports sampler l store).logs) : line.source = .ports := by
  obtain ⟨e, -, hresolve⟩ | ⟨p, -, hresolve⟩ | ⟨p, -, -, hresolve⟩ | ⟨-, hresolve⟩ :=
    resolve_cases ports sampler l a store
  · simp [hresolve] at h
  · rw [hresolve] at h
    exact source_of_claim h
  · simp [hresolve] at h
  · rw [hresolve] at h
    obtain ⟨-, hdraw⟩ | ⟨n, hdraw⟩ | ⟨p, n, -, hdraw⟩ := draw_cases ports sampler l a store
    · simp [hdraw] at h
    · simp [hdraw] at h
    · rw [hdraw] at h
      dsimp only at h
      split at h
      · simp at h
      · rw [List.mem_singleton.mp h]
        rfl

/-- What the claims for a start leave in the log is said about ports. -/
theorem source_of_reserve {ws : List Workspace} (h : line ∈ (a.reserve ports store ws).2) :
    line.source = .ports := by
  induction ws generalizing a with
  | nil => simp [reserve] at h
  | cons w ws ih =>
    rcases List.mem_append.mp h with hfirst | hrest
    · change line ∈ (reserveOne ports store a w.localId).2 at hfirst
      unfold reserveOne at hfirst
      split at hfirst
      · exact source_of_claim hfirst
      · simp at hfirst
      · rw [List.mem_singleton.mp hfirst]
        rfl
    · exact ih hrest

end Assigner

/-! ## What events add to the log -/

namespace Supervisor

variable {σ : Type} {setup : Setup σ} {s t u : Supervisor σ} {l : LocalId}
  {ws : List Workspace} {lines : List LogLine} {entries : List Happening}

/-- What is added to the log and to the history from one state to another: some of `ws` may be
counted as started, and that the retries of `l` are spent is not told more often than it is
found for the first time. -/
def Adds (l : LocalId) (ws : List Workspace) (s t : Supervisor σ) : Prop :=
  ∃ lines entries, t.logs = s.logs ++ lines ∧ t.history = s.history ++ entries ∧
    lines.count (exhaustionNotice l) ≤ entries.countP (Happening.isFirstExhaustion l) ∧
    ∀ x, .counted x ∈ entries → x ∈ ws

namespace Adds

theorem refl (s : Supervisor σ) : Adds l ws s s :=
  ⟨[], [], (List.append_nil _).symm, (List.append_nil _).symm, by simp, by simp⟩

theorem trans (hs : Adds l ws s t) (ht : Adds l ws t u) : Adds l ws s u := by
  obtain ⟨lines, entries, hlogs, hhistory, hcount, hstarted⟩ := hs
  obtain ⟨lines', entries', hlogs', hhistory', hcount', hstarted'⟩ := ht
  refine ⟨lines ++ lines', entries ++ entries', ?_, ?_, ?_, fun x hx => ?_⟩
  · rw [hlogs', hlogs, List.append_assoc]
  · rw [hhistory', hhistory, List.append_assoc]
  · rw [List.count_append, List.countP_append]
    exact Nat.add_le_add hcount hcount'
  · exact (List.mem_append.mp hx).elim (hstarted x) (hstarted' x)

/-- Lines about something else may be added. -/
theorem of_lines (hlogs : t.logs = s.logs ++ lines) (hhistory : t.history = s.history)
    (hlines : exhaustionNotice l ∉ lines) : Adds l ws s t := by
  refine ⟨lines, [], hlogs, hhistory.trans (List.append_nil _).symm, ?_, by simp⟩
  rw [List.count_eq_zero_of_not_mem hlines]
  exact Nat.zero_le _

/-- Whatever happens need not be told. -/
theorem of_entries (hlogs : t.logs = s.logs) (hhistory : t.history = s.history ++ entries)
    (hstarted : ∀ x, .counted x ∈ entries → x ∈ ws) : Adds l ws s t :=
  ⟨[], entries, hlogs.trans (List.append_nil _).symm, hhistory, Nat.zero_le _, hstarted⟩

/-- What leaves log and history alone adds nothing. -/
theorem of_same (hlogs : t.logs = s.logs) (hhistory : t.history = s.history) : Adds l ws s t :=
  of_lines (hlogs.trans (List.append_nil _).symm) hhistory List.not_mem_nil

theorem record (s : Supervisor σ) (hstarted : ∀ x, .counted x ∈ entries → x ∈ ws) :
    Adds l ws s (s.record entries) :=
  of_entries rfl rfl hstarted

theorem note {line : LogLine} (s : Supervisor σ) (hline : line ≠ exhaustionNotice l) :
    Adds l ws s (s.note [line]) :=
  of_lines rfl rfl fun h => hline (List.mem_singleton.mp h).symm

/-- A warning is not about spent retries. -/
theorem note_warn {line : LogLine} (s : Supervisor σ) (hlevel : line.level = .warn) :
    Adds l ws s (s.note [line]) := by
  refine note s fun h => ?_
  rw [h] at hlevel
  cases hlevel

/-- Lines about ports are not about spent retries. -/
theorem note_ports (s : Supervisor σ) (hports : ∀ line ∈ lines, line.source = .ports) :
    Adds l ws s (s.note lines) :=
  of_lines rfl rfl fun h => by cases hports _ h

/-- Whoever finds retries spent for the first time may tell so. -/
theorem exhaustion {k : LocalId} (hlogs : t.logs = s.logs ++ [exhaustionNotice k])
    (hhistory : t.history = s.history ++ [.decided k (.exhausted true)]) : Adds l ws s t := by
  refine ⟨[exhaustionNotice k], [.decided k (.exhausted true)], hlogs, hhistory, ?_, by simp⟩
  by_cases hk : k = l
  · simp [hk, Happening.isFirstExhaustion]
  · have hnotice : exhaustionNotice l ∉ [exhaustionNotice k] := fun h =>
      hk (exhaustionNotice_inj (List.mem_singleton.mp h)).symm
    rw [List.count_eq_zero_of_not_mem hnotice]
    exact Nat.zero_le _

end Adds

theorem launch_adds (x : Workspace) (p : UInt16) (s : Supervisor σ) :
    Adds l ws s (s.launch x p).2 := by
  obtain ⟨current, -, -, hlaunch⟩ | ⟨-, hlaunch⟩ := launch_cases x p s
  · rw [hlaunch]
    exact .refl s
  · rw [hlaunch]
    exact .of_same rfl rfl

theorem startTunnel_adds (setup : Setup σ) (x : Workspace) (s : Supervisor σ) :
    Adds l ws s (s.startTunnel setup x).2 := by
  unfold startTunnel
  split
  · exact .refl s
  · let r := s.assigner.resolve setup.ports setup.sampler x.localId s.store
    have hresolve : Adds l ws s (s.assign r.assigner r.store r.logs) :=
      Adds.note_ports { s with assigner := r.assigner, store := r.store }
        fun line hline => Assigner.source_of_resolve hline
    dsimp only
    split
    · exact hresolve
    · exact hresolve
    · next p _ => exact hresolve.trans (launch_adds x p _)

theorem ensureBudget_adds (k : LocalId) (n : Nat) (s : Supervisor σ) :
    Adds l ws s (s.ensureBudget k n) :=
  .of_entries rfl rfl fun x hx => by split at hx <;> simp at hx

variable {w : Workspace}

theorem startOne_adds (setup : Setup σ) {x : Workspace} (hx : x ∈ ws) (s : Supervisor σ) :
    Adds w.localId ws s (s.startOne setup x).2 := by
  have hstart : Adds w.localId ws s
      ((s.ensureBudget x.localId setup.retryBudget).startTunnel setup x).2 :=
    (ensureBudget_adds _ _ s).trans (startTunnel_adds setup x _)
  unfold startOne
  split
  · next p t ht =>
    rw [ht] at hstart
    exact hstart.trans (.record t (by simpa using hx))
  · next e t ht =>
    rw [ht] at hstart
    exact hstart.trans (.note t (about_ne_exhaustionNotice w "Failed to start tunnel: "
      (by decide) (by decide) (by decide) e.message))
  · next t ht =>
    rw [ht] at hstart
    exact hstart

theorem startEach_adds (setup : Setup σ) {xs : List Workspace} (hsub : xs ⊆ ws)
    (s : Supervisor σ) : Adds w.localId ws s (s.startEach setup xs).2 := by
  induction xs generalizing s with
  | nil => exact .refl s
  | cons x xs ih =>
    have hone : Adds w.localId ws s (s.startOne setup x).2 :=
      startOne_adds setup (hsub List.mem_cons_self) s
    have hrest := fun t => ih (fun _ hy => hsub (List.mem_cons_of_mem _ hy)) t
    unfold startEach
    split
    · next p t ht =>
      rw [ht] at hone
      exact hone.trans (hrest t)
    · next e t ht =>
      rw [ht] at hone
      exact hone.trans (hrest t)
    · next t ht =>
      rw [ht] at hone
      exact hone

theorem start_adds (setup : Setup σ) (ws : List Workspace) (s : Supervisor σ) :
    Adds w.localId ws s (s.start setup ws).2 := by
  unfold start
  split
  · exact .refl s
  · let reserved := s.assigner.reserve setup.ports s.store ws
    have hreserve : Adds w.localId ws s ({ s with assigner := reserved.1 }.note reserved.2) :=
      Adds.note_ports { s with assigner := reserved.1 }
        fun line hline => Assigner.source_of_reserve hline
    exact hreserve.trans (startEach_adds setup (List.Subset.refl ws) _)

/-- What a registry is told to reset is in the history, and not in the log. -/
theorem resetRegistered_adds (k : LocalId) (s : Supervisor σ) :
    Adds l ws s (s.resetRegistered k).2 :=
  .of_entries rfl rfl (by simp)

/-- A reset that finds the retries spent for the first time tells so. -/
theorem reset_adds (setup : Setup σ) (x : Workspace) (s : Supervisor σ) :
    Adds w.localId ws s (s.reset setup x).2 := by
  unfold reset
  have hreset : Adds w.localId ws s (s.resetRegistered x.localId).2 :=
    resetRegistered_adds x.localId s
  split
  · next remaining t ht =>
    rw [ht] at hreset
    have hstart : Adds w.localId ws s (t.startTunnel setup x).2 :=
      hreset.trans (startTunnel_adds setup x t)
    split
    · next p u hu =>
      rw [hu] at hstart
      exact hstart
    · next e u hu =>
      rw [hu] at hstart
      exact hstart.trans (.note u (about_ne_exhaustionNotice w "Restart failed: "
        (by decide) (by decide) (by decide) e.message))
    · next u hu =>
      rw [hu] at hstart
      exact hstart
  · next first t ht =>
    cases first with
    | false =>
      rw [ht] at hreset
      exact hreset
    | true =>
      have hdecision : (s.registry.reset x.localId).1 = .exhausted true := congrArg Prod.fst ht
      obtain rfl : (s.resetRegistered x.localId).2 = t := congrArg Prod.snd ht
      exact .exhaustion rfl (by rw [← hdecision]; rfl)
  · next t ht =>
    rw [ht] at hreset
    exact hreset.trans (.note_warn t rfl)

theorem treat_adds (setup : Setup σ) (x : Workspace) (v : Verdict) (s : Supervisor σ) :
    Adds w.localId ws s (s.treat setup x v).2 := by
  cases v with
  | healthy => exact .refl s
  | unhealthy reason => exact (Adds.note_warn s rfl).trans (reset_adds setup x _)

theorem treatEach_adds (setup : Setup σ) (verdicts : List (Workspace × Verdict))
    (s : Supervisor σ) : Adds w.localId ws s (s.treatEach setup verdicts).2 := by
  induction verdicts generalizing s with
  | nil => exact .refl s
  | cons verdict rest ih =>
    have hone : Adds w.localId ws s (s.treat setup verdict.1 verdict.2).2 :=
      treat_adds setup verdict.1 verdict.2 s
    unfold treatEach
    split
    · next t ht =>
      rw [ht] at hone
      exact hone.trans (ih t)
    · next t ht =>
      rw [ht] at hone
      exact hone

theorem probeEach_adds (asker : Asker) (probe : Workspace → Verdict) (xs : List Workspace)
    (s : Supervisor σ) : Adds l ws s (s.probeEach asker probe xs).2 :=
  .record s (by simp)

theorem recheck_adds (setup : Setup σ) (probe : Workspace → Verdict) (s : Supervisor σ) :
    Adds w.localId ws s (s.recheck setup probe).2 :=
  (probeEach_adds .caller probe s.registry.workspaces s).trans (treatEach_adds setup _ _)

theorem report_adds (signal : Signal) (s : Supervisor σ) : Adds l ws s (s.report signal).2 :=
  .record { s with mailbox := (s.mailbox.report signal).2 } (by simp)

theorem sessionEnded_adds (session : Session) (ending : Ending) (s : Supervisor σ) :
    Adds w.localId ws s (s.sessionEnded session ending) := by
  unfold sessionEnded
  dsimp only
  split
  · exact .of_same rfl rfl
  · refine .trans ?_ (report_adds _ _)
    have hline : Adds w.localId ws { s with tasks := s.tasks.erase session }
        ({ s with tasks := s.tasks.erase session }.say .error session.localId
          s!"Tunnel failed: {ending.reason}") :=
      .note _ (about_ne_exhaustionNotice w "Tunnel failed: "
        (by decide) (by decide) (by decide) ending.reason)
    exact .trans (.of_same rfl rfl) (hline.trans (.of_same rfl rfl))

theorem treatNext_adds (h : s.treatNext setup = some t) : Adds w.localId ws s t := by
  obtain ⟨-, rfl⟩ | ⟨x, v, rest, -, ⟨-, rfl⟩ | ⟨-, rfl⟩⟩ := of_treatNext h
  · exact .record { s with healthLoop := .listening } (by simp)
  · exact (treat_adds setup x v s).trans (.of_same rfl rfl)
  · exact (treat_adds setup x v s).trans (.of_same rfl rfl)

/-- Every event tells of the spent retries of a workspace no more often than it finds them spent
for the first time, and counts only workspaces that it is to start. -/
theorem adds_of_apply (w : Workspace) {e : Event σ} (h : e.apply setup s = some t) :
    Adds w.localId e.toStart s t := by
  cases e with
  | start ws => obtain rfl := Option.some.inj h; exact start_adds setup ws s
  | reset x => obtain rfl := Option.some.inj h; exact reset_adds setup x s
  | recheck probe => obtain rfl := Option.some.inj h; exact recheck_adds setup probe s
  | report signal => obtain rfl := Option.some.inj h; exact report_adds signal s
  | sessionEnded session ending =>
    obtain ⟨-, h⟩ := Option.ite_none_right_eq_some.mp h
    obtain rfl := Option.some.inj h
    exact sessionEnded_adds session ending s
  | closeSession l n => obtain rfl := Option.some.inj h; exact .of_same rfl rfl
  | closeAll => obtain rfl := Option.some.inj h; exact .of_same rfl rfl
  | resetRegistered l => obtain rfl := Option.some.inj h; exact resetRegistered_adds l s
  | ensureBudget l n => obtain rfl := Option.some.inj h; exact ensureBudget_adds l n s
  | beginLoop =>
    obtain rfl := Option.some.inj h
    unfold beginLoop
    split
    · exact .of_same rfl rfl
    · exact .note_warn s rfl
  | receiveSignal =>
    obtain ⟨signal, -, -, rfl⟩ := of_receiveSignal h
    refine .trans (.of_same rfl rfl) ((Adds.record _ ?_).trans (.note_warn _ rfl))
    simp
  | takeSnapshot =>
    obtain ⟨-, rfl⟩ := of_takeSnapshot h
    exact .record { s with healthLoop := .probing s.registry.workspaces } (by simp)
  | collectVerdicts probe =>
    obtain ⟨xs, -, rfl⟩ := of_collectVerdicts h
    exact .record { s with healthLoop := .treating (xs.map fun x => (x, probe x)) } (by simp)
  | treatNext => exact treatNext_adds h
  | stopLoop =>
    obtain ⟨-, -, rfl⟩ := of_stopLoop h
    exact .of_same rfl rfl
  | shutdown => obtain rfl := Option.some.inj h; exact .of_same rfl rfl
  | storeChanged store => obtain rfl := Option.some.inj h; exact .of_same rfl rfl

/-- The log never tells of the spent retries of a workspace more often than a reset found them
spent for the first time. -/
theorem Reachable.count_exhaustionNotice_le (hs : Reachable setup s) (w : Workspace) :
    s.logs.count (exhaustionNotice w.localId) ≤
      s.history.countP (Happening.isFirstExhaustion w.localId) := by
  induction hs with
  | fresh h =>
    obtain ⟨store, assigner, rfl⟩ := h
    exact Nat.le_refl 0
  | step e _ ht ih =>
    obtain ⟨lines, entries, hlogs, hhistory, hcount, -⟩ := adds_of_apply w ht
    rw [hlogs, hhistory, List.count_append, List.countP_append]
    exact Nat.add_le_add ih hcount

end Supervisor

end TunnelFleet
