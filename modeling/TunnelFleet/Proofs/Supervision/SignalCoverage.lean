import TunnelFleet.Proofs.Supervision.Bookkeeping

/-!
# No report is lost

Reports are coalesced in a mailbox for one signal, and the health loop empties the mailbox
before its pass looks at the registry. So whatever is reported too late for one pass is
pending for the next one: every report, taken or not, is followed by a pass that starts
after it.
-/

namespace TunnelFleet

/-- A mailbox refuses a signal if it is abandoned or full, and is full of it otherwise. -/
theorem Mailbox.report_cases (m : Mailbox) (signal : Signal) :
    ((m.abandoned = true ∨ m.pending.isSome = true) ∧ m.report signal = (false, m)) ∨
    (m.abandoned = false ∧ m.pending = none ∧
      m.report signal = (true, { m with pending := some signal })) := by
  unfold report
  cases m.abandoned with
  | true => exact .inl ⟨.inl rfl, rfl⟩
  | false =>
    cases m.pending with
    | none => exact .inr ⟨rfl, rfl, rfl⟩
    | some waiting => exact .inl ⟨.inr rfl, rfl⟩

namespace Supervisor

variable {σ : Type} {setup : Setup σ} {s t u : Supervisor σ}

/-! ## What events do to signals -/

/-- What an event does to the mailbox and the health loop, with what it adds to the
history. -/
inductive Turn (s t : Supervisor σ) : List Happening → Prop
  | call {entries : List Happening} (hentries : ∀ x ∈ entries, x.ofLoop = false)
      (hmailbox : t.mailbox = s.mailbox) (hloop : t.healthLoop = s.healthLoop) : Turn s t entries
  | report (signal : Signal) (hmailbox : t.mailbox = (s.mailbox.report signal).2)
      (hloop : t.healthLoop = s.healthLoop) :
      Turn s t [.reported signal (s.mailbox.report signal).1]
  | begin (hwas : s.healthLoop = .idle) (hmailbox : t.mailbox = s.mailbox)
      (hloop : t.healthLoop = .listening) : Turn s t []
  | receive (signal : Signal) (hwas : s.healthLoop = .listening)
      (hpending : s.mailbox.pending = some signal) (hmailbox : t.mailbox = s.mailbox.receive.2)
      (hloop : t.healthLoop = .alerted) : Turn s t [.received signal]
  | snapshot (hwas : s.healthLoop = .alerted) (htaken : s.takeSnapshot = some t)
      (hmailbox : t.mailbox = s.mailbox) (hloop : t.healthLoop = .probing s.registry.workspaces) :
      Turn s t [.surveyed s.registry.workspaces]
  | probe (ws : List Workspace) (verdicts : List (Workspace × Verdict))
      (hwas : s.healthLoop = .probing ws) (hmailbox : t.mailbox = s.mailbox)
      (hloop : t.healthLoop = .treating verdicts) : Turn s t (ws.map (.probed .healthLoop))
  | treat (verdicts rest : List (Workspace × Verdict)) {entries : List Happening}
      (hentries : ∀ x ∈ entries, x.ofLoop = false) (hwas : s.healthLoop = .treating verdicts)
      (hmailbox : t.mailbox = s.mailbox) (hloop : t.healthLoop = .treating rest) :
      Turn s t entries
  | finish (hwas : s.healthLoop = .treating []) (hmailbox : t.mailbox = s.mailbox)
      (hloop : t.healthLoop = .listening) : Turn s t [.passEnded]
  | stop (hwas : s.healthLoop = .listening) (hstop : s.isStopping = true)
      (hmailbox : t.mailbox = s.mailbox.abandon) (hloop : t.healthLoop = .ended) : Turn s t []

/-- The health loop is over for good. -/
theorem Turn.ended {entries : List Happening} (hturn : Turn s t entries)
    (h : s.healthLoop = .ended) : t.healthLoop = .ended := by
  cases hturn with
  | call hentries hmailbox hloop => exact hloop.trans h
  | report signal hmailbox hloop => exact hloop.trans h
  | begin hwas => cases hwas.symm.trans h
  | receive signal hwas => cases hwas.symm.trans h
  | snapshot hwas => cases hwas.symm.trans h
  | probe ws verdicts hwas => cases hwas.symm.trans h
  | treat verdicts rest hentries hwas => cases hwas.symm.trans h
  | finish hwas => cases hwas.symm.trans h
  | stop hwas hstop hmailbox hloop => exact hloop

/-- The health loop ends because of a shutdown only. -/
theorem Turn.of_ended {entries : List Happening} (hturn : Turn s t entries)
    (h : t.healthLoop = .ended) : s.healthLoop = .ended ∨ s.isStopping = true := by
  cases hturn with
  | call hentries hmailbox hloop => exact .inl (hloop.symm.trans h)
  | report signal hmailbox hloop => exact .inl (hloop.symm.trans h)
  | begin hwas hmailbox hloop => cases hloop.symm.trans h
  | receive signal hwas hpending hmailbox hloop => cases hloop.symm.trans h
  | snapshot hwas htaken hmailbox hloop => cases hloop.symm.trans h
  | probe ws verdicts hwas hmailbox hloop => cases hloop.symm.trans h
  | treat verdicts rest hentries hwas hmailbox hloop => cases hloop.symm.trans h
  | finish hwas hmailbox hloop => cases hloop.symm.trans h
  | stop hwas hstop => exact .inr hstop

/-- An event takes a turn. -/
def Turns (s t : Supervisor σ) : Prop :=
  ∃ entries, t.history = s.history ++ entries ∧ Turn s t entries

namespace Turns

theorem of_deeds (h : Deeds s t) : Turns s t := by
  obtain ⟨hmailbox, hloop, entries, hhistory, hentries⟩ := h.frame
  exact ⟨entries, hhistory, .call hentries hmailbox hloop⟩

/-- An event that is not about signals. -/
theorem quiet (hmailbox : t.mailbox = s.mailbox) (hloop : t.healthLoop = s.healthLoop)
    (hhistory : t.history = s.history) : Turns s t :=
  ⟨[], by rw [hhistory, List.append_nil], .call (by simp) hmailbox hloop⟩

private theorem of_sessionEnded (session : Session) (ending : Ending) :
    Turns s (s.sessionEnded session ending) := by
  unfold sessionEnded
  dsimp only
  split
  · exact .quiet rfl rfl rfl
  · exact ⟨_, rfl, .report _ rfl rfl⟩

private theorem of_beginLoop : Turns s s.beginLoop.2 := by
  unfold beginLoop
  split
  · next hwas => exact ⟨[], (List.append_nil _).symm, .begin hwas rfl rfl⟩
  · exact .quiet rfl rfl rfl

private theorem of_receiveSignal (h : s.receiveSignal = some t) : Turns s t := by
  obtain ⟨signal, hwas, hpending, rfl⟩ := Supervisor.of_receiveSignal h
  exact ⟨_, rfl, .receive signal hwas hpending rfl rfl⟩

private theorem of_takeSnapshot (h : s.takeSnapshot = some t) : Turns s t := by
  obtain ⟨hwas, rfl⟩ := Supervisor.of_takeSnapshot h
  exact ⟨_, rfl, .snapshot hwas h rfl rfl⟩

private theorem of_collectVerdicts {probe : Workspace → Verdict}
    (h : s.collectVerdicts probe = some t) : Turns s t := by
  obtain ⟨targets, hwas, rfl⟩ := Supervisor.of_collectVerdicts h
  exact ⟨_, rfl, .probe targets _ hwas rfl rfl⟩

private theorem of_treatNext (hs : s.Sound) (h : s.treatNext setup = some t) : Turns s t := by
  obtain ⟨hwas, rfl⟩ | ⟨w, v, rest, hwas, rfl⟩ := hs.treatNext_cases h
  · exact ⟨_, rfl, .finish hwas rfl rfl⟩
  · obtain ⟨hmailbox, -, entries, hhistory, hentries⟩ := (treat_deeds setup w v s).frame
    exact ⟨entries, hhistory, .treat _ rest hentries hwas hmailbox rfl⟩

private theorem of_stopLoop (h : s.stopLoop = some t) : Turns s t := by
  obtain ⟨hwas, hstop, rfl⟩ := Supervisor.of_stopLoop h
  exact ⟨[], (List.append_nil _).symm, .stop hwas hstop rfl rfl⟩

/-- Every event takes a turn. In particular the health loop ends only because of a
shutdown. -/
theorem of_apply (hs : s.Sound) {e : Event σ} (h : e.apply setup s = some t) : Turns s t := by
  cases e with
  | start ws => obtain rfl := Option.some.inj h; exact of_deeds (start_deeds setup ws s)
  | reset w => obtain rfl := Option.some.inj h; exact of_deeds (reset_deeds setup w s)
  | recheck probe => obtain rfl := Option.some.inj h; exact of_deeds (recheck_deeds setup probe s)
  | report signal => obtain rfl := Option.some.inj h; exact ⟨_, rfl, .report signal rfl rfl⟩
  | sessionEnded session ending =>
    obtain ⟨-, h⟩ := Option.ite_none_right_eq_some.mp h
    obtain rfl := Option.some.inj h
    exact of_sessionEnded session ending
  | closeSession l n => obtain rfl := Option.some.inj h; exact quiet rfl rfl rfl
  | closeAll => obtain rfl := Option.some.inj h; exact quiet rfl rfl rfl
  | resetRegistered l => obtain rfl := Option.some.inj h; exact of_deeds (Deed.reset s l).deeds
  | ensureBudget l n => obtain rfl := Option.some.inj h; exact of_deeds (Deed.budget s l n).deeds
  | beginLoop => obtain rfl := Option.some.inj h; exact of_beginLoop
  | receiveSignal => exact of_receiveSignal h
  | takeSnapshot => exact of_takeSnapshot h
  | collectVerdicts probe => exact of_collectVerdicts h
  | treatNext => exact of_treatNext hs h
  | stopLoop => exact of_stopLoop h
  | shutdown => obtain rfl := Option.some.inj h; exact quiet rfl rfl rfl
  | storeChanged store => obtain rfl := Option.some.inj h; exact quiet rfl rfl rfl

end Turns

/-! ## How far a pass has come -/

/-- How far a pass over some workspaces has come, given where the health loop stands and
what has happened since the pass settled on these workspaces. -/
inductive Progress (ws : List Workspace) (loop : HealthLoop) (since : List Happening) : Prop
  | probing (hloop : loop = .probing ws)
  | treating (verdicts : List (Workspace × Verdict)) (hloop : loop = .treating verdicts)
      (hprobed : ws.map (.probed .healthLoop) <:+: since)
  | complete (before after : List Happening)
      (hsince : since = before ++ ws.map (.probed .healthLoop) ++ after)
      (hended : .passEnded ∈ after)

namespace Progress

variable {ws : List Workspace} {loop : HealthLoop} {since entries : List Happening}

/-- A complete pass stays complete. -/
theorem complete_append {loop' : HealthLoop} {before after : List Happening}
    (hsince : since = before ++ ws.map (.probed .healthLoop) ++ after)
    (hended : .passEnded ∈ after) (entries : List Happening) :
    Progress ws loop' (since ++ entries) :=
  .complete before (after ++ entries) (by rw [hsince, List.append_assoc])
    (List.mem_append_left _ hended)

/-- A pass that the health loop is not busy with is complete. -/
theorem of_not_busy {loop' : HealthLoop} (h : Progress ws loop since)
    (hprobing : ∀ ws, loop ≠ .probing ws) (htreating : ∀ verdicts, loop ≠ .treating verdicts) :
    Progress ws loop' (since ++ entries) := by
  cases h with
  | probing hloop => exact absurd hloop (hprobing ws)
  | treating verdicts hloop hprobed => exact absurd hloop (htreating verdicts)
  | complete before after hsince hended => exact complete_append hsince hended entries

/-- What happens beside a pass does not set it back. -/
theorem append (h : Progress ws loop since) (entries : List Happening) :
    Progress ws loop (since ++ entries) := by
  cases h with
  | probing hloop => exact .probing hloop
  | treating verdicts hloop hprobed =>
    exact .treating verdicts hloop (hprobed.trans (List.prefix_append _ _).isInfix)
  | complete before after hsince hended => exact complete_append hsince hended entries

/-- No turn sets a pass back. -/
theorem of_turn (h : Progress ws s.healthLoop since) (hturn : Turn s t entries) :
    Progress ws t.healthLoop (since ++ entries) := by
  cases hturn with
  | call hentries hmailbox hloop => rw [hloop]; exact h.append _
  | report signal hmailbox hloop => rw [hloop]; exact h.append _
  | begin hwas => exact h.of_not_busy (by simp [hwas]) (by simp [hwas])
  | receive signal hwas => exact h.of_not_busy (by simp [hwas]) (by simp [hwas])
  | snapshot hwas => exact h.of_not_busy (by simp [hwas]) (by simp [hwas])
  | stop hwas => exact h.of_not_busy (by simp [hwas]) (by simp [hwas])
  | probe ws' verdicts hwas hmailbox hloop =>
    cases h with
    | probing hprobing =>
      obtain rfl : ws' = ws := by
        rw [hwas] at hprobing
        exact HealthLoop.probing.inj hprobing
      exact .treating verdicts hloop (List.suffix_append _ _).isInfix
    | treating verdicts' htreating => rw [hwas] at htreating; cases htreating
    | complete before after hsince hended => exact complete_append hsince hended _
  | treat verdicts rest hentries hwas hmailbox hloop =>
    cases h.append entries with
    | probing hprobing => rw [hwas] at hprobing; cases hprobing
    | treating verdicts' htreating hprobed => exact .treating rest hloop hprobed
    | complete before after hsince hended => exact .complete before after hsince hended
  | finish hwas hmailbox hloop =>
    cases h with
    | probing hprobing => rw [hwas] at hprobing; cases hprobing
    | treating verdicts' htreating hprobed =>
      obtain ⟨before, after, rfl⟩ := hprobed
      exact .complete before (after ++ [.passEnded]) (by rw [List.append_assoc])
        (List.mem_append_right _ (List.mem_singleton.mpr rfl))
    | complete before after hsince hended => exact complete_append hsince hended _

end Progress

/-! ## Keeping track of signals -/

/-- A pass of the health loop took its snapshot of the registry in the state `u`, and this
is what happened since. -/
structure PassSince (setup : Setup σ) (u s : Supervisor σ) (since : List Happening) : Prop where
  reachable : Reachable setup u
  snapshot : ∃ u', u.takeSnapshot = some u' ∧ Leads setup u' s
  history : s.history = u.history ++ .surveyed u.registry.workspaces :: since

/-- Who reports now is heard: a signal is pending, or a pass is about to begin, or one has
begun since. -/
def Heard (setup : Setup σ) (past : List Happening) (s : Supervisor σ) : Prop :=
  s.mailbox.pending.isSome = true ∨ s.healthLoop = .alerted ∨
    ∃ u since, past <+: u.history ∧ PassSince setup u s since ∧
      Progress u.registry.workspaces s.healthLoop since

/-- Whoever was heard once is heard until the health loop ends. -/
theorem Heard.of_turn {past entries : List Happening} (h : Heard setup past s)
    (hs : Reachable setup s) (hpast : past <+: s.history) (hlead : Leads setup s t)
    (hhistory : t.history = s.history ++ entries) (hturn : Turn s t entries)
    (hrunning : t.healthLoop ≠ .ended) : Heard setup past t := by
  rcases h with hpending | halerted | ⟨u, since, hbefore, hpass, hprogress⟩
  · have hkept : t.mailbox = s.mailbox → Heard setup past t := fun hmailbox =>
      .inl (by rw [hmailbox]; exact hpending)
    cases hturn with
    | call hentries hmailbox => exact hkept hmailbox
    | report signal hmailbox =>
      refine .inl ?_
      rw [hmailbox, Mailbox.report, if_pos (by simp [hpending])]
      exact hpending
    | begin hwas hmailbox => exact hkept hmailbox
    | receive signal hwas hsome hmailbox hloop => exact .inr (.inl hloop)
    | snapshot hwas htaken hmailbox => exact hkept hmailbox
    | probe ws verdicts hwas hmailbox => exact hkept hmailbox
    | treat verdicts rest hentries hwas hmailbox => exact hkept hmailbox
    | finish hwas hmailbox => exact hkept hmailbox
    | stop hwas hstop hmailbox hloop => exact absurd hloop hrunning
  · cases hturn with
    | call hentries hmailbox hloop => exact .inr (.inl (hloop.trans halerted))
    | report signal hmailbox hloop => exact .inr (.inl (hloop.trans halerted))
    | snapshot hwas htaken hmailbox hloop =>
      -- The pass that was about to begin begins now.
      exact .inr (.inr ⟨s, [], hpast, ⟨hs, ⟨t, htaken, .refl⟩, hhistory⟩, .probing hloop⟩)
    | begin hwas => cases hwas.symm.trans halerted
    | receive signal hwas => cases hwas.symm.trans halerted
    | probe ws verdicts hwas => cases hwas.symm.trans halerted
    | treat verdicts rest hentries hwas => cases hwas.symm.trans halerted
    | finish hwas => cases hwas.symm.trans halerted
    | stop hwas => cases hwas.symm.trans halerted
  · refine .inr (.inr ⟨u, since ++ entries, hbefore, ?_, hprogress.of_turn hturn⟩)
    obtain ⟨u', htaken, hleads⟩ := hpass.snapshot
    refine ⟨hpass.reachable, ⟨u', htaken, hleads.trans hlead⟩, ?_⟩
    rw [hhistory, hpass.history, List.append_assoc, List.cons_append]

/-- The signals that the mailbox took, in order. -/
def takenSignals (s : Supervisor σ) : List Signal := s.history.filterMap Happening.taken?

/-- The signals that the health loop received, in order. -/
def receivedSignals (s : Supervisor σ) : List Signal := s.history.filterMap Happening.received?

theorem signals_of_not_ofLoop {entries : List Happening}
    (h : ∀ x ∈ entries, x.ofLoop = false) :
    entries.filterMap Happening.taken? = [] ∧ entries.filterMap Happening.received? = [] := by
  refine ⟨List.filterMap_eq_nil_iff.mpr fun x hx => ?_,
    List.filterMap_eq_nil_iff.mpr fun x hx => ?_⟩
  all_goals
    have hnot := h x hx
    cases x with
    | reported signal taken => cases hnot
    | received signal => cases hnot
    | _ => rfl

/-- No signal is lost sight of. -/
structure Attentive (setup : Setup σ) (s : Supervisor σ) : Prop where
  /-- The receiver goes away with the health loop. -/
  abandoned : s.mailbox.abandoned = true ↔ s.healthLoop = .ended
  /-- The health loop ends because of a shutdown only. -/
  stopped : s.healthLoop = .ended → s.isStopping = true
  heard : s.healthLoop ≠ .ended → ∀ {before signal taken after},
    s.history = before ++ .reported signal taken :: after →
      Heard setup (before ++ [.reported signal taken]) s
  /-- What was taken was received or is pending; at the end one signal may be dropped. -/
  delivered : ∃ rest : List Signal, s.takenSignals = s.receivedSignals ++ rest ∧ rest.length ≤ 1 ∧
    (s.healthLoop ≠ .ended → rest = s.mailbox.pending.toList)

namespace Attentive

theorem of_fresh (hs : s.IsFresh) : s.Attentive setup := by
  obtain ⟨store, assigner, rfl⟩ := hs
  exact
    { abandoned := by simp
      stopped := by simp
      heard := fun _ {_ _ _ _} h => by simp at h
      delivered := ⟨[], rfl, Nat.zero_le _, fun _ => rfl⟩ }

private theorem abandoned_of_turn {entries : List Happening}
    (h : s.mailbox.abandoned = true ↔ s.healthLoop = .ended) (hturn : Turn s t entries) :
    t.mailbox.abandoned = true ↔ t.healthLoop = .ended := by
  cases hturn with
  | call hentries hmailbox hloop => rw [hmailbox, hloop, h]
  | report signal hmailbox hloop =>
    rw [hmailbox, hloop, ← h, Mailbox.report]
    split <;> rfl
  | receive signal hwas hpending hmailbox hloop =>
    rw [hmailbox, hloop, Mailbox.receive, h, hwas]
    simp
  | stop hwas hstop hmailbox hloop => simp [hmailbox, hloop, Mailbox.abandon]
  | begin hwas hmailbox hloop => rw [hmailbox, hloop, h, hwas]; simp
  | snapshot hwas htaken hmailbox hloop => rw [hmailbox, hloop, h, hwas]; simp
  | probe ws verdicts hwas hmailbox hloop => rw [hmailbox, hloop, h, hwas]; simp
  | treat verdicts rest hentries hwas hmailbox hloop => rw [hmailbox, hloop, h, hwas]; simp
  | finish hwas hmailbox hloop => rw [hmailbox, hloop, h, hwas]; simp

private theorem heard_of_step (h : s.Attentive setup) (hs : Reachable setup s) {e : Event σ}
    (he : e.apply setup s = some t) {entries : List Happening}
    (hhistory : t.history = s.history ++ entries) (hturn : Turn s t entries)
    (hrunning : t.healthLoop ≠ .ended) {before after : List Happening} {signal : Signal}
    {taken : Bool} (hsplit : t.history = before ++ .reported signal taken :: after) :
    Heard setup (before ++ [.reported signal taken]) t := by
  rw [hhistory] at hsplit
  rcases Happening.old_or_new hsplit with ⟨between, hold, -⟩ | ⟨between, -, hnew⟩
  · have hbefore : s.healthLoop ≠ .ended := fun hended => hrunning (hturn.ended hended)
    exact (h.heard hbefore hold).of_turn hs ⟨between, by simp [hold]⟩ (.single ⟨e, he⟩) hhistory
      hturn hrunning
  · -- The report is new, so this turn is the one that reports.
    have hmem : Happening.reported signal taken ∈ entries := by
      rw [hnew]
      simp
    cases hturn with
    | report signal' hmailbox hloop =>
      refine .inl ?_
      rw [hmailbox]
      obtain ⟨habandoned | hpending, hreport⟩ | ⟨-, -, hreport⟩ := s.mailbox.report_cases signal'
      · exact absurd (hloop.trans (h.abandoned.mp habandoned)) hrunning
      · rw [hreport]
        exact hpending
      · rw [hreport]
        rfl
    | call hentries => cases hentries _ hmem
    | treat verdicts rest hentries => cases hentries _ hmem
    | begin => simp at hmem
    | receive => simp at hmem
    | snapshot => simp at hmem
    | probe => simp at hmem
    | finish => simp at hmem
    | stop => simp at hmem

private theorem delivered_of_turn {entries : List Happening} (h : s.Attentive setup)
    (hhistory : t.history = s.history ++ entries) (hturn : Turn s t entries) :
    ∃ rest : List Signal, t.takenSignals = t.receivedSignals ++ rest ∧ rest.length ≤ 1 ∧
      (t.healthLoop ≠ .ended → rest = t.mailbox.pending.toList) := by
  obtain ⟨rest, htaken, hlength, hrest⟩ := h.delivered
  have htakent : t.takenSignals = s.takenSignals ++ entries.filterMap Happening.taken? := by
    rw [takenSignals, hhistory, List.filterMap_append, takenSignals]
  have hreceivedt : t.receivedSignals =
      s.receivedSignals ++ entries.filterMap Happening.received? := by
    rw [receivedSignals, hhistory, List.filterMap_append, receivedSignals]
  have hquiet : t.mailbox = s.mailbox → entries.filterMap Happening.taken? = [] →
      entries.filterMap Happening.received? = [] →
      ∃ rest : List Signal, t.takenSignals = t.receivedSignals ++ rest ∧ rest.length ≤ 1 ∧
        (t.healthLoop ≠ .ended → rest = t.mailbox.pending.toList) := by
    intro hmailbox hnone hnone'
    refine ⟨rest, by rw [htakent, hreceivedt, hnone, hnone', List.append_nil, List.append_nil,
      htaken], hlength, fun hrunning => ?_⟩
    rw [hmailbox]
    exact hrest fun hended => hrunning (hturn.ended hended)
  cases hturn with
  | call hentries hmailbox =>
    obtain ⟨hnone, hnone'⟩ := signals_of_not_ofLoop hentries
    exact hquiet hmailbox hnone hnone'
  | treat verdicts rest' hentries hwas hmailbox =>
    obtain ⟨hnone, hnone'⟩ := signals_of_not_ofLoop hentries
    exact hquiet hmailbox hnone hnone'
  | begin hwas hmailbox => exact hquiet hmailbox rfl rfl
  | snapshot hwas hsnapshot hmailbox => exact hquiet hmailbox rfl rfl
  | probe ws verdicts hwas hmailbox =>
    exact hquiet hmailbox (by simp [Happening.taken?]) (by simp [Happening.received?])
  | finish hwas hmailbox => exact hquiet hmailbox rfl rfl
  | report signal hmailbox hloop =>
    obtain ⟨-, hreport⟩ | ⟨hopen, hempty, hreport⟩ := s.mailbox.report_cases signal
    · rw [hreport] at hmailbox hquiet
      exact hquiet hmailbox rfl rfl
    · have hrunning : s.healthLoop ≠ .ended := fun hended => by
        rw [h.abandoned.mpr hended] at hopen
        cases hopen
      rw [hrest hrunning, hempty, Option.toList_none, List.append_nil] at htaken
      refine ⟨[signal], ?_, le_rfl, fun _ => by rw [hmailbox, hreport]; rfl⟩
      rw [htakent, hreceivedt, hreport, htaken]
      simp [Happening.taken?, Happening.received?]
  | receive signal hwas hpending hmailbox hloop =>
    rw [hrest (by rw [hwas]; exact nofun), hpending] at htaken
    refine ⟨[], ?_, Nat.zero_le _, fun _ => by rw [hmailbox]; rfl⟩
    rw [htakent, hreceivedt, htaken]
    simp [Happening.taken?, Happening.received?]
  | stop hwas hstop hmailbox hloop =>
    refine ⟨rest, ?_, hlength, fun hrunning => absurd hloop hrunning⟩
    rw [htakent, hreceivedt, htaken]
    simp

/-- No event makes a supervisor lose sight of a signal. -/
theorem of_step (h : s.Attentive setup) (hs : Reachable setup s) {e : Event σ}
    (he : e.apply setup s = some t) : t.Attentive setup := by
  obtain ⟨entries, hhistory, hturn⟩ := Turns.of_apply hs.sound he
  exact
    { abandoned := abandoned_of_turn h.abandoned hturn
      stopped := by
        intro hended
        refine (moves_of_apply he).isStopping ?_
        rcases hturn.of_ended hended with hbefore | hstop
        · exact h.stopped hbefore
        · exact hstop
      heard := fun hrunning _ _ _ _ hsplit => h.heard_of_step hs he hhistory hturn hrunning hsplit
      delivered := h.delivered_of_turn hhistory hturn }

end Attentive

/-- A supervisor never loses sight of a signal. -/
theorem Reachable.attentive (hs : Reachable setup s) : s.Attentive setup := by
  induction hs with
  | fresh h => exact .of_fresh h
  | step e hs ht ih => exact ih.of_step hs ht

/-- No report is lost by coalescing, as long as the health loop is not over; and it is over
only because of a shutdown. Whatever was reported since the last pass of the health loop
settled on its workspaces is covered by a pending signal or by a pass that is to begin. So
when the health loop listens and nothing is pending, every report, taken or not, has been
followed by a whole pass over all workspaces that were registered when the pass began, which
was after the report. The signals that the mailbox took are received once and in order, and a
report is refused if and only if a signal is pending or the health loop is over. -/
theorem Reachable.reports_covered (hs : Reachable setup s) :
    (s.healthLoop = .ended → s.isStopping = true) ∧
    (s.healthLoop ≠ .ended → ∀ before signal taken after,
      s.history = before ++ .reported signal taken :: after → (∀ ws, .surveyed ws ∉ after) →
        s.mailbox.pending.isSome = true ∨ s.healthLoop = .alerted) ∧
    (s.healthLoop = .listening → s.mailbox.pending = none → ∀ before signal taken after,
      s.history = before ++ .reported signal taken :: after →
        ∃ u u' : Supervisor σ, Reachable setup u ∧
          before ++ [.reported signal taken] <+: u.history ∧
          u.takeSnapshot = some u' ∧ Leads setup u' s ∧
          ∃ early late, s.history = u.history ++ .surveyed u.registry.workspaces ::
              (early ++ u.registry.workspaces.map (.probed .healthLoop) ++ late) ∧
            .passEnded ∈ late) ∧
    (∃ dropped : List Signal, s.takenSignals = s.receivedSignals ++ dropped ∧
      dropped.length ≤ 1 ∧ (s.healthLoop ≠ .ended → dropped = s.mailbox.pending.toList)) ∧
    ∀ signal, (s.report signal).1 = false ↔
      s.mailbox.pending.isSome = true ∨ s.healthLoop = .ended := by
  have hattentive := hs.attentive
  refine ⟨hattentive.stopped, fun hrunning before signal taken after hsplit hnone => ?_,
    fun hlistening hempty before signal taken after hsplit => ?_, hattentive.delivered,
    fun signal => ?_⟩
  · rcases hattentive.heard hrunning hsplit with hpending | halerted | ⟨u, since, hpast, hpass, -⟩
    · exact .inl hpending
    · exact .inr halerted
    · obtain ⟨between, hbetween⟩ := hpast
      have hafter := hpass.history
      rw [hsplit, ← hbetween] at hafter
      simp only [List.append_assoc, List.cons_append, List.nil_append] at hafter
      have hsame := (List.cons.inj (List.append_cancel_left hafter)).2
      refine absurd ?_ (hnone u.registry.workspaces)
      rw [hsame]
      simp
  · have hrunning : s.healthLoop ≠ .ended := by rw [hlistening]; exact nofun
    rcases hattentive.heard hrunning hsplit with hpending | halerted | ⟨u, since, hpast, hpass, hp⟩
    · rw [hempty] at hpending
      cases hpending
    · cases hlistening.symm.trans halerted
    · obtain ⟨u', htaken, hlead⟩ := hpass.snapshot
      cases hp with
      | probing hloop => cases hlistening.symm.trans hloop
      | treating verdicts hloop => cases hlistening.symm.trans hloop
      | complete early late hsince hended =>
        exact ⟨u, u', hpass.reachable, hpast, htaken, hlead, early, late,
          by rw [hpass.history, hsince], hended⟩
  · rw [← hattentive.abandoned]
    change (s.mailbox.report signal).1 = false ↔ _
    obtain ⟨hfull, hreport⟩ | ⟨hopen, hempty, hreport⟩ := s.mailbox.report_cases signal
    · rw [hreport]
      exact ⟨fun _ => hfull.symm, fun _ => rfl⟩
    · simp [hreport, hopen, hempty]

/-- Two signals are reported, the second one is coalesced, and a pass follows both. -/
theorem reports_covered_coalesced :
    ∃ s u : Supervisor PinTable, Reachable SmallFleet.setup s ∧ s.healthLoop = .listening ∧
      s.mailbox.pending = none ∧ .reported ⟨none, "second"⟩ false ∈ s.history ∧
      .reported ⟨none, "second"⟩ false ∈ u.history ∧ Leads SmallFleet.setup u s := by
  let events : List (Event PinTable) :=
    [.beginLoop, .report ⟨none, "first"⟩, .report ⟨none, "second"⟩, .receiveSignal, .takeSnapshot,
      .collectVerdicts fun _ => .healthy, .treatNext, .treatNext, .treatNext]
  have hend : (events.foldlM (fun s e => Event.apply SmallFleet.setup e s)
      SmallFleet.started).any (fun s => s.healthLoop = .listening ∧ s.mailbox.pending = none ∧
        .reported ⟨none, "second"⟩ false ∈ s.history) = true := by
    decide +kernel
  obtain ⟨s, hs, hstate⟩ := (Option.any_eq_true _ _).mp hend
  obtain ⟨hlistening, hempty, hreported⟩ := of_decide_eq_true hstate
  have hreachable : Reachable SmallFleet.setup s :=
    SmallFleet.started_reachable.leads (Leads.of_foldlM hs)
  obtain ⟨before, after, hsplit⟩ := List.append_of_mem hreported
  obtain ⟨-, -, hfollowed, -⟩ := Reachable.reports_covered hreachable
  obtain ⟨u, u', -, hpast, htaken, hlead, -⟩ :=
    hfollowed hlistening hempty before _ _ after hsplit
  refine ⟨s, u, hreachable, hlistening, hempty, hreported, hpast.subset (by simp), ?_⟩
  exact .head ⟨.takeSnapshot, htaken⟩ hlead

end Supervisor

end TunnelFleet
