/-!
# Calls served in turn

A store is called again and again. It answers each call, and with its new state it waits for
the next. If it answers every single call as a simpler store does, and the two still
correspond afterwards, then it answers every sequence of calls as the simpler store does.
-/

namespace TunnelFleet

variable {κ α σ τ : Type}

/-- The answers to a sequence of calls, and the state after the last of them. -/
def serve (perform : κ → σ → α × σ) : List κ → σ → List α × σ
  | [], s => ([], s)
  | call :: calls, s =>
    let (answer, s) := perform call s
    let (answers, s) := serve perform calls s
    (answer :: answers, s)

theorem serve_cons (perform : κ → σ → α × σ) (call : κ) (calls : List κ) (s : σ) :
    serve perform (call :: calls) s =
      ((perform call s).1 :: (serve perform calls (perform call s).2).1,
        (serve perform calls (perform call s).2).2) := rfl

/-- Two stores that answer each call alike, and correspond afterwards if they did before, answer
every sequence of calls alike. -/
theorem serve_alike {perform : κ → σ → α × σ} {perform' : κ → τ → α × τ} {Alike : σ → τ → Prop}
    (hstep : ∀ call s s', Alike s s' → (perform call s).1 = (perform' call s').1 ∧
      Alike (perform call s).2 (perform' call s').2)
    {s : σ} {s' : τ} (h : Alike s s') (calls : List κ) :
    (serve perform calls s).1 = (serve perform' calls s').1 ∧
      Alike (serve perform calls s).2 (serve perform' calls s').2 := by
  induction calls generalizing s s' with
  | nil => exact ⟨rfl, h⟩
  | cons call calls ih =>
    obtain ⟨hanswer, hnext⟩ := hstep call s s' h
    obtain ⟨hanswers, hend⟩ := ih hnext
    rw [serve_cons, serve_cons, hanswer, hanswers]
    exact ⟨rfl, hend⟩

end TunnelFleet
