namespace LoginGateway

def runAll {σ ι α : Type} (step : σ → ι → σ × α) (start : σ) : List ι → σ × List α
  | [] => (start, [])
  | input :: rest =>
    let done := step start input
    let after := runAll step done.1 rest
    (after.1, done.2 :: after.2)

theorem runAll_append {σ ι α : Type} (step : σ → ι → σ × α) (start : σ) (inputs : List ι) (input : ι) :
    runAll step start (inputs ++ [input]) =
      let before := runAll step start inputs
      let done := step before.1 input
      (done.1, before.2 ++ [done.2]) := by
  induction inputs generalizing start with
  | nil => rfl
  | cons first rest ih => simp only [List.cons_append, runAll, ih]

theorem runAll_state {σ ι α : Type} (step : σ → ι → σ × α) (start : σ) (inputs : List ι) :
    (runAll step start inputs).1 = inputs.foldl (fun state input => (step state input).1) start := by
  induction inputs generalizing start with
  | nil => rfl
  | cons input rest ih => exact ih _

theorem runAll_related {σ τ ι α : Type} {step : σ → ι → σ × α} {twin : τ → ι → τ × α} {related : σ → τ → Prop}
    (kept : ∀ state other input, related state other →
      related (step state input).1 (twin other input).1 ∧ (step state input).2 = (twin other input).2)
    (inputs : List ι) (state : σ) (other : τ) (start : related state other) :
    related (runAll step state inputs).1 (runAll twin other inputs).1 ∧
      (runAll step state inputs).2 = (runAll twin other inputs).2 := by
  induction inputs generalizing state other with
  | nil => exact ⟨start, rfl⟩
  | cons input rest ih =>
    have ⟨next, answer⟩ := kept state other input start
    have ⟨last, answers⟩ := ih _ _ next
    exact ⟨last, by simp only [runAll, answer, answers]⟩

end LoginGateway
