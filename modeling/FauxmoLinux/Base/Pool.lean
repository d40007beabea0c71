import FauxmoLinux.Base.Threads

/-!
Any number of threads on one shared state, in the order of a schedule.

* `Pool.step`: the thread that is named takes its next step; its outputs carry its name;
* `Apart`: every thread reads and writes a part of the state of its own;
* `Apart.alone`: threads that are apart do not notice each other. In every schedule a thread that
  comes to its end has done to its part, and put out, what it does by itself.
-/

namespace FauxmoLinux

variable {ι τ σ ω ε ρ : Type} [DecidableEq ι]

/-- The program points of the threads, and the shared state. -/
structure Pool (ι τ σ : Type) where
  points : ι → τ
  shared : σ

/-- One step of the thread `i`. A thread that is over stays over. -/
def Pool.step (f : ι → Thread τ σ ω ε) (p : Pool ι τ σ) (i : ι) :
    Except ε (Pool ι τ σ × List (ι × ω)) :=
  match f i (p.points i) p.shared with
  | .error e => .error e
  | .ok none => .ok (p, [])
  | .ok (some (t, s, o)) => .ok (⟨Function.update p.points i t, s⟩, o.map (i, ·))

/-- The outputs of the thread `i`. -/
def outputsOf (i : ι) (o : List (ι × ω)) : List ω := (o.filter (·.1 = i)).map Prod.snd

@[simp] lemma outputsOf_append (i : ι) (o o' : List (ι × ω)) :
    outputsOf i (o ++ o') = outputsOf i o ++ outputsOf i o' := by
  simp [outputsOf]

lemma outputsOf_self (i : ι) (o : List ω) : outputsOf i (o.map (i, ·)) = o := by
  simp [outputsOf, List.filter_map, Function.comp_def]

lemma outputsOf_of_ne {i j : ι} (h : j ≠ i) (o : List ω) : outputsOf i (o.map (j, ·)) = [] := by
  simp [outputsOf, List.filter_map, Function.comp_def, h]

/-- Every thread has a part of the state for itself: its steps depend on nothing else and change
nothing else. -/
structure Apart (f : ι → Thread τ σ ω ε) (part : ι → σ → ρ) : Prop where
  inside : ∀ i t s₁ s₂ t' s₁' o, part i s₁ = part i s₂ →
    f i t s₁ = .ok (some (t', s₁', o)) →
    ∃ s₂', f i t s₂ = .ok (some (t', s₂', o)) ∧ part i s₁' = part i s₂'
  ends : ∀ i t s₁ s₂, part i s₁ = part i s₂ → f i t s₁ = .ok none → f i t s₂ = .ok none
  outside : ∀ i t s t' s' o, f i t s = .ok (some (t', s', o)) → ∀ j ≠ i, part j s' = part j s

variable {f : ι → Thread τ σ ω ε}

/-- **Threads that are apart**: in every schedule a thread that comes to its end has done to its
part, and put out, what it does by itself on any state with that part. -/
theorem Apart.alone {part : ι → σ → ρ} (h : Apart f part) {p p' : Pool ι τ σ} {k : List ι}
    {o : List (ι × ω)} (hrun : runs (Pool.step f) p k = .ok (p', o)) {i : ι}
    (hover : f i (p'.points i) p'.shared = .ok none) {s : σ}
    (hs : part i p.shared = part i s) :
    ∃ s', Alone (f i) (p.points i) s s' (outputsOf i o) ∧ part i p'.shared = part i s' := by
  induction k generalizing p o s with
  | nil =>
      obtain ⟨rfl, rfl⟩ : p = p' ∧ o = [] := by simpa [eq_comm] using hrun
      exact ⟨s, .done (h.ends i _ _ _ hs hover), hs⟩
  | cons j k ih =>
      obtain ⟨p₁, o₁, o₂, hstep, hrest, rfl⟩ := runs_cons_ok.mp hrun
      rw [Pool.step] at hstep
      cases hf : f j (p.points j) p.shared with
      | error e => rw [hf] at hstep; cases hstep
      | ok r =>
          rw [hf] at hstep
          cases r with
          | none =>
              cases hstep
              exact ih hrest hs
          | some r =>
              obtain ⟨t, s₁, o'⟩ := r
              cases hstep
              by_cases hj : j = i
              · subst hj
                obtain ⟨s₂, hf₂, hpart⟩ := h.inside j _ _ s _ _ _ hs hf
                obtain ⟨s', halone, hend⟩ := ih hrest hpart
                refine ⟨s', ?_, hend⟩
                rw [outputsOf_append, outputsOf_self]
                simp only [Function.update_self] at halone
                exact .step hf₂ halone
              · have hpart : part i s₁ = part i s :=
                  (h.outside j _ _ _ _ _ hf i (Ne.symm hj)).trans hs
                obtain ⟨s', halone, hend⟩ := ih hrest hpart
                refine ⟨s', ?_, hend⟩
                rw [outputsOf_append, outputsOf_of_ne hj, List.nil_append]
                simpa only [Function.update_of_ne (Ne.symm hj)] using halone

end FauxmoLinux
