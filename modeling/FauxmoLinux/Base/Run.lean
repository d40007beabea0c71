import Mathlib.Tactic

/-!
Fallible step functions and their runs.

A program is a step function `σ → α → Except ε (σ × List ω)`: from a state and an input it
either fails or gives the next state and the outputs of the step in order. A run feeds a list of
inputs to it.

* `runs`, `runs_append_ok`: the run over a list of inputs, and its splitting at any point;
* `runs_filter`: inputs that change and say nothing can be left out;
* `runs_history`, `runs_invariant`: what holds initially and is kept by one step holds at the
  end of every run, the invariant being allowed to speak of all inputs and outputs so far;
* `EveryInput`, `exists_runs_iff_everyInput`, `exists_runs_iff`: which runs complete, when the
  states and the inputs decide it, or the inputs alone;
* `exists_iterate_of_measure`: termination of a total step function by a measure;
* `EveryStep`, `everyStep_iff`, `everyStep_congr`: a property of every single step of a run, its
  reading over all prefixes, and its rewriting under an invariant.
-/

namespace FauxmoLinux

/-- The ways in which a C++ computation stops being an ordinary one: the two exceptions the
standard library throws here, and the undefined or endless behaviours. -/
inductive Fault where
  | outOfRange
  | invalidArgument
  | badIndex
  | divByZero
  | overrun
  | diverge
  deriving DecidableEq, Repr

/-- A sequence of two computations succeeds when both do. -/
lemma bind_ok_iff {ε α β : Type} {x : Except ε α} {f : α → Except ε β} {b : β} :
    x >>= f = .ok b ↔ ∃ a, x = .ok a ∧ f a = .ok b := by
  cases x <;> simp [bind, Except.bind]

/-- A sequence of two computations fails when the first does or the second does. -/
lemma bind_error_iff {ε α β : Type} {x : Except ε α} {f : α → Except ε β} {e : ε} :
    x >>= f = .error e ↔ x = .error e ∨ ∃ a, x = .ok a ∧ f a = .error e := by
  cases x <;> simp [bind, Except.bind]

@[simp] lemma ok_bind {ε α β : Type} (a : α) (f : α → Except ε β) :
    (Except.ok a >>= f) = f a := rfl

@[simp] lemma error_bind {ε α β : Type} (e : ε) (f : α → Except ε β) :
    (Except.error e >>= f) = .error e := rfl

/-- Computations with the same results under every function of a family that tells values
apart. -/
lemma eq_of_map_eq {ε α β δ : Type} [Nonempty δ] {f : δ → α → β} {x y : Except ε α}
    (hf : ∀ a b, (∀ d, f d a = f d b) → a = b) (h : ∀ d, x.map (f d) = y.map (f d)) : x = y := by
  obtain ⟨d⟩ := (inferInstance : Nonempty δ)
  cases x with
  | error e =>
      cases y with
      | error e' => exact congrArg Except.error (Except.error.inj (h d))
      | ok b => cases h d
  | ok a =>
      cases y with
      | error e => cases h d
      | ok b => exact congrArg Except.ok (hf a b fun d => Except.ok.inj (h d))

variable {σ α ω ε : Type} {step : σ → α → Except ε (σ × List ω)}

/-! ### Runs -/

/-- The run of `step` over a list of inputs, the outputs in order. -/
def runs (step : σ → α → Except ε (σ × List ω)) : σ → List α → Except ε (σ × List ω)
  | s, [] => .ok (s, [])
  | s, a :: as => do
      let (s₁, o₁) ← step s a
      let (s₂, o₂) ← runs step s₁ as
      return (s₂, o₁ ++ o₂)

@[simp] lemma runs_nil (s : σ) : runs step s [] = .ok (s, []) := rfl

lemma runs_singleton (s : σ) (a : α) : runs step s [a] = step s a := by
  rw [runs]
  cases step s a with
  | error e => rfl
  | ok x => simp [pure, Except.pure]

lemma runs_cons_ok {s s₂ : σ} {a : α} {as : List α} {o : List ω} :
    runs step s (a :: as) = .ok (s₂, o) ↔
      ∃ s₁ o₁ o₂, step s a = .ok (s₁, o₁) ∧ runs step s₁ as = .ok (s₂, o₂) ∧ o = o₁ ++ o₂ := by
  simp only [runs, bind_ok_iff, Prod.exists]
  constructor
  · rintro ⟨s₁, o₁, h₁, s₂', o₂, h₂, h⟩
    obtain ⟨rfl, rfl⟩ : s₂' = s₂ ∧ o₁ ++ o₂ = o := by simpa [pure, Except.pure] using h
    exact ⟨s₁, o₁, o₂, h₁, h₂, rfl⟩
  · rintro ⟨s₁, o₁, o₂, h₁, h₂, rfl⟩
    exact ⟨s₁, o₁, h₁, s₂, o₂, h₂, rfl⟩

/-- A run over a concatenation is a run over its first part followed by one over the second. -/
lemma runs_append_ok {s s₂ : σ} {as bs : List α} {o : List ω} :
    runs step s (as ++ bs) = .ok (s₂, o) ↔
      ∃ s₁ o₁ o₂, runs step s as = .ok (s₁, o₁) ∧ runs step s₁ bs = .ok (s₂, o₂) ∧
        o = o₁ ++ o₂ := by
  induction as generalizing s o with
  | nil => simp
  | cons a as ih =>
      simp only [List.cons_append, runs_cons_ok, ih]
      constructor
      · rintro ⟨s₁, o₁, _, h₁, ⟨s₁', o₁', o₂, h₂, h₃, rfl⟩, rfl⟩
        exact ⟨s₁', o₁ ++ o₁', o₂, ⟨s₁, o₁, o₁', h₁, h₂, rfl⟩, h₃, by simp⟩
      · rintro ⟨s₁', _, o₂, ⟨s₁, o₁, o₁', h₁, h₂, rfl⟩, h₃, rfl⟩
        exact ⟨s₁, o₁, o₁' ++ o₂, h₁, ⟨s₁', o₁', o₂, h₂, h₃, rfl⟩, by simp⟩

/-- Inputs that no step takes notice of can be left out of a run. -/
lemma runs_filter {p : α → Bool} (h : ∀ s a, p a = false → step s a = .ok (s, [])) (s : σ)
    (as : List α) : runs step s (as.filter p) = runs step s as := by
  induction as generalizing s with
  | nil => rfl
  | cons a as ih =>
      cases hp : p a with
      | true =>
          rw [List.filter_cons_of_pos hp, runs, runs]
          simp only [ih]
      | false =>
          have hskip : runs step s (a :: as) = runs step s as := by
            simp only [runs, h s a hp, ok_bind, List.nil_append]
            cases runs step s as <;> rfl
          rw [List.filter_cons_of_neg (by simp [hp]), ih, hskip]

/-- **The invariant rule**: a property of the inputs, the state and the outputs so far that
every step keeps holds at the end of every run it holds at the start of. -/
theorem runs_history {I : List α → σ → List ω → Prop}
    (hstep : ∀ l s o a s' o', I l s o → step s a = .ok (s', o') → I (l ++ [a]) s' (o ++ o'))
    {l m : List α} {s s' : σ} {o o' : List ω} (h₀ : I l s o)
    (h : runs step s m = .ok (s', o')) : I (l ++ m) s' (o ++ o') := by
  induction m generalizing l s o o' with
  | nil =>
      obtain ⟨rfl, rfl⟩ : s = s' ∧ o' = [] := by simpa [eq_comm] using h
      simpa using h₀
  | cons a m ih =>
      obtain ⟨s₁, o₁, o₂, h₁, h₂, rfl⟩ := runs_cons_ok.mp h
      have h₃ := ih (hstep l s o a s₁ o₁ h₀ h₁) h₂
      rwa [List.append_assoc, List.append_assoc, List.singleton_append] at h₃

/-- The invariant rule for a property that does not look at the inputs. -/
theorem runs_invariant {I : σ → List ω → Prop}
    (hstep : ∀ s o a s' o', I s o → step s a = .ok (s', o') → I s' (o ++ o'))
    {s s' : σ} {o o' : List ω} {as : List α} (h₀ : I s o)
    (h : runs step s as = .ok (s', o')) : I s' (o ++ o') :=
  runs_history (I := fun _ => I) (fun _ => hstep) (l := []) h₀ h

/-- `V` holds of every input of the run and of the state it finds. A run ends at a step that
fails. -/
def EveryInput (step : σ → α → Except ε (σ × List ω)) (V : σ → α → Prop) : σ → List α → Prop
  | _, [] => True
  | s, a :: as => V s a ∧ ∀ s' o, step s a = .ok (s', o) → EveryInput step V s' as

/-- **Which runs complete**, when the state decides as well. -/
theorem exists_runs_iff_everyInput {I : σ → Prop} {V : σ → α → Prop}
    (hI : ∀ s a s' o, I s → step s a = .ok (s', o) → I s')
    (hV : ∀ s a, I s → ((∃ r, step s a = .ok r) ↔ V s a)) {s : σ} {as : List α}
    (h₀ : I s) : (∃ r, runs step s as = .ok r) ↔ EveryInput step V s as := by
  induction as generalizing s with
  | nil => simp [EveryInput]
  | cons a as ih =>
      constructor
      · rintro ⟨⟨s₂, o⟩, hrun⟩
        obtain ⟨s₁, o₁, o₂, h₁, h₂, -⟩ := runs_cons_ok.mp hrun
        refine ⟨(hV s a h₀).mp ⟨_, h₁⟩, fun s' o' h' => ?_⟩
        rw [h₁] at h'
        cases h'
        exact (ih (hI s a s₁ o₁ h₀ h₁)).mp ⟨_, h₂⟩
      · rintro ⟨hva, hrest⟩
        obtain ⟨⟨s₁, o₁⟩, h₁⟩ := (hV s a h₀).mpr hva
        obtain ⟨⟨s₂, o₂⟩, h₂⟩ := (ih (hI s a s₁ o₁ h₀ h₁)).mpr (hrest s₁ o₁ h₁)
        exact ⟨_, runs_cons_ok.mpr ⟨s₁, o₁, o₂, h₁, h₂, rfl⟩⟩

/-- `P` holds of every step of the run: of the state before it, its input, the state after it
and its outputs. A run ends at a step that fails. -/
def EveryStep (step : σ → α → Except ε (σ × List ω)) (P : σ → α → σ → List ω → Prop) :
    σ → List α → Prop
  | _, [] => True
  | s, a :: as => ∀ s' o, step s a = .ok (s', o) → P s a s' o ∧ EveryStep step P s' as

/-- Every step of a run is one taken after some prefix of the inputs. -/
lemma everyStep_iff {P : σ → α → σ → List ω → Prop} {s : σ} {as : List α} :
    EveryStep step P s as ↔
      ∀ pre a post, as = pre ++ a :: post → ∀ s₁ o₁, runs step s pre = .ok (s₁, o₁) →
        ∀ s₂ o₂, step s₁ a = .ok (s₂, o₂) → P s₁ a s₂ o₂ := by
  induction as generalizing s with
  | nil => simp [EveryStep]
  | cons b bs ih =>
      constructor
      · rintro h pre a post heq s₁ o₁ hpre s₂ o₂ ha
        cases pre with
        | nil =>
            obtain ⟨rfl, rfl⟩ : b = a ∧ bs = post := by simpa using heq
            obtain ⟨rfl, rfl⟩ : s = s₁ ∧ o₁ = [] := by simpa [eq_comm] using hpre
            exact (h s₂ o₂ ha).1
        | cons c pre =>
            obtain ⟨rfl, rfl⟩ : b = c ∧ bs = pre ++ a :: post := by simpa using heq
            obtain ⟨s', o', o'', h₁, h₂, rfl⟩ := runs_cons_ok.mp hpre
            exact ih.mp (h s' o' h₁).2 pre a post rfl s₁ o'' h₂ s₂ o₂ ha
      · intro h s' o hb
        refine ⟨h [] b bs rfl s [] rfl s' o hb, ih.mpr ?_⟩
        rintro pre a post rfl s₁ o₁ hpre s₂ o₂ ha
        exact h (b :: pre) a post rfl s₁ (o ++ o₁)
          (runs_cons_ok.mpr ⟨s', o, o₁, hb, hpre, rfl⟩) s₂ o₂ ha

/-- Two properties of a step that agree on the states of an invariant agree on every run that
starts in the invariant. Only steps with the property need to keep the invariant. -/
theorem everyStep_congr {I : σ → Prop} {P Q : σ → α → σ → List ω → Prop}
    (hI : ∀ s a s' o, I s → step s a = .ok (s', o) → P s a s' o → I s')
    (hPQ : ∀ s a s' o, I s → step s a = .ok (s', o) → (P s a s' o ↔ Q s a s' o))
    {s : σ} {as : List α} (h₀ : I s) : EveryStep step P s as ↔ EveryStep step Q s as := by
  induction as generalizing s with
  | nil => rfl
  | cons a as ih =>
      have hstep : ∀ s' o, step s a = .ok (s', o) →
          (P s a s' o ∧ EveryStep step P s' as ↔ Q s a s' o ∧ EveryStep step Q s' as) := by
        intro s' o ha
        rw [← hPQ s a s' o h₀ ha]
        exact and_congr_right fun hP => ih (hI s a s' o h₀ ha hP)
      exact forall_congr' fun s' => forall_congr' fun o => imp_congr_right (hstep s' o)

/-! ### Endless step functions -/

/-- A step that keeps an invariant and lowers a measure until it is done gets done. -/
theorem exists_iterate_of_measure {τ : Type} {f : τ → τ} {I done : τ → Prop} (μ : τ → ℕ)
    (hI : ∀ s, I s → I (f s)) (hμ : ∀ s, I s → ¬ done s → μ (f s) < μ s) :
    ∀ s, I s → ∃ k, done (f^[k] s) := by
  intro s
  induction hm : μ s using Nat.strong_induction_on generalizing s with
  | _ m ih =>
      intro hs
      by_cases hd : done s
      · exact ⟨0, hd⟩
      · obtain ⟨k, hk⟩ := ih (μ (f s)) (hm ▸ hμ s hs hd) (f s) rfl (hI s hs)
        exact ⟨k + 1, hk⟩

end FauxmoLinux
