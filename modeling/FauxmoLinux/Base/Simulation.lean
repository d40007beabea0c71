import FauxmoLinux.Base.Run

/-!
Two programs over the same inputs, one of which stands for the other.

* `SameAnswers`: the runs of the two give the same answers;
* `sameAnswers_of_everyInput`: they do when the states stay related as long as the inputs are
  allowed;
* `Indistinguishable`, `indistinguishable_iff`: when every input that is not allowed can be told by
  some queries behind it, the runs on which the programs cannot be told apart are exactly those on
  which every input is allowed.
-/

namespace FauxmoLinux

variable {σ τ α ω ε : Type} {step : σ → α → Except ε (σ × List ω)}
  {step' : τ → α → Except ε (τ × List ω)}

/-- The runs give the same answers. -/
def SameAnswers (step : σ → α → Except ε (σ × List ω)) (step' : τ → α → Except ε (τ × List ω))
    (s : σ) (t : τ) (as : List α) : Prop :=
  (runs step s as).map Prod.snd = (runs step' t as).map Prod.snd

/-- At no moment of the run can the programs be told apart by queries. -/
def Indistinguishable (step : σ → α → Except ε (σ × List ω))
    (step' : τ → α → Except ε (τ × List ω)) (IsQuery : α → Prop) (s : σ) (t : τ) (as : List α) :
    Prop :=
  ∀ pre, pre <+: as → ∀ queries : List α, (∀ q ∈ queries, IsQuery q) →
    SameAnswers step step' s t (pre ++ queries)

/-- Behind the same answers to the first input the others decide. -/
lemma sameAnswers_cons {s s' : σ} {t t' : τ} {a : α} {as : List α} {o : List ω}
    (hs : step s a = .ok (s', o)) (ht : step' t a = .ok (t', o)) :
    SameAnswers step step' s t (a :: as) ↔ SameAnswers step step' s' t' as := by
  rw [SameAnswers, SameAnswers, runs, runs, hs, ht, ok_bind, ok_bind]
  dsimp only
  cases runs step s' as <;> cases runs step' t' as <;> simp [Except.map, pure, Except.pure]

section

variable {R : σ → τ → Prop} {V : τ → α → Prop}
  (hstep : ∀ s t a, R s t → V t a → ∃ s' t' o, step s a = .ok (s', o) ∧
    step' t a = .ok (t', o) ∧ R s' t')

include hstep

/-- **The simulation rule**: related states give the same answers to inputs that are allowed. -/
theorem sameAnswers_of_everyInput {s : σ} {t : τ} {as : List α} (h₀ : R s t)
    (h : EveryInput step' V t as) : SameAnswers step step' s t as := by
  induction as generalizing s t with
  | nil => rfl
  | cons a as ih =>
      obtain ⟨ha, hrest⟩ := h
      obtain ⟨s', t', o, hs, ht, hR⟩ := hstep s t a h₀ ha
      exact (sameAnswers_cons hs ht).mpr (ih hR (hrest t' o ht))

omit hstep in
/-- Inputs that are allowed in every state. -/
lemma everyInput_of_forall {t : τ} {as : List α} (h : ∀ a ∈ as, ∀ t, V t a) :
    EveryInput step' V t as := by
  induction as generalizing t with
  | nil => trivial
  | cons a as ih =>
      rw [List.forall_mem_cons] at h
      exact ⟨h.1 t, fun _ _ _ => ih h.2⟩

/-- **What can be told apart**: when queries are allowed always, and behind every input that is not
allowed some of them show a difference, no queries do exactly when every input is allowed. -/
theorem indistinguishable_iff {IsQuery : α → Prop} (hquery : ∀ t a, IsQuery a → V t a)
    (hbreak : ∀ s t a, R s t → ¬ V t a → ∃ queries : List α, (∀ q ∈ queries, IsQuery q) ∧
      ¬ SameAnswers step step' s t (a :: queries)) {s : σ} {t : τ} {as : List α} (h₀ : R s t) :
    Indistinguishable step step' IsQuery s t as ↔ EveryInput step' V t as := by
  have hqueries : ∀ s t queries, R s t → (∀ q ∈ queries, IsQuery q) →
      SameAnswers step step' s t queries := fun s t queries hR hq =>
    sameAnswers_of_everyInput hstep hR (everyInput_of_forall fun q hmem t => hquery t q (hq q hmem))
  induction as generalizing s t with
  | nil =>
      refine iff_of_true (fun pre hpre queries hq => ?_) trivial
      rw [List.prefix_nil.mp hpre, List.nil_append]
      exact hqueries s t queries h₀ hq
  | cons a as ih =>
      constructor
      · intro h
        have ha : V t a := by
          by_contra hno
          obtain ⟨queries, hq, hdiffer⟩ := hbreak s t a h₀ hno
          exact hdiffer (h [a] ⟨as, rfl⟩ queries hq)
        obtain ⟨s', t', o, hs, ht, hR⟩ := hstep s t a h₀ ha
        refine ⟨ha, fun t'' o' ht' => ?_⟩
        rw [ht] at ht'
        cases ht'
        refine (ih hR).mp fun pre hpre queries hq => (sameAnswers_cons hs ht).mp ?_
        exact h (a :: pre) (List.cons_prefix_cons.mpr ⟨rfl, hpre⟩) queries hq
      · rintro ⟨ha, hrest⟩ pre hpre queries hq
        cases pre with
        | nil => exact hqueries s t queries h₀ hq
        | cons b pre =>
            obtain ⟨rfl, hpre'⟩ := List.cons_prefix_cons.mp hpre
            obtain ⟨s', t', o, hs, ht, hR⟩ := hstep s t b h₀ ha
            exact (sameAnswers_cons hs ht).mpr ((ih hR).mpr (hrest t' o ht) pre hpre' queries hq)

end

end FauxmoLinux
