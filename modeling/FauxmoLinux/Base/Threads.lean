import FauxmoLinux.Base.Run

/-!
Two threads on one shared state.

A thread is a step function: from a program point and the shared state it fails, is over
(`none`), or goes on to a next point, changing the state and giving outputs. Each step is
atomic, and two threads take their steps in any order.

* `Alone`, `Interleaved`: the complete runs of one thread, and those of two; a run of one behind
  the other is an interleaving (`Interleaved.of_alone`);
* `Interleaved.inv`: which thread moves first;
* `Interleaved.alone_of_idle`: a thread that stays idle under an invariant may be left out;
* `Shuffle`: the merges of two lists, `shuffle_eq_append` and `eq_of_shuffle_eq`: all of them
  are the same list exactly when no two of its members differ.
-/

namespace FauxmoLinux

variable {τ υ σ ω ε α : Type}

/-- A thread with program points `τ` on the shared state `σ`. -/
abbrev Thread (τ σ ω ε : Type) := τ → σ → Except ε (Option (τ × σ × List ω))

/-- A complete run of one thread by itself. -/
inductive Alone (f : Thread τ σ ω ε) : τ → σ → σ → List ω → Prop
  | done {t : τ} {s : σ} (h : f t s = .ok none) : Alone f t s s []
  | step {t t' : τ} {s s₁ s' : σ} {o out : List ω} (h : f t s = .ok (some (t', s₁, o)))
      (hr : Alone f t' s₁ s' out) : Alone f t s s' (o ++ out)

/-- A complete run of two threads, step by step in any order. -/
inductive Interleaved (f : Thread τ σ ω ε) (g : Thread υ σ ω ε) :
    τ → υ → σ → σ → List ω → Prop
  | done {t : τ} {u : υ} {s : σ} (hf : f t s = .ok none) (hg : g u s = .ok none) :
      Interleaved f g t u s s []
  | left {t t' : τ} {u : υ} {s s₁ s' : σ} {o out : List ω}
      (h : f t s = .ok (some (t', s₁, o))) (hr : Interleaved f g t' u s₁ s' out) :
      Interleaved f g t u s s' (o ++ out)
  | right {t : τ} {u u' : υ} {s s₁ s' : σ} {o out : List ω}
      (h : g u s = .ok (some (u', s₁, o))) (hr : Interleaved f g t u' s₁ s' out) :
      Interleaved f g t u s s' (o ++ out)

variable {f : Thread τ σ ω ε} {g : Thread υ σ ω ε} {t : τ} {u : υ} {s s' : σ} {out : List ω}

/-! ### One thread -/

lemma alone_of_done (h : f t s = .ok none) : Alone f t s s' out ↔ s' = s ∧ out = [] := by
  constructor
  · intro ha
    cases ha with
    | done => exact ⟨rfl, rfl⟩
    | step h' => rw [h] at h'; cases h'
  · rintro ⟨rfl, rfl⟩
    exact .done h

lemma alone_of_step {t' : τ} {s₁ : σ} {o : List ω} (h : f t s = .ok (some (t', s₁, o))) :
    Alone f t s s' out ↔ ∃ rest, Alone f t' s₁ s' rest ∧ out = o ++ rest := by
  constructor
  · intro ha
    cases ha with
    | done h' => rw [h] at h'; cases h'
    | step h' hr =>
        rw [h] at h'
        cases h'
        exact ⟨_, hr, rfl⟩
  · rintro ⟨rest, hr, rfl⟩
    exact .step h hr

lemma not_alone_of_error {e : ε} (h : f t s = .error e) : ¬ Alone f t s s' out := by
  intro ha
  cases ha with
  | done h' => rw [h] at h'; cases h'
  | step h' => rw [h] at h'; cases h'

/-! ### Two threads -/

/-- The two threads trade places. -/
lemma Interleaved.swap (h : Interleaved f g t u s s' out) : Interleaved g f u t s s' out := by
  induction h with
  | done hf hg => exact .done hg hf
  | left h _ ih => exact .right h ih
  | right h _ ih => exact .left h ih

/-- **One behind the other** is an interleaving, for threads whose end does not depend on the
state. -/
theorem Interleaved.of_alone (hf : ∀ t s s', f t s = .ok none → f t s' = .ok none) {s₁ : σ}
    {out' : List ω} (ha : Alone f t s s₁ out) (hb : Alone g u s₁ s' out') :
    Interleaved f g t u s s' (out ++ out') := by
  induction ha with
  | done h =>
      rw [List.nil_append]
      induction hb with
      | done hg => exact .done h hg
      | step hg _ ih => exact .right hg (ih (hf _ _ _ h))
  | step h _ ih =>
      rw [List.append_assoc]
      exact .left h (ih hb)

/-- Where both threads can move, one of them moves first. -/
lemma Interleaved.inv {t' : τ} {u' : υ} {s₁ s₂ : σ} {o₁ o₂ : List ω}
    (hf : f t s = .ok (some (t', s₁, o₁))) (hg : g u s = .ok (some (u', s₂, o₂)))
    (h : Interleaved f g t u s s' out) :
    (∃ rest, Interleaved f g t' u s₁ s' rest ∧ out = o₁ ++ rest) ∨
      ∃ rest, Interleaved f g t u' s₂ s' rest ∧ out = o₂ ++ rest := by
  cases h with
  | done hf' => rw [hf] at hf'; cases hf'
  | left h hr =>
      rw [hf] at h
      cases h
      exact Or.inl ⟨_, hr, rfl⟩
  | right h hr =>
      rw [hg] at h
      cases h
      exact Or.inr ⟨_, hr, rfl⟩

/-- **An idle thread may be left out**: under an invariant of the points and the state, kept by
the other thread, that lets it take silent steps only. -/
theorem Interleaved.alone_of_idle {I : τ → υ → σ → Prop}
    (hf : ∀ t u s, I t u s → f t s = .ok none ∨
      ∃ t', f t s = .ok (some (t', s, [])) ∧ I t' u s)
    (hg : ∀ t u s u' s₁ o, I t u s → g u s = .ok (some (u', s₁, o)) → I t u' s₁)
    (hI : I t u s) (h : Interleaved f g t u s s' out) : Alone g u s s' out := by
  induction h with
  | done _ hd => exact .done hd
  | @left t _ u s _ _ _ _ hs _ ih =>
      rcases hf t u s hI with hn | ⟨t', ht', hI'⟩
      · rw [hn] at hs
        cases hs
      · rw [ht'] at hs
        cases hs
        exact ih hI'
  | right hs _ ih => exact .step hs (ih (hg _ _ _ _ _ _ hI hs))

/-! ### Merges of two lists -/

/-- The merges of two lists. -/
inductive Shuffle : List α → List α → List α → Prop
  | nil : Shuffle [] [] []
  | left {a : α} {l m k : List α} (h : Shuffle l m k) : Shuffle (a :: l) m (a :: k)
  | right {a : α} {l m k : List α} (h : Shuffle l m k) : Shuffle l (a :: m) (a :: k)

namespace Shuffle

variable {l m k : List α}

lemma swap (h : Shuffle l m k) : Shuffle m l k := by
  induction h with
  | nil => exact .nil
  | left _ ih => exact .right ih
  | right _ ih => exact .left ih

lemma nil_left (m : List α) : Shuffle [] m m := by
  induction m with
  | nil => exact .nil
  | cons a m ih => exact .right ih

lemma append_left (p : List α) (h : Shuffle l m k) : Shuffle (p ++ l) m (p ++ k) := by
  induction p with
  | nil => exact h
  | cons a p ih => exact .left ih

lemma append (l m : List α) : Shuffle l m (l ++ m) := by
  simpa using append_left l (nil_left m)

lemma perm (h : Shuffle l m k) : k.Perm (l ++ m) := by
  induction h with
  | nil => exact .nil
  | left _ ih => exact ih.cons _
  | right _ ih => exact (ih.cons _).trans List.perm_middle.symm

lemma eq_of_nil (h : Shuffle [] m k) : k = m := by
  induction m generalizing k with
  | nil => cases h; rfl
  | cons a m ih =>
      cases h with
      | right h => rw [ih h]

end Shuffle

/-- No two members of the list differ. -/
def Uniform (l : List α) : Prop := ∀ a ∈ l, ∀ b ∈ l, a = b

instance [DecidableEq α] (l : List α) : Decidable (Uniform l) :=
  inferInstanceAs (Decidable (∀ a ∈ l, ∀ b ∈ l, a = b))

/-- Rearranging members of which no two differ changes nothing. -/
lemma Uniform.eq_of_perm {l k : List α} (h : Uniform l) (hp : k.Perm l) : k = l := by
  cases l with
  | nil => exact hp.eq_nil
  | cons a l =>
      have hl : a :: l = List.replicate (a :: l).length a :=
        List.eq_replicate_iff.mpr ⟨rfl, fun b hb => h b hb a (by simp)⟩
      rw [hl] at hp ⊢
      exact List.perm_replicate.mp hp

/-- A merge of two lists without different members is their concatenation, in either order. -/
theorem shuffle_eq_append {l m k : List α} (h : Shuffle l m k) (hu : Uniform (l ++ m)) :
    k = l ++ m ∧ k = m ++ l :=
  ⟨hu.eq_of_perm h.perm,
    Uniform.eq_of_perm (fun a ha b hb => hu a (List.perm_append_comm.mem_iff.mp ha) b
      (List.perm_append_comm.mem_iff.mp hb)) (h.perm.trans List.perm_append_comm)⟩

/-- If all merges of two lists are one list, a member of the first is the head of the second:
it can come directly before or directly behind it. -/
lemma eq_head_of_shuffle_eq {l m z : List α} {b : α} (h : ∀ k, Shuffle l (b :: m) k → k = z) :
    ∀ a ∈ l, a = b := by
  intro a ha
  obtain ⟨p, q, rfl⟩ := List.append_of_mem ha
  have h₁ : Shuffle (p ++ a :: q) (b :: m) (p ++ a :: b :: (q ++ m)) :=
    Shuffle.append_left p (.left (.right (Shuffle.append q m)))
  have h₂ : Shuffle (p ++ a :: q) (b :: m) (p ++ b :: a :: (q ++ m)) :=
    Shuffle.append_left p (.right (.left (Shuffle.append q m)))
  have heq : p ++ a :: b :: (q ++ m) = p ++ b :: a :: (q ++ m) := (h _ h₁).trans (h _ h₂).symm
  exact (List.cons.inj (List.append_cancel_left heq)).1

/-- **If all merges of two nonempty lists are one list**, no two members of the lists differ. -/
theorem eq_of_shuffle_eq {l m z : List α} (hl : l ≠ []) (hm : m ≠ [])
    (h : ∀ k, Shuffle l m k → k = z) : Uniform (l ++ m) := by
  obtain ⟨a, l, rfl⟩ := List.exists_cons_of_ne_nil hl
  obtain ⟨b, m, rfl⟩ := List.exists_cons_of_ne_nil hm
  have hleft : ∀ x ∈ a :: l, x = b := eq_head_of_shuffle_eq h
  have hright : ∀ x ∈ b :: m, x = a := eq_head_of_shuffle_eq fun k hk => h k hk.swap
  have hab : a = b := hleft a (by simp)
  have hall : ∀ x ∈ (a :: l) ++ (b :: m), x = b := by
    intro x hx
    rcases List.mem_append.mp hx with hx | hx
    · exact hleft x hx
    · rw [hright x hx, hab]
  intro x hx y hy
  rw [hall x hx, hall y hy]

end FauxmoLinux
