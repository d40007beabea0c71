import Mathlib.Tactic

/-!
A heap of blocks. A block that is freed is not handed out again, so that a pointer to it is told
from every pointer to a later block.

* `Heap.load`, `Heap.alloc`, `Heap.free`: reading a block, making one, and giving one back;
* `Heap.Owns`: the pointers of a list are distinct and their blocks are there; `Owns.alloc`,
  `Owns.of_load`, `Owns.exists_free`: the rules to keep it;
* `Heap.freeAll`, `Owns.exists_freeAll`: who owns a list of blocks can give all of them back.
-/

namespace FauxmoLinux

/-- The blocks that were ever made, `none` for one that was given back. -/
structure Heap (κ : Type) where
  blocks : List (Option κ)
  deriving DecidableEq, Repr

namespace Heap

variable {κ : Type} {h h' : Heap κ} {b b' : ℕ} {ps : List ℕ}

def empty : Heap κ := ⟨[]⟩

/-- What a block holds. -/
def load (h : Heap κ) (b : ℕ) : Option κ := h.blocks[b]?.join

/-- A new block. -/
def alloc (h : Heap κ) (k : κ) : Heap κ × ℕ := (⟨h.blocks ++ [some k]⟩, h.blocks.length)

/-- A block is given back, which has to be there. -/
def free (h : Heap κ) (b : ℕ) : Option (Heap κ) :=
  if (h.load b).isSome then some ⟨h.blocks.set b none⟩ else none

/-- The number of blocks that are there. -/
def live (h : Heap κ) : ℕ := h.blocks.countP Option.isSome

lemma lt_of_load (hb : (h.load b).isSome) : b < h.blocks.length := by
  by_contra hle
  rw [load, List.getElem?_eq_none (not_lt.mp hle)] at hb
  cases hb

/-! ### One block -/

@[simp] lemma load_alloc_self (h : Heap κ) (k : κ) :
    (h.alloc k).1.load (h.alloc k).2 = some k := by
  simp [alloc, load]

/-- A new block leaves the others alone. -/
lemma load_alloc (hb : (h.load b).isSome) (k : κ) : (h.alloc k).1.load b = h.load b := by
  rw [load, alloc, List.getElem?_append_left (lt_of_load hb), load]

/-- A new block is none of the others. -/
lemma ne_alloc (hb : (h.load b).isSome) (k : κ) : b ≠ (h.alloc k).2 := (lt_of_load hb).ne

@[simp] lemma live_alloc (h : Heap κ) (k : κ) : (h.alloc k).1.live = h.live + 1 := by
  simp [alloc, live, List.countP_append]

/-- A block that is there can be given back, and only it is gone. -/
lemma exists_free (hb : (h.load b).isSome) :
    ∃ h', h.free b = some h' ∧ h'.load b = none ∧ (∀ b' ≠ b, h'.load b' = h.load b') ∧
      h'.live + 1 = h.live := by
  have hlt := lt_of_load hb
  refine ⟨_, if_pos hb, ?_, fun b' hne => ?_, ?_⟩
  · simp [load, hlt]
  · simp [load, List.getElem?_set_ne (Ne.symm hne)]
  · obtain ⟨k, hk⟩ := Option.isSome_iff_exists.mp hb
    obtain ⟨pre, post, hsplit, hlen⟩ : ∃ pre post, h.blocks = pre ++ some k :: post ∧
        pre.length = b := by
      refine ⟨h.blocks.take b, h.blocks.drop (b + 1), ?_, by simp [hlt.le]⟩
      have hget : h.blocks[b] = some k := by
        rw [load, List.getElem?_eq_getElem hlt] at hk
        exact hk
      rw [← hget, ← List.drop_eq_getElem_cons hlt, List.take_append_drop]
    rw [live, live, hsplit, ← hlen]
    simp [List.countP_append, Nat.add_assoc]

/-! ### Ownership -/

/-- The pointers are distinct, and their blocks are there. -/
structure Owns (h : Heap κ) (ps : List ℕ) : Prop where
  nodup : ps.Nodup
  isSome : ∀ p ∈ ps, (h.load p).isSome

lemma owns_nil (h : Heap κ) : h.Owns [] := ⟨List.nodup_nil, by simp⟩

/-- Ownership looks at the blocks that are owned only. -/
lemma Owns.of_load (ho : h.Owns ps) (hload : ∀ p ∈ ps, h'.load p = h.load p) : h'.Owns ps :=
  ⟨ho.nodup, fun p hp => by rw [hload p hp]; exact ho.isSome p hp⟩

/-- The order of the pointers does not matter. -/
lemma Owns.perm {qs : List ℕ} (ho : h.Owns ps) (hp : ps.Perm qs) : h.Owns qs :=
  ⟨hp.nodup_iff.mp ho.nodup, fun q hq => ho.isSome q (hp.mem_iff.mpr hq)⟩

/-- A new block that nobody asks for. -/
lemma Owns.alloc (ho : h.Owns ps) (k : κ) : (h.alloc k).1.Owns ps :=
  ho.of_load fun p hp => load_alloc (ho.isSome p hp) k

/-- A new block is owned together with the others. -/
lemma Owns.alloc_append (ho : h.Owns ps) (k : κ) :
    (h.alloc k).1.Owns (ps ++ [(h.alloc k).2]) := by
  refine ⟨List.nodup_append.mpr ⟨ho.nodup, List.nodup_singleton _, fun p hp q hq => ?_⟩,
    fun p hp => ?_⟩
  · rw [List.mem_singleton.mp hq]
    exact ne_alloc (ho.isSome p hp) k
  · rcases List.mem_append.mp hp with hp | hp
    · exact (ho.alloc k).isSome p hp
    · rw [List.mem_singleton.mp hp, load_alloc_self]
      rfl

/-- An owned block can be given back, and the others are owned further. -/
lemma Owns.exists_free {pre post : List ℕ} (ho : h.Owns (pre ++ b :: post)) :
    ∃ h', h.free b = some h' ∧ h'.load b = none ∧ (∀ b' ≠ b, h'.load b' = h.load b') ∧
      h'.live + 1 = h.live ∧ h'.Owns (pre ++ post) := by
  obtain ⟨h', hfree, hgone, hload, hlive⟩ := Heap.exists_free (ho.isSome b (by simp))
  have hnot : b ∉ pre ++ post := (List.nodup_middle.mp ho.nodup).notMem
  have hsub : (pre ++ post).Sublist (pre ++ b :: post) := by simp
  refine ⟨h', hfree, hgone, hload, hlive, ho.nodup.sublist hsub, fun p hp => ?_⟩
  rw [hload p fun hpb => hnot (hpb ▸ hp)]
  exact ho.isSome p (hsub.subset hp)

/-- All blocks of a list are given back, one after another. -/
def freeAll : Heap κ → List ℕ → Option (Heap κ)
  | h, [] => some h
  | h, p :: ps => do
      let h ← h.free p
      freeAll h ps

/-- **Giving everything back**: who owns a list of blocks can free all of them. -/
theorem Owns.exists_freeAll (ho : h.Owns ps) :
    ∃ h', h.freeAll ps = some h' ∧ h'.live + ps.length = h.live := by
  induction ps generalizing h with
  | nil => exact ⟨h, rfl, rfl⟩
  | cons p ps ih =>
      obtain ⟨h₁, hfree, -, -, hlive, ho₁⟩ := @Owns.exists_free _ h p [] ps ho
      obtain ⟨h₂, hall, hlive₂⟩ := ih ho₁
      refine ⟨h₂, ?_, ?_⟩
      · rw [freeAll, hfree]
        exact hall
      · rw [List.length_cons, ← hlive, ← hlive₂]
        omega

end Heap

end FauxmoLinux
