import Mathlib.Tactic

/-!
A table of descriptors, numbered as POSIX does it: what is opened takes the lowest number that is
free.

* `DescriptorTable`, `owner`, `lowestFree`: what each number stands for, and the next number;
* `insert`, `release`, `owner_insert`, `owner_release`: opening and closing change what one number
  stands for.
-/

namespace FauxmoLinux

/-- What each number stands for, `none` for one that is free. -/
structure DescriptorTable (κ : Type) where
  entries : List (Option κ)
  deriving DecidableEq, Repr

namespace DescriptorTable

variable {κ : Type}

/-- The first free entry of a list, its end when there is none. -/
def firstFree : List (Option κ) → ℕ
  | [] => 0
  | none :: _ => 0
  | some _ :: l => firstFree l + 1

/-- The list with its first free entry taken. -/
def fillFirst (k : κ) : List (Option κ) → List (Option κ)
  | [] => [some k]
  | none :: l => some k :: l
  | some x :: l => some x :: fillFirst k l

/-- What a number stands for. -/
def owner (t : DescriptorTable κ) (fd : ℕ) : Option κ := t.entries[fd]?.join

/-- The number the next descriptor gets. -/
def lowestFree (t : DescriptorTable κ) : ℕ := firstFree t.entries

/-- A descriptor is opened. -/
def insert (t : DescriptorTable κ) (k : κ) : DescriptorTable κ := ⟨fillFirst k t.entries⟩

/-- A number is closed. One that is free stays free. -/
def release (t : DescriptorTable κ) (fd : ℕ) : DescriptorTable κ := ⟨t.entries.set fd none⟩

lemma join_getElem?_firstFree (l : List (Option κ)) : l[firstFree l]?.join = none := by
  induction l with
  | nil => rfl
  | cons x l ih =>
      cases x with
      | none => rfl
      | some x => simpa [firstFree] using ih

lemma join_getElem?_fillFirst (k : κ) (l : List (Option κ)) (fd : ℕ) :
    (fillFirst k l)[fd]?.join = if fd = firstFree l then some k else l[fd]?.join := by
  induction l generalizing fd with
  | nil => cases fd <;> simp [fillFirst, firstFree]
  | cons x l ih =>
      cases x with
      | none => cases fd <;> simp [fillFirst, firstFree]
      | some x =>
          cases fd with
          | zero => simp [fillFirst, firstFree]
          | succ fd => simpa [fillFirst, firstFree] using ih fd

/-- The next number is free. -/
@[simp] lemma owner_lowestFree (t : DescriptorTable κ) : t.owner t.lowestFree = none :=
  join_getElem?_firstFree t.entries

/-- Opening changes what the next number stands for, and no other. -/
lemma owner_insert (t : DescriptorTable κ) (k : κ) (fd : ℕ) :
    (t.insert k).owner fd = if fd = t.lowestFree then some k else t.owner fd :=
  join_getElem?_fillFirst k t.entries fd

/-- Closing frees one number, and no other. -/
lemma owner_release (t : DescriptorTable κ) (fd fd' : ℕ) :
    (t.release fd).owner fd' = if fd' = fd then none else t.owner fd' := by
  rw [owner, release, List.getElem?_set]
  by_cases h : fd = fd'
  · subst h
    by_cases hlt : fd < t.entries.length <;> simp [hlt]
  · rw [if_neg h, if_neg (Ne.symm h), owner]

end DescriptorTable

end FauxmoLinux
