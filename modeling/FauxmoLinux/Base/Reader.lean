import Mathlib.Algebra.Order.BigOperators.Group.List
import Mathlib.Tactic.Common

/-!
Reading a stream, one item after the other.

* `readMany`, `readAll`: a reader of one item, applied up to the end of the stream;
* `readAll_flatMap`: items that are written one behind the other are read back, when each of them
  is, whatever follows on the stream;
* `readWord`: the reader of the words of a code, given as a table; `PrefixFree`: tables of which no
  word begins like another; `readAll_words`: their words are read back.
-/

namespace FauxmoLinux

variable {α β : Type}

/-- The items up to the end of a stream, the first argument counting those that are still
allowed. -/
def readMany (read : List β → Option (α × List β)) : ℕ → List β → Option (List α)
  | _, [] => some []
  | 0, _ :: _ => none
  | n + 1, b :: s => do
      let (a, rest) ← read (b :: s)
      let as ← readMany read n rest
      return a :: as

/-- The items of a stream. -/
def readAll (read : List β → Option (α × List β)) (s : List β) : Option (List α) :=
  readMany read s.length s

/-- Pieces that are not empty are no more than what they are joined to has elements. -/
lemma length_le_length_flatMap {l : List α} {f : α → List β} (h : ∀ a ∈ l, f a ≠ []) :
    l.length ≤ (l.flatMap f).length := by
  have hone : ∀ n ∈ l.map fun a => (f a).length, 1 ≤ n :=
    List.forall_mem_map.mpr fun a ha => List.length_pos_of_ne_nil (h a ha)
  have hle := List.length_le_sum_of_one_le _ hone
  rwa [List.length_map, ← List.length_flatMap] at hle

/-- **A stream is read back**, each item of it once and in order. -/
theorem readAll_flatMap {γ : Type} {read : List β → Option (α × List β)} {text : γ → List β}
    {item : γ → α} {es : List γ} (hne : ∀ e ∈ es, text e ≠ [])
    (hread : ∀ e ∈ es, ∀ rest, read (text e ++ rest) = some (item e, rest)) :
    readAll read (es.flatMap text) = some (es.map item) := by
  have hmany : ∀ n, es.length ≤ n → readMany read n (es.flatMap text) = some (es.map item) := by
    induction es with
    | nil => exact fun n _ => by rw [List.flatMap_nil, readMany, List.map_nil]
    | cons e es ih =>
        rw [List.forall_mem_cons] at hne hread
        intro n hn
        obtain ⟨n, rfl⟩ := Nat.exists_eq_succ_of_ne_zero (Nat.ne_zero_of_lt hn)
        obtain ⟨b, t, htext⟩ := List.exists_cons_of_ne_nil hne.1
        have hone := hread.1 (es.flatMap text)
        rw [htext, List.cons_append] at hone
        rw [List.flatMap_cons, htext, List.cons_append, readMany, hone]
        simp [ih hne.2 hread.2 n (Nat.le_of_succ_le_succ hn)]
  exact hmany _ (length_le_length_flatMap hne)

/-- A list is read element by element. -/
lemma mapM_eq_some {f : α → Option β} {l : List α} {bs : List β} (hlen : l.length = bs.length)
    (h : ∀ (i : ℕ) a b, l[i]? = some a → bs[i]? = some b → f a = some b) :
    l.mapM f = some bs := by
  induction l generalizing bs with
  | nil =>
      obtain rfl := List.length_eq_zero_iff.mp hlen.symm
      rfl
  | cons a l ih =>
      cases bs with
      | nil => cases hlen
      | cons b bs =>
          have hhead : f a = some b := h 0 a b rfl rfl
          have htail : l.mapM f = some bs := ih (Nat.succ.inj hlen) fun i => h (i + 1)
          rw [List.mapM_cons, hhead, htail]
          rfl

variable [DecidableEq β]

/-- A list is cut in front of the first `b`. -/
lemma takeWhile_ne_append {b : β} {s : List β} (h : b ∉ s) (t : List β) :
    (s ++ b :: t).takeWhile (· ≠ b) = s := by
  have hne : ∀ c ∈ s, decide (c ≠ b) = true := fun c hc => decide_eq_true fun hcb => h (hcb ▸ hc)
  rw [List.takeWhile_append_of_pos hne, List.takeWhile_cons_of_neg (by simp), List.append_nil]

lemma dropWhile_ne_append {b : β} {s : List β} (h : b ∉ s) (t : List β) :
    (s ++ b :: t).dropWhile (· ≠ b) = b :: t := by
  have hne : ∀ c ∈ s, decide (c ≠ b) = true := fun c hc => decide_eq_true fun hcb => h (hcb ▸ hc)
  rw [List.dropWhile_append_of_pos hne, List.dropWhile_cons_of_neg (by simp)]

/-! ### Codes -/

/-- The first word of the table that the stream begins with, and what is behind it. -/
def readWord (book : List (α × List β)) (s : List β) : Option (α × List β) :=
  (book.find? fun e => e.2 <+: s).map fun e => (e.1, s.drop e.2.length)

/-- No word is empty, and none begins like another. -/
structure PrefixFree (book : List (α × List β)) : Prop where
  ne_nil : ∀ e ∈ book, e.2 ≠ []
  apart : book.Pairwise fun e f => ¬ e.2 <+: f.2 ∧ ¬ f.2 <+: e.2

/-- A word is read back. -/
lemma readWord_append {book : List (α × List β)} (h : PrefixFree book) {e : α × List β}
    (he : e ∈ book) (rest : List β) : readWord book (e.2 ++ rest) = some (e.1, rest) := by
  obtain ⟨-, apart⟩ := h
  have hfind : book.find? (fun f => decide (f.2 <+: e.2 ++ rest)) = some e := by
    induction book with
    | nil => cases he
    | cons f book ih =>
        rw [List.pairwise_cons] at apart
        rcases List.mem_cons.mp he with rfl | he
        · exact List.find?_cons_of_pos (by simp)
        · have hf : ¬ f.2 <+: e.2 ++ rest := fun hf =>
            (List.prefix_or_prefix_of_prefix hf (List.prefix_append _ _)).elim
              (apart.1 e he).1 (apart.1 e he).2
          rw [List.find?_cons_of_neg (by simpa using hf), ih he apart.2]
  rw [readWord, hfind, Option.map_some, List.drop_left]

end FauxmoLinux
