import Mathlib.Data.Finmap
import Mathlib.Data.List.Nodup

/-!
Lists of entries with keys, searched from the front.

* `find?_middle`: what a search finds when the entry with the key is in the middle;
* `Tabulates`: the entries have different keys, and the search for a key finds what a finite map has
  for it;
* `Tabulates.insert`, `Tabulates.erase`, `Tabulates.replace`: an entry that is put in, taken out or
  changed in the list is put in, taken out or changed in the map.
-/

namespace FauxmoLinux

variable {α κ ν : Type} [DecidableEq κ] {key : α → κ} {value : α → ν}

/-- An entry whose key no entry in front of it has is found by its key, the others as without it. -/
lemma find?_middle {pre : List α} {a : α} (h : key a ∉ pre.map key) (post : List α) (k : κ) :
    (pre ++ a :: post).find? (key · = k) =
      if key a = k then some a else (pre ++ post).find? (key · = k) := by
  rw [List.find?_append, List.find?_append, List.find?_cons]
  by_cases hk : key a = k
  · have hpre : pre.find? (key · = k) = none := by
      rw [List.find?_eq_none]
      intro e he hek
      exact h (List.mem_map.mpr ⟨e, he, (of_decide_eq_true hek).trans hk.symm⟩)
    rw [if_pos hk, hpre]
    simp [hk]
  · rw [if_neg hk]
    simp [hk]

/-- The list is a table of the map. -/
structure Tabulates (key : α → κ) (value : α → ν) (l : List α) (m : Finmap fun _ : κ => ν) :
    Prop where
  nodup : (l.map key).Nodup
  lookup : ∀ k, m.lookup k = (l.find? (key · = k)).map value

namespace Tabulates

variable {l pre post : List α} {a a' : α} {m : Finmap fun _ : κ => ν}

lemma nil : Tabulates key value [] ∅ := ⟨List.nodup_nil, fun _ => rfl⟩

/-- The keys are those of the entries. -/
lemma mem_iff (h : Tabulates key value l m) {k : κ} : k ∈ m ↔ k ∈ l.map key := by
  rw [← Finmap.lookup_isSome, h.lookup, Option.isSome_map, List.find?_isSome]
  simp

lemma card_keys (h : Tabulates key value l m) : m.keys.card = l.length := by
  have hkeys : m.keys = (l.map key).toFinset := by
    ext k
    rw [Finmap.mem_keys, h.mem_iff, List.mem_toFinset]
  rw [hkeys, List.toFinset_card_of_nodup h.nodup, List.length_map]

/-- The entry with a key. -/
lemma exists_middle (h : Tabulates key value l m) {k : κ} (hk : k ∈ m) :
    ∃ pre a post, l = pre ++ a :: post ∧ key a = k := by
  obtain ⟨a, ha, hak⟩ := List.mem_map.mp (h.mem_iff.mp hk)
  obtain ⟨pre, post, rfl⟩ := List.append_of_mem ha
  exact ⟨pre, a, post, rfl, hak⟩

/-- No other entry has the key of one in the middle. -/
lemma notMem_middle (h : Tabulates key value (pre ++ a :: post) m) :
    key a ∉ pre.map key ∧ key a ∉ post.map key ∧ ((pre ++ post).map key).Nodup := by
  have hnodup := h.nodup
  rw [List.map_append, List.map_cons, List.nodup_middle, List.nodup_cons, List.mem_append,
    not_or, ← List.map_append] at hnodup
  exact ⟨hnodup.1.1, hnodup.1.2, hnodup.2⟩

lemma lookup_middle (h : Tabulates key value (pre ++ a :: post) m) :
    m.lookup (key a) = some (value a) := by
  rw [h.lookup, find?_middle h.notMem_middle.1, if_pos rfl]
  rfl

/-- **An entry that is put in.** -/
theorem insert (h : Tabulates key value (pre ++ post) m) (hnew : key a ∉ m) :
    Tabulates key value (pre ++ a :: post) (m.insert (key a) (value a)) := by
  rw [h.mem_iff, List.map_append, List.mem_append, not_or] at hnew
  refine ⟨?_, fun k => ?_⟩
  · rw [List.map_append, List.map_cons, List.nodup_middle, List.nodup_cons, List.mem_append,
      not_or, ← List.map_append]
    exact ⟨hnew, h.nodup⟩
  · rw [find?_middle hnew.1]
    by_cases hk : key a = k
    · subst hk
      rw [Finmap.lookup_insert, if_pos rfl]
      rfl
    · rw [Finmap.lookup_insert_of_ne _ (Ne.symm hk), if_neg hk, h.lookup]

/-- **An entry that is taken out.** -/
theorem erase (h : Tabulates key value (pre ++ a :: post) m) :
    Tabulates key value (pre ++ post) (m.erase (key a)) := by
  obtain ⟨hpre, hpost, hnodup⟩ := h.notMem_middle
  refine ⟨hnodup, fun k => ?_⟩
  by_cases hk : key a = k
  · subst hk
    have hnone : (pre ++ post).find? (key · = key a) = none := by
      rw [List.find?_eq_none]
      intro e he hek
      have hmem : key a ∈ (pre ++ post).map key :=
        List.mem_map.mpr ⟨e, he, of_decide_eq_true hek⟩
      rw [List.map_append, List.mem_append] at hmem
      exact hmem.elim hpre hpost
    rw [Finmap.lookup_erase, hnone]
    rfl
  · rw [Finmap.lookup_erase_ne (Ne.symm hk), h.lookup, find?_middle hpre, if_neg hk]

/-- **An entry that is changed**, and keeps its key. -/
theorem replace (h : Tabulates key value (pre ++ a :: post) m) (hkey : key a' = key a) :
    Tabulates key value (pre ++ a' :: post) (m.insert (key a) (value a')) := by
  have hinsert := h.erase.insert (a := a') (hkey ▸ Finmap.notMem_erase_self)
  have hsame : (m.erase (key a)).insert (key a') (value a') = m.insert (key a) (value a') := by
    refine Finmap.ext_lookup fun k => ?_
    rw [hkey]
    by_cases hk : k = key a
    · rw [hk, Finmap.lookup_insert, Finmap.lookup_insert]
    · rw [Finmap.lookup_insert_of_ne _ hk, Finmap.lookup_insert_of_ne _ hk,
        Finmap.lookup_erase_ne hk]
  rwa [hsame] at hinsert

end Tabulates

end FauxmoLinux
