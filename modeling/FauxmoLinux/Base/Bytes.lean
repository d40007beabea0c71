import Mathlib.Data.List.TakeWhile
import FauxmoLinux.Base.Run

/-!
Byte strings and the part of `std::string` and of the C string functions the program uses.

A `std::string` is a list of bytes. On the 32-bit target a string is shorter than `2^31` bytes,
so a position is both a `size_t` and an `int` without loss; `npos` is `none`, and becomes `-1`
when it is stored in an `int` (`toInt`).

* `find`, `findFrom`: the first occurrence of a word, at all or from a position on;
  `find_eq_some_iff` says which index it is and `find_eq_none_iff` when there is none, and
  `find_append_cons` that a text can be searched part by part;
* `seek`: the text from the first occurrence on, for searches without positions;
* `substr`: the part from a position on, the exception `std::out_of_range` when the position
  lies behind the end;
* `cstr`, `CString`: the C string at the front of a buffer, and the NUL-free strings.
-/

namespace FauxmoLinux

/-- The contents of a `std::string` or of a C buffer. -/
abbrev Bytes := List UInt8

/-- The bytes of an ASCII literal. -/
def bytes (s : String) : Bytes := s.toList.map fun c => c.toNat.toUInt8

/-- Properties of the bytes of a string are decided byte by byte, not over all `256` bytes. -/
instance (priority := 2000) decidableForallMemBytes (s : Bytes) (p : UInt8 → Prop)
    [DecidablePred p] : Decidable (∀ c ∈ s, p c) := List.decidableBAll p s

instance (priority := 2000) decidableForallMemOption (s : Option UInt8) (p : UInt8 → Prop)
    [DecidablePred p] : Decidable (∀ c ∈ s, p c) := Option.decidableForallMem s

/-- The bytes of a literal, one for each of its characters. -/
lemma bytes_ofList (l : List Char) : bytes (String.ofList l) = l.map fun c => c.toNat.toUInt8 := by
  rw [bytes, String.toList_ofList]

lemma length_bytes (l : List Char) : (bytes (String.ofList l)).length = l.length := by
  rw [bytes_ofList, List.length_map]

lemma notMem_bytes {b : UInt8} {l : List Char} (h : (l.all fun c => c.toNat.toUInt8 != b) = true) :
    b ∉ bytes (String.ofList l) := by
  rw [bytes_ofList]
  intro hmem
  obtain ⟨c, hc, hb⟩ := List.mem_map.mp hmem
  have hne := List.all_eq_true.mp h c hc
  simp [hb] at hne

/-- A literal cut at one of its characters. -/
lemma bytes_cut (c : Char) {l l₁ l₂ : List Char} (h : l = l₁ ++ c :: l₂) :
    bytes (String.ofList l) =
      bytes (String.ofList l₁) ++ c.toNat.toUInt8 :: bytes (String.ofList l₂) := by
  rw [h, bytes_ofList, bytes_ofList, bytes_ofList, List.map_append, List.map_cons]

lemma bytes_append (s t : String) : bytes (s ++ t) = bytes s ++ bytes t := by simp [bytes]

/-! ### Joining -/

lemma mem_intercalate {c : UInt8} {sep : Bytes} {parts : List Bytes}
    (h : c ∈ sep.intercalate parts) : c ∈ sep ∨ ∃ s ∈ parts, c ∈ s := by
  induction parts with
  | nil => cases h
  | cons s parts ih =>
      by_cases hnil : parts = []
      · subst hnil
        rw [List.intercalate_singleton] at h
        exact .inr ⟨s, List.mem_cons_self, h⟩
      · rw [List.intercalate_cons_of_ne_nil hnil, List.mem_append, List.mem_append] at h
        rcases h with (h | h) | h
        · exact .inr ⟨s, List.mem_cons_self, h⟩
        · exact .inl h
        · exact (ih h).imp_right fun ⟨t, ht, hc⟩ => ⟨t, List.mem_cons_of_mem _ ht, hc⟩

/-- The parts of a text that is cut at a byte are free of it. -/
lemma notMem_of_mem_splitOn {c : UInt8} {s part : Bytes} (h : part ∈ s.splitOn c) : c ∉ part := by
  induction s generalizing part with
  | nil =>
      rw [List.splitOn_nil, List.mem_singleton] at h
      simp [h]
  | cons b s ih =>
      rw [List.splitOn_cons_eq_if_modifyHead] at h
      split at h
      · rcases List.mem_cons.mp h with rfl | h
        · exact List.not_mem_nil
        · exact ih h
      · rename_i hb
        cases hparts : s.splitOn c with
        | nil => exact absurd hparts (List.splitOn_ne_nil c s)
        | cons first parts =>
            rw [hparts, List.modifyHead_cons] at h
            rcases List.mem_cons.mp h with rfl | h
            · rw [List.mem_cons, not_or]
              exact ⟨fun hc => hb (by simp [hc]), ih (hparts ▸ List.mem_cons_self)⟩
            · exact ih (hparts ▸ List.mem_cons_of_mem _ h)

/-- A separator of one byte adds one to the length of each part. -/
lemma length_intercalate_le (c : UInt8) {parts : List Bytes} {n : ℕ}
    (h : ∀ s ∈ parts, s.length ≤ n) :
    ([c].intercalate parts).length ≤ parts.length * (n + 1) - 1 := by
  induction parts with
  | nil => simp
  | cons s parts ih =>
      have hs := h s List.mem_cons_self
      have hle := ih fun t ht => h t (List.mem_cons_of_mem _ ht)
      by_cases hnil : parts = []
      · subst hnil
        simpa using hs
      · have hpos : 1 ≤ parts.length * (n + 1) :=
          Nat.mul_pos (List.length_pos_iff.mpr hnil) (Nat.succ_pos n)
        rw [List.intercalate_cons_of_ne_nil hnil, List.length_append, List.length_append,
          List.length_singleton, List.length_cons (a := s), Nat.add_mul]
        omega

/-! ### Searching -/

/-- `s.find(w)`: the first index at which `w` occurs in `s`, `none` for `npos`. -/
def find (w : Bytes) : Bytes → Option ℕ
  | [] => if w = [] then some 0 else none
  | c :: s => if w <+: c :: s then some 0 else (find w s).map (· + 1)

/-- `s.find(w, pos)`: nothing is found from `npos` on or from behind the end. -/
def findFrom (w s : Bytes) : Option ℕ → Option ℕ
  | none => none
  | some pos => if pos ≤ s.length then (find w (s.drop pos)).map (pos + ·) else none

/-- A position stored in an `int`. -/
def toInt : Option ℕ → ℤ
  | none => -1
  | some pos => pos

@[simp] lemma toInt_some (pos : ℕ) : toInt (some pos) = pos := rfl

@[simp] lemma toInt_none : toInt none = -1 := rfl

/-- The word stands at the index found, and at no earlier one. -/
lemma find_eq_some_iff {w s : Bytes} {i : ℕ} :
    find w s = some i ↔ i ≤ s.length ∧ w <+: s.drop i ∧ ∀ j < i, ¬ w <+: s.drop j := by
  induction s generalizing i with
  | nil =>
      rw [find]
      by_cases hw : w = []
      · subst hw
        simp only [if_true, Option.some.injEq, List.length_nil, Nat.le_zero]
        constructor
        · rintro rfl
          simp
        · exact fun h => h.1.symm
      · simp only [if_neg hw, List.drop_nil, List.prefix_nil]
        simp [hw]
  | cons c s ih =>
      rw [find]
      by_cases hp : w <+: c :: s
      · rw [if_pos hp, Option.some.injEq]
        constructor
        · rintro rfl
          exact ⟨Nat.zero_le _, hp, fun j hj => absurd hj (Nat.not_lt_zero j)⟩
        · rintro ⟨-, -, h⟩
          by_contra hne
          exact h 0 (by omega) hp
      · rw [if_neg hp, Option.map_eq_some_iff]
        constructor
        · rintro ⟨k, hk, rfl⟩
          obtain ⟨hlen, hpre, hmin⟩ := ih.mp hk
          refine ⟨by simp [hlen], by simpa using hpre, fun j hj => ?_⟩
          cases j with
          | zero => exact hp
          | succ j => simpa using hmin j (by omega)
        · rintro ⟨hlen, hpre, hmin⟩
          cases i with
          | zero => exact absurd hpre hp
          | succ k =>
              refine ⟨k, ih.mpr ⟨by simpa using hlen, by simpa using hpre, fun j hj => ?_⟩, rfl⟩
              simpa using hmin (j + 1) (by omega)

/-- What is found lies inside the string. -/
lemma find_add_length_le {w s : Bytes} {i : ℕ} (h : find w s = some i) :
    i + w.length ≤ s.length := by
  obtain ⟨hlen, hpre, -⟩ := find_eq_some_iff.mp h
  have hle := hpre.length_le
  rw [List.length_drop] at hle
  omega

/-- Nothing is found exactly when the word occurs nowhere. -/
lemma find_eq_none_iff {w s : Bytes} : find w s = none ↔ ¬ w <:+: s := by
  induction s with
  | nil => rw [find]; by_cases hw : w = [] <;> simp [hw]
  | cons c s ih =>
      rw [find, List.infix_cons_iff]
      by_cases hp : w <+: c :: s
      · simp [hp]
      · simp [hp, ih]

/-- A word without the byte `c` that starts a text ends before the first `c` of it. -/
lemma prefix_append_cons_iff {w : Bytes} {c : UInt8} (hc : c ∉ w) (s t : Bytes) :
    w <+: s ++ c :: t ↔ w <+: s := by
  constructor
  · intro h
    induction s generalizing w with
    | nil =>
        cases w with
        | nil => exact List.nil_prefix
        | cons b w =>
            obtain ⟨rfl, -⟩ := List.cons_prefix_cons.mp h
            exact absurd List.mem_cons_self hc
    | cons b s ih =>
        cases w with
        | nil => exact List.nil_prefix
        | cons b' w =>
            obtain ⟨rfl, hw⟩ := List.cons_prefix_cons.mp h
            exact List.cons_prefix_cons.mpr
              ⟨rfl, ih (fun hmem => hc (List.mem_cons_of_mem _ hmem)) hw⟩
  · exact fun h => h.trans (List.prefix_append _ _)

/-- A word without the byte `c` is found on one side of a `c`. -/
lemma find_append_cons {w : Bytes} {c : UInt8} (hc : c ∉ w) (hw : w ≠ []) (s t : Bytes) :
    find w (s ++ c :: t) = (find w s).or ((find w t).map (· + (s.length + 1))) := by
  induction s with
  | nil =>
      have hno : ¬ w <+: c :: t := by
        rw [← List.nil_append (c :: t), prefix_append_cons_iff hc, List.prefix_nil]
        exact hw
      simp [find, hno, hw]
  | cons b s ih =>
      have hiff : w <+: b :: (s ++ c :: t) ↔ w <+: b :: s := by
        rw [← List.cons_append, prefix_append_cons_iff hc]
      rw [List.cons_append, find, find]
      by_cases hp : w <+: b :: s
      · rw [if_pos (hiff.mpr hp), if_pos hp]
        rfl
      · rw [if_neg (mt hiff.mp hp), if_neg hp, ih]
        cases find w s with
        | some i => rfl
        | none =>
            simp only [Option.none_or, Option.map_none, Option.map_map, List.length_cons]
            rfl

/-- A byte is found behind the text without it. -/
lemma find_singleton (c : UInt8) (s : Bytes) :
    find [c] s = if c ∈ s then some (s.takeWhile (· ≠ c)).length else none := by
  induction s with
  | nil => rfl
  | cons b s ih =>
      rw [find, ih]
      by_cases hb : c = b
      · subst hb
        simp
      · have hpre : ¬ [c] <+: b :: s := fun h => hb (List.cons_prefix_cons.mp h).1
        have hne : b ≠ c := Ne.symm hb
        by_cases hmem : c ∈ s <;> simp [hpre, hmem, hb, hne]

/-- A word without the byte `c` occurs on one side of a `c`. -/
lemma infix_append_cons_iff {w : Bytes} {c : UInt8} (hc : c ∉ w) (hw : w ≠ []) (s t : Bytes) :
    w <:+: s ++ c :: t ↔ w <:+: s ∨ w <:+: t := by
  rw [← not_iff_not, not_or, ← find_eq_none_iff, ← find_eq_none_iff, ← find_eq_none_iff,
    find_append_cons hc hw]
  simp

/-- A word does not occur in a text that shares no byte with it. -/
lemma not_infix_of_disjoint {w gap : Bytes} (hgap : ∀ c ∈ gap, c ∉ w) (hw : w ≠ []) :
    ¬ w <:+: gap := by
  intro h
  obtain ⟨b, w, rfl⟩ := List.exists_cons_of_ne_nil hw
  exact hgap b (h.subset List.mem_cons_self) List.mem_cons_self

/-- What shares no byte with a word may be added behind a text. -/
lemma infix_append_iff_of_disjoint {w gap : Bytes} (hgap : ∀ c ∈ gap, c ∉ w) (hw : w ≠ [])
    (s : Bytes) : w <:+: s ++ gap ↔ w <:+: s := by
  cases gap with
  | nil => rw [List.append_nil]
  | cons c gap =>
      rw [infix_append_cons_iff (hgap c List.mem_cons_self) hw]
      have hnot := not_infix_of_disjoint (fun d hd => hgap d (List.mem_cons_of_mem _ hd)) hw
      exact or_iff_left hnot

/-- The text from the first occurrence of a word on. -/
def seek (w s : Bytes) : Option Bytes := (find w s).map s.drop

lemma seek_eq_none_iff {w s : Bytes} : seek w s = none ↔ ¬ w <:+: s := by
  rw [seek, Option.map_eq_none_iff, find_eq_none_iff]

lemma seek_self (w : Bytes) : seek w w = some w := by
  have hfind : find w w = some 0 := find_eq_some_iff.mpr
    ⟨Nat.zero_le _, List.prefix_rfl, fun j hj => absurd hj (Nat.not_lt_zero j)⟩
  rw [seek, hfind]
  rfl

/-- What is found starts with the word, and is the end of the text. -/
lemma seek_eq_some {w s r : Bytes} (h : seek w s = some r) : w <+: r ∧ r <:+ s := by
  obtain ⟨pos, hpos, rfl⟩ := Option.map_eq_some_iff.mp h
  exact ⟨(find_eq_some_iff.mp hpos).2.1, List.drop_suffix pos s⟩

lemma seek_append_cons {w : Bytes} {c : UInt8} (hc : c ∉ w) (hw : w ≠ []) (s t : Bytes) :
    seek w (s ++ c :: t) = ((seek w s).map (· ++ c :: t)).or (seek w t) := by
  rw [seek, find_append_cons hc hw]
  cases hs : find w s with
  | some i =>
      have hlen : i ≤ s.length := (find_eq_some_iff.mp hs).1
      simp [seek, hs, List.drop_append_of_le_length hlen]
  | none =>
      have hdrop : ∀ i, (s ++ c :: t).drop (i + (s.length + 1)) = t.drop i := by
        intro i
        rw [List.drop_append, List.drop_eq_nil_of_le (by omega),
          show i + (s.length + 1) - s.length = i + 1 by omega]
        rfl
      simp only [seek, hs, Option.map_none, Option.none_or, Option.map_map]
      exact congrArg (fun f => (find w t).map f) (funext hdrop)

/-- Behind a byte that the word does not have. -/
lemma seek_cons {w : Bytes} {c : UInt8} (hc : c ∉ w) (hw : w ≠ []) (t : Bytes) :
    seek w (c :: t) = seek w t := by
  have hnil : seek w [] = none := seek_eq_none_iff.mpr (by simpa using hw)
  rw [← List.nil_append (c :: t), seek_append_cons hc hw, hnil]
  rfl

lemma seek_append_of_disjoint {w gap : Bytes} (hgap : ∀ c ∈ gap, c ∉ w) (hw : w ≠ [])
    (t : Bytes) : seek w (gap ++ t) = seek w t := by
  induction gap with
  | nil => rfl
  | cons c gap ih =>
      rw [List.cons_append, seek_cons (hgap c List.mem_cons_self) hw,
        ih fun d hd => hgap d (List.mem_cons_of_mem _ hd)]

/-! ### Parts of a string -/

/-- `s.substr(pos, count)`, `none` for the default count `npos`. A negative `int` converts to a
position above every size. -/
def substr (s : Bytes) (pos : ℤ) (count : Option ℕ) : Except Fault Bytes :=
  if 0 ≤ pos ∧ pos ≤ s.length then
    match count with
    | none => .ok (s.drop pos.toNat)
    | some n => .ok ((s.drop pos.toNat).take n)
  else .error .outOfRange

lemma substr_none {s : Bytes} {pos : ℕ} (h : pos ≤ s.length) :
    substr s pos none = .ok (s.drop pos) := by
  simp [substr, h]

lemma substr_eq_error_iff (s : Bytes) (pos : ℕ) (count : Option ℕ) :
    substr s pos count = .error .outOfRange ↔ s.length < pos := by
  by_cases h : pos ≤ s.length
  · have hn : ¬ s.length < pos := by omega
    cases count <;> simp [substr, h, hn]
  · have hn : s.length < pos := by omega
    simp [substr, h, hn]

/-- `substr` fails in no other way. -/
lemma substr_error {s : Bytes} {pos : ℤ} {count : Option ℕ} {e : Fault}
    (h : substr s pos count = .error e) : e = .outOfRange := by
  by_cases hp : 0 ≤ pos ∧ pos ≤ s.length
  · cases count <;> simp [substr, hp] at h
  · simpa [substr, hp, eq_comm] using h

/-! ### C strings -/

/-- The C string at the front of a buffer. -/
def cstr (s : Bytes) : Bytes := s.takeWhile (· ≠ 0)

/-- The strings a `const char*` can point to. -/
abbrev CString := {s : Bytes // (0 : UInt8) ∉ s}

lemma cstr_of_notMem {s : Bytes} (h : (0 : UInt8) ∉ s) : cstr s = s :=
  List.takeWhile_eq_self_iff.mpr fun c hc => by
    have hne : c ≠ 0 := fun h0 => h (h0 ▸ hc)
    simpa using hne

/-- What a buffer begins with, its C string begins with, up to a NUL. -/
lemma prefix_cstr {p s : Bytes} (hp : p <+: s) (h0 : (0 : UInt8) ∉ p) : p <+: cstr s := by
  obtain ⟨rest, rfl⟩ := hp
  rw [cstr, List.takeWhile_append_of_pos]
  · exact List.prefix_append _ _
  · intro c hc
    have hne : c ≠ 0 := fun hz => h0 (hz ▸ hc)
    simpa using hne

/-- What stands behind a terminator is not part of the string. -/
lemma cstr_append_zero (w rest : Bytes) : cstr (w ++ 0 :: rest) = cstr w := by
  induction w with
  | nil => simp [cstr]
  | cons b w ih =>
      by_cases hb : b = 0
      · simp [cstr, hb]
      · simpa [cstr, hb] using ih

end FauxmoLinux
