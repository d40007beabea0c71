import FauxmoLinux.Bridge.Request

/-!
The scanning loops of `_onTCPData` on the memory of the process.

The cursor `p` walks over an address space of which the message and its terminator are only the
front: what lies behind is arbitrary, and nothing stops a loop there.

* `ScanState.step`: one round of the loop the cursor is in, with the two terminators written;
* `ScansInside`: every cell a round touches is one of the message or its terminator, and the
  loops end;
* `scansInside_iff`: this is so exactly for messages that contain two spaces, since the first
  two loops look for a space alone and pass over the terminator;
* `splitRequest_ok_iff`: exactly then the message is split.
-/

namespace FauxmoLinux

/-- The loop the cursor is in: the one for the method, for the URL, for the double line feed, or
behind all three. -/
inductive ScanPhase where
  | method
  | url
  | blank
  | done
  deriving DecidableEq, Repr

/-- Memory from the first byte of the message on, the loop, the cursor and the line feeds. -/
structure ScanState where
  mem : ℕ → UInt8
  phase : ScanPhase
  p : ℕ
  c : UInt8

namespace ScanState

/-- One round of a loop. A round reads the cell `p`, and the one that ends the first or second
loop also writes to it. -/
def step (s : ScanState) : ScanState :=
  match s.phase with
  | .method =>
      if s.mem s.p ≠ 32 then { s with p := s.p + 1 }
      else { s with mem := Function.update s.mem s.p 0, phase := .url, p := s.p + 1 }
  | .url =>
      if s.mem s.p ≠ 32 then { s with p := s.p + 1 }
      else { s with mem := Function.update s.mem s.p 0, phase := .blank, p := s.p + 1 }
  | .blank =>
      if s.mem s.p ≠ 0 ∧ s.c < 2 then
        { s with p := s.p + 1, c := countLineFeed s.c (s.mem s.p) }
      else { s with phase := .done }
  | .done => s

end ScanState

/-- The memory with the message, its terminator, and anything behind. -/
def messageMemory (data : Bytes) (behind : ℕ → UInt8) (i : ℕ) : UInt8 :=
  (data ++ [0])[i]?.getD (behind i)

/-- The state in which the first loop starts. -/
def scanStart (data : Bytes) (behind : ℕ → UInt8) : ScanState :=
  { mem := messageMemory data behind, phase := .method, p := 0, c := 0 }

/-- All cells the loops touch are at `0..len`, and the loops end. -/
def ScansInside (data : Bytes) (behind : ℕ → UInt8) : Prop :=
  (∀ k, (ScanState.step^[k] (scanStart data behind)).phase ≠ .done →
      (ScanState.step^[k] (scanStart data behind)).p ≤ data.length) ∧
    ∃ k, (ScanState.step^[k] (scanStart data behind)).phase = .done

variable {data : Bytes} {behind : ℕ → UInt8}

lemma messageMemory_of_lt {i : ℕ} (h : i < data.length) :
    messageMemory data behind i = data[i] := by
  simp [messageMemory, List.getElem?_append_left h, List.getElem?_eq_getElem h]

lemma messageMemory_length : messageMemory data behind data.length = 0 := by
  simp [messageMemory]

/-- The spaces from a cell on are those behind it and the cell itself. -/
lemma count_drop (behind : ℕ → UInt8) {i : ℕ} (h : i < data.length) :
    (data.drop i).count 32 = (data.drop (i + 1)).count 32 +
      if messageMemory data behind i = 32 then 1 else 0 := by
  rw [List.drop_eq_getElem_cons h, List.count_cons, messageMemory_of_lt h]
  simp

/-! ### Two spaces suffice -/

/-- What keeps the cursor inside: each of the first two loops has its space ahead, and the third
one the terminator. Ahead of the cursor the memory is as it was. -/
structure ScanInv (data : Bytes) (behind : ℕ → UInt8) (s : ScanState) : Prop where
  ahead : ∀ i, s.p ≤ i → s.mem i = messageMemory data behind i
  inside : s.phase ≠ .done → s.p ≤ data.length
  method : s.phase = .method → 2 ≤ (data.drop s.p).count 32
  url : s.phase = .url → 1 ≤ (data.drop s.p).count 32

lemma lt_of_count_drop {i : ℕ} (h : 1 ≤ (data.drop i).count 32) : i < data.length := by
  by_contra hle
  rw [List.drop_eq_nil_of_le (not_lt.mp hle)] at h
  simp at h

lemma ScanInv.step {s : ScanState} (h : ScanInv data behind s) :
    ScanInv data behind s.step := by
  obtain ⟨mem, phase, p, c⟩ := s
  have hahead : ∀ i, p + 1 ≤ i → mem i = messageMemory data behind i :=
    fun i hi => h.ahead i (by simp only; omega)
  have hp : mem p = messageMemory data behind p := h.ahead p le_rfl
  have hupd : ∀ i, p + 1 ≤ i → Function.update mem p 0 i = messageMemory data behind i :=
    fun i hi => by rw [Function.update_of_ne (by omega), hahead i hi]
  cases phase with
  | method =>
      have h2 : 2 ≤ (data.drop p).count 32 := h.method rfl
      have hlt : p < data.length := lt_of_count_drop (by omega)
      have hcount := count_drop behind hlt
      by_cases hsp : mem p = 32
      · rw [← hp, if_pos hsp] at hcount
        simp only [ScanState.step, hsp, ne_eq, not_true, if_false]
        exact ⟨hupd, fun _ => hlt, by simp, fun _ => by simp only; omega⟩
      · rw [← hp, if_neg hsp] at hcount
        simp only [ScanState.step, hsp, ne_eq, not_false_iff, if_true]
        exact ⟨hahead, fun _ => hlt, fun _ => by simp only; omega, by simp⟩
  | url =>
      have h1 : 1 ≤ (data.drop p).count 32 := h.url rfl
      have hlt : p < data.length := lt_of_count_drop h1
      have hcount := count_drop behind hlt
      by_cases hsp : mem p = 32
      · simp only [ScanState.step, hsp, ne_eq, not_true, if_false]
        exact ⟨hupd, fun _ => hlt, by simp, by simp⟩
      · rw [← hp, if_neg hsp] at hcount
        simp only [ScanState.step, hsp, ne_eq, not_false_iff, if_true]
        exact ⟨hahead, fun _ => hlt, by simp, fun _ => by simp only; omega⟩
  | blank =>
      have hle : p ≤ data.length := h.inside (by simp)
      by_cases hgo : mem p ≠ 0 ∧ c < 2
      · have hne : p ≠ data.length := by
          rintro rfl
          exact hgo.1 (hp.trans messageMemory_length)
        simp only [ScanState.step, if_pos hgo]
        exact ⟨hahead, fun _ => by simp only; omega, by simp, by simp⟩
      · simp only [ScanState.step, if_neg hgo]
        exact ⟨h.ahead, by simp, by simp, by simp⟩
  | done => exact h

/-- A round moves the cursor on or ends the loops. -/
lemma ScanInv.measure_lt {s : ScanState} (h : ScanInv data behind s)
    (hd : ¬ s.phase = .done) :
    (data.length + 1 - s.step.p) + (if s.step.phase = .done then 0 else 1) <
      (data.length + 1 - s.p) + (if s.phase = .done then 0 else 1) := by
  have hle := h.inside hd
  obtain ⟨mem, phase, p, c⟩ := s
  simp only at hle hd
  cases phase with
  | method => by_cases hsp : mem p = 32 <;> simp [ScanState.step, hsp] <;> omega
  | url => by_cases hsp : mem p = 32 <;> simp [ScanState.step, hsp] <;> omega
  | blank =>
      by_cases hgo : mem p ≠ 0 ∧ c < 2
      · simp [ScanState.step, if_pos hgo]; omega
      · simp [ScanState.step, if_neg hgo]
  | done => exact absurd rfl hd

/-! ### Two spaces are needed -/

/-- What drives the cursor out of a message with fewer than two spaces: too few of them are
ahead. -/
structure ScanLost (data : Bytes) (behind : ℕ → UInt8) (k : ℕ) (s : ScanState) : Prop where
  p_eq : s.p = k
  ahead : ∀ i, s.p ≤ i → s.mem i = messageMemory data behind i
  lost : (s.phase = .method ∧ (data.drop k).count 32 ≤ 1) ∨
    (s.phase = .url ∧ (data.drop k).count 32 = 0)

lemma ScanLost.step {s : ScanState} {k : ℕ} (h : ScanLost data behind k s)
    (hk : k ≤ data.length) : ScanLost data behind (k + 1) s.step := by
  obtain ⟨mem, phase, p, c⟩ := s
  obtain rfl : p = k := h.p_eq
  have hahead : ∀ i, p + 1 ≤ i → mem i = messageMemory data behind i :=
    fun i hi => h.ahead i (by simp only; omega)
  have hp : mem p = messageMemory data behind p := h.ahead p le_rfl
  have hupd : ∀ i, p + 1 ≤ i → Function.update mem p 0 i = messageMemory data behind i :=
    fun i hi => by rw [Function.update_of_ne (by omega), hahead i hi]
  -- the spaces ahead of the next cell
  have hcount : (data.drop (p + 1)).count 32 + (if mem p = 32 then 1 else 0) =
      (data.drop p).count 32 := by
    by_cases hlt : p < data.length
    · rw [hp, count_drop behind hlt]
    · obtain rfl : p = data.length := by omega
      rw [hp, messageMemory_length, List.drop_eq_nil_of_le (Nat.le_succ _)]
      simp
  rcases h.lost with ⟨hm, hle⟩ | ⟨hu, h0⟩
  · simp only at hm
    subst hm
    by_cases hsp : mem p = 32
    · rw [if_pos hsp] at hcount
      simp only [ScanState.step, hsp, ne_eq, not_true, if_false]
      exact ⟨rfl, hupd, Or.inr ⟨rfl, by omega⟩⟩
    · rw [if_neg hsp] at hcount
      simp only [ScanState.step, hsp, ne_eq, not_false_iff, if_true]
      exact ⟨rfl, hahead, Or.inl ⟨rfl, by omega⟩⟩
  · simp only at hu
    subst hu
    have hsp : mem p ≠ 32 := by
      intro hsp
      rw [if_pos hsp] at hcount
      omega
    rw [if_neg hsp] at hcount
    simp only [ScanState.step, hsp, ne_eq, not_false_iff, if_true]
    exact ⟨rfl, hahead, Or.inr ⟨rfl, by omega⟩⟩

lemma ScanLost.phase_ne_done {s : ScanState} {k : ℕ} (h : ScanLost data behind k s) :
    s.phase ≠ .done := by
  rcases h.lost with ⟨hp, -⟩ | ⟨hp, -⟩ <;> (rw [hp]; decide)

/-- With fewer than two spaces the cursor leaves the message in the first or second loop. -/
lemma not_scansInside_of_count_lt (h : data.count 32 < 2) : ¬ ScansInside data behind := by
  rintro ⟨hin, -⟩
  have hlost : ∀ k ≤ data.length + 1,
      ScanLost data behind k (ScanState.step^[k] (scanStart data behind)) := by
    intro k
    induction k with
    | zero => exact fun _ => ⟨rfl, fun _ _ => rfl, Or.inl ⟨rfl, by rw [List.drop_zero]; omega⟩⟩
    | succ k ih =>
        intro hk
        rw [Function.iterate_succ_apply']
        exact (ih (by omega)).step (by omega)
  have hout := hlost (data.length + 1) le_rfl
  have hle := hin (data.length + 1) hout.phase_ne_done
  rw [hout.p_eq] at hle
  omega

/-- With two spaces it stays inside, and comes to an end. -/
lemma scansInside_of_two_le (h : 2 ≤ data.count 32) : ScansInside data behind := by
  have h0 : ScanInv data behind (scanStart data behind) :=
    ⟨fun _ _ => rfl, fun _ => Nat.zero_le _, fun _ => h, by simp [scanStart]⟩
  have hinv : ∀ k, ScanInv data behind (ScanState.step^[k] (scanStart data behind)) :=
    fun k => Function.Iterate.rec _ h0 (fun _ h => h.step) k
  exact ⟨fun k => (hinv k).inside, exists_iterate_of_measure
    (fun s => (data.length + 1 - s.p) + if s.phase = .done then 0 else 1)
    (fun _ h => h.step) (fun _ h hd => h.measure_lt hd) _ h0⟩

/-- **The scanning loops stay inside the message exactly when it contains two spaces**, whatever
lies behind it. -/
theorem scansInside_iff (data : Bytes) (behind : ℕ → UInt8) :
    ScansInside data behind ↔ 2 ≤ data.count 32 := by
  constructor
  · intro hin
    by_contra hlt
    exact not_scansInside_of_count_lt (not_le.mp hlt) hin
  · exact scansInside_of_two_le

/-- A request line cut behind its method. -/
theorem not_scansInside_get : ¬ ScansInside (bytes "GET /api") fun _ => 0 :=
  not_scansInside_of_count_lt (by decide)

/-! ### The splitter -/

lemma scanSpace_append {w : Bytes} (hw : (32 : UInt8) ∉ w) (rest : Bytes) (p : ℕ) :
    scanSpace (w ++ 32 :: rest) p = .ok (p + w.length) := by
  induction w generalizing p with
  | nil => simp [scanSpace]
  | cons b w ih =>
      have hb : b ≠ 32 := fun h => hw (by simp [h])
      rw [List.cons_append, scanSpace, if_pos hb, ih (fun h => hw (by simp [h])),
        List.length_cons, Nat.add_right_comm, Nat.add_assoc]

lemma scanSpace_error {w : Bytes} (hw : (32 : UInt8) ∉ w) (p : ℕ) :
    scanSpace w p = .error .overrun := by
  induction w generalizing p with
  | nil => rfl
  | cons b w ih =>
      have hb : b ≠ 32 := fun h => hw (by simp [h])
      rw [scanSpace, if_pos hb, ih fun h => hw (by simp [h])]

/-- The text behind the double line feed, or from the NUL on that stops the search for it. -/
def afterBlank : Bytes → UInt8 → Bytes
  | [], _ => []
  | b :: rest, c => if b ≠ 0 ∧ c < 2 then afterBlank rest (countLineFeed c b) else b :: rest

lemma afterBlank_suffix (t : Bytes) (c : UInt8) : afterBlank t c <:+ t := by
  induction t generalizing c with
  | nil => exact List.suffix_rfl
  | cons b t ih =>
      rw [afterBlank]
      split
      · exact (ih _).trans (List.suffix_cons b t)
      · exact List.suffix_rfl

lemma scanBlank_append_zero (t : Bytes) (p : ℕ) (c : UInt8) :
    scanBlank (t ++ [0]) p c = .ok (p + (t.length - (afterBlank t c).length)) := by
  induction t generalizing p c with
  | nil => simp [scanBlank, afterBlank]
  | cons b t ih =>
      rw [List.cons_append, scanBlank, afterBlank]
      split
      · have hle := (afterBlank_suffix t (countLineFeed c b)).length_le
        rw [ih, List.length_cons, Nat.succ_sub hle]
        congr 1
        omega
      · simp

lemma drop_append_cons (w : Bytes) (b : UInt8) (rest : Bytes) :
    (w ++ b :: rest).drop (w.length + 1) = rest := by
  simp [List.drop_append]

/-- **The splitter on a message with two spaces**: the method ends at the first, the URL at the
second, and the body begins behind the double line feed. -/
theorem splitRequest_append {m u : Bytes} (hm : (32 : UInt8) ∉ m) (hu : (32 : UInt8) ∉ u)
    (t : Bytes) :
    splitRequest (m ++ 32 :: (u ++ 32 :: t)) = .ok ⟨cstr m, cstr u, cstr (afterBlank t 0)⟩ := by
  have hmem : m ++ 32 :: (u ++ 32 :: t) ++ [0] = m ++ 32 :: (u ++ 32 :: (t ++ [0])) := by simp
  have hset₁ : (m ++ 32 :: (u ++ 32 :: (t ++ [0]))).set m.length 0 =
      m ++ 0 :: (u ++ 32 :: (t ++ [0])) := by
    simp
  have hdrop₁ : (m ++ 0 :: (u ++ 32 :: (t ++ [0]))).drop (m.length + 1) =
      u ++ 32 :: (t ++ [0]) :=
    drop_append_cons _ _ _
  have hset₂ : (m ++ 0 :: (u ++ 32 :: (t ++ [0]))).set (m.length + 1 + u.length) 0 =
      m ++ 0 :: (u ++ 0 :: (t ++ [0])) := by
    rw [List.set_append_right _ _ (by omega),
      show m.length + 1 + u.length - m.length = u.length + 1 by omega]
    simp
  have hdrop₂ : (m ++ 0 :: (u ++ 0 :: (t ++ [0]))).drop (m.length + 1) =
      u ++ 0 :: (t ++ [0]) :=
    drop_append_cons _ _ _
  have hdrop₃ : ∀ k, (m ++ 0 :: (u ++ 0 :: (t ++ [0]))).drop (m.length + 1 + u.length + 1 + k) =
      (t ++ [0]).drop k := fun k => by
    rw [show m.length + 1 + u.length + 1 + k = m.length + 1 + (u.length + 1) + k by omega,
      ← List.drop_drop, ← List.drop_drop, hdrop₂, drop_append_cons]
  have hrest : (t ++ [0]).drop (t.length - (afterBlank t 0).length) = afterBlank t 0 ++ [0] := by
    rw [List.drop_append_of_le_length (by omega),
      ← List.suffix_iff_eq_drop.mp (afterBlank_suffix t 0)]
  rw [splitRequest]
  simp only [hmem, scanSpace_append hm, ok_bind, Nat.zero_add, hset₁, hdrop₁,
    scanSpace_append hu, hset₂, hdrop₂]
  rw [← Nat.add_zero (m.length + 1 + u.length + 1), hdrop₃ 0, List.drop_zero,
    scanBlank_append_zero]
  simp only [ok_bind, Nat.add_zero, hdrop₃, hrest, cstr_append_zero]
  rfl

/-- A message with two spaces falls into its method, its URL and the rest. -/
lemma exists_split {data : Bytes} (h : 2 ≤ data.count 32) :
    ∃ m u t, data = m ++ 32 :: (u ++ 32 :: t) ∧ (32 : UInt8) ∉ m ∧ (32 : UInt8) ∉ u := by
  obtain ⟨m, rest, rfl, hm⟩ :=
    List.eq_append_cons_of_mem (List.count_pos_iff.mp (show 0 < data.count 32 by omega))
  rw [List.count_append, List.count_eq_zero_of_not_mem hm, List.count_cons_self] at h
  obtain ⟨u, t, rfl, hu⟩ :=
    List.eq_append_cons_of_mem (List.count_pos_iff.mp (show 0 < rest.count 32 by omega))
  exact ⟨m, u, t, rfl, hm, hu⟩

lemma splitRequest_error (h : data.count 32 < 2) : splitRequest data = .error .overrun := by
  have hmem : (data ++ [0]).count 32 < 2 := by simpa using h
  by_cases h0 : (32 : UInt8) ∈ data ++ [0]
  · obtain ⟨m, rest, hmr, hm⟩ := List.eq_append_cons_of_mem h0
    rw [hmr, List.count_append, List.count_cons_self] at hmem
    have hrest : (32 : UInt8) ∉ rest := fun hin => by
      have := List.count_pos_iff.mpr hin
      omega
    have hset : (m ++ 32 :: rest).set m.length 0 = m ++ 0 :: rest := by simp
    have hdrop : (m ++ 0 :: rest).drop (m.length + 1) = rest :=
      drop_append_cons _ _ _
    rw [splitRequest]
    simp only [hmr, scanSpace_append hm, ok_bind, Nat.zero_add, hset, hdrop,
      scanSpace_error hrest, error_bind]
  · rw [splitRequest]
    simp only [scanSpace_error h0, error_bind]

/-- **The splitter returns exactly when the loops on memory stay inside the message.** -/
theorem splitRequest_ok_iff (data : Bytes) (behind : ℕ → UInt8) :
    (∃ r, splitRequest data = .ok r) ↔ ScansInside data behind := by
  by_cases h : 2 ≤ data.count 32
  · obtain ⟨m, u, t, rfl, hm, hu⟩ := exists_split h
    exact iff_of_true ⟨_, splitRequest_append hm hu t⟩ (scansInside_of_two_le h)
  · refine iff_of_false ?_ (not_scansInside_of_count_lt (not_le.mp h))
    rintro ⟨r, hr⟩
    rw [splitRequest_error (not_le.mp h)] at hr
    cases hr

end FauxmoLinux
