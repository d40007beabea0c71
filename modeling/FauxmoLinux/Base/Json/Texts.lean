import FauxmoLinux.Base.Json.Decode

/-!
Texts of JSON values.

* `Reads`: texts that are read as a value wherever they stand; `reads_quoted`, `reads_number`
  and `reads_of_readValue` give them for strings, numerals and closed texts;
* `Member`, `objectText`, `reads_objectText`: objects written member by member;
* `Layout`, `Layout.decode_text`: whole texts of objects, with white space wherever it may stand;
* `readItems_core_comma`, `readItems_string`: reading member by member where the text is not
  known to be that of an object;
* `reads_toDec`: printed numbers.
-/

namespace FauxmoLinux.Json

/-! ### Texts of values -/

/-- The text is read as the value wherever it stands, a numeral where no more of it follows. -/
def Reads (s : Bytes) (v : Json) : Prop :=
  ∀ n ≥ s.length, ∀ rest, (∀ c ∈ rest.head?, isNumeral c = false) →
    readValue n (s ++ rest) = some (v, rest)

/-- A closed text that is read as a value other than a number is so wherever it stands. -/
lemma reads_of_readValue {s : Bytes} {v : Json} (h : readValue s.length s = some (v, []))
    (hv : ∀ m, v ≠ .number m) : Reads s v := by
  intro n hn rest _
  have happ := readValue_append h (fun ⟨m, hm⟩ => absurd hm (hv m)) rest
  exact readValue_mono hn happ

/-- White space is what the C functions take for it. -/
lemma isSpace_of_isWhite {c : UInt8} (h : isWhite c = true) : isSpace c = true := by
  simp only [isWhite, Bool.or_eq_true, beq_iff_eq] at h
  rcases h with ((rfl | rfl) | rfl) | rfl <;> rfl

/-- A text that is read as a value begins with neither white space nor nothing. -/
lemma Reads.head {s : Bytes} {v : Json} (h : Reads s v) :
    ∃ c t, s = c :: t ∧ isSpace c = false := by
  have hself := h s.length le_rfl [] (by simp)
  rw [List.append_nil] at hself
  cases s with
  | nil => cases hself
  | cons c t =>
      refine ⟨c, t, rfl, ?_⟩
      rcases readValue_succ_iff.mp hself with ⟨rfl, -⟩ | ⟨rfl, -⟩ | ⟨rfl, -⟩ | ⟨-, hword⟩
      · rfl
      · rfl
      · rfl
      · rcases readWord_cases hword with ⟨hs, -⟩ | ⟨hs, -⟩ | ⟨hs, -⟩ | ⟨n, hs, -, hn, -⟩
        · exact (List.cons.inj hs).1 ▸ rfl
        · exact (List.cons.inj hs).1 ▸ rfl
        · exact (List.cons.inj hs).1 ▸ rfl
        · obtain ⟨b, n', rfl, hb⟩ := isNumber_head hn
          obtain rfl : c = b := (List.cons.inj hs).1
          rcases hb with rfl | hb
          · rfl
          · exact (isSpace_of_isDigit hb).1

lemma Reads.head_white {s : Bytes} {v : Json} (h : Reads s v) :
    ∃ c t, s = c :: t ∧ isWhite c = false := by
  obtain ⟨c, t, hs, hc⟩ := h.head
  refine ⟨c, t, hs, ?_⟩
  by_contra hw
  rw [Bool.not_eq_false] at hw
  rw [isSpace_of_isWhite hw] at hc
  cases hc

/-- A value that is neither a string nor made of others. -/
def isScalar : Json → Bool
  | .null => true
  | .bool _ => true
  | .number _ => true
  | .string _ => false
  | .array _ => false
  | .object _ => false

lemma readWord_of_isScalar {n : ℕ} {s rest : Bytes} {v : Json}
    (h : readValue n s = some (v, rest)) (hv : v.isScalar = true) :
    readWord s = some (v, rest) := by
  cases n with
  | zero => cases h
  | succ n =>
  cases s with
  | nil => cases h
  | cons c s =>
      rcases readValue_succ_iff.mp h with ⟨-, _, -, rfl⟩ | ⟨-, _, -, rfl⟩ | ⟨-, _, -, rfl⟩ |
        ⟨-, hword⟩
      · cases hv
      · cases hv
      · cases hv
      · exact hword

/-- The text of a scalar is a word or a numeral. -/
lemma Reads.scalar {s : Bytes} {v : Json} (h : Reads s v) (hv : v.isScalar = true) :
    s = bytes "true" ∨ s = bytes "false" ∨ s = bytes "null" ∨ ∀ c ∈ s, isNumeral c = true := by
  have hself := h s.length le_rfl [] (by simp)
  rw [List.append_nil] at hself
  rcases readWord_cases (readWord_of_isScalar hself hv) with
    ⟨hs, -⟩ | ⟨hs, -⟩ | ⟨hs, -⟩ | ⟨n, hs, -, -, hn, -⟩
  · exact Or.inl (by rw [hs, List.append_nil])
  · exact Or.inr (Or.inl (by rw [hs, List.append_nil]))
  · exact Or.inr (Or.inr (Or.inl (by rw [hs, List.append_nil])))
  · rw [List.append_nil] at hs
    exact Or.inr (Or.inr (Or.inr (hs ▸ hn)))

/-- A text in quotes. -/
def quoted (s : Bytes) : Bytes := 34 :: (s ++ [34])

lemma reads_quoted {s : Bytes} (h : Plain s) : Reads (quoted s) (.string s) := by
  intro n hn rest _
  obtain ⟨n, rfl⟩ : ∃ n', n = n' + 1 := ⟨n - 1, by simp [quoted] at hn; omega⟩
  have hs := readString_plain h rest
  rw [quoted, List.cons_append, List.append_assoc]
  exact readValue_succ_iff.mpr (Or.inl ⟨rfl, s, hs, rfl⟩)

lemma reads_number {s : Bytes} (h : isNumber s = true) (hs : ∀ c ∈ s, isNumeral c = true) :
    Reads s (.number s) := by
  intro n hn rest hrest
  obtain ⟨c, t, rfl, hc⟩ := isNumber_head h
  obtain ⟨n, rfl⟩ : ∃ n', n = n' + 1 := ⟨n - 1, by simp at hn; omega⟩
  have hne : ∀ b, isNumeral b = false → c ≠ b := by
    rintro b hb rfl
    rw [hs c List.mem_cons_self] at hb
    cases hb
  have hword := readWord_number h hs hrest
  rw [List.cons_append] at hword ⊢
  exact readValue_succ_iff.mpr
    (Or.inr (Or.inr (Or.inr ⟨⟨hne 34 rfl, hne 123 rfl, hne 91 rfl⟩, hword⟩)))

/-- A member of an object as it is written: its name, as it stands between the quotes and as what
that stands for, the text of its value and the value, and the white space around them. -/
structure Member where
  before : Bytes
  raw : Bytes
  colon : Bytes
  gap : Bytes
  text : Bytes
  after : Bytes
  key : Bytes
  value : Json
  content : Content raw key
  white : ∀ c ∈ before ++ (colon ++ (gap ++ after)), isWhite c = true
  reads : Reads text value

lemma white_nil : ∀ c ∈ ([] : Bytes), isWhite c = true := List.forall_mem_nil _

/-- A member with a plain name and no white space but that behind the colon. -/
def Member.compact (key gap text : Bytes) (value : Json) (plain : Plain key)
    (white : ∀ c ∈ gap, isWhite c = true) (reads : Reads text value) : Member :=
  ⟨[], key, [], gap, text, [], key, value, plain.content, by simpa using white, reads⟩

namespace Member

/-- The text of a member, from the quote on. -/
def core (m : Member) : Bytes :=
  quoted m.raw ++ (m.colon ++ 58 :: (m.gap ++ (m.text ++ m.after)))

/-- The text of a member. -/
def all (m : Member) : Bytes := m.before ++ m.core

lemma white_before (m : Member) : ∀ c ∈ m.before, isWhite c = true :=
  fun c hc => m.white c (by simp [hc])

lemma white_colon (m : Member) : ∀ c ∈ m.colon, isWhite c = true :=
  fun c hc => m.white c (by simp [hc])

lemma white_gap (m : Member) : ∀ c ∈ m.gap, isWhite c = true :=
  fun c hc => m.white c (by simp [hc])

lemma white_after (m : Member) : ∀ c ∈ m.after, isWhite c = true :=
  fun c hc => m.white c (by simp [hc])

@[simp] lemma all_compact {key gap text : Bytes} {value : Json} {plain : Plain key}
    {white : ∀ c ∈ gap, isWhite c = true} {reads : Reads text value} :
    (compact key gap text value plain white reads).all =
      quoted key ++ 58 :: (gap ++ text) := by
  simp [compact, all, core]

end Member

/-- Members with commas between them. -/
def membersText (ms : List Member) : Bytes := [44].intercalate (ms.map Member.all)

/-- The text of an object. -/
def objectText (ms : List Member) : Bytes := 123 :: (membersText ms ++ [125])

/-- Its value. -/
def objectValue (ms : List Member) : Json := .object (ms.map fun m => (m.key, m.value))

@[simp] lemma membersText_nil : membersText [] = [] := rfl

@[simp] lemma membersText_singleton (m : Member) : membersText [m] = m.all := by
  simp [membersText]

lemma membersText_cons (m : Member) {ms : List Member} (h : ms ≠ []) :
    membersText (m :: ms) = m.all ++ 44 :: membersText ms := by
  obtain ⟨m', ms, rfl⟩ := List.exists_cons_of_ne_nil h
  simp [membersText, List.intercalate_cons_cons]

lemma membersText_append {ms ms' : List Member} (h : ms ≠ []) (h' : ms' ≠ []) :
    membersText (ms ++ ms') = membersText ms ++ 44 :: membersText ms' := by
  induction ms with
  | nil => exact absurd rfl h
  | cons m ms ih =>
      rw [List.cons_append, membersText_cons m (by simp [h'])]
      by_cases hms : ms = []
      · rw [hms, List.nil_append, membersText_singleton]
      · rw [ih hms, membersText_cons m hms, List.append_assoc, List.cons_append]

/-- Members begin as the first of them does. -/
lemma membersText_head (m : Member) (ms : List Member) :
    ∃ t, membersText (m :: ms) = m.all ++ t := by
  by_cases hms : ms = []
  · exact ⟨[], by rw [hms, membersText_singleton, List.append_nil]⟩
  · exact ⟨_, membersText_cons m hms⟩

lemma skip_cons {c : UInt8} (h : isWhite c = false) (s : Bytes) : skip (c :: s) = c :: s :=
  List.dropWhile_cons_of_neg (by simp [h])

lemma skip_white {gap : Bytes} (h : ∀ c ∈ gap, isWhite c = true) (s : Bytes) :
    skip (gap ++ s) = skip s := List.dropWhile_append_of_pos h

lemma skip_quoted (s t : Bytes) : skip (quoted s ++ t) = quoted s ++ t := skip_cons rfl _

lemma skip_core (m : Member) (s : Bytes) : skip (m.core ++ s) = m.core ++ s := skip_cons rfl _

lemma skip_all (m : Member) (s : Bytes) : skip (m.all ++ s) = m.core ++ s := by
  rw [Member.all, List.append_assoc, skip_white m.white_before, skip_core]

lemma readMember_core (m : Member) {n : ℕ} (hn : m.text.length ≤ n) {c : UInt8} {rest : Bytes}
    (hc : isNumeral c = false) : readMember (readValue n) (m.core ++ c :: rest) =
      some ((m.key, m.value), m.after ++ c :: rest) := by
  obtain ⟨b, t, htext, hb⟩ := m.reads.head_white
  have hcore : m.core ++ c :: rest = 34 :: (m.raw ++ 34 :: (m.colon ++ 58 :: (m.gap ++
      (m.text ++ (m.after ++ c :: rest))))) := by
    simp [Member.core, quoted]
  have hcolon : ∀ s, expect 58 (skip (m.colon ++ 58 :: s)) = some s := by
    intro s
    rw [skip_white m.white_colon, skip_cons rfl, expect_cons]
  have hskip : ∀ s, skip (m.gap ++ (m.text ++ s)) = m.text ++ s := by
    intro s
    rw [skip_white m.white_gap, htext, List.cons_append, skip_cons hb]
  -- no numeral goes on behind the value
  have hrest : ∀ d ∈ (m.after ++ c :: rest).head?, isNumeral d = false := by
    intro d hd
    cases hafter : m.after with
    | nil =>
        rw [hafter] at hd
        obtain rfl : c = d := by simpa using hd
        exact hc
    | cons e after =>
        have hwhite := m.white_after e (hafter ▸ List.mem_cons_self)
        rw [hafter] at hd
        obtain rfl : e = d := by simpa using hd
        simp only [isWhite, Bool.or_eq_true, beq_iff_eq] at hwhite
        rcases hwhite with ((rfl | rfl) | rfl) | rfl <;> rfl
  have hraw : readString (m.raw ++ 34 :: (m.colon ++ 58 :: (m.gap ++ (m.text ++
      (m.after ++ c :: rest))))) = some (m.key, m.colon ++ 58 :: (m.gap ++ (m.text ++
        (m.after ++ c :: rest)))) := readString_eq_some_iff.mpr ⟨m.raw, rfl, m.content⟩
  rw [hcore]
  simp only [readMember, expect_cons, hraw, hcolon, hskip, m.reads n hn _ hrest,
    Option.bind_eq_bind, Option.bind_some]

/-- Where a member starts there is no empty object. -/
lemma readGroup_all {α : Type} (item : Bytes → Option (α × Bytes)) (rounds : ℕ) (m : Member)
    (s : Bytes) : readGroup item 125 rounds (m.all ++ s) =
      readItems item 125 rounds (m.core ++ s) := by
  have hcons : m.core ++ s = 34 :: (m.raw ++ [34] ++ (m.colon ++ 58 :: (m.gap ++ (m.text ++
      m.after))) ++ s) := rfl
  rw [readGroup, skip_all, hcons]
  exact if_neg (by decide)

/-- A member behind which a comma stands. -/
lemma readItems_core_comma (m : Member) {n : ℕ} (hn : m.text.length ≤ n) (rounds : ℕ)
    (s : Bytes) : readItems (readMember (readValue n)) 125 (rounds + 1) (m.core ++ 44 :: s) =
      (readItems (readMember (readValue n)) 125 rounds (skip s)).map fun r =>
        ((m.key, m.value) :: r.1, r.2) := by
  have hskip : skip (m.after ++ 44 :: s) = 44 :: s := by
    rw [skip_white m.white_after, skip_cons rfl]
  rw [readItems, readMember_core m hn (by decide)]
  simp only [Option.bind_eq_bind, Option.bind_some, hskip]
  cases readItems (readMember (readValue n)) 125 rounds (skip s) <;> rfl

/-- The last member. -/
lemma readItems_core_close (m : Member) {n : ℕ} (hn : m.text.length ≤ n) (rounds : ℕ)
    (s : Bytes) : readItems (readMember (readValue n)) 125 (rounds + 1) (m.core ++ 125 :: s) =
      some ([(m.key, m.value)], s) := by
  have hskip : skip (m.after ++ 125 :: s) = 125 :: s := by
    rw [skip_white m.white_after, skip_cons rfl]
  rw [readItems, readMember_core m hn (by decide)]
  simp only [Option.bind_eq_bind, Option.bind_some, hskip, if_true]

lemma readItems_members {ms : List Member} (hms : ms ≠ []) {n rounds : ℕ}
    (hn : ∀ m ∈ ms, m.text.length ≤ n) (hr : ms.length ≤ rounds) (rest : Bytes) :
    readItems (readMember (readValue n)) 125 rounds (skip (membersText ms ++ 125 :: rest)) =
      some (ms.map fun m => (m.key, m.value), rest) := by
  induction ms generalizing rounds with
  | nil => exact absurd rfl hms
  | cons m ms ih =>
      obtain ⟨rounds, rfl⟩ : ∃ r, rounds = r + 1 := ⟨rounds - 1, by simp at hr; omega⟩
      have hm : m.text.length ≤ n := hn m List.mem_cons_self
      by_cases h : ms = []
      · rw [h, membersText_singleton, skip_all, readItems_core_close m hm, List.map_singleton]
      · rw [membersText_cons m h, List.append_assoc, List.cons_append, skip_all,
          readItems_core_comma m hm,
          ih h (fun x hx => hn x (List.mem_cons_of_mem _ hx)) (by simpa using hr)]
        rfl

/-- No more members than bytes, and no longer ones. -/
lemma length_membersText (ms : List Member) : ms.length ≤ (membersText ms).length ∧
    ∀ m ∈ ms, m.text.length < (membersText ms).length := by
  induction ms with
  | nil => simp
  | cons m ms ih =>
      have hm : m.text.length < m.all.length := by
        simp [Member.all, Member.core, quoted]
        omega
      by_cases hms : ms = []
      · subst hms
        simp
        omega
      · obtain ⟨hlen, hmem⟩ := ih
        rw [membersText_cons m hms, List.length_append, List.length_cons, List.length_cons]
        refine ⟨by omega, fun x hx => ?_⟩
        rcases List.mem_cons.mp hx with rfl | hx
        · omega
        · have hlt := hmem x hx
          omega

lemma readGroup_members (ms : List Member) {n : ℕ} (hn : (membersText ms).length ≤ n)
    {inner : Bytes} (hinner : ∀ c ∈ inner, isWhite c = true) (rest : Bytes) :
    readGroup (readMember (readValue n)) 125 n (inner ++ (membersText ms ++ 125 :: rest)) =
      some (ms.map fun m => (m.key, m.value), rest) := by
  obtain ⟨hlen, hmem⟩ := length_membersText ms
  cases ms with
  | nil =>
      rw [readGroup, skip_white hinner, membersText_nil, List.nil_append, skip_cons rfl]
      rfl
  | cons m ms =>
      have hitems := readItems_members (List.cons_ne_nil m ms)
        (fun x hx => ((hmem x hx).trans_le hn).le) (hlen.trans hn) rest
      obtain ⟨t, ht⟩ := membersText_head m ms
      have hinner' : readGroup (readMember (readValue n)) 125 n (inner ++ (m.all ++
          (t ++ 125 :: rest))) = readGroup (readMember (readValue n)) 125 n (m.all ++
            (t ++ 125 :: rest)) := by
        rw [readGroup, readGroup, skip_white hinner]
      rw [ht, List.append_assoc, skip_all] at hitems
      rw [ht, List.append_assoc, hinner', readGroup_all, hitems]

/-- **The text of an object is read as its value.** -/
theorem reads_objectText (ms : List Member) : Reads (objectText ms) (objectValue ms) := by
  intro n hn rest _
  have hsize : (objectText ms).length = (membersText ms).length + 2 := by simp [objectText]
  obtain ⟨n, rfl⟩ : ∃ n', n = n' + 1 := ⟨n - 1, by omega⟩
  have hgroup := readGroup_members ms (n := n) (by omega) (List.forall_mem_nil _) rest
  rw [objectText, List.cons_append, List.append_assoc]
  exact readValue_succ_iff.mpr (Or.inr (Or.inl ⟨rfl, _, hgroup, rfl⟩))

theorem decode_objectText (ms : List Member) :
    decode (objectText ms) = some (objectValue ms) := by
  have hread := reads_objectText ms _ le_rfl [] (by simp)
  rw [List.append_nil] at hread
  have hskip : skip (objectText ms) = objectText ms := skip_cons rfl _
  rw [decode, hskip, hread]
  rfl

/-- **The text of a value in brackets** decodes to the array of that value alone. -/
lemma decode_bracketed {s : Bytes} {v : Json} (h : Reads s v) :
    decode (91 :: (s ++ [93])) = some (.array [v]) := by
  obtain ⟨c, t, hs, hc⟩ := h.head_white
  have hitem : readValue (s.length + 1) (s ++ [93]) = some (v, [93]) :=
    h (s.length + 1) (Nat.le_succ _) [93] (by simp [isNumeral, isDigit])
  have hclose : c ≠ 93 := by
    rintro rfl
    rw [hs, List.cons_append] at hitem
    rcases readValue_succ_iff.mp hitem with ⟨h34, -⟩ | ⟨h123, -⟩ | ⟨h91, -⟩ | ⟨-, hword⟩
    · cases h34
    · cases h123
    · cases h91
    · rcases readWord_cases hword with ⟨hw, -⟩ | ⟨hw, -⟩ | ⟨hw, -⟩ | ⟨m, hw, -, hm, -⟩
      · cases hw
      · cases hw
      · cases hw
      · obtain ⟨b, m', rfl, hb⟩ := isNumber_head hm
        obtain rfl : (93 : UInt8) = b := (List.cons.inj hw).1
        rcases hb with hb | hb <;> cases hb
  have hskip : skip (s ++ [93]) = c :: (t ++ [93]) := by
    rw [hs, List.cons_append, skip_cons hc]
  have hitems : readItems (readValue (s.length + 1)) 93 (s.length + 1) (c :: (t ++ [93])) =
      some ([v], []) := by
    rw [← List.cons_append, ← hs]
    exact readItems_succ_iff.mpr ⟨v, [93], 93, [], hitem, rfl, Or.inl ⟨rfl, rfl, rfl⟩⟩
  have hgroup : readGroup (readValue (s.length + 1)) 93 (s.length + 1) (s ++ [93]) =
      some ([v], []) :=
    readGroup_iff.mpr ⟨c, t ++ [93], hskip, Or.inr ⟨hclose, hitems⟩⟩
  have hread : readValue (s.length + 2) (91 :: (s ++ [93])) = some (.array [v], []) :=
    readValue_succ_iff.mpr (Or.inr (Or.inr (Or.inl ⟨rfl, _, hgroup, rfl⟩)))
  have hlen : (91 :: (s ++ [93])).length = s.length + 2 := by simp
  rw [decode, skip_cons rfl, hlen, hread]
  rfl

/-- An object as it is written, with the white space in front of it, behind its brace and behind
it. -/
structure Layout where
  lead : Bytes
  inner : Bytes
  members : List Member
  trail : Bytes
  white : ∀ c ∈ lead ++ (inner ++ trail), isWhite c = true

namespace Layout

/-- The whole text. -/
def text (l : Layout) : Bytes :=
  l.lead ++ 123 :: (l.inner ++ (membersText l.members ++ 125 :: l.trail))

lemma white_lead (l : Layout) : ∀ c ∈ l.lead, isWhite c = true :=
  fun c hc => l.white c (by simp [hc])

lemma white_inner (l : Layout) : ∀ c ∈ l.inner, isWhite c = true :=
  fun c hc => l.white c (by simp [hc])

lemma white_trail (l : Layout) : ∀ c ∈ l.trail, isWhite c = true :=
  fun c hc => l.white c (by simp [hc])

/-- **However an object is laid out, its text decodes to its value.** -/
theorem decode_text (l : Layout) : decode l.text = some (objectValue l.members) := by
  obtain ⟨n, hn⟩ : ∃ n, l.text.length = n + 1 := ⟨l.text.length - 1, by simp [text]; omega⟩
  have hle : (membersText l.members).length ≤ n := by
    have hlen : l.text.length = l.lead.length + (l.inner.length +
        ((membersText l.members).length + (l.trail.length + 1)) + 1) := by simp [text]
    omega
  have hgroup := readGroup_members l.members hle l.white_inner l.trail
  have hskip : skip l.text =
      123 :: (l.inner ++ (membersText l.members ++ 125 :: l.trail)) := by
    rw [text, skip_white l.white_lead, skip_cons rfl]
  have hend : skip l.trail = [] := List.dropWhile_eq_nil_iff.mpr l.white_trail
  have hvalue : readValue (n + 1)
      (123 :: (l.inner ++ (membersText l.members ++ 125 :: l.trail))) =
        some (objectValue l.members, l.trail) :=
    readValue_succ_iff.mpr (Or.inr (Or.inl ⟨rfl, _, hgroup, rfl⟩))
  rw [decode, hskip, hn, hvalue]
  exact if_pos hend

end Layout

/-- What is decoded as something other than a number is read in front of every text. -/
lemma readValue_of_decode {s : Bytes} {v : Json} (h : decode s = some v) (hskip : skip s = s)
    (hv : ∀ m, v ≠ .number m) (t : Bytes) :
    ∃ rest, readValue (s ++ t).length (s ++ t) = some (v, rest ++ t) := by
  rw [decode, hskip] at h
  cases hr : readValue s.length s with
  | none =>
      rw [hr] at h
      cases h
  | some r =>
      obtain ⟨v', rest⟩ := r
      rw [hr] at h
      dsimp only at h
      split at h
      · cases h
        have happ := readValue_append hr (fun ⟨m, hm⟩ => absurd hm (hv m)) t
        exact ⟨rest, readValue_mono (by simp) happ⟩
      · cases h

/-- A member whose value starts as a string is read up to the end of that string, whatever it
is, and where a comma follows the reading goes on behind it. -/
lemma readItems_string {key gap : Bytes} (hkey : Plain key) (hgap : ∀ c ∈ gap, isWhite c = true)
    {n rounds : ℕ} {s rest : Bytes} {ms : List (Bytes × Json)}
    (h : readItems (readMember (readValue (n + 1))) 125 (rounds + 1)
      (quoted key ++ 58 :: (gap ++ 34 :: s)) = some (ms, rest)) :
    ∃ content s' ms', readString s = some (content, s') ∧ ms = (key, .string content) :: ms' ∧
      ∀ s'', s' = 44 :: s'' →
        readItems (readMember (readValue (n + 1))) 125 rounds (skip s'') = some (ms', rest) := by
  have hcolon : expect 58 (skip (58 :: (gap ++ 34 :: s))) = some (gap ++ 34 :: s) := by
    rw [skip_cons rfl, expect_cons]
  have hskip : skip (gap ++ 34 :: s) = 34 :: s := by rw [skip_white hgap, skip_cons rfl]
  -- the member is read as it is written
  obtain ⟨⟨key', v⟩, s', c, s₂, hmember, hskip', hcases⟩ := readItems_succ_iff.mp h
  rw [quoted, List.cons_append, List.append_assoc] at hmember
  obtain ⟨_, _, _, h₁, h₂, h₃, hvalue⟩ := readMember_iff.mp hmember
  obtain rfl := Option.some.inj ((expect_cons 34 _).symm.trans h₁)
  obtain ⟨rfl, rfl⟩ := Prod.mk.inj (Option.some.inj ((readString_plain hkey _).symm.trans h₂))
  obtain rfl := Option.some.inj (hcolon.symm.trans h₃)
  rw [hskip] at hvalue
  obtain ⟨content, hcontent, rfl⟩ : ∃ content, readString s = some (content, s') ∧
      v = .string content := by
    rcases readValue_succ_iff.mp hvalue with ⟨-, hstring⟩ | ⟨hc, -⟩ | ⟨hc, -⟩ | ⟨⟨hc, -⟩, -⟩
    · exact hstring
    · exact absurd hc (by decide)
    · exact absurd hc (by decide)
    · exact absurd rfl hc
  have hcomma : ∀ s'', s' = 44 :: s'' → c = 44 ∧ s₂ = s'' := by
    rintro s'' rfl
    rw [skip_cons rfl] at hskip'
    exact ⟨(List.cons.inj hskip').1.symm, (List.cons.inj hskip').2.symm⟩
  rcases hcases with ⟨hclose, rfl, rfl⟩ | ⟨-, -, ms', hrest, rfl⟩
  · refine ⟨content, s', [], hcontent, rfl, fun s'' hs'' => ?_⟩
    rw [(hcomma s'' hs'').1] at hclose
    exact absurd hclose (by decide)
  · refine ⟨content, s', ms', hcontent, rfl, fun s'' hs'' => ?_⟩
    rw [← (hcomma s'' hs'').2]
    exact hrest

/-! ### Plain texts and numerals -/

/-- Printable ASCII is plain. -/
lemma plain_of_ascii {s : Bytes} (h : ∀ c ∈ s, 32 ≤ c ∧ c < 128 ∧ c ≠ 34 ∧ c ≠ 92) : Plain s := by
  refine ⟨?_, fun c hc => ⟨(h c hc).1, (h c hc).2.2⟩⟩
  induction s with
  | nil => rfl
  | cons c s ih =>
      have hc : Utf8.start.step c = some .start := if_pos (h c List.mem_cons_self).2.1
      rw [IsUtf8, List.foldlM_cons, hc]
      exact ih fun d hd => h d (List.mem_cons_of_mem _ hd)

lemma plain_toDec (n : ℕ) : Plain (toDec n) := by
  refine plain_of_ascii fun c hc => ?_
  have hdigit := isDigit_of_mem_toDec hc
  simp only [isDigit, Bool.and_eq_true, decide_eq_true_eq] at hdigit
  refine ⟨UInt8.le_trans (by decide) hdigit.1, UInt8.lt_of_le_of_lt hdigit.2 (by decide), ?_, ?_⟩
  · rintro rfl
    exact absurd hdigit.1 (by decide)
  · rintro rfl
    exact absurd hdigit.2 (by decide)

/-- What is printed as a decimal number is a numeral. -/
lemma isNumber_toDec (n : ℕ) : isNumber (toDec n) = true := by
  have hfraction : ∀ s : Bytes, (∀ c ∈ s, isDigit c = true) →
      isFraction (s.dropWhile isDigit) = true := by
    intro s hs
    rw [List.dropWhile_eq_nil_iff.mpr hs]
    rfl
  have hunsigned : isUnsigned (toDec n) = true := by
    by_cases h0 : n = 0
    · subst h0
      decide
    · -- the leading digit is not zero
      have hne : Nat.digits 10 n ≠ [] := by simpa [Nat.digits_eq_nil_iff_eq_zero] using h0
      have hlast : (Nat.digits 10 n).getLast hne ≠ 0 := Nat.getLast_digit_ne_zero 10 h0
      have hlt : (Nat.digits 10 n).getLast hne < 10 :=
        Nat.digits_lt_base (by norm_num) (List.getLast_mem hne)
      have hchar : ∀ d < 10, d ≠ 0 → digitChar 97 d ≠ 48 := by decide
      have hsplit : toDec n = digitChar 97 ((Nat.digits 10 n).getLast hne) ::
          ((Nat.digits 10 n).dropLast.map (digitChar 97)).reverse := by
        conv_lhs => rw [toDec, toBase, if_neg h0, ← List.dropLast_append_getLast hne]
        simp
      have hdigits : ∀ c ∈ toDec n, isDigit c = true := fun c hc => isDigit_of_mem_toDec hc
      rw [hsplit] at hdigits ⊢
      rw [isUnsigned, if_neg (hchar _ hlt hlast), hdigits _ List.mem_cons_self, Bool.true_and]
      exact hfraction _ fun c hc => hdigits c (List.mem_cons_of_mem _ hc)
  rw [isNumber.eq_def]
  split
  · rename_i heq
    have h45 : isDigit 45 = true := isDigit_of_mem_toDec (n := n) (heq ▸ List.mem_cons_self)
    exact absurd h45 (by decide)
  · exact hunsigned

lemma reads_toDec (n : ℕ) : Reads (toDec n) (.number (toDec n)) := by
  refine reads_number (isNumber_toDec n) fun c hc => ?_
  simp [isNumeral, isDigit_of_mem_toDec hc]

end FauxmoLinux.Json
