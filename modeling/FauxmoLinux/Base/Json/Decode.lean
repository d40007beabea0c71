import FauxmoLinux.Base.Json.Characters

/-!
JSON values and a decoder for their texts, after RFC 8259.

* `Json`, `Json.member`: the values, numbers as their numerals and strings as their UTF-8 bytes,
  and the member of an object that has a name to itself;
* `readValue`, `decode`: a reader of values, which returns what is left of the text, and the
  decoder of a whole text;
* `readItems_succ_iff`, `readMember_iff`, `readValue_succ_iff`: what a round of reading does;
* `plain_of_readString`: only plain texts are read back as they stand;
* `readValue_mono`, `readValue_append`: more rounds change no value that was read, and neither
  does what is written behind it, so that no object text goes on after another one;
* `readValue_close`: what is left of a text stands behind a byte values can end in.
-/

namespace FauxmoLinux

/-- A JSON value. -/
inductive Json where
  | null
  | bool (b : Bool)
  | number (numeral : Bytes)
  | string (content : Bytes)
  | array (elements : List Json)
  | object (members : List (Bytes × Json))

namespace Json

/-- The member of an object, when it is the only one of its name. -/
def member (key : Bytes) : Json → Option Json
  | .object members =>
      match members.filter (·.1 = key) with
      | [m] => some m.2
      | _ => none
  | _ => none

/-- A member that comes first and is the only one of its name. -/
lemma eq_of_member_cons_self {key : Bytes} {v w : Json} {ms : List (Bytes × Json)}
    (h : member key (.object ((key, v) :: ms)) = some w) : w = v := by
  rw [member, List.filter_cons_of_pos (by simp)] at h
  cases hms : ms.filter (·.1 = key) with
  | nil =>
      rw [hms] at h
      exact (Option.some.inj h).symm
  | cons m ms' =>
      rw [hms] at h
      cases h

lemma member_cons_of_ne {key key' : Bytes} (hne : key' ≠ key) (v : Json)
    (ms : List (Bytes × Json)) :
    member key (.object ((key', v) :: ms)) = member key (.object ms) := by
  rw [member, member, List.filter_cons_of_neg (by simpa using hne)]

/-- Among distinct names every member is the only one of its name. -/
lemma member_of_nodup {ms : List (Bytes × Json)} (h : (ms.map Prod.fst).Nodup) {key : Bytes}
    {v : Json} (hmem : (key, v) ∈ ms) : member key (.object ms) = some v := by
  obtain ⟨pre, post, rfl⟩ := List.append_of_mem hmem
  rw [List.map_append, List.map_cons, List.nodup_middle, List.nodup_cons, List.mem_append,
    not_or] at h
  have hnone : ∀ l : List (Bytes × Json), key ∉ l.map Prod.fst → l.filter (·.1 = key) = [] := by
    intro l hl
    refine List.filter_eq_nil_iff.mpr fun m hm => ?_
    have hne : m.1 ≠ key := fun heq => hl (heq ▸ List.mem_map_of_mem hm)
    simpa using hne
  rw [member, List.filter_append, List.filter_cons_of_pos (by simp), hnone pre h.1.1,
    hnone post h.1.2]
  rfl

/-- Only objects have members. -/
lemma eq_object_of_member {key : Bytes} {v w : Json} (h : member key v = some w) :
    ∃ ms, v = .object ms := by
  cases v with
  | object ms => exact ⟨ms, rfl⟩
  | _ => cases h

/-! ### Reading values -/

/-- White space. -/
def isWhite (c : UInt8) : Bool := c == 32 || c == 9 || c == 10 || c == 13

/-- A text without the white space in front. -/
def skip (s : Bytes) : Bytes := s.dropWhile isWhite

/-- A text that starts with the given byte, without it. -/
def expect (b : UInt8) : Bytes → Option Bytes
  | [] => none
  | c :: s => if c = b then some s else none

/-- The rest of a string, up to its closing quote. -/
def readStringFrom : Scan → Bytes → Option (Bytes × Bytes)
  | _, [] => none
  | scan, c :: s =>
      if c = 34 ∧ scan = .text .start then some ([], s)
      else
        match charStep scan c with
        | .error _ => none
        | .ok (scan, out) => (readStringFrom scan s).map fun r => (out ++ r.1, r.2)

/-- A string behind its opening quote. -/
def readString (s : Bytes) : Option (Bytes × Bytes) := readStringFrom (.text .start) s

/-- The bytes numerals are made of. -/
def isNumeral (c : UInt8) : Bool :=
  isDigit c || c == 45 || c == 43 || c == 46 || c == 101 || c == 69

/-- At least one digit, and nothing else. -/
def digitsOnly (s : Bytes) : Bool := s ≠ [] && s.all isDigit

/-- Behind the fraction of a numeral: nothing, or an exponent. -/
def isExponent : Bytes → Bool
  | [] => true
  | c :: s =>
      (c == 101 || c == 69) &&
        (digitsOnly s || ((s.head? == some 45 || s.head? == some 43) && digitsOnly s.tail))

/-- Behind the integer part of a numeral. -/
def isFraction : Bytes → Bool
  | 46 :: s => s.head?.any isDigit && isExponent (s.dropWhile isDigit)
  | s => isExponent s

/-- A numeral without its sign. -/
def isUnsigned : Bytes → Bool
  | [] => false
  | c :: s => if c = 48 then isFraction s else isDigit c && isFraction (s.dropWhile isDigit)

/-- A numeral. -/
def isNumber : Bytes → Bool
  | 45 :: s => isUnsigned s
  | s => isUnsigned s

/-- A value that is neither string, object nor array. -/
def readWord (s : Bytes) : Option (Json × Bytes) :=
  if bytes "true" <+: s then some (.bool true, s.drop 4)
  else if bytes "false" <+: s then some (.bool false, s.drop 5)
  else if bytes "null" <+: s then some (.null, s.drop 4)
  else if isNumber (s.takeWhile isNumeral) then
    some (.number (s.takeWhile isNumeral), s.dropWhile isNumeral)
  else none

section Items

variable {α : Type}

/-- Items with commas between them, up to a closing byte. -/
def readItems (item : Bytes → Option (α × Bytes)) (close : UInt8) :
    ℕ → Bytes → Option (List α × Bytes)
  | 0, _ => none
  | rounds + 1, s => do
      let (a, s) ← item s
      match skip s with
      | [] => none
      | c :: s =>
          if c = close then some ([a], s)
          else if c = 44 then do
            let (as, s) ← readItems item close rounds (skip s)
            some (a :: as, s)
          else none

/-- Items up to a closing byte, possibly none. -/
def readGroup (item : Bytes → Option (α × Bytes)) (close : UInt8) (rounds : ℕ) (s : Bytes) :
    Option (List α × Bytes) :=
  match skip s with
  | [] => none
  | c :: s => if c = close then some ([], s) else readItems item close rounds (c :: s)

end Items

/-- A member of an object. -/
def readMember (value : Bytes → Option (Json × Bytes)) (s : Bytes) :
    Option ((Bytes × Json) × Bytes) := do
  let s ← expect 34 s
  let (key, s) ← readString s
  let s ← expect 58 (skip s)
  let (v, s) ← value (skip s)
  some ((key, v), s)

/-- A value, and what is left of the text. The first argument bounds the depth and the number
of items. -/
def readValue : ℕ → Bytes → Option (Json × Bytes)
  | 0, _ => none
  | _ + 1, [] => none
  | fuel + 1, c :: s =>
      if c = 34 then (readString s).map fun r => (.string r.1, r.2)
      else if c = 123 then
        (readGroup (readMember (readValue fuel)) 125 fuel s).map fun r => (.object r.1, r.2)
      else if c = 91 then
        (readGroup (readValue fuel) 93 fuel s).map fun r => (.array r.1, r.2)
      else readWord (c :: s)

/-- The value of a text, `none` when it is no JSON text. -/
def decode (s : Bytes) : Option Json :=
  match readValue s.length (skip s) with
  | some (v, rest) => if skip rest = [] then some v else none
  | none => none

/-! ### Strings -/

lemma readStringFrom_eq_some_iff {scan : Scan} {s content rest : Bytes} :
    readStringFrom scan s = some (content, rest) ↔ ∃ raw, s = raw ++ 34 :: rest ∧
      runs charStep scan raw = .ok (.text .start, content) := by
  induction s generalizing scan content with
  | nil => simp [readStringFrom]
  | cons c s ih =>
      rw [readStringFrom]
      by_cases hend : c = 34 ∧ scan = .text .start
      · obtain ⟨rfl, rfl⟩ := hend
        rw [if_pos ⟨rfl, rfl⟩]
        constructor
        · intro h
          cases h
          exact ⟨[], rfl, rfl⟩
        · rintro ⟨raw, hs, hraw⟩
          cases raw with
          | nil =>
              cases hraw
              cases hs
              rfl
          | cons b raw =>
              obtain ⟨rfl, rfl⟩ := List.cons.inj hs
              obtain ⟨_, _, _, hc, -, -⟩ := runs_cons_ok.mp hraw
              cases (charStep_quote hc).1
      · rw [if_neg hend]
        constructor
        · intro h
          cases hc : charStep scan c with
          | error e =>
              rw [hc] at h
              cases h
          | ok r =>
              rw [hc] at h
              obtain ⟨⟨content', rest'⟩, hrest, heq⟩ := Option.map_eq_some_iff.mp h
              cases heq
              obtain ⟨raw, rfl, hraw⟩ := ih.mp hrest
              exact ⟨c :: raw, rfl, runs_cons_ok.mpr ⟨_, _, _, hc, hraw, rfl⟩⟩
        · rintro ⟨raw, hs, hraw⟩
          cases raw with
          | nil =>
              cases hraw
              cases hs
              exact absurd ⟨rfl, rfl⟩ hend
          | cons b raw =>
              obtain ⟨rfl, rfl⟩ := List.cons.inj hs
              obtain ⟨_, _, _, hc, hrest, rfl⟩ := runs_cons_ok.mp hraw
              rw [hc]
              exact Option.map_eq_some_iff.mpr ⟨_, ih.mpr ⟨raw, rfl, hrest⟩, rfl⟩

lemma readString_eq_some_iff {s content rest : Bytes} : readString s = some (content, rest) ↔
    ∃ raw, s = raw ++ 34 :: rest ∧ Content raw content := readStringFrom_eq_some_iff

/-- A plain text is read back. -/
lemma readString_plain {s : Bytes} (h : Plain s) (rest : Bytes) :
    readString (s ++ 34 :: rest) = some (s, rest) :=
  readString_eq_some_iff.mpr ⟨s, rfl, h.content⟩

/-- **Only plain texts are read back** before a quote, a comma and a quote. -/
lemma plain_of_readString {s t rest : Bytes}
    (h : readString (s ++ 34 :: 44 :: 34 :: t) = some (s, rest)) :
    Plain s ∧ rest = 44 :: 34 :: t := by
  obtain ⟨raw, heq, hraw⟩ := readString_eq_some_iff.mp h
  rcases List.append_eq_append_iff.mp heq with ⟨more, rfl, hmore⟩ | ⟨more, rfl, hmore⟩
  · cases more with
    | nil =>
        obtain rfl : 44 :: 34 :: t = rest := by simpa using hmore
        rw [List.append_nil] at hraw
        exact ⟨plain_of_content_self hraw, rfl⟩
    | cons c more =>
        -- the quote behind the text is part of the string, so the text ends in a backslash
        exfalso
        obtain ⟨scan, o₁, o₂, hs, hrest, hout⟩ := runs_append_ok.mp hraw
        have hc : 34 :: 44 :: 34 :: t = (c :: more) ++ 34 :: rest := hmore
        obtain ⟨rfl, htail⟩ : 34 = c ∧ 44 :: 34 :: t = more ++ 34 :: rest := by simpa using hc
        obtain ⟨_, _, o₃, hquote, hmore', rfl⟩ := runs_cons_ok.mp hrest
        obtain ⟨rfl, rfl, rfl⟩ := charStep_quote hquote
        have hlast : s.getLast? = some 92 := by
          rcases List.eq_nil_or_concat' s with rfl | ⟨s', c, rfl⟩
          · cases hs
          · obtain ⟨scan', _, _, -, hstep, -⟩ := runs_append_ok.mp hs
            rw [runs_singleton] at hstep
            rw [eq_backslash_of_escape hstep, List.getLast?_concat]
        -- the comma is the last of the content
        have hcomma : o₃ = [44] := by
          cases more with
          | nil => simp at htail
          | cons c more =>
              obtain ⟨rfl, htail⟩ : 44 = c ∧ 34 :: t = more ++ 34 :: rest := by simpa using htail
              have hstep : charStep (.text .start) 44 = .ok (.text .start, [44]) := rfl
              obtain ⟨_, _, o₄, hstep', hmore'', rfl⟩ := runs_cons_ok.mp hmore'
              obtain ⟨rfl, rfl⟩ := Prod.mk.inj (Except.ok.inj (hstep.symm.trans hstep'))
              cases more with
              | nil =>
                  cases hmore''
                  rfl
              | cons c more =>
                  obtain ⟨rfl, -⟩ : 34 = c ∧ t = more ++ 34 :: rest := by simpa using htail
                  obtain ⟨_, _, _, hquote', -, -⟩ := runs_cons_ok.mp hmore''
                  cases (charStep_quote hquote').1
        rw [hout, hcomma] at hlast
        simp at hlast
  · cases more with
    | nil =>
        obtain rfl : 44 :: 34 :: t = rest := by simpa [eq_comm] using hmore
        rw [List.append_nil] at hraw ⊢
        exact ⟨plain_of_content_self hraw, rfl⟩
    | cons c more =>
        -- the string is shorter than the text it stands for
        have hlen := (length_content hraw).1
        simp [Scan.held] at hlen

/-! ### One round of reading -/

section Items

variable {α : Type} {item : Bytes → Option (α × Bytes)} {close : UInt8}

/-- A round of `readItems` reads an item, and behind it the closing byte, or a comma and further
items. -/
lemma readItems_succ_iff {n : ℕ} {s rest : Bytes} {as : List α} :
    readItems item close (n + 1) s = some (as, rest) ↔
      ∃ a s₁ c s₂, item s = some (a, s₁) ∧ skip s₁ = c :: s₂ ∧
        (c = close ∧ as = [a] ∧ rest = s₂ ∨
          c ≠ close ∧ c = 44 ∧
            ∃ as', readItems item close n (skip s₂) = some (as', rest) ∧ as = a :: as') := by
  constructor
  · intro h
    obtain ⟨⟨a, s₁⟩, ha, h⟩ := Option.bind_eq_some_iff.mp h
    cases hskip : skip s₁ with
    | nil => simp [hskip] at h
    | cons c s₂ =>
        simp only [hskip] at h
        refine ⟨a, s₁, c, s₂, ha, hskip, ?_⟩
        split_ifs at h with hclose hcomma
        · cases h
          exact Or.inl ⟨hclose, rfl, rfl⟩
        · obtain ⟨⟨as', rest'⟩, hrest, hret⟩ := Option.bind_eq_some_iff.mp h
          cases hret
          exact Or.inr ⟨hclose, hcomma, as', hrest, rfl⟩
  · rintro ⟨a, s₁, c, s₂, ha, hskip, hcases⟩
    refine Option.bind_eq_some_iff.mpr ⟨(a, s₁), ha, ?_⟩
    simp only [hskip]
    rcases hcases with ⟨hclose, rfl, rfl⟩ | ⟨hclose, hcomma, as', hrest, rfl⟩
    · exact if_pos hclose
    · rw [if_neg hclose, if_pos hcomma, hrest]
      rfl

lemma readGroup_iff {n : ℕ} {s rest : Bytes} {as : List α} :
    readGroup item close n s = some (as, rest) ↔
      ∃ c s₁, skip s = c :: s₁ ∧ (c = close ∧ as = [] ∧ rest = s₁ ∨
        c ≠ close ∧ readItems item close n (c :: s₁) = some (as, rest)) := by
  rw [readGroup]
  cases skip s with
  | nil => simp
  | cons c s₁ =>
      rcases eq_or_ne c close with hclose | hclose
      · simp [hclose, eq_comm]
      · simp [hclose]

end Items

lemma readMember_iff {value : Bytes → Option (Json × Bytes)} {s key rest : Bytes} {v : Json} :
    readMember value s = some ((key, v), rest) ↔ ∃ s₁ s₂ s₃, expect 34 s = some s₁ ∧
      readString s₁ = some (key, s₂) ∧ expect 58 (skip s₂) = some s₃ ∧
        value (skip s₃) = some (v, rest) := by
  constructor
  · intro h
    obtain ⟨s₁, h₁, h⟩ := Option.bind_eq_some_iff.mp h
    obtain ⟨⟨key', s₂⟩, h₂, h⟩ := Option.bind_eq_some_iff.mp h
    obtain ⟨s₃, h₃, h⟩ := Option.bind_eq_some_iff.mp h
    obtain ⟨⟨v', s₄⟩, h₄, h⟩ := Option.bind_eq_some_iff.mp h
    cases h
    exact ⟨s₁, s₂, s₃, h₁, h₂, h₃, h₄⟩
  · rintro ⟨s₁, s₂, s₃, h₁, h₂, h₃, h₄⟩
    simp only [readMember, h₁, h₂, h₃, h₄, Option.bind_eq_bind, Option.bind_some]

/-- A round of `readValue` reads a string, an object, an array or a word, by the first byte. -/
lemma readValue_succ_iff {n : ℕ} {c : UInt8} {s rest : Bytes} {v : Json} :
    readValue (n + 1) (c :: s) = some (v, rest) ↔
      (c = 34 ∧ ∃ content, readString s = some (content, rest) ∧ v = .string content) ∨
      (c = 123 ∧ ∃ ms, readGroup (readMember (readValue n)) 125 n s = some (ms, rest) ∧
        v = .object ms) ∨
      (c = 91 ∧ ∃ vs, readGroup (readValue n) 93 n s = some (vs, rest) ∧ v = .array vs) ∨
      ((c ≠ 34 ∧ c ≠ 123 ∧ c ≠ 91) ∧ readWord (c :: s) = some (v, rest)) := by
  have hmap : ∀ {β : Type} (o : Option (β × Bytes)) (f : β → Json),
      (o.map fun r => (f r.1, r.2)) = some (v, rest) ↔ ∃ b, o = some (b, rest) ∧ v = f b := by
    intro β o f
    rw [Option.map_eq_some_iff]
    constructor
    · rintro ⟨⟨b, s'⟩, ho, hret⟩
      cases hret
      exact ⟨b, ho, rfl⟩
    · rintro ⟨b, ho, rfl⟩
      exact ⟨_, ho, rfl⟩
  rw [readValue]
  split_ifs with hquote hobject harray
  · simp [hquote, hmap]
  · simp [hobject, hmap]
  · simp [harray, hmap]
  · simp [hquote, hobject, harray]

/-! ### More rounds, more text -/

section Items

variable {α : Type} {item item' : Bytes → Option (α × Bytes)} {close : UInt8}

/-- More rounds, and items that are read in more cases, change no items that were read. -/
lemma readItems_mono (hitem : ∀ s r, item s = some r → item' s = some r) {m n : ℕ} (h : m ≤ n)
    {s : Bytes} {r : List α × Bytes} (hr : readItems item close m s = some r) :
    readItems item' close n s = some r := by
  induction m generalizing n s r with
  | zero => cases hr
  | succ m ih =>
      obtain ⟨n, rfl⟩ : ∃ n', n = n' + 1 := ⟨n - 1, by omega⟩
      obtain ⟨a, s₁, c, s₂, ha, hskip, hcases⟩ := readItems_succ_iff.mp hr
      refine readItems_succ_iff.mpr ⟨a, s₁, c, s₂, hitem s _ ha, hskip, hcases.imp_right ?_⟩
      rintro ⟨hclose, hcomma, as', hrest, has⟩
      exact ⟨hclose, hcomma, as', ih (by omega) hrest, has⟩

lemma readGroup_mono (hitem : ∀ s r, item s = some r → item' s = some r) {m n : ℕ} (h : m ≤ n)
    {s : Bytes} {r : List α × Bytes} (hr : readGroup item close m s = some r) :
    readGroup item' close n s = some r := by
  obtain ⟨c, s₁, hskip, hcases⟩ := readGroup_iff.mp hr
  exact readGroup_iff.mpr ⟨c, s₁, hskip,
    hcases.imp_right (And.imp_right (readItems_mono hitem h))⟩

/-- White space ends where it did when text is added behind other text. -/
lemma skip_append {s : Bytes} (h : skip s ≠ []) (t : Bytes) : skip (s ++ t) = skip s ++ t := by
  induction s with
  | nil => exact absurd rfl h
  | cons c s ih =>
      rw [List.cons_append, skip, skip, List.dropWhile_cons, List.dropWhile_cons]
      by_cases hc : isWhite c = true
      · rw [if_pos hc, if_pos hc]
        refine ih fun hnil => h ?_
        rw [skip, List.dropWhile_cons, if_pos hc]
        exact hnil
      · rw [if_neg hc, if_neg hc, List.cons_append]

/-- Reading an item does not depend on what is written behind the text, when something is left
of it. -/
structure Stable (item : Bytes → Option (α × Bytes)) : Prop where
  nil : item [] = none
  append : ∀ s a rest t, item s = some (a, rest) → rest ≠ [] →
    item (s ++ t) = some (a, rest ++ t)

/-- Items up to a closing byte do not depend on it at all. -/
lemma readItems_append (h : Stable item) {n : ℕ} {s rest : Bytes} {as : List α} (t : Bytes)
    (hr : readItems item close n s = some (as, rest)) :
    readItems item close n (s ++ t) = some (as, rest ++ t) := by
  induction n generalizing s as rest with
  | zero => cases hr
  | succ n ih =>
      obtain ⟨a, s₁, c, s₂, ha, hskip, hcases⟩ := readItems_succ_iff.mp hr
      have hs₁ : s₁ ≠ [] := by
        rintro rfl
        cases hskip
      have hskip' : skip (s₁ ++ t) = c :: (s₂ ++ t) := by
        rw [skip_append (by simp [hskip]), hskip, List.cons_append]
      refine readItems_succ_iff.mpr ⟨a, s₁ ++ t, c, s₂ ++ t, h.append s a s₁ t ha hs₁, hskip', ?_⟩
      rcases hcases with ⟨hclose, has, rfl⟩ | ⟨hclose, hcomma, as', hrest, has⟩
      · exact Or.inl ⟨hclose, has, rfl⟩
      · have hne : skip s₂ ≠ [] := fun hnil => by
          rw [hnil] at hrest
          cases n with
          | zero => cases hrest
          | succ n =>
              obtain ⟨_, _, _, _, hitem, -⟩ := readItems_succ_iff.mp hrest
              rw [h.nil] at hitem
              cases hitem
        rw [skip_append hne]
        exact Or.inr ⟨hclose, hcomma, as', ih hrest, has⟩

lemma readGroup_append (h : Stable item) {n : ℕ} {s rest : Bytes} {as : List α} (t : Bytes)
    (hr : readGroup item close n s = some (as, rest)) :
    readGroup item close n (s ++ t) = some (as, rest ++ t) := by
  obtain ⟨c, s₁, hskip, hcases⟩ := readGroup_iff.mp hr
  have hskip' : skip (s ++ t) = c :: (s₁ ++ t) := by
    rw [skip_append (by simp [hskip]), hskip, List.cons_append]
  refine readGroup_iff.mpr ⟨c, s₁ ++ t, hskip', ?_⟩
  rcases hcases with ⟨hclose, has, rfl⟩ | ⟨hclose, hitems⟩
  · exact Or.inl ⟨hclose, has, rfl⟩
  · exact Or.inr ⟨hclose, readItems_append h t hitems⟩

end Items

lemma readMember_mono {value value' : Bytes → Option (Json × Bytes)}
    (h : ∀ s r, value s = some r → value' s = some r) {s : Bytes} {r : (Bytes × Json) × Bytes}
    (hr : readMember value s = some r) : readMember value' s = some r := by
  obtain ⟨s₁, s₂, s₃, h₁, h₂, h₃, h₄⟩ := readMember_iff.mp hr
  exact readMember_iff.mpr ⟨s₁, s₂, s₃, h₁, h₂, h₃, h _ _ h₄⟩

/-- **More rounds change no value that was read.** -/
lemma readValue_mono {m n : ℕ} (h : m ≤ n) {s : Bytes} {r : Json × Bytes}
    (hr : readValue m s = some r) : readValue n s = some r := by
  induction m generalizing n s r with
  | zero => cases hr
  | succ m ih =>
      obtain ⟨n, rfl⟩ : ∃ n', n = n' + 1 := ⟨n - 1, by omega⟩
      have hvalue : ∀ s r, readValue m s = some r → readValue n s = some r :=
        fun _ _ => ih (by omega)
      cases s with
      | nil => cases hr
      | cons c s =>
          refine readValue_succ_iff.mpr ?_
          rcases readValue_succ_iff.mp hr with hstring | ⟨hc, ms, hms, hv⟩ | ⟨hc, vs, hvs, hv⟩ |
            hword
          · exact Or.inl hstring
          · exact Or.inr (Or.inl ⟨hc, ms,
              readGroup_mono (fun _ _ => readMember_mono hvalue) (by omega) hms, hv⟩)
          · exact Or.inr (Or.inr (Or.inl ⟨hc, vs, readGroup_mono hvalue (by omega) hvs, hv⟩))
          · exact Or.inr (Or.inr (Or.inr hword))

lemma expect_cons (b : UInt8) (s : Bytes) : expect b (b :: s) = some s := if_pos rfl

lemma expect_append {b : UInt8} {s rest : Bytes} (h : expect b s = some rest) (t : Bytes) :
    expect b (s ++ t) = some (rest ++ t) := by
  cases s with
  | nil => cases h
  | cons c s =>
      rw [expect] at h
      rw [List.cons_append, expect]
      by_cases hc : c = b
      · rw [if_pos hc] at h ⊢
        cases h
        rfl
      · rw [if_neg hc] at h
        cases h

lemma readString_append {s content rest : Bytes} (h : readString s = some (content, rest))
    (t : Bytes) : readString (s ++ t) = some (content, rest ++ t) := by
  obtain ⟨raw, rfl, hraw⟩ := readString_eq_some_iff.mp h
  exact readString_eq_some_iff.mpr ⟨raw, by simp, hraw⟩

lemma readWord_true (s : Bytes) : readWord (bytes "true" ++ s) = some (.bool true, s) :=
  if_pos (List.prefix_append _ _)

lemma readWord_false (s : Bytes) : readWord (bytes "false" ++ s) = some (.bool false, s) := by
  have htrue : ¬ bytes "true" <+: bytes "false" ++ s := by simp [bytes]
  rw [readWord, if_neg htrue, if_pos (List.prefix_append _ _)]
  rfl

lemma readWord_null (s : Bytes) : readWord (bytes "null" ++ s) = some (.null, s) := by
  have htrue : ¬ bytes "true" <+: bytes "null" ++ s := by simp [bytes]
  have hfalse : ¬ bytes "false" <+: bytes "null" ++ s := by simp [bytes]
  rw [readWord, if_neg htrue, if_neg hfalse, if_pos (List.prefix_append _ _)]
  rfl

/-- A numeral starts with a digit or a sign. -/
lemma isNumber_head {s : Bytes} (h : isNumber s = true) :
    ∃ c t, s = c :: t ∧ (c = 45 ∨ isDigit c = true) := by
  cases s with
  | nil => cases h
  | cons c t =>
      refine ⟨c, t, rfl, ?_⟩
      by_cases hc : c = 45
      · exact Or.inl hc
      · have hu : isUnsigned (c :: t) = true := by
          rw [isNumber.eq_def] at h
          split at h
          · rename_i heq
            exact absurd (List.cons.inj heq).1 hc
          · exact h
        rw [isUnsigned] at hu
        split at hu
        · rename_i h48
          exact Or.inr (h48 ▸ by decide)
        · exact Or.inr (Bool.and_eq_true_iff.mp hu).1

/-- A numeral is read up to the first byte numerals are not made of. -/
lemma readWord_number {s rest : Bytes} (h : isNumber s = true)
    (hs : ∀ c ∈ s, isNumeral c = true) (hrest : ∀ c ∈ rest.head?, isNumeral c = false) :
    readWord (s ++ rest) = some (.number s, rest) := by
  have htake : (s ++ rest).takeWhile isNumeral = s := by
    rw [List.takeWhile_append_of_pos hs]
    cases rest with
    | nil => simp
    | cons c rest => simp [hrest c rfl]
  have hdrop : (s ++ rest).dropWhile isNumeral = rest := by
    rw [List.dropWhile_append_of_pos hs]
    cases rest with
    | nil => simp
    | cons c rest => simp [hrest c rfl]
  obtain ⟨c, t, rfl, hc⟩ := isNumber_head h
  have hword : ∀ w : Bytes, (∀ b ∈ w.head?, ¬ (b = 45 ∨ isDigit b = true)) → w ≠ [] →
      ¬ w <+: c :: t ++ rest := by
    intro w hw hne hpre
    cases w with
    | nil => exact hne rfl
    | cons b w =>
        obtain ⟨rfl, -⟩ := List.cons_prefix_cons.mp hpre
        exact hw b rfl hc
  rw [readWord, if_neg (hword _ (by decide) (by decide)), if_neg (hword _ (by decide) (by decide)),
    if_neg (hword _ (by decide) (by decide)), htake, if_pos h, hdrop]

/-- What is read as a word is one of the three, or a numeral that is not cut short. -/
lemma readWord_cases {s rest : Bytes} {v : Json} (h : readWord s = some (v, rest)) :
    s = bytes "true" ++ rest ∧ v = .bool true ∨ s = bytes "false" ++ rest ∧ v = .bool false ∨
      s = bytes "null" ++ rest ∧ v = .null ∨
      ∃ n, s = n ++ rest ∧ v = .number n ∧ isNumber n = true ∧ (∀ c ∈ n, isNumeral c = true) ∧
        ∀ c ∈ rest.head?, isNumeral c = false := by
  rw [readWord] at h
  split_ifs at h with htrue hfalse hnull hnum
  · obtain ⟨t, rfl⟩ := htrue
    cases h
    exact Or.inl ⟨rfl, rfl⟩
  · obtain ⟨t, rfl⟩ := hfalse
    cases h
    exact Or.inr (Or.inl ⟨rfl, rfl⟩)
  · obtain ⟨t, rfl⟩ := hnull
    cases h
    exact Or.inr (Or.inr (Or.inl ⟨rfl, rfl⟩))
  · cases h
    refine Or.inr (Or.inr (Or.inr ⟨_, List.takeWhile_append_dropWhile.symm, rfl, hnum,
      fun c hc => List.mem_takeWhile_imp hc, fun c hc => ?_⟩))
    have hnot := List.head?_dropWhile_not isNumeral s
    rw [Option.mem_def.mp hc] at hnot
    exact hnot

/-- Words do not depend on what is written behind the text, and numerals do not when something
is left of it. -/
lemma readWord_append {s rest : Bytes} {v : Json} (h : readWord s = some (v, rest))
    (hrest : (∃ n, v = .number n) → rest ≠ []) (t : Bytes) :
    readWord (s ++ t) = some (v, rest ++ t) := by
  rcases readWord_cases h with ⟨rfl, rfl⟩ | ⟨rfl, rfl⟩ | ⟨rfl, rfl⟩ | ⟨n, rfl, rfl, hn, hs, hend⟩
  · rw [List.append_assoc, readWord_true]
  · rw [List.append_assoc, readWord_false]
  · rw [List.append_assoc, readWord_null]
  · rw [List.append_assoc]
    refine readWord_number hn hs ?_
    cases rest with
    | nil => exact absurd rfl (hrest ⟨n, rfl⟩)
    | cons c rest => exact hend

lemma stable_readMember {value : Bytes → Option (Json × Bytes)} (h : Stable value) :
    Stable (readMember value) where
  nil := rfl
  append := by
    rintro s ⟨key, v⟩ rest t hr hrest
    obtain ⟨s₁, s₂, s₃, h₁, h₂, h₃, h₄⟩ := readMember_iff.mp hr
    have hskip₂ : skip s₂ ≠ [] := fun hnil => by
      rw [hnil] at h₃
      cases h₃
    have hskip₃ : skip s₃ ≠ [] := fun hnil => by
      rw [hnil, h.nil] at h₄
      cases h₄
    have hcolon : expect 58 (skip (s₂ ++ t)) = some (s₃ ++ t) := by
      rw [skip_append hskip₂]
      exact expect_append h₃ t
    have hvalue : value (skip (s₃ ++ t)) = some (v, rest ++ t) := by
      rw [skip_append hskip₃]
      exact h.append _ _ _ t h₄ hrest
    exact readMember_iff.mpr ⟨_, _, _, expect_append h₁ t, readString_append h₂ t, hcolon, hvalue⟩

/-- **Values do not depend on what is written behind them**, and numerals do not when something
else is. -/
lemma readValue_append {n : ℕ} {s rest : Bytes} {v : Json} (h : readValue n s = some (v, rest))
    (hrest : (∃ m, v = .number m) → rest ≠ []) (t : Bytes) :
    readValue n (s ++ t) = some (v, rest ++ t) := by
  induction n generalizing s rest v t with
  | zero => cases h
  | succ n ih =>
      have hstable : Stable (readValue n) :=
        ⟨by cases n <;> rfl, fun _ _ _ t hr hne => ih hr (fun _ => hne) t⟩
      cases s with
      | nil => cases h
      | cons c s =>
          refine readValue_succ_iff.mpr ?_
          rcases readValue_succ_iff.mp h with ⟨hc, content, hs, hv⟩ | ⟨hc, ms, hms, hv⟩ |
            ⟨hc, vs, hvs, hv⟩ | ⟨hc, hword⟩
          · exact Or.inl ⟨hc, content, readString_append hs t, hv⟩
          · exact Or.inr (Or.inl ⟨hc, ms, readGroup_append (stable_readMember hstable) t hms, hv⟩)
          · exact Or.inr (Or.inr (Or.inl ⟨hc, vs, readGroup_append hstable t hvs, hv⟩))
          · exact Or.inr (Or.inr (Or.inr ⟨hc, readWord_append hword hrest t⟩))

/-! ### What is left of a text -/

section Items

variable {α : Type} {item : Bytes → Option (α × Bytes)} {close : UInt8}

/-- What reading an item leaves is the end of the text. -/
def Consumes (item : Bytes → Option (α × Bytes)) : Prop :=
  ∀ s a rest, item s = some (a, rest) → rest <:+ s

lemma skip_suffix (s : Bytes) : skip s <:+ s := List.dropWhile_suffix _

/-- Items are read up to their closing byte. -/
lemma readItems_close (h : Consumes item) {n : ℕ} {s rest : Bytes} {as : List α}
    (hr : readItems item close n s = some (as, rest)) : close :: rest <:+ s := by
  induction n generalizing s as with
  | zero => cases hr
  | succ n ih =>
      obtain ⟨a, s₁, c, s₂, ha, hskip, hcases⟩ := readItems_succ_iff.mp hr
      have hs₂ : c :: s₂ <:+ s := hskip ▸ (skip_suffix s₁).trans (h s a s₁ ha)
      rcases hcases with ⟨rfl, -, rfl⟩ | ⟨-, -, as', hrest, -⟩
      · exact hs₂
      · exact ((ih hrest).trans (skip_suffix s₂)).trans ((List.suffix_cons c s₂).trans hs₂)

lemma readGroup_close (h : Consumes item) {n : ℕ} {s rest : Bytes} {as : List α}
    (hr : readGroup item close n s = some (as, rest)) : close :: rest <:+ s := by
  obtain ⟨c, s₁, hskip, hcases⟩ := readGroup_iff.mp hr
  have hs₁ : c :: s₁ <:+ s := hskip ▸ skip_suffix s
  rcases hcases with ⟨rfl, -, rfl⟩ | ⟨-, hitems⟩
  · exact hs₁
  · exact (readItems_close h hitems).trans hs₁

end Items

lemma readString_suffix {s content rest : Bytes} (h : readString s = some (content, rest)) :
    34 :: rest <:+ s := by
  obtain ⟨raw, rfl, -⟩ := readString_eq_some_iff.mp h
  exact List.suffix_append _ _

lemma expect_suffix {b : UInt8} {s rest : Bytes} (h : expect b s = some rest) : rest <:+ s := by
  cases s with
  | nil => cases h
  | cons c s =>
      rw [expect] at h
      split_ifs at h
      cases h
      exact List.suffix_cons c rest

lemma consumes_readMember {value : Bytes → Option (Json × Bytes)} (h : Consumes value) :
    Consumes (readMember value) := by
  rintro s ⟨key, v⟩ rest hr
  obtain ⟨s₁, s₂, s₃, h₁, h₂, h₃, h₄⟩ := readMember_iff.mp hr
  have hs₄ : rest <:+ s₃ := (h _ _ _ h₄).trans (skip_suffix s₃)
  have hs₃ : s₃ <:+ s₂ := (expect_suffix h₃).trans (skip_suffix s₂)
  have hs₂ : s₂ <:+ s₁ := (List.suffix_cons 34 s₂).trans (readString_suffix h₂)
  exact hs₄.trans (hs₃.trans (hs₂.trans (expect_suffix h₁)))

/-- A byte the text of a value can end in: a quote, a bracket, or the last byte of a word or of a
numeral. -/
def IsEnd (c : UInt8) : Prop :=
  c = 34 ∨ c = 125 ∨ c = 93 ∨ c = 101 ∨ c = 108 ∨ isNumeral c = true

/-- **A value is read up to the byte it ends in**, and what is left stands behind it. -/
lemma readValue_close {n : ℕ} {s rest : Bytes} {v : Json} (h : readValue n s = some (v, rest)) :
    ∃ c, IsEnd c ∧ c :: rest <:+ s := by
  induction n generalizing s v rest with
  | zero => cases h
  | succ n ih =>
  cases s with
  | nil => cases h
  | cons c s =>
      have hvalue : Consumes (readValue n) := by
        intro s v rest h
        obtain ⟨c, -, hsuffix⟩ := ih h
        exact (List.suffix_cons c rest).trans hsuffix
      rcases readValue_succ_iff.mp h with ⟨-, content, hs, -⟩ | ⟨-, ms, hms, -⟩ |
        ⟨-, vs, hvs, -⟩ | ⟨-, hword⟩
      · exact ⟨34, by simp [IsEnd], (readString_suffix hs).trans (List.suffix_cons c s)⟩
      · exact ⟨125, by simp [IsEnd],
          (readGroup_close (consumes_readMember hvalue) hms).trans (List.suffix_cons c s)⟩
      · exact ⟨93, by simp [IsEnd], (readGroup_close hvalue hvs).trans (List.suffix_cons c s)⟩
      · rcases readWord_cases hword with ⟨hs, -⟩ | ⟨hs, -⟩ | ⟨hs, -⟩ | ⟨m, hs, -, hm, hnum, -⟩
        · exact ⟨101, by simp [IsEnd], bytes "tru", hs.symm⟩
        · exact ⟨101, by simp [IsEnd], bytes "fals", hs.symm⟩
        · exact ⟨108, by simp [IsEnd], bytes "nul", hs.symm⟩
        · rcases List.eq_nil_or_concat' m with rfl | ⟨t, b, rfl⟩
          · cases hm
          · exact ⟨b, by simp [IsEnd, hnum b (by simp)], t, by rw [hs]; simp⟩

end Json

end FauxmoLinux
