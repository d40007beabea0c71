import FauxmoLinux.Base.Numeral

/-!
The characters of JSON strings, byte by byte, after RFC 8259.

* `Utf8`, `IsUtf8`: a reader of UTF-8 that takes a byte at a time, and the texts it accepts;
* `charStep`, `Content`: the bytes between the quotes of a string, escapes and surrogate pairs
  included, and what they stand for;
* `length_content`: escapes are longer than what they stand for;
* `Plain`, `plain_of_content_self`: the texts that stand for themselves are those without
  escapes.
-/

namespace FauxmoLinux.Json

/-! ### Reading characters -/

/-- Where a reader of UTF-8 stands: between characters, or before `n + 1` more bytes of one, the
next of which lies between two bounds. -/
inductive Utf8 where
  | start
  | cont (n : ℕ) (lo hi : UInt8) (h : 128 ≤ lo)
  deriving DecidableEq

/-- The next byte of a UTF-8 text. -/
def Utf8.step : Utf8 → UInt8 → Option Utf8
  | .start, c =>
      if c < 0x80 then some .start
      else if c < 0xc2 then none
      else if c < 0xe0 then some (.cont 0 0x80 0xbf (by decide))
      else if c = 0xe0 then some (.cont 1 0xa0 0xbf (by decide))
      else if c = 0xed then some (.cont 1 0x80 0x9f (by decide))
      else if c < 0xf0 then some (.cont 1 0x80 0xbf (by decide))
      else if c = 0xf0 then some (.cont 2 0x90 0xbf (by decide))
      else if c < 0xf4 then some (.cont 2 0x80 0xbf (by decide))
      else if c = 0xf4 then some (.cont 2 0x80 0x8f (by decide))
      else none
  | .cont n lo hi _, c =>
      if lo ≤ c ∧ c ≤ hi then
        match n with
        | 0 => some .start
        | n + 1 => some (.cont n 0x80 0xbf (by decide))
      else none

/-- Well-formed UTF-8. -/
def IsUtf8 (s : Bytes) : Prop := s.foldlM Utf8.step .start = some .start

/-- The UTF-8 bytes of a code point. -/
def encode (code : ℕ) : Bytes :=
  if code < 0x80 then [code.toUInt8]
  else if code < 0x800 then [(0xc0 + code / 64).toUInt8, (0x80 + code % 64).toUInt8]
  else if code < 0x10000 then
    [(0xe0 + code / 4096).toUInt8, (0x80 + code / 64 % 64).toUInt8, (0x80 + code % 64).toUInt8]
  else
    [(0xf0 + code / 262144).toUInt8, (0x80 + code / 4096 % 64).toUInt8,
      (0x80 + code / 64 % 64).toUInt8, (0x80 + code % 64).toUInt8]

/-- Where a reader of a string stands: in plain text, behind a backslash, before `n + 1` more
digits of an escape, or before the second half of a surrogate pair. -/
inductive Scan where
  | text (u : Utf8)
  | escape
  | hex (n acc : ℕ) (high : Option ℕ)
  | pair (high : ℕ)
  | pairU (high : ℕ)
  deriving DecidableEq

/-- The character a backslash and a byte stand for. -/
def unescape (c : UInt8) : Option UInt8 :=
  if c = 34 ∨ c = 92 ∨ c = 47 then some c
  else if c = 98 then some 8
  else if c = 102 then some 12
  else if c = 110 then some 10
  else if c = 114 then some 13
  else if c = 116 then some 9
  else none

/-- The end of an escape of four digits: a character, or one half of a pair. -/
def codeUnit (code : ℕ) : Option ℕ → Except Unit (Scan × Bytes)
  | none =>
      if 0xd800 ≤ code ∧ code < 0xdc00 then .ok (.pair code, [])
      else if 0xdc00 ≤ code ∧ code < 0xe000 then .error ()
      else .ok (.text .start, encode code)
  | some high =>
      if 0xdc00 ≤ code ∧ code < 0xe000 then
        .ok (.text .start, encode (0x10000 + (high - 0xd800) * 1024 + (code - 0xdc00)))
      else .error ()

/-- The next byte between the quotes of a string, and what it adds to the content. -/
def charStep : Scan → UInt8 → Except Unit (Scan × Bytes)
  | .text u, c =>
      if c = 92 ∧ u = .start then .ok (.escape, [])
      else if c < 32 ∨ c = 34 then .error ()
      else
        match u.step c with
        | some u => .ok (.text u, [c])
        | none => .error ()
  | .escape, c =>
      if c = 117 then .ok (.hex 3 0 none, [])
      else
        match unescape c with
        | some b => .ok (.text .start, [b])
        | none => .error ()
  | .hex n acc high, c =>
      match hexVal c with
      | none => .error ()
      | some d =>
          match n with
          | 0 => codeUnit (16 * acc + d) high
          | n + 1 => .ok (.hex n (16 * acc + d) high, [])
  | .pair high, c => if c = 92 then .ok (.pairU high, []) else .error ()
  | .pairU high, c => if c = 117 then .ok (.hex 3 0 (some high), []) else .error ()

/-- The text stands for the content between quotes. -/
def Content (raw content : Bytes) : Prop :=
  runs charStep (.text .start) raw = .ok (.text .start, content)

/-- The text stands for itself between quotes: UTF-8 without quotes, backslashes and control
characters. -/
def Plain (s : Bytes) : Prop := IsUtf8 s ∧ ∀ c ∈ s, 32 ≤ c ∧ c ≠ 34 ∧ c ≠ 92

instance (s : Bytes) : Decidable (IsUtf8 s) := inferInstanceAs (Decidable (_ = _))

instance (s : Bytes) : Decidable (Plain s) := inferInstanceAs (Decidable (_ ∧ _))

/-- Bytes that need no escape go through as they are. -/
lemma runs_charStep_of_plain {u u' : Utf8} {s : Bytes} (hu : s.foldlM Utf8.step u = some u')
    (hs : ∀ c ∈ s, 32 ≤ c ∧ c ≠ 34 ∧ c ≠ 92) :
    runs charStep (.text u) s = .ok (.text u', s) := by
  induction s generalizing u with
  | nil =>
      cases hu
      rfl
  | cons c s ih =>
      obtain ⟨hctl, hquote, hback⟩ := hs c List.mem_cons_self
      obtain ⟨u₁, hc, hrest⟩ : ∃ u₁, u.step c = some u₁ ∧ s.foldlM Utf8.step u₁ = some u' := by
        exact Option.bind_eq_some_iff.mp hu
      have hbad : ¬ (c < 32 ∨ c = 34) := not_or.mpr ⟨UInt8.not_lt.mpr hctl, hquote⟩
      have hstep : charStep (.text u) c = .ok (.text u₁, [c]) := by
        rw [charStep, if_neg (fun h => hback h.1), if_neg hbad, hc]
      exact runs_cons_ok.mpr
        ⟨_, _, _, hstep, ih hrest (fun d hd => hs d (List.mem_cons_of_mem _ hd)), rfl⟩

lemma Plain.content {s : Bytes} (h : Plain s) : Content s s := runs_charStep_of_plain h.1 h.2

/-- A character without a backslash is one byte of plain text. -/
lemma charStep_text_ok {u : Utf8} {c : UInt8} {scan : Scan} {o : Bytes} (hc : c ≠ 92)
    (h : charStep (.text u) c = .ok (scan, o)) :
    ∃ u', u.step c = some u' ∧ scan = .text u' ∧ o = [c] ∧ 32 ≤ c ∧ c ≠ 34 := by
  rw [charStep, if_neg (fun hb => hc hb.1)] at h
  by_cases hbad : c < 32 ∨ c = 34
  · rw [if_pos hbad] at h
    cases h
  · rw [if_neg hbad] at h
    obtain ⟨hctl, hquote⟩ := not_or.mp hbad
    cases hu : u.step c with
    | none =>
        rw [hu] at h
        cases h
    | some u' =>
        rw [hu] at h
        cases h
        exact ⟨u', rfl, rfl, rfl, UInt8.not_lt.mp hctl, hquote⟩

/-- Without a backslash the content is the text, and the text is plain. -/
lemma plain_of_runs {u : Utf8} {s o : Bytes} {scan : Scan} (hs : (92 : UInt8) ∉ s)
    (h : runs charStep (.text u) s = .ok (scan, o)) :
    o = s ∧ (∃ u', scan = .text u' ∧ s.foldlM Utf8.step u = some u') ∧
      ∀ c ∈ s, 32 ≤ c ∧ c ≠ 34 ∧ c ≠ 92 := by
  induction s generalizing u o with
  | nil =>
      cases h
      exact ⟨rfl, ⟨u, rfl, rfl⟩, by simp⟩
  | cons c s ih =>
      obtain ⟨hne, hs⟩ := List.ne_and_not_mem_of_not_mem_cons hs
      obtain ⟨scan₁, o₁, o₂, hc, hrest, rfl⟩ := runs_cons_ok.mp h
      obtain ⟨u₁, hu, rfl, rfl, hctl, hquote⟩ := charStep_text_ok (Ne.symm hne) hc
      obtain ⟨rfl, ⟨u', rfl, hfold⟩, hall⟩ := ih hs hrest
      refine ⟨rfl, ⟨u', rfl, ?_⟩, ?_⟩
      · rw [List.foldlM_cons, hu]
        exact hfold
      · intro d hd
        rcases List.mem_cons.mp hd with rfl | hd
        · exact ⟨hctl, hquote, Ne.symm hne⟩
        · exact hall d hd

/-- The number of bytes read of a character that is not complete. -/
def Scan.held : Scan → ℕ
  | .text _ => 0
  | .escape => 1
  | .hex n _ none => 5 - n
  | .pair _ => 6
  | .pairU _ => 7
  | .hex n _ (some _) => 11 - n

lemma length_encode_le (code : ℕ) : (encode code).length ≤ 4 := by
  rw [encode]
  split_ifs <;> simp

/-- Inside a character of several bytes there is no byte below `128`. -/
lemma Utf8.step_eq_some {u u' : Utf8} {c : UInt8} (h : u.step c = some u') :
    u = .start ∨ 128 ≤ c := by
  cases u with
  | start => exact Or.inl rfl
  | cont n lo hi hlo =>
      rw [Utf8.step.eq_def] at h
      by_cases hin : lo ≤ c ∧ c ≤ hi
      · exact Or.inr (UInt8.le_trans hlo hin.1)
      · simp [hin] at h

/-- The last digit of an escape writes a character or leads to the second half of a pair. -/
lemma codeUnit_ok {code : ℕ} {high : Option ℕ} {scan : Scan} {o : Bytes}
    (h : codeUnit code high = .ok (scan, o)) :
    scan = .text .start ∧ o.length ≤ 4 ∨ high = none ∧ o = [] ∧ scan = .pair code := by
  cases high with
  | none =>
      rw [codeUnit] at h
      split_ifs at h
      · cases h
        exact Or.inr ⟨rfl, rfl, rfl⟩
      · cases h
        exact Or.inl ⟨rfl, length_encode_le _⟩
  | some high =>
      rw [codeUnit] at h
      split_ifs at h
      cases h
      exact Or.inl ⟨rfl, length_encode_le _⟩

/-- A character writes no more than was read of it, and an escape less. -/
lemma charStep_held {scan scan' : Scan} {c : UInt8} {o : Bytes}
    (h : charStep scan c = .ok (scan', o)) :
    o.length + scan'.held ≤ scan.held + 1 ∧
      ((∃ u, scan = .text u) ∧ c ≠ 92 ∨ o.length + scan'.held < scan.held + 1 ∨
        ∀ u, scan' ≠ .text u) := by
  cases scan with
  | text u =>
      by_cases hb : c = 92 ∧ u = .start
      · rw [charStep, if_pos hb] at h
        cases h
        exact ⟨le_rfl, Or.inr (Or.inr fun u hu => nomatch hu)⟩
      · rw [charStep, if_neg hb] at h
        split at h
        · cases h
        · cases hu : u.step c with
          | none =>
              rw [hu] at h
              cases h
          | some u' =>
              rw [hu] at h
              cases h
              refine ⟨le_rfl, Or.inl ⟨⟨u, rfl⟩, fun hc => ?_⟩⟩
              rcases Utf8.step_eq_some hu with hstart | hge
              · exact hb ⟨hc, hstart⟩
              · rw [hc] at hge
                exact absurd hge (by decide)
  | escape =>
      rw [charStep] at h
      split at h
      · cases h
        exact ⟨le_rfl, Or.inr (Or.inr fun u hu => nomatch hu)⟩
      · cases hu : unescape c with
        | none =>
            rw [hu] at h
            cases h
        | some b =>
            rw [hu] at h
            cases h
            exact ⟨Nat.le_succ 1, Or.inr (Or.inl (Nat.lt_succ_self 1))⟩
  | hex n acc high =>
      rw [charStep] at h
      cases hd : hexVal c with
      | none =>
          rw [hd] at h
          cases h
      | some d =>
          rw [hd] at h
          cases n with
          | zero =>
              rcases codeUnit_ok h with ⟨rfl, hlen⟩ | ⟨rfl, rfl, rfl⟩
              · have hheld : o.length + (Scan.text .start).held <
                    (Scan.hex 0 acc high).held + 1 := by
                  cases high <;> simp [Scan.held] <;> omega
                exact ⟨hheld.le, Or.inr (Or.inl hheld)⟩
              · exact ⟨le_rfl, Or.inr (Or.inr fun u hu => nomatch hu)⟩
          | succ n =>
              cases h
              refine ⟨?_, Or.inr (Or.inr fun u hu => nomatch hu)⟩
              cases high <;> simp [Scan.held] <;> omega
  | pair high =>
      rw [charStep] at h
      split at h
      · cases h
        exact ⟨le_rfl, Or.inr (Or.inr fun u hu => nomatch hu)⟩
      · cases h
  | pairU high =>
      rw [charStep] at h
      split at h
      · cases h
        exact ⟨le_rfl, Or.inr (Or.inr fun u hu => nomatch hu)⟩
      · cases h

/-- **Escapes are longer than what they stand for.** -/
lemma length_content {raw o : Bytes} {scan : Scan}
    (h : runs charStep (.text .start) raw = .ok (scan, o)) :
    o.length + scan.held ≤ raw.length ∧
      (92 ∈ raw → (∀ u, scan ≠ .text u) ∨ o.length + scan.held < raw.length) := by
  refine runs_history (I := fun l scan (o : Bytes) => o.length + scan.held ≤ l.length ∧
    (92 ∈ l → (∀ u, scan ≠ .text u) ∨ o.length + scan.held < l.length)) ?_ (l := []) (o := [])
    ⟨le_rfl, by simp⟩ h
  rintro l scan o c scan' o' ⟨hle, hlt⟩ hc
  obtain ⟨hle', hstrict⟩ := charStep_held hc
  simp only [List.length_append, List.length_singleton, List.mem_append, List.mem_singleton]
  refine ⟨by omega, fun hmem => ?_⟩
  rcases hstrict with ⟨⟨u, rfl⟩, hne⟩ | hlt' | hnot
  · have hmem' : 92 ∈ l := hmem.resolve_right (fun h => hne h.symm)
    have := (hlt hmem').resolve_left (fun h => h u rfl)
    exact Or.inr (by omega)
  · exact Or.inr (by omega)
  · exact Or.inl hnot

/-- A text that is its own content is plain. -/
lemma plain_of_content_self {s : Bytes} (h : Content s s) : Plain s := by
  have hback : (92 : UInt8) ∉ s := fun hmem => by
    rcases (length_content h).2 hmem with hnot | hlt
    · exact hnot _ rfl
    · simp [Scan.held] at hlt
  obtain ⟨-, ⟨u', hu, hfold⟩, hall⟩ := plain_of_runs hback h
  cases hu
  exact ⟨hfold, hall⟩

/-- A quote is part of a string only behind a backslash. -/
lemma charStep_quote {scan scan' : Scan} {o : Bytes} (h : charStep scan 34 = .ok (scan', o)) :
    scan = .escape ∧ scan' = .text .start ∧ o = [34] := by
  cases scan with
  | text u => simp [charStep] at h
  | escape =>
      have hstep : charStep .escape 34 = .ok (.text .start, [34]) := rfl
      rw [hstep] at h
      cases h
      exact ⟨rfl, rfl, rfl⟩
  | hex n acc high =>
      have hval : hexVal 34 = none := by decide
      rw [charStep, hval] at h
      cases h
  | pair high => simp [charStep] at h
  | pairU high => simp [charStep] at h

/-- What leads behind a backslash is a backslash. -/
lemma eq_backslash_of_escape {scan : Scan} {c : UInt8} {o : Bytes}
    (h : charStep scan c = .ok (.escape, o)) : c = 92 := by
  by_contra hc
  cases scan with
  | text u =>
      obtain ⟨u', -, hu, -⟩ := charStep_text_ok hc h
      cases hu
  | escape =>
      rw [charStep] at h
      split at h
      · cases h
      · cases hu : unescape c <;> simp [hu] at h
  | hex n acc high =>
      rw [charStep] at h
      cases hd : hexVal c with
      | none => simp [hd] at h
      | some d =>
          rw [hd] at h
          cases n with
          | zero => rcases codeUnit_ok h with ⟨hs, -⟩ | ⟨-, -, hs⟩ <;> cases hs
          | succ n => cases h
  | pair high => simp [charStep, hc] at h
  | pairU high =>
      rw [charStep] at h
      split at h <;> cases h

end FauxmoLinux.Json
