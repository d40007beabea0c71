import Mathlib.Data.Nat.Digits.Lemmas
import FauxmoLinux.Base.Bytes

/-!
Reading and printing integers: `atoi`, `stol` in base 16, and the digits of `%d`, `%x`.

* `decimal`: the integer a C string starts with, after white space and a sign; `atoi` is that
  integer held inside the range of `int`, as `strtol` does on a target whose `long` has 32 bits;
  `decimal_append_cons` says where the reading ends, and `decimal_toDec_append` that it gives
  back what was printed;
* `toBase`: the digits of a number, most significant first;
* `hex02`: two hexadecimal digits at least, as `%02x` prints them; `hexDigitsVal_hex02` reads
  them back.
-/

namespace FauxmoLinux

/-! ### Reading -/

/-- `isspace` in the C locale. -/
def isSpace (c : UInt8) : Bool := c == 32 || (9 ≤ c && c ≤ 13)

/-- `isdigit`. -/
def isDigit (c : UInt8) : Bool := 48 ≤ c && c ≤ 57

/-- The digits at the front of a string, added to the value `acc` read so far. -/
def digitsVal (acc : ℕ) : Bytes → ℕ
  | [] => acc
  | c :: s => if isDigit c then digitsVal (10 * acc + (c.toNat - 48)) s else acc

lemma le_digitsVal (acc : ℕ) (s : Bytes) : acc ≤ digitsVal acc s := by
  induction s generalizing acc with
  | nil => exact le_rfl
  | cons c s ih =>
      rw [digitsVal]
      split
      · have hle := ih (10 * acc + (c.toNat - 48))
        omega
      · exact le_rfl

/-- The decimal integer a string starts with, `0` if it starts with none. -/
def decimal (s : Bytes) : ℤ :=
  match s.dropWhile isSpace with
  | 45 :: rest => -(digitsVal 0 rest)
  | 43 :: rest => digitsVal 0 rest
  | rest => digitsVal 0 rest

/-- The first byte that is not white space decides how a number is read. -/
lemma decimal_cons {c : UInt8} (h : isSpace c = false) (s : Bytes) :
    decimal (c :: s) = if c = 45 then -(digitsVal 0 s : ℤ) else
      if c = 43 then (digitsVal 0 s : ℤ) else digitsVal 0 (c :: s) := by
  rw [decimal, List.dropWhile_cons_of_neg (by simp [h])]
  split
  · rename_i rest heq
    obtain ⟨rfl, rfl⟩ := List.cons.inj heq
    rfl
  · rename_i rest heq
    obtain ⟨rfl, rfl⟩ := List.cons.inj heq
    rfl
  · rename_i hminus hplus
    have h45 : c ≠ 45 := fun hc => hminus s (by rw [hc])
    have h43 : c ≠ 43 := fun hc => hplus s (by rw [hc])
    rw [if_neg h45, if_neg h43]

/-- A text that starts with something else than a number is read as `0`. -/
lemma decimal_cons_of_not {c : UInt8} (hspace : isSpace c = false) (hdigit : isDigit c = false)
    (hminus : c ≠ 45) (hplus : c ≠ 43) (s : Bytes) : decimal (c :: s) = 0 := by
  rw [decimal_cons hspace, if_neg hminus, if_neg hplus, digitsVal, if_neg (by simp [hdigit])]
  rfl

/-- White space in front is passed over. -/
lemma decimal_append_of_space {ws : Bytes} (h : ∀ c ∈ ws, isSpace c = true) (s : Bytes) :
    decimal (ws ++ s) = decimal s := by
  rw [decimal, decimal, List.dropWhile_append_of_pos h]

/-- A digit is neither white space nor a sign. -/
lemma isSpace_of_isDigit {c : UInt8} (h : isDigit c = true) :
    isSpace c = false ∧ c ≠ 45 ∧ c ≠ 43 := by
  have h48 : (48 : UInt8).toNat = 48 := rfl
  have h13 : (13 : UInt8).toNat = 13 := rfl
  simp only [isDigit, Bool.and_eq_true, decide_eq_true_eq, UInt8.le_iff_toNat_le] at h
  refine ⟨?_, ?_, ?_⟩
  · simp only [isSpace, Bool.or_eq_false_iff, beq_eq_false_iff_ne, Bool.and_eq_false_iff,
      decide_eq_false_iff_not, UInt8.le_iff_toNat_le]
    refine ⟨?_, Or.inr (by omega)⟩
    rintro rfl
    simp at h
  · rintro rfl
    simp at h
  · rintro rfl
    simp at h

/-- Reading digits ends at a byte that is none. -/
lemma digitsVal_append_cons {c : UInt8} (hc : isDigit c = false) (acc : ℕ) (s t : Bytes) :
    digitsVal acc (s ++ c :: t) = digitsVal acc s := by
  induction s generalizing acc with
  | nil => simp [digitsVal, hc]
  | cons b s ih =>
      rw [List.cons_append, digitsVal, digitsVal]
      by_cases hb : isDigit b = true
      · rw [if_pos hb, if_pos hb, ih]
      · rw [if_neg hb, if_neg hb]

/-- What stands behind a byte that is no digit is not read, once the number has begun. -/
lemma decimal_cons_append_cons {b c : UInt8} (hb : isSpace b = false) (hc : isDigit c = false)
    (s t : Bytes) : decimal (b :: s ++ c :: t) = decimal (b :: s) := by
  rw [List.cons_append, decimal_cons hb, decimal_cons hb, digitsVal_append_cons hc,
    ← List.cons_append, digitsVal_append_cons hc]

/-- What stands behind a byte that is neither digit, sign nor white space is not read. -/
lemma decimal_append_cons {c : UInt8} (hc : isDigit c = false) (hspace : isSpace c = false)
    (hminus : c ≠ 45) (hplus : c ≠ 43) (s t : Bytes) : decimal (s ++ c :: t) = decimal s := by
  induction s with
  | nil => exact decimal_cons_of_not hspace hc hminus hplus t
  | cons b s ih =>
      cases hb : isSpace b with
      | true =>
          have hskip : ∀ t, decimal (b :: t) = decimal t := fun t =>
            @decimal_append_of_space [b] (by simpa using hb) t
          rw [List.cons_append, hskip, hskip, ih]
      | false => exact decimal_cons_append_cons hb hc s t

/-- `atoi`. -/
def atoi (s : Bytes) : ℤ := max (-2 ^ 31) (min (2 ^ 31 - 1) (decimal s))

lemma atoi_of_mem_range {s : Bytes} (h₁ : -2 ^ 31 ≤ decimal s) (h₂ : decimal s < 2 ^ 31) :
    atoi s = decimal s := by
  rw [atoi]
  omega

lemma atoi_eq_of_decimal {s t : Bytes} (h : decimal s = decimal t) : atoi s = atoi t := by
  rw [atoi, atoi, h]

/-- Behind a byte where reading ends a text may be cut. -/
lemma atoi_take_append_cons {c : UInt8} (hc : isDigit c = false) (hspace : isSpace c = false)
    (hminus : c ≠ 45) (hplus : c ≠ 43) {s : Bytes} {n : ℕ} (hn : s.length ≤ n) (t : Bytes) :
    atoi ((s ++ c :: t).take n) = atoi (s ++ c :: t) := by
  refine atoi_eq_of_decimal ?_
  rw [List.take_append, List.take_of_length_le hn, decimal_append_cons hc hspace hminus hplus]
  cases n - s.length with
  | zero => rw [List.take_zero, List.append_nil]
  | succ k => rw [List.take_succ_cons, decimal_append_cons hc hspace hminus hplus]

/-- An `int` stored in an `unsigned char` is its remainder modulo `256`. -/
lemma toNat_ofInt_uint8 (x : ℤ) : (UInt8.ofInt x).toNat = (x % 256).toNat := by
  have hlt : (x % 256).toNat < 256 := by omega
  simp [UInt8.ofInt, Nat.mod_eq_of_lt hlt]

lemma toNat_ofInt_uint16 (x : ℤ) : (UInt16.ofInt x).toNat = (x % 65536).toNat := by
  have hlt : (x % 65536).toNat < 65536 := by omega
  simp [UInt16.ofInt, Nat.mod_eq_of_lt hlt]

lemma ofInt_natCast_uint8 (n : ℕ) : UInt8.ofInt n = n.toUInt8 := by
  refine UInt8.toNat_inj.mp ?_
  rw [toNat_ofInt_uint8, show n.toUInt8.toNat = n % 256 by simp]
  omega

lemma ofInt_natCast_uint16 (n : ℕ) : UInt16.ofInt n = n.toUInt16 := by
  refine UInt16.toNat_inj.mp ?_
  rw [toNat_ofInt_uint16, show n.toUInt16.toNat = n % 65536 by simp]
  omega

lemma ofInt_uint8_eq_zero_iff {x : ℤ} : UInt8.ofInt x = 0 ↔ (256 : ℤ) ∣ x := by
  rw [← UInt8.toNat_inj, toNat_ofInt_uint8, UInt8.toNat_zero]
  omega

lemma ofInt_uint16_eq_zero_iff {x : ℤ} : UInt16.ofInt x = 0 ↔ (65536 : ℤ) ∣ x := by
  rw [← UInt16.toNat_inj, toNat_ofInt_uint16, UInt16.toNat_zero]
  omega

lemma toNat_sub_one_uint8 {b : UInt8} (h : b ≠ 0) : (b - 1).toNat = b.toNat - 1 := by
  have hpos : 1 ≤ b.toNat := Nat.one_le_iff_ne_zero.mpr fun h0 => h (UInt8.toNat_inj.mp h0)
  exact UInt8.toNat_sub_of_le b 1 (UInt8.le_iff_toNat_le.mpr hpos)

lemma ofInt_uint8_pos_iff {x : ℤ} : UInt8.ofInt x > 0 ↔ ¬ (256 : ℤ) ∣ x := by
  rw [gt_iff_lt, UInt8.lt_iff_toNat_lt, toNat_ofInt_uint8, UInt8.toNat_zero]
  omega

/-- The value of a hexadecimal digit. -/
def hexVal (c : UInt8) : Option ℕ :=
  if 48 ≤ c ∧ c ≤ 57 then some (c.toNat - 48)
  else if 97 ≤ c ∧ c ≤ 102 then some (c.toNat - 87)
  else if 65 ≤ c ∧ c ≤ 70 then some (c.toNat - 55)
  else none

lemma hexVal_lt {c : UInt8} {d : ℕ} (h : hexVal c = some d) : d < 16 := by
  rw [hexVal] at h
  split_ifs at h with h09 haf hAF
  · have hle : c.toNat ≤ 57 := h09.2
    cases h
    omega
  · have hle : c.toNat ≤ 102 := haf.2
    cases h
    omega
  · have hle : c.toNat ≤ 70 := hAF.2
    cases h
    omega

/-- The hexadecimal digits at the front of a string, added to the value `acc` read so far. -/
def hexDigitsVal (acc : ℕ) : Bytes → ℕ
  | [] => acc
  | c :: s =>
      match hexVal c with
      | some d => hexDigitsVal (16 * acc + d) s
      | none => acc

/-- The optional `0x` of a hexadecimal numeral: it belongs to the numeral only when a digit
follows it. -/
def dropHexPrefix : Bytes → Bytes
  | 48 :: 120 :: c :: s => if (hexVal c).isSome then c :: s else 48 :: 120 :: c :: s
  | 48 :: 88 :: c :: s => if (hexVal c).isSome then c :: s else 48 :: 88 :: c :: s
  | s => s

/-- The unsigned part of `stol(s, 0, 16)`: it throws when no digit can be read. -/
def hexNumeral (s : Bytes) : Except Fault ℕ :=
  match dropHexPrefix s with
  | [] => .error .invalidArgument
  | c :: rest =>
      if (hexVal c).isSome then .ok (hexDigitsVal 0 (c :: rest)) else .error .invalidArgument

/-- A value outside the 32 bits of a `long` makes `stol` throw. -/
def checkLong (v : ℤ) : Except Fault ℤ :=
  if -2 ^ 31 ≤ v ∧ v < 2 ^ 31 then .ok v else .error .outOfRange

/-- `std::stol(s, 0, 16)`. -/
def stol16 (s : Bytes) : Except Fault ℤ :=
  match s.dropWhile isSpace with
  | 45 :: rest => do checkLong (-(← hexNumeral rest))
  | 43 :: rest => do checkLong (← hexNumeral rest)
  | rest => do checkLong (← hexNumeral rest)

/-! ### Printing -/

/-- The digit `d` of a numeral, with `a` for ten on. -/
def digitChar (a : ℕ) (d : ℕ) : UInt8 := (if d < 10 then 48 + d else a + (d - 10)).toUInt8

/-- The numeral of `n` in base `b`, most significant digit first, letters from the code `a`
on. -/
def toBase (a b n : ℕ) : Bytes :=
  if n = 0 then [48] else ((Nat.digits b n).map (digitChar a)).reverse

/-- `%d` of a non-negative number. -/
def toDec (n : ℕ) : Bytes := toBase 97 10 n

/-- `%d`. -/
def intDec (i : ℤ) : Bytes := if i < 0 then 45 :: toDec i.natAbs else toDec i.natAbs

/-- `%02x`, or `%02X` when `upper`: at least two digits. -/
def hex02 (upper : Bool) (n : ℕ) : Bytes :=
  let digits := toBase (if upper then 65 else 97) 16 n
  List.replicate (2 - digits.length) 48 ++ digits

/-! ### Reading back what was printed -/

lemma hexVal_digitChar {a : ℕ} (ha : a = 65 ∨ a = 97) : ∀ d < 16,
    hexVal (digitChar a d) = some d := by
  rcases ha with rfl | rfl <;> decide

lemma hexDigitsVal_digits {a : ℕ} (ha : a = 65 ∨ a = 97) {ds : List ℕ} (hds : ∀ d ∈ ds, d < 16)
    (acc : ℕ) (s : Bytes) :
    hexDigitsVal acc ((ds.map (digitChar a)).reverse ++ s) =
      hexDigitsVal (16 ^ ds.length * acc + Nat.ofDigits 16 ds) s := by
  induction ds generalizing s with
  | nil => simp
  | cons d ds ih =>
      have hd : hexVal (digitChar a d) = some d := hexVal_digitChar ha d (hds d (by simp))
      have hval : 16 * (16 ^ ds.length * acc + Nat.ofDigits 16 ds) + d =
          16 ^ (ds.length + 1) * acc + (d + 16 * Nat.ofDigits 16 ds) := by ring
      rw [List.map_cons, List.reverse_cons, List.append_assoc, List.singleton_append,
        ih (fun e he => hds e (by simp [he])), hexDigitsVal, hd, Nat.ofDigits_cons,
        List.length_cons, ← hval]

/-- Reading `%02x` or `%02X` gives the number back and goes on behind it. -/
lemma hexDigitsVal_hex02 (upper : Bool) (n : ℕ) (s : Bytes) :
    hexDigitsVal 0 (hex02 upper n ++ s) = hexDigitsVal n s := by
  have hzero : hexVal 48 = some 0 := by decide
  have hpad : ∀ k (t : Bytes), hexDigitsVal 0 (List.replicate k 48 ++ t) = hexDigitsVal 0 t := by
    intro k t
    induction k with
    | zero => rfl
    | succ k ih => rw [List.replicate_succ, List.cons_append, hexDigitsVal, hzero, ← ih]
  rw [hex02, List.append_assoc, hpad, toBase]
  split
  · rename_i h0
    rw [h0, List.singleton_append, hexDigitsVal, hzero]
  · rw [hexDigitsVal_digits (by cases upper <;> simp)
      fun d hd => Nat.digits_lt_base (by norm_num) hd]
    simp [Nat.ofDigits_digits]

/-- The digits of a number are read back, up to the first byte that is none. -/
lemma digitsVal_digits {ds : List ℕ} (hds : ∀ d ∈ ds, d < 10) (acc : ℕ) (s : Bytes) :
    digitsVal acc ((ds.map (digitChar 97)).reverse ++ s) =
      digitsVal (10 ^ ds.length * acc + Nat.ofDigits 10 ds) s := by
  have hchar : ∀ d < 10, isDigit (digitChar 97 d) = true ∧ (digitChar 97 d).toNat - 48 = d := by
    decide
  induction ds generalizing s with
  | nil => simp
  | cons d ds ih =>
      obtain ⟨hdig, hsub⟩ := hchar d (hds d (by simp))
      have hval : 10 * (10 ^ ds.length * acc + Nat.ofDigits 10 ds) + d =
          10 ^ (ds.length + 1) * acc + (d + 10 * Nat.ofDigits 10 ds) := by ring
      rw [List.map_cons, List.reverse_cons, List.append_assoc, List.singleton_append,
        ih (fun e he => hds e (by simp [he])), digitsVal, if_pos hdig, hsub, Nat.ofDigits_cons,
        List.length_cons, ← hval]

/-- A numeral is read back, and reading goes on behind it. -/
lemma digitsVal_toDec (n : ℕ) (s : Bytes) : digitsVal 0 (toDec n ++ s) = digitsVal n s := by
  rw [toDec, toBase]
  split
  · rename_i h0
    rw [h0, List.singleton_append, digitsVal, if_pos (by decide)]
    rfl
  · rw [digitsVal_digits fun d hd => Nat.digits_lt_base (by norm_num) hd]
    simp [Nat.ofDigits_digits]

/-- A numeral consists of digits. -/
lemma isDigit_of_mem_toDec {n : ℕ} {c : UInt8} (h : c ∈ toDec n) : isDigit c = true := by
  have hchar : ∀ d < 10, isDigit (digitChar 97 d) = true := by decide
  rw [toDec, toBase] at h
  split at h
  · rw [List.mem_singleton.mp h]
    decide
  · obtain ⟨d, hd, rfl⟩ := List.mem_map.mp (List.mem_reverse.mp h)
    exact hchar d (Nat.digits_lt_base (by norm_num) hd)

lemma toDec_ne_nil (n : ℕ) : toDec n ≠ [] := by
  rw [toDec, toBase]
  split
  · simp
  · rename_i h0
    simp [Nat.digits_eq_nil_iff_eq_zero, h0]

/-- A printed number is read back, up to the first byte that is no digit. -/
lemma decimal_toDec_append {s : Bytes} (h : ∀ c ∈ s.head?, isDigit c = false) (n : ℕ) :
    decimal (toDec n ++ s) = n := by
  have hval : digitsVal 0 (toDec n ++ s) = n := by
    rw [digitsVal_toDec]
    cases s with
    | nil => rfl
    | cons c s =>
        have hc : isDigit c = false := h c rfl
        rw [digitsVal, if_neg (by simp [hc])]
  cases hdec : toDec n with
  | nil => exact absurd hdec (toDec_ne_nil n)
  | cons c rest =>
      have hdig : isDigit c = true := isDigit_of_mem_toDec (n := n) (hdec ▸ List.mem_cons_self)
      obtain ⟨hspace, hminus, hplus⟩ := isSpace_of_isDigit hdig
      rw [hdec, List.cons_append] at hval
      rw [List.cons_append, decimal_cons hspace, if_neg hminus, if_neg hplus, hval]

/-- Numerals of different numbers differ. -/
lemma toDec_injective : Function.Injective toDec := by
  intro n m h
  have hn : decimal (toDec n) = n := by
    simpa using decimal_toDec_append (s := []) (by simp) n
  have hm : decimal (toDec m) = m := by
    simpa using decimal_toDec_append (s := []) (by simp) m
  rw [h, hm] at hn
  exact_mod_cast hn.symm

lemma length_hex02_le {upper : Bool} {n k : ℕ} (hk : 2 ≤ k) (h : n < 16 ^ k) :
    (hex02 upper n).length ≤ k := by
  have hdig : (Nat.digits 16 n).length ≤ k :=
    (Nat.digits_length_le_iff (by norm_num) n).mpr h
  rw [hex02, toBase]
  split <;> simp <;> omega

lemma length_toDec_le {n k : ℕ} (hk : 1 ≤ k) (h : n < 10 ^ k) : (toDec n).length ≤ k := by
  have hdig : (Nat.digits 10 n).length ≤ k :=
    (Nat.digits_length_le_iff (by norm_num) n).mpr h
  rw [toDec, toBase]
  split <;> simp <;> omega

/-- A 32-bit number needs ten digits and a sign. -/
lemma length_intDec_le {i : ℤ} (h : i.natAbs < 2 ^ 32) : (intDec i).length ≤ 11 := by
  have hlen : (toDec i.natAbs).length ≤ 10 := length_toDec_le (by norm_num) (by omega)
  rw [intDec]
  split
  · rw [List.length_cons]
    omega
  · omega

lemma intDec_natCast (n : ℕ) : intDec n = toDec n := by
  rw [intDec, if_neg (by omega), Int.natAbs_natCast]

/-- A hexadecimal numeral consists of digits. -/
lemma exists_digit_of_mem_hex02 {upper : Bool} {n : ℕ} {c : UInt8} (h : c ∈ hex02 upper n) :
    ∃ d < 16, digitChar (if upper then 65 else 97) d = c := by
  rw [hex02, toBase] at h
  rcases List.mem_append.mp h with h | h
  · exact ⟨0, by norm_num, (List.eq_of_mem_replicate h).symm⟩
  · split at h
    · exact ⟨0, by norm_num, (List.mem_singleton.mp h).symm⟩
    · obtain ⟨d, hd, rfl⟩ := List.mem_map.mp (List.mem_reverse.mp h)
      exact ⟨d, Nat.digits_lt_base (by norm_num) hd, rfl⟩

/-- The numeral of an `int` consists of digits and perhaps a sign. -/
lemma eq_or_isDigit_of_mem_intDec {i : ℤ} {c : UInt8} (h : c ∈ intDec i) :
    c = 45 ∨ isDigit c = true := by
  rw [intDec] at h
  split at h
  · exact (List.mem_cons.mp h).imp_right isDigit_of_mem_toDec
  · exact .inr (isDigit_of_mem_toDec h)

/-- Numerals contain no NUL. -/
lemma zero_notMem_hex02 (upper : Bool) (n : ℕ) : (0 : UInt8) ∉ hex02 upper n := by
  have hchar : ∀ d < 16, digitChar (if upper then 65 else 97) d ≠ 0 := by
    cases upper <;> decide
  intro h
  obtain ⟨d, hd, h0⟩ := exists_digit_of_mem_hex02 h
  exact hchar d hd h0

lemma zero_notMem_toDec (n : ℕ) : (0 : UInt8) ∉ toDec n := by
  intro h
  cases isDigit_of_mem_toDec h

lemma zero_notMem_intDec (i : ℤ) : (0 : UInt8) ∉ intDec i := by
  intro h
  rcases eq_or_isDigit_of_mem_intDec h with h | h <;> cases h

end FauxmoLinux
