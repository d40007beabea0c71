import FauxmoLinux.Base.Numeral

/-!
`snprintf`: format strings cut into pieces, and their text for a list of arguments.

* `Piece`, `strlen`: a format string as the sequence of its literal parts and conversions, and
  the length of its source text, which the program adds to when it sizes a buffer;
* `sprintf`, `snprintf`: the formatted text, whole and cut to a buffer; it contains no NUL
  (`zero_notMem_sprintf`);
* `Arg.width`, `length_sprintf_le`, `snprintf_of_slack`: the length of formatted text without
  hexadecimal conversions, and the slack a buffer needs beside its format string.
-/

namespace FauxmoLinux

/-- A piece of a format string: literal text, `%d`, `%s`, or `%02x` (`%02X` when `upper`). -/
inductive Piece where
  | lit (s : Bytes)
  | dec
  | str
  | hex (upper : Bool)
  deriving DecidableEq, Repr

/-- An argument of a format string. -/
inductive Arg where
  | int (i : ℤ)
  | cstr (s : Bytes)
  deriving DecidableEq, Repr

/-- The length of the source text of a piece. -/
def Piece.strlen : Piece → ℕ
  | .lit s => s.length
  | .dec => 2
  | .str => 2
  | .hex _ => 4

/-- `strlen` of a format string. -/
def strlen (t : List Piece) : ℕ := (t.map Piece.strlen).sum

/-- `sprintf`. The last case, an argument that does not fit its conversion, does not occur. -/
def sprintf : List Piece → List Arg → Bytes
  | [], _ => []
  | .lit s :: t, args => s ++ sprintf t args
  | .dec :: t, .int i :: args => intDec i ++ sprintf t args
  | .str :: t, .cstr s :: args => s ++ sprintf t args
  | .hex upper :: t, .int i :: args => hex02 upper i.toNat ++ sprintf t args
  | _ :: _, _ => []

/-- `snprintf` into a buffer of `size` bytes: one byte is kept for the terminator. -/
def snprintf (size : ℕ) (t : List Piece) (args : List Arg) : Bytes :=
  (sprintf t args).take (size - 1)

/-- Text that fits is not cut. -/
lemma snprintf_of_length_lt {size : ℕ} {t : List Piece} {args : List Arg}
    (h : (sprintf t args).length < size) : snprintf size t args = sprintf t args :=
  List.take_of_length_le (by omega)

/-- The length of an argument of `%d` or `%s` as text. -/
def Arg.width : Arg → ℕ
  | .int i => (intDec i).length
  | .cstr s => s.length

@[simp] lemma Arg.width_int (i : ℤ) : (Arg.int i).width = (intDec i).length := rfl

@[simp] lemma Arg.width_cstr (s : Bytes) : (Arg.cstr s).width = s.length := rfl

/-- The piece is no hexadecimal conversion. -/
def Piece.plain : Piece → Bool
  | .hex _ => false
  | _ => true

/-- Formatted text is longer than its format string by what the arguments are wider than their
conversions. -/
lemma length_sprintf_le {t : List Piece} (ht : t.all Piece.plain = true) (args : List Arg) :
    (sprintf t args).length ≤ strlen t + (args.map fun a => a.width - 2).sum := by
  have hlit : ∀ (s : Bytes) (t : List Piece), strlen (.lit s :: t) = s.length + strlen t :=
    fun _ _ => List.sum_cons
  have hdec : ∀ t : List Piece, strlen (.dec :: t) = 2 + strlen t := fun _ => List.sum_cons
  have hstr : ∀ t : List Piece, strlen (.str :: t) = 2 + strlen t := fun _ => List.sum_cons
  fun_induction sprintf t args with
  | case1 => exact Nat.zero_le _
  | case2 s t args ih =>
      have hle := ih ht
      rw [List.length_append, hlit]
      omega
  | case3 t i args ih =>
      have hle := ih ht
      rw [List.length_append, hdec, List.map_cons, List.sum_cons, Arg.width_int]
      omega
  | case4 t s args ih =>
      have hle := ih ht
      rw [List.length_append, hstr, List.map_cons, List.sum_cons, Arg.width_cstr]
      omega
  | case5 upper t i args ih => cases ht
  | case6 => exact Nat.zero_le _

/-- **A buffer as long as the format string and some slack** holds arguments that are wider than
their conversions by less than the slack. -/
lemma snprintf_of_slack {t : List Piece} (ht : t.all Piece.plain = true) {args : List Arg}
    {slack : ℕ} (h : (args.map fun a => a.width - 2).sum < slack) :
    snprintf (strlen t + slack) t args = sprintf t args := by
  have hle := length_sprintf_le ht args
  exact snprintf_of_length_lt (by omega)

/-- The literal part contains no NUL. -/
def Piece.NulFree : Piece → Prop
  | .lit s => (0 : UInt8) ∉ s
  | _ => True

instance : DecidablePred Piece.NulFree
  | .lit s => inferInstanceAs (Decidable ((0 : UInt8) ∉ s))
  | .dec => isTrue trivial
  | .str => isTrue trivial
  | .hex _ => isTrue trivial

/-- Formatted text contains no NUL when the literal parts and the strings put in have none. -/
lemma zero_notMem_sprintf {t : List Piece} {args : List Arg} (ht : ∀ p ∈ t, p.NulFree)
    (ha : ∀ s, .cstr s ∈ args → (0 : UInt8) ∉ s) : (0 : UInt8) ∉ sprintf t args := by
  fun_induction sprintf t args with
  | case1 => simp
  | case2 s t args ih =>
      rw [List.mem_append, not_or]
      exact ⟨ht (.lit s) (by simp), ih (fun p hp => ht p (by simp [hp])) ha⟩
  | case3 t i args ih =>
      rw [List.mem_append, not_or]
      exact ⟨zero_notMem_intDec i, ih (fun p hp => ht p (by simp [hp]))
        fun s hs => ha s (by simp [hs])⟩
  | case4 t s args ih =>
      rw [List.mem_append, not_or]
      exact ⟨ha s (by simp), ih (fun p hp => ht p (by simp [hp]))
        fun s hs => ha s (by simp [hs])⟩
  | case5 upper t i args ih =>
      rw [List.mem_append, not_or]
      exact ⟨zero_notMem_hex02 upper i.toNat, ih (fun p hp => ht p (by simp [hp]))
        fun s hs => ha s (by simp [hs])⟩
  | case6 => simp

end FauxmoLinux
