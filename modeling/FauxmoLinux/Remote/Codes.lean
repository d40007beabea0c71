import FauxmoLinux.Remote.Table

/-!
Command tables as they are written, and what `get_remote_control` makes of them.

* `HexCode`, `CommandTable`: bytes written `0xNN`, with the digits in either case, and tables of
  them under distinct names;
* `getlines_intercalate`: the splitting loop gives back the pieces that were joined;
* `stol16_text`: `std::stol` in base 16 gives back the byte;
* `dyonTable_text`: one of them is the DYON table of the source;
* `getRemoteControlOf_text`: every table is decoded into its bytes behind the two bytes that address
  the module, name by name.
-/

namespace FauxmoLinux

/-! ### Bytes as they are written -/

/-- A byte as the tables write it, behind `0x`. -/
structure HexCode where
  high : UInt8
  low : UInt8
  high_digit : (hexVal high).isSome = true
  low_digit : (hexVal low).isSome = true

namespace HexCode

def text (c : HexCode) : Bytes := bytes "0x" ++ [c.high, c.low]

/-- The byte that is written. -/
def byte (c : HexCode) : UInt8 :=
  (16 * (hexVal c.high).getD 0 + (hexVal c.low).getD 0).toUInt8

/-- A byte in small letters. -/
def ofByte (b : UInt8) : HexCode where
  high := digitChar 97 (b.toNat / 16)
  low := digitChar 97 (b.toNat % 16)
  high_digit := by
    rw [hexVal_digitChar (.inr rfl) _ (Nat.div_lt_of_lt_mul b.toNat_lt)]
    rfl
  low_digit := by
    rw [hexVal_digitChar (.inr rfl) _ (Nat.mod_lt _ (by norm_num))]
    rfl

lemma text_eq (c : HexCode) : c.text = [48, 120, c.high, c.low] := rfl

/-- No byte is written with a comma. -/
lemma comma_notMem_text (c : HexCode) : 44 ∉ c.text := by
  intro hmem
  have hcomma : (hexVal 44).isSome = false := rfl
  rw [text_eq, List.mem_cons, List.mem_cons, List.mem_cons, List.mem_singleton] at hmem
  rcases hmem with h | h | h | h
  · exact absurd h (by decide)
  · exact absurd h (by decide)
  · exact absurd c.high_digit (by rw [← h, hcomma]; exact Bool.false_ne_true)
  · exact absurd c.low_digit (by rw [← h, hcomma]; exact Bool.false_ne_true)

/-- `std::stol` reads the byte that is written. -/
lemma stol16_text (c : HexCode) : stol16 c.text = .ok c.byte.toNat := by
  obtain ⟨x, hx⟩ := Option.isSome_iff_exists.mp c.high_digit
  obtain ⟨y, hy⟩ := Option.isSome_iff_exists.mp c.low_digit
  have hx16 := hexVal_lt hx
  have hy16 := hexVal_lt hy
  have hprefix : dropHexPrefix c.text = [c.high, c.low] := if_pos c.high_digit
  have hnumeral : hexNumeral c.text = .ok (16 * x + y) := by
    have hval : hexDigitsVal 0 [c.high, c.low] = 16 * x + y := by
      simp only [hexDigitsVal, hx, hy, Nat.mul_zero, Nat.zero_add]
    rw [hexNumeral, hprefix, ← hval]
    exact if_pos c.high_digit
  have hbyte : c.byte.toNat = 16 * x + y := by
    rw [byte, hx, hy, Option.getD_some, Option.getD_some]
    exact Nat.mod_eq_of_lt (by omega)
  calc stol16 c.text = hexNumeral c.text >>= fun v => checkLong v := rfl
    _ = checkLong ((16 * x + y : ℕ) : ℤ) := by rw [hnumeral, ok_bind]
    _ = .ok c.byte.toNat := by rw [checkLong, if_pos (by omega), hbyte]

end HexCode

/-! ### Splitting -/

/-- A piece in front of a comma is read as it is. -/
lemma getlines_comma {piece : Bytes} (h : 44 ∉ piece) (front s : Bytes) :
    getlines front (piece ++ 44 :: s) = (front ++ piece) :: getlines [] s := by
  induction piece generalizing front with
  | nil => rw [List.nil_append, getlines, if_pos rfl, List.append_nil]
  | cons c piece ih =>
      have hc : c ≠ 44 := fun heq => h (heq ▸ List.mem_cons_self)
      rw [List.cons_append, getlines, if_neg hc, ih fun hmem => h (List.mem_cons_of_mem c hmem),
        List.append_assoc, List.singleton_append]

/-- So is the last piece, behind which the text ends. -/
lemma getlines_end {piece : Bytes} (h : 44 ∉ piece) {front : Bytes} (hne : front ++ piece ≠ []) :
    getlines front piece = [front ++ piece] := by
  induction piece generalizing front with
  | nil =>
      rw [List.append_nil] at hne ⊢
      rw [getlines, if_neg hne]
  | cons c piece ih =>
      have hc : c ≠ 44 := fun heq => h (heq ▸ List.mem_cons_self)
      rw [← List.singleton_append, ← List.append_assoc] at hne
      rw [getlines, if_neg hc, ih (fun hmem => h (List.mem_cons_of_mem c hmem)) hne,
        List.append_assoc, List.singleton_append]

/-- Splitting gives back the pieces that were joined. -/
lemma getlines_intercalate {pieces : List Bytes} (hnil : ∀ s ∈ pieces, s ≠ [])
    (h : ∀ s ∈ pieces, 44 ∉ s) : getlines [] ([44].intercalate pieces) = pieces := by
  induction pieces with
  | nil => rfl
  | cons s pieces ih =>
      have hs : 44 ∉ s := h s List.mem_cons_self
      have ih := ih (fun t ht => hnil t (List.mem_cons_of_mem s ht))
        fun t ht => h t (List.mem_cons_of_mem s ht)
      rcases eq_or_ne pieces [] with rfl | hne
      · rw [List.intercalate_singleton]
        exact getlines_end hs (hnil s List.mem_cons_self)
      · rw [List.intercalate_cons_of_ne_nil hne, List.append_assoc, List.singleton_append,
          getlines_comma hs, List.nil_append, ih]

/-! ### Command tables -/

/-- A table of commands: distinct names, each with the bytes to be sent. -/
structure CommandTable where
  entries : List (Bytes × List HexCode)
  names_nodup : (entries.map Prod.fst).Nodup

namespace CommandTable

/-- The table as it is written, with the bytes of a command separated by commas. -/
def text (t : CommandTable) : StrMap Bytes :=
  t.entries.map fun e => (e.1, [44].intercalate (e.2.map HexCode.text))

/-- The table as it is sent: the address and the operating mode of the module in front of the
bytes of each command. -/
def frames (t : CommandTable) : StrMap Bytes :=
  t.entries.map fun e => (e.1, [0xa1, 0xf1] ++ e.2.map HexCode.byte)

end CommandTable

lemma mapM_stol16 (codes : List HexCode) :
    (codes.map HexCode.text).mapM stol16 = .ok (codes.map fun c => (c.byte.toNat : ℤ)) := by
  induction codes with
  | nil => rfl
  | cons c codes ih => rw [List.map_cons, List.mapM_cons, c.stol16_text, ih]; rfl

/-- Nothing of a byte is lost on its way through a `long`. -/
lemma hexCodes_text (codes : List HexCode) :
    hexCodes ([44].intercalate (codes.map HexCode.text)) =
      .ok ([0xa1, 0xf1] ++ codes.map HexCode.byte) := by
  have hsplit : getlines [] ([44].intercalate (codes.map HexCode.text)) =
      codes.map HexCode.text := by
    refine getlines_intercalate (fun s hs => ?_) fun s hs => ?_
    · obtain ⟨c, -, rfl⟩ := List.mem_map.mp hs
      exact List.cons_ne_nil 48 _
    · obtain ⟨c, -, rfl⟩ := List.mem_map.mp hs
      exact c.comma_notMem_text
  have hnarrow : ∀ c : HexCode, UInt8.ofInt c.byte.toNat = c.byte := fun c =>
    (ofInt_natCast_uint8 c.byte.toNat).trans UInt8.ofNat_toNat
  calc hexCodes ([44].intercalate (codes.map HexCode.text))
      = .ok ([0xa1, 0xf1] ++ (codes.map fun c => (c.byte.toNat : ℤ)).map UInt8.ofInt) := by
        rw [hexCodes, hsplit, mapM_stol16, ok_bind]
        rfl
    _ = .ok ([0xa1, 0xf1] ++ codes.map HexCode.byte) := by
        rw [List.map_map]
        congr 2
        exact List.map_congr_left fun c _ => hnarrow c

/-- A new name goes behind the names that are there. -/
lemma StrMap.insert_of_notMem {α : Type} {m : StrMap α} {key : Bytes}
    (h : key ∉ m.map Prod.fst) (entry : α) : m.insert key entry = m ++ [(key, entry)] := by
  have hnone : m.lookup key = none := by
    refine List.lookup_eq_none_iff.mpr fun p hp => bne_iff_ne.mpr ?_
    rintro rfl
    exact h (List.mem_map_of_mem hp)
  rw [StrMap.insert, hnone]
  rfl

/-- The loop appends the frames of the entries to the result, as long as no name comes twice. -/
lemma decodeEntries_text {entries : List (Bytes × List HexCode)} {remoteControl : StrMap Bytes}
    (h : (remoteControl.map Prod.fst ++ entries.map Prod.fst).Nodup) :
    decodeEntries remoteControl
        (entries.map fun e => (e.1, [44].intercalate (e.2.map HexCode.text))) =
      .ok (remoteControl ++ entries.map fun e => (e.1, [0xa1, 0xf1] ++ e.2.map HexCode.byte)) := by
  induction entries generalizing remoteControl with
  | nil => rw [List.map_nil, List.map_nil, List.append_nil]; rfl
  | cons e entries ih =>
      have hnew : e.1 ∉ remoteControl.map Prod.fst := fun hmem =>
        List.disjoint_of_nodup_append h hmem List.mem_cons_self
      rw [List.map_cons, decodeEntries, hexCodes_text, ok_bind, StrMap.insert_of_notMem hnew, ih,
        List.append_assoc, List.map_cons, List.singleton_append]
      rwa [List.map_append, List.append_assoc]

/-! ### Decoding any table -/

/-- A code of the DYON television. -/
def dyonCodes (b : UInt8) : List HexCode :=
  [HexCode.ofByte 0x02, HexCode.ofByte 0xdf, HexCode.ofByte b]

/-- The table of the DYON television. -/
def dyonTable : CommandTable where
  entries :=
    [(bytes "on/off", dyonCodes 0x52), (bytes "ch0", dyonCodes 0x1b), (bytes "ch1", dyonCodes 0x00),
     (bytes "ch2", dyonCodes 0x10), (bytes "ch3", dyonCodes 0x11), (bytes "ch4", dyonCodes 0x13),
     (bytes "ch5", dyonCodes 0x14), (bytes "ch6", dyonCodes 0x15), (bytes "ch7", dyonCodes 0x17),
     (bytes "ch8", dyonCodes 0x18), (bytes "ch9", dyonCodes 0x19), (bytes "vol+", dyonCodes 0x03),
     (bytes "vol-", dyonCodes 0x41), (bytes "ch+", dyonCodes 0x02), (bytes "ch-", dyonCodes 0x09),
     (bytes "mute", dyonCodes 0x53)]
  names_nodup := by decide +kernel

/-- It is the table of the source. -/
lemma dyonTable_text : dyonTable.text = remote_control_DYON := by decide +kernel

/-- Every table of commands is decoded into its bytes, under its names. -/
theorem getRemoteControlOf_text (t : CommandTable) {remoteControls : StrMap (StrMap Bytes)}
    {name : Bytes} (h : remoteControls.lookup name = some t.text) :
    getRemoteControlOf remoteControls [] name = .ok t.frames := by
  rw [getRemoteControlOf, h]
  exact decodeEntries_text t.names_nodup

/-- In particular the DYON table of the source. -/
theorem getRemoteControlOf_dyon :
    getRemoteControlOf remote_controls [] (bytes "DYON") = .ok dyonTable.frames :=
  getRemoteControlOf_text dyonTable (by rw [dyonTable_text]; decide +kernel)

end FauxmoLinux
