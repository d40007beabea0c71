import FauxmoLinux.Bridge.Body
import FauxmoLinux.Bridge.Meaning

/-!
Compact bodies, `{["on":b,]X[,T]}` with a setting `X` and any further text `T`, and the numbers
in them.

* `Setting`, `Compact`: what such a body is written from, and its text;
* `Compact.infix_text_iff`, `seek_field`: the keywords stand in it only as the names of its
  setting, and each is found there;
* `Compact.readBody_text`: the numbers written are read back, narrowed to the variables they are
  stored in;
* `onTCPControl_compact`: settings in range are carried out on the light the URL names;
* `Place`, `ordered_iff`: the numbers of two bodies are taken in their order and never wrap for
  exactly the numbers that are in range or that leave the largest remainder.
-/

namespace FauxmoLinux

variable {env : Env}

/-! ### Bodies -/

/-- A brightness, a hue with a saturation, or a colour temperature. -/
inductive Setting where
  | bri (n : ℕ)
  | hue (h s : ℕ)
  | ct (c : ℕ)
  deriving DecidableEq, Repr

/-- A number behind its name. -/
def field (name : Bytes) (n : ℕ) : Bytes := 34 :: (name ++ 34 :: 58 :: toDec n)

namespace Setting

/-- The names of the members. -/
def names : Setting → List Bytes
  | bri _ => [bytes "bri"]
  | hue _ _ => [bytes "hue", bytes "sat"]
  | ct _ => [bytes "ct"]

def text : Setting → Bytes
  | bri n => field (bytes "bri") n
  | hue h s => field (bytes "hue") h ++ 44 :: field (bytes "sat") s
  | ct c => field (bytes "ct") c

/-- The numbers fit an `int`. -/
def FitsInt : Setting → Prop
  | bri n => n < 2 ^ 31
  | hue h s => h < 2 ^ 31 ∧ s < 2 ^ 31
  | ct c => c < 2 ^ 31

/-- The numbers fit the variables they are stored in. -/
def InRange : Setting → Prop
  | bri n => n ≤ 255
  | hue h s => h ≤ 65535 ∧ s ≤ 255
  | ct c => 1 ≤ c ∧ c ≤ 65535

/-- The numbers as they are read. -/
def reading : Setting → Reading
  | bri n => .bri n.toUInt8
  | hue h s => .hueSat h.toUInt16 s.toUInt8
  | ct c => .ct c.toUInt16

/-- What the setting makes of a device. -/
def Sets (env : Env) (d d' : Device) : Setting → Prop
  | bri n => d' = { d with value := n.toUInt8, state := decide (0 < n) }
  | hue h s => d' = { d with state := true, rgb := env.hs2rgb h.toUInt16 s.toUInt8 }
  | ct c => ∃ rgb, ct2rgb env c.toUInt16 = .ok rgb ∧ d' = { d with state := true, rgb := rgb }

lemma InRange.fitsInt {s : Setting} (h : s.InRange) : s.FitsInt := by
  cases s with
  | bri n => exact lt_of_le_of_lt h (by norm_num)
  | hue h' s => exact ⟨lt_of_le_of_lt h.1 (by norm_num), lt_of_le_of_lt h.2 (by norm_num)⟩
  | ct c => exact lt_of_le_of_lt h.2 (by norm_num)

end Setting

/-- A compact body: `on` in front and further text behind are optional. -/
structure Compact where
  on : Option Bool
  setting : Setting
  trailing : Option Bytes
  free : ∀ t ∈ trailing, ∀ w ∈ keywords, ¬ w <:+: t

namespace Compact

/-- The text in front of the setting. -/
def front (b : Compact) : Bytes :=
  123 :: match b.on with
    | none => []
    | some on => bytes "\"on\":" ++ boolText on ++ [44]

/-- The text behind the setting. -/
def back (b : Compact) : Bytes :=
  match b.trailing with
  | none => [125]
  | some t => 44 :: (t ++ [125])

def text (b : Compact) : Bytes := b.front ++ (b.setting.text ++ b.back)

end Compact

/-! ### Where the keywords stand -/

/-- The bytes between a name and what follows its number. -/
lemma digit_notMem_word {w : Bytes} (hw : IsWord w) (n : ℕ) : ∀ c ∈ toDec n, c ∉ w := by
  intro c hc
  have hdig := isDigit_of_mem_toDec hc
  refine hw.notMem fun h => ?_
  simp only [isDigit, Bool.and_eq_true, decide_eq_true_eq] at hdig
  have hlt : (97 : UInt8) ≤ 57 := UInt8.le_trans h.1 hdig.2
  exact absurd hlt (by decide)

/-- A word stands in a field as its name. -/
lemma infix_field_append_iff {w : Bytes} (hw : IsWord w) (name : Bytes) (n : ℕ) (t : Bytes) :
    w <:+: field name n ++ t ↔ w <:+: name ∨ w <:+: t := by
  have hsplit : field name n ++ t = [] ++ 34 :: (name ++ 34 :: ([] ++ 58 :: (toDec n ++ t))) := by
    simp [field]
  have hdigits : w <:+: toDec n ++ t ↔ w <:+: t := by
    rw [← not_iff_not, ← seek_eq_none_iff, ← seek_eq_none_iff,
      seek_append_of_disjoint (digit_notMem_word hw n) hw.1]
  have hnil : ¬ w <:+: ([] : Bytes) := by simpa using hw.1
  rw [hsplit, infix_append_cons_iff (hw.notMem (by decide)) hw.1,
    infix_append_cons_iff (hw.notMem (by decide)) hw.1,
    infix_append_cons_iff (hw.notMem (by decide)) hw.1, hdigits]
  simp only [hnil, false_or]

/-- A name is found at its field. -/
lemma seek_field {name front : Bytes} (hw : IsWord name) (hfront : ¬ name <:+: front) (n : ℕ)
    (t : Bytes) : seek name (front ++ (field name n ++ t)) =
      some (name ++ 34 :: 58 :: (toDec n ++ t)) := by
  have hsplit : front ++ (field name n ++ t) =
      front ++ 34 :: (name ++ 34 :: 58 :: (toDec n ++ t)) := by
    simp [field]
  rw [hsplit, seek_append_cons (hw.notMem (by decide)) hw.1, seek_eq_none_iff.mpr hfront,
    seek_append_cons (hw.notMem (by decide)) hw.1, seek_self]
  rfl

namespace Compact

lemma not_infix_front (b : Compact) : ∀ w ∈ keywords, ¬ w <:+: b.front := by
  rw [front]
  cases b.on with
  | none => decide
  | some on => cases on <;> decide

lemma not_infix_back (b : Compact) : ∀ w ∈ keywords, ¬ w <:+: b.back := by
  intro w hmem
  have hw := isWord_of_mem_keywords w hmem
  have hnil : ¬ w <:+: ([] : Bytes) := by simpa using hw.1
  rw [back]
  cases ht : b.trailing with
  | none =>
      rw [← List.nil_append [125], infix_append_cons_iff (hw.notMem (by decide)) hw.1]
      simp only [hnil, or_self, not_false_iff]
  | some t =>
      have hfree := b.free t ht w hmem
      dsimp only
      rw [← List.nil_append (44 :: (t ++ [125])),
        infix_append_cons_iff (hw.notMem (by decide)) hw.1,
        infix_append_cons_iff (hw.notMem (by decide)) hw.1]
      simp only [hnil, hfree, or_self, not_false_iff]

/-- **The keywords stand in a compact body only as the names of its setting.** -/
lemma infix_text_iff (b : Compact) {w : Bytes} (hmem : w ∈ keywords) :
    w <:+: b.text ↔ ∃ name ∈ b.setting.names, w <:+: name := by
  have hw := isWord_of_mem_keywords w hmem
  have hback := b.not_infix_back w hmem
  have hfront : ∀ t, w <:+: b.front ++ 34 :: t ↔ w <:+: 34 :: t := by
    intro t
    have hnil : ¬ w <:+: ([] : Bytes) := by simpa using hw.1
    rw [infix_append_cons_iff (hw.notMem (by decide)) hw.1, ← List.nil_append (34 :: t),
      infix_append_cons_iff (hw.notMem (by decide)) hw.1]
    simp only [b.not_infix_front w hmem, hnil]
  have htext : ∃ t, b.setting.text ++ b.back = 34 :: t := by
    cases b.setting with
    | bri n => exact ⟨_, rfl⟩
    | hue h s => exact ⟨_, rfl⟩
    | ct c => exact ⟨_, rfl⟩
  obtain ⟨t, ht⟩ := htext
  rw [text, ht, hfront, ← ht]
  cases b.setting with
  | bri n =>
      rw [Setting.text, infix_field_append_iff hw]
      simp [Setting.names, hback]
  | hue h s =>
      rw [Setting.text, List.append_assoc, List.cons_append, infix_field_append_iff hw,
        ← List.nil_append (44 :: _), infix_append_cons_iff (hw.notMem (by decide)) hw.1,
        infix_field_append_iff hw]
      simp [Setting.names, hback, hw.1]
  | ct c =>
      rw [Setting.text, infix_field_append_iff hw]
      simp [Setting.names, hback]

/-- What follows the last number is no digit. -/
lemma back_head (b : Compact) : ∀ c ∈ b.back.head?, isDigit c = false := by
  rw [back]
  cases b.trailing with
  | none => decide
  | some t =>
      intro c hc
      obtain rfl : 44 = c := by simpa using hc
      rfl

end Compact

/-! ### Numbers -/

/-- A number that fits an `int` is read as it was written. -/
lemma atoi_toDec_append {n : ℕ} (hn : n < 2 ^ 31) {t : Bytes}
    (ht : ∀ c ∈ t.head?, isDigit c = false) : atoi (toDec n ++ t) = n := by
  have hdec := decimal_toDec_append ht n
  rw [atoi_of_mem_range (by rw [hdec]; omega) (by rw [hdec]; exact_mod_cast hn), hdec]

/-- No comma stands between a name and the end of its number. -/
lemma comma_notMem_field {name : Bytes} (hw : IsWord name) (n : ℕ) :
    (44 : UInt8) ∉ name ++ 34 :: 58 :: toDec n := by
  rw [List.mem_append, List.mem_cons, List.mem_cons]
  rintro (h | h | h | h)
  · exact hw.notMem (by decide) h
  · cases h
  · cases h
  · cases isDigit_of_mem_toDec h

/-- A text falls apart at its first comma. -/
lemma span_comma {s : Bytes} (h : (44 : UInt8) ∉ s) (t : Bytes) :
    (s ++ 44 :: t).takeWhile (· ≠ 44) = s ∧ (s ++ 44 :: t).dropWhile (· ≠ 44) = 44 :: t := by
  have hpos : ∀ c ∈ s, decide (c ≠ 44) = true := fun c hc => by
    have hne : c ≠ 44 := fun h44 => h (h44 ▸ hc)
    simpa using hne
  rw [List.takeWhile_append_of_pos hpos, List.dropWhile_append_of_pos hpos]
  simp

/-- The saturation is found behind the comma. -/
lemma satRead_field (body : Bytes) (h s : ℕ) {t : Bytes} (hs : s < 2 ^ 31)
    (ht : ∀ c ∈ t.head?, isDigit c = false) :
    SatRead body ((bytes "hue" ++ 34 :: 58 :: toDec h) ++
      44 :: (field (bytes "sat") s ++ t)) s := by
  have hfield : seek (bytes "sat") (44 :: (field (bytes "sat") s ++ t)) =
      some (bytes "sat" ++ 34 :: 58 :: (toDec s ++ t)) :=
    @seek_field _ [44] (by decide) (by decide) s t
  have hnum : atoi (toDec s ++ t) = s := atoi_toDec_append hs ht
  rw [SatRead, (span_comma (comma_notMem_field (by decide) h) _).2, hfield]
  exact ⟨by simp [bytes], hnum.symm⟩

/-- A body with a brightness, from its name on. -/
lemma readBody_briField {body t : Bytes} {n : ℕ} (hn : n < 2 ^ 31)
    (ht : ∀ c ∈ t.head?, isDigit c = false)
    (h : seek (bytes "bri") body = some (bytes "bri" ++ 34 :: 58 :: (toDec n ++ t))) :
    readBody body = .ok (.bri n.toUInt8) := by
  have hdrop : (bytes "bri" ++ 34 :: 58 :: (toDec n ++ t)).drop 5 = toDec n ++ t := rfl
  rw [readBody_bri h (by simp [bytes]), hdrop, atoi_toDec_append hn ht, ofInt_natCast_uint8]

/-- A body with a colour temperature, from its name on. -/
lemma readBody_ctField {body t : Bytes} {c : ℕ} (hc : c < 2 ^ 31)
    (ht : ∀ c ∈ t.head?, isDigit c = false) (hbri : ¬ bytes "bri" <:+: body)
    (hhue : ¬ bytes "hue" <:+: body)
    (h : seek (bytes "ct") body = some (bytes "ct" ++ 34 :: 58 :: (toDec c ++ t))) :
    readBody body = .ok (.ct c.toUInt16) := by
  have hdrop : (bytes "ct" ++ 34 :: 58 :: (toDec c ++ t)).drop 4 = toDec c ++ t := rfl
  rw [readBody_ct hbri hhue h (by simp [bytes]), hdrop, atoi_toDec_append hc ht,
    ofInt_natCast_uint16]

/-- A body with a hue and a saturation, from the name of the hue on. -/
lemma readBody_hueField {body t : Bytes} {hue sat : ℕ} (hh : hue < 2 ^ 31) (hs : sat < 2 ^ 31)
    (ht : ∀ c ∈ t.head?, isDigit c = false) (hbri : ¬ bytes "bri" <:+: body)
    (h : seek (bytes "hue") body = some (bytes "hue" ++ 34 :: 58 :: (toDec hue ++
      44 :: (field (bytes "sat") sat ++ t)))) :
    readBody body = .ok (.hueSat hue.toUInt16 sat.toUInt8) := by
  have hdrop : (bytes "hue" ++ 34 :: 58 :: (toDec hue ++ 44 :: (field (bytes "sat") sat ++
      t))).drop 5 = toDec hue ++ 44 :: (field (bytes "sat") sat ++ t) := rfl
  have hsplit : bytes "hue" ++ 34 :: 58 :: (toDec hue ++ 44 :: (field (bytes "sat") sat ++ t)) =
      (bytes "hue" ++ 34 :: 58 :: toDec hue) ++ 44 :: (field (bytes "sat") sat ++ t) := by
    simp
  have hlong : 5 ≤ ((bytes "hue" ++ 34 :: 58 :: (toDec hue ++ 44 ::
      (field (bytes "sat") sat ++ t))).takeWhile (· ≠ 44)).length := by
    rw [hsplit, (span_comma (comma_notMem_field (by decide) hue) _).1]
    simp [bytes]
  have hhead : ∀ c ∈ (44 :: (field (bytes "sat") sat ++ t)).head?, isDigit c = false := by
    intro c hc
    obtain rfl : 44 = c := by simpa using hc
    rfl
  rw [readBody_hue hbri h hlong (hsplit ▸ satRead_field body hue sat hs ht), hdrop,
    atoi_toDec_append hh hhead, ofInt_natCast_uint16, ofInt_natCast_uint8]

/-- **The numbers of a compact body are read back**, narrowed to their variables. -/
theorem Compact.readBody_text (b : Compact) (h : b.setting.FitsInt) :
    readBody b.text = .ok b.setting.reading := by
  have hno : ∀ w ∈ keywords, (∀ name ∈ b.setting.names, ¬ w <:+: name) → ¬ w <:+: b.text := by
    intro w hmem hnames hin
    obtain ⟨name, hname, hw⟩ := (b.infix_text_iff hmem).mp hin
    exact hnames name hname hw
  have hseek : ∀ name ∈ keywords, ∀ n t, b.setting.text ++ b.back = field name n ++ t →
      seek name b.text = some (name ++ 34 :: 58 :: (toDec n ++ t)) := by
    intro name hname n t ht
    rw [text, ht]
    exact seek_field (isWord_of_mem_keywords name hname) (b.not_infix_front name hname) n t
  cases hs : b.setting with
  | bri n =>
      rw [hs] at h hseek
      exact readBody_briField h b.back_head (hseek (bytes "bri") (by decide) n b.back rfl)
  | hue hue sat =>
      have hnames : (Setting.hue hue sat).names = [bytes "hue", bytes "sat"] := rfl
      rw [hs] at h hseek hno
      rw [hnames] at hno
      exact readBody_hueField h.1 h.2 b.back_head (hno _ (by decide) (by decide))
        (hseek (bytes "hue") (by decide) hue _ (by simp [Setting.text]))
  | ct c =>
      have hnames : (Setting.ct c).names = [bytes "ct"] := rfl
      rw [hs] at h hseek hno
      rw [hnames] at hno
      exact readBody_ctField h b.back_head (hno _ (by decide) (by decide))
        (hno _ (by decide) (by decide)) (hseek (bytes "ct") (by decide) c b.back rfl)

/-! ### The request -/

/-- The URL names the state of the light at the index `id`. -/
def NamesLight (url : Bytes) (id : UInt8) : Prop :=
  find (bytes "state") url ≠ none ∧ ∃ pos n, find (bytes "lights") url = some pos ∧
    lightNumber url pos = .ok n ∧ n > 0 ∧ id = n - 1

/-- A body without `devicetype` is for the light the URL names. -/
lemma NamesLight.target_eq {url body : Bytes} {id : UInt8} (h : NamesLight url id)
    (hbody : find (bytes "devicetype") body = none) (hlen : body.length > 0) :
    target url body = .ok (some id) := by
  obtain ⟨hstate, pos, n, hpos, hn, hn0, rfl⟩ := h
  rw [target, if_pos ⟨hbody, hstate, hlen⟩, hpos]
  simp only [hn, ok_bind, if_pos hn0]
  rfl

/-- A compact body is for the light the URL names. -/
lemma NamesLight.target_text {url : Bytes} {id : UInt8} (h : NamesLight url id) (b : Compact) :
    target url b.text = .ok (some id) := by
  refine h.target_eq (find_eq_none_iff.mpr fun hin => ?_) ?_
  · obtain ⟨name, hname, hw⟩ := (b.infix_text_iff (by decide)).mp hin
    have hno : ∀ name ∈ b.setting.names, ¬ bytes "devicetype" <:+: name := by
      cases b.setting with
      | bri n => exact (by decide : ∀ name ∈ [bytes "bri"], ¬ bytes "devicetype" <:+: name)
      | hue h s =>
          exact (by decide : ∀ name ∈ [bytes "hue", bytes "sat"], ¬ bytes "devicetype" <:+: name)
      | ct c => exact (by decide : ∀ name ∈ [bytes "ct"], ¬ bytes "devicetype" <:+: name)
    exact hno name hname hw
  · rw [Compact.text, Compact.front]
    simp

/-- A request with a compact body carries out the command of the numbers that are read. -/
lemma onTCPControl_text {callback : Bool} {devices : List Device} {url : Bytes} {id : UInt8}
    {d : Device} (hurl : NamesLight url id) (hd : devices[id.toNat]? = some d) (b : Compact)
    (hint : b.setting.FitsInt) :
    onTCPControl env callback devices url b.text = (b.setting.reading.command env).map fun c =>
      ⟨devices.modify id.toNat c.apply, stateEvents callback id (c.apply d), true⟩ := by
  rw [onTCPControl_of_target (hurl.target_text b) hd]
  congr 1
  calc decode env b.text
      = readBody b.text >>= fun r => r.command env := decode_eq_readBody b.text
    _ = .ok b.setting.reading >>= fun r => r.command env := by rw [b.readBody_text hint]
    _ = b.setting.reading.command env := ok_bind _ _

/-- A setting in range sets what it says. -/
lemma Setting.InRange.exists_command {s : Setting} (h : s.InRange) (env : Env) (d : Device) :
    ∃ c, s.reading.command env = .ok c ∧ s.Sets env d (c.apply d) := by
  cases s with
  | bri n =>
      have hn : n ≤ 255 := h
      have hpos : n.toUInt8 > 0 ↔ 0 < n := by
        rw [gt_iff_lt, UInt8.lt_iff_toNat_lt, show n.toUInt8.toNat = n % 256 by simp,
          UInt8.toNat_zero]
        omega
      refine ⟨.bri n.toUInt8, rfl, ?_⟩
      rw [Sets, Command.apply, decide_eq_decide.mpr hpos]
  | hue h s => exact ⟨_, rfl, rfl⟩
  | ct c =>
      have hc : c.toUInt16 ≠ 0 := by
        intro h0
        have hval := congrArg UInt16.toNat h0
        rw [show c.toUInt16.toNat = c % 65536 by simp, UInt16.toNat_zero] at hval
        have := h.1
        have := h.2
        omega
      refine ⟨.colour (env.tempRgb (10000 / c.toUInt16.toNat)), ?_, _, if_neg hc, rfl⟩
      rw [reading, Reading.command, ct2rgb, if_neg hc]
      rfl

/-- **Compact bodies**: a setting in range is carried out on the light the URL names, whatever
stands in front of it and behind it, and the rest of the device and of the store stays. -/
theorem onTCPControl_compact (env : Env) (callback : Bool) {devices : List Device} {url : Bytes}
    {id : UInt8} {d : Device} (hurl : NamesLight url id) (hd : devices[id.toNat]? = some d)
    (b : Compact) (hrange : b.setting.InRange) :
    ∃ o d', onTCPControl env callback devices url b.text = .ok o ∧ b.setting.Sets env d d' ∧
      o.devices = devices.set id.toNat d' := by
  obtain ⟨c, hc, hsets⟩ := hrange.exists_command env d
  obtain ⟨hlt, hget⟩ := List.getElem?_eq_some_iff.mp hd
  have hrun := @onTCPControl_text env callback devices url id d hurl hd b hrange.fitsInt
  rw [hc] at hrun
  refine ⟨_, c.apply d, hrun, hsets, ?_⟩
  dsimp only
  rw [List.modify_eq_set_get _ hlt, List.get_eq_getElem, hget]

/-- A lamp at half its brightness, with a transition time behind. -/
theorem onTCPControl_compact_half :
    ∃ o d', onTCPControl homeEnv true [lamp] (bytes "/api/u/lights/1/state")
        (Compact.mk (some true) (.bri 128) (some (bytes "\"transitiontime\":4")) (by decide)).text =
          .ok o ∧
      (Setting.bri 128).Sets homeEnv lamp d' ∧ o.devices = [lamp].set 0 d' :=
  onTCPControl_compact homeEnv true ⟨by decide, 7, 1, rfl, rfl, by decide, rfl⟩ rfl
    ⟨some true, .bri 128, some (bytes "\"transitiontime\":4"), by decide⟩
    (by norm_num [Setting.InRange])

/-! ### Numbers of every size -/

/-- The number is in range, or leaves the largest remainder. -/
def Survives (max n : ℕ) : Prop := n ≤ max ∨ n % (max + 1) = max

instance (max n : ℕ) : Decidable (Survives max n) := inferInstanceAs (Decidable (_ ∨ _))

lemma mod_eq_min_iff {max n : ℕ} : n % (max + 1) = min n max ↔ Survives max n := by
  rw [Survives]
  by_cases h : n ≤ max
  · rw [Nat.mod_eq_of_lt (by omega), min_eq_left h]
    simp [h]
  · rw [min_eq_right (by omega)]
    simp [h]

/-- A body with one setting and nothing else. -/
def Setting.body (s : Setting) : Bytes := (Compact.mk none s none (by simp)).text

/-- A place for a number that is handed to a colour function, with the other number. -/
inductive Place where
  | hue (sat : UInt8)
  | sat (hue : UInt16)
  | ct

namespace Place

def setting : Place → ℕ → Setting
  | hue s, n => .hue n s.toNat
  | sat h, n => .hue h.toNat n
  | ct, n => .ct n

/-- The largest number of the variable. -/
def max : Place → ℕ
  | hue _ => 65535
  | sat _ => 255
  | ct => 65535

/-- The number that is read for the place, `none` when no colour function is called. -/
def number (p : Place) (r : Reading) : Option ℕ :=
  match p, r with
  | hue _, .hueSat h _ => some h.toNat
  | sat _, .hueSat _ s => some s.toNat
  | ct, .ct c => some c.toNat
  | _, _ => none

/-- What the colour function makes of a number at the place. -/
def colour (env : Env) : Place → ℕ → Except Fault Rgb
  | hue s, t => .ok (env.hs2rgb t.toUInt16 s)
  | sat h, t => .ok (env.hs2rgb h t.toUInt8)
  | ct, t => ct2rgb env t.toUInt16

end Place

/-- A request with the number `n` hands `t` to the colour function: `t` is read of the body, and
whatever the colour functions are, the light `id` has the colour that is made of `t` behind the
request, which fails when and as the function does. -/
structure Hands (callback : Bool) (devices : List Device) (url : Bytes) (id : UInt8) (p : Place)
    (n t : ℕ) : Prop where
  read : (readBody (p.setting n).body).map p.number = .ok (some t)
  stored : ∀ env : Env, (onTCPControl env callback devices url (p.setting n).body).map
    (fun o => o.devices[id.toNat]?.map Device.rgb) = (p.colour env t).map some

/-- Two numbers are handed on in their order, each as it is, or the largest possible one for it,
unless a request out of range is refused. -/
structure HandedInOrder (callback : Bool) (devices : List Device) (url : Bytes) (id : UInt8)
    (p : Place) (n m : ℕ) : Prop where
  mono : ∀ a b, Hands callback devices url id p n a → Hands callback devices url id p m b → a ≤ b
  kept : ∀ k ∈ [n, m], Hands callback devices url id p k (min k p.max) ∨
    p.max < k ∧ ∀ env : Env, ∃ o,
      onTCPControl env callback devices url (p.setting k).body = .ok o ∧ o.handled = false

/-- The light `id` behind a request for the brightness `n`: on when `n` is more than `0`, at the
value `n` or the largest one for it, or refused when it is out of range. -/
def BriResult (env : Env) (callback : Bool) (devices : List Device) (url : Bytes) (id : UInt8)
    (n : ℕ) (d : Device) : Prop :=
  ∃ o, onTCPControl env callback devices url (Setting.bri n).body = .ok o ∧
    o.devices[id.toNat]? = some d ∧ (d.state = true ↔ 0 < n) ∧
    (d.value.toNat = min n 255 ∨ 255 < n ∧ o.handled = false)

/-- Two brightnesses are stored in their order. -/
def StoredInOrder (env : Env) (callback : Bool) (devices : List Device) (url : Bytes)
    (id : UInt8) (n m : ℕ) : Prop :=
  ∃ d d', BriResult env callback devices url id n d ∧
    BriResult env callback devices url id m d' ∧ d.value ≤ d'.value

lemma Place.fitsInt (p : Place) {n : ℕ} (hn : n < 2 ^ 31) : (p.setting n).FitsInt := by
  cases p with
  | hue s => exact ⟨hn, by have := s.toNat_lt; omega⟩
  | sat h => exact ⟨by have := h.toNat_lt; omega, hn⟩
  | ct => exact hn

/-- The number of a place as it is read. -/
lemma Place.number_body (p : Place) {n : ℕ} (hn : n < 2 ^ 31) :
    (readBody (p.setting n).body).map p.number = .ok (some (n % (p.max + 1))) := by
  rw [Setting.body, Compact.readBody_text _ (p.fitsInt hn)]
  cases p <;> simp [Except.map, setting, Setting.reading, number, max]

/-- The colour that is made of the body is the one of that number. -/
lemma Place.command_reading (p : Place) (env : Env) (n : ℕ) :
    (p.setting n).reading.command env = (p.colour env (n % (p.max + 1))).map .colour := by
  have hword : (n % 65536).toUInt16 = n.toUInt16 := UInt16.toNat_inj.mp (by simp)
  have hbyte : (n % 256).toUInt8 = n.toUInt8 := UInt8.toNat_inj.mp (by simp)
  cases p with
  | hue s =>
      have hs : s.toNat.toUInt8 = s := UInt8.ofNat_toNat
      simp only [setting, Setting.reading, Reading.command, colour, max, hs, hword]
      rfl
  | sat h =>
      have hh : h.toNat.toUInt16 = h := UInt16.ofNat_toNat
      simp only [setting, Setting.reading, Reading.command, colour, max, hh, hbyte]
      rfl
  | ct => simp only [setting, Setting.reading, Reading.command, colour, max, hword]

/-- The number of a place is handed on as far as its variable holds it. -/
lemma Place.hands (p : Place) {callback : Bool} {devices : List Device} {url : Bytes} {id : UInt8}
    {d : Device} (hurl : NamesLight url id) (hd : devices[id.toNat]? = some d) {n : ℕ}
    (hn : n < 2 ^ 31) : Hands callback devices url id p n (n % (p.max + 1)) := by
  refine ⟨p.number_body hn, fun env => ?_⟩
  have hrun := @onTCPControl_text env callback devices url id d hurl hd
    (Compact.mk none (p.setting n) none (by simp)) (p.fitsInt hn)
  rw [Setting.body, hrun, p.command_reading]
  cases p.colour env (n % (p.max + 1)) with
  | error e => rfl
  | ok rgb =>
      have hget : (devices.modify id.toNat (Command.colour rgb).apply)[id.toNat]? =
          some ((Command.colour rgb).apply d) := by
        rw [List.getElem?_modify_eq, hd]
        rfl
      simp only [Except.map, hget]
      rfl

/-- No request of these is refused. -/
lemma Place.handled (p : Place) {callback : Bool} {devices : List Device} {url : Bytes}
    {id : UInt8} {d : Device} (hurl : NamesLight url id) (hd : devices[id.toNat]? = some d) {n : ℕ}
    (hn : n < 2 ^ 31) {o : Outcome}
    (h : onTCPControl env callback devices url (p.setting n).body = .ok o) : o.handled = true := by
  have hrun := @onTCPControl_text env callback devices url id d hurl hd
    (Compact.mk none (p.setting n) none (by simp)) (p.fitsInt hn)
  rw [Setting.body, hrun] at h
  cases hc : (p.setting n).reading.command env with
  | error e =>
      dsimp only at h
      rw [hc] at h
      cases h
  | ok c =>
      dsimp only at h
      rw [hc] at h
      cases h
      rfl

/-- What a request for a brightness leaves behind. -/
lemma onTCPControl_bri {callback : Bool} {devices : List Device} {url : Bytes} {id : UInt8}
    {d : Device} (hurl : NamesLight url id) (hd : devices[id.toNat]? = some d) {n : ℕ}
    (hn : n < 2 ^ 31) :
    onTCPControl env callback devices url (Setting.bri n).body = .ok
      ⟨devices.modify id.toNat (Command.bri n.toUInt8).apply,
        stateEvents callback id ((Command.bri n.toUInt8).apply d), true⟩ :=
  onTCPControl_text hurl hd _ hn

/-- A brightness is kept exactly when its number fits. -/
lemma briResult_iff {callback : Bool} {devices : List Device} {url : Bytes} {id : UInt8}
    {d d' : Device} (hurl : NamesLight url id) (hd : devices[id.toNat]? = some d) {n : ℕ}
    (hn : n < 2 ^ 31) : BriResult env callback devices url id n d' ↔
      d' = (Command.bri n.toUInt8).apply d ∧ Survives 255 n := by
  have hget : (devices.modify id.toNat (Command.bri n.toUInt8).apply)[id.toNat]? =
      some ((Command.bri n.toUInt8).apply d) := by
    rw [List.getElem?_modify_eq, hd]
    rfl
  have hval : n.toUInt8.toNat = n % 256 := by simp
  have hstate : decide (n.toUInt8 > 0) = true ↔ n % 256 ≠ 0 := by
    rw [decide_eq_true_iff, gt_iff_lt, UInt8.lt_iff_toNat_lt, hval, UInt8.toNat_zero,
      Nat.pos_iff_ne_zero]
  rw [BriResult, onTCPControl_bri hurl hd hn]
  constructor
  · rintro ⟨o, ho, hd', -, hkept⟩
    obtain rfl := Except.ok.inj ho
    obtain rfl := Option.some.inj (hget.symm.trans hd')
    rcases hkept with hkept | ⟨-, hrefused⟩
    · exact ⟨rfl, mod_eq_min_iff.mp (hval.symm.trans hkept)⟩
    · cases hrefused
  · rintro ⟨rfl, hfit⟩
    refine ⟨_, rfl, hget, hstate.trans ?_, Or.inl (hval.trans (mod_eq_min_iff.mpr hfit))⟩
    rcases hfit with hfit | hfit <;> omega

/-- **Numbers of every size**: two brightnesses are stored, and two numbers handed to a colour
function, in their order and without wrapping exactly when both fit. -/
theorem ordered_iff (env : Env) (callback : Bool) {devices : List Device} {url : Bytes}
    {id : UInt8} {d : Device} (hurl : NamesLight url id) (hd : devices[id.toNat]? = some d)
    {n m : ℕ} (hnm : n ≤ m) (hm : m < 2 ^ 31) :
    (StoredInOrder env callback devices url id n m ↔ Survives 255 n ∧ Survives 255 m) ∧
      ∀ p : Place, HandedInOrder callback devices url id p n m ↔
        Survives p.max n ∧ Survives p.max m := by
  have hn : n < 2 ^ 31 := lt_of_le_of_lt hnm hm
  -- the numbers that fit are kept in their order
  have hmin : ∀ max, Survives max n → Survives max m → n % (max + 1) ≤ m % (max + 1) := by
    intro max h h'
    calc n % (max + 1)
        = min n max := mod_eq_min_iff.mpr h
      _ ≤ min m max := min_le_min_right max hnm
      _ = m % (max + 1) := (mod_eq_min_iff.mpr h').symm
  constructor
  · constructor
    · rintro ⟨d₁, d₂, h₁, h₂, -⟩
      exact ⟨((briResult_iff hurl hd hn).mp h₁).2, ((briResult_iff hurl hd hm).mp h₂).2⟩
    · rintro ⟨h₁, h₂⟩
      refine ⟨_, _, (briResult_iff hurl hd hn).mpr ⟨rfl, h₁⟩,
        (briResult_iff hurl hd hm).mpr ⟨rfl, h₂⟩, ?_⟩
      rw [Command.apply, Command.apply, UInt8.le_iff_toNat_le]
      simpa using hmin 255 h₁ h₂
  · intro p
    constructor
    · intro h
      have hfit : ∀ k ∈ [n, m], k < 2 ^ 31 → Survives p.max k := by
        intro k hk hlt
        rcases h.kept k hk with hkept | ⟨-, hrefused⟩
        · have hread := hkept.read
          rw [p.number_body hlt] at hread
          exact mod_eq_min_iff.mp (Option.some.inj (Except.ok.inj hread))
        · obtain ⟨o, ho, hno⟩ := hrefused env
          exact absurd (p.handled hurl hd hlt ho) (by simp [hno])
      exact ⟨hfit n (by simp) hn, hfit m (by simp) hm⟩
    · rintro ⟨h₁, h₂⟩
      refine ⟨fun a b ha hb => ?_, fun k hk => ?_⟩
      · have ha := ha.read
        have hb := hb.read
        rw [p.number_body hn] at ha
        rw [p.number_body hm] at hb
        obtain rfl := Option.some.inj (Except.ok.inj ha)
        obtain rfl := Option.some.inj (Except.ok.inj hb)
        exact hmin p.max h₁ h₂
      · have hk' : k < 2 ^ 31 ∧ Survives p.max k := by
          rcases List.mem_pair.mp hk with rfl | rfl
          · exact ⟨hn, h₁⟩
          · exact ⟨hm, h₂⟩
        have hhands : Hands callback devices url id p k (k % (p.max + 1)) :=
          p.hands hurl hd hk'.1
        rw [mod_eq_min_iff.mpr hk'.2] at hhands
        exact Or.inl hhands

/-- The numbers on one lamp. -/
theorem ordered_lamp :
    (StoredInOrder homeEnv true [lamp] (bytes "/api/u/lights/1/state") 0 5 255 ↔
        Survives 255 5 ∧ Survives 255 255) ∧
      ∀ p : Place, HandedInOrder true [lamp] (bytes "/api/u/lights/1/state") 0 p 5 255 ↔
        Survives p.max 5 ∧ Survives p.max 255 :=
  ordered_iff homeEnv true ⟨by decide, 7, 1, rfl, rfl, by decide, rfl⟩ rfl (by norm_num)
    (by norm_num)

/-- The brightness `256` puts the lamp off, where `255` puts it on. -/
theorem not_storedInOrder_256 :
    ¬ StoredInOrder homeEnv true [lamp] (bytes "/api/u/lights/1/state") 0 255 256 := by
  have hurl : NamesLight (bytes "/api/u/lights/1/state") 0 :=
    ⟨by decide, 7, 1, rfl, rfl, by decide, rfl⟩
  rintro ⟨d, d', h, h', -⟩
  have hfit := ((briResult_iff hurl rfl (by norm_num)).mp h').2
  exact absurd hfit (by decide)

end FauxmoLinux
