import FauxmoLinux.Remote.Table

/-!
`class RemoteControl`: from a state callback to frames on the serial line.

* `RemoteControl`, `RemoteControl.new`: the decoded table and the last state and value acted on;
* `actionPerformed`: the frames of one callback, a power frame when the state has changed and
  the digits of a channel when the value has;
* `actionPerformed_fernseher`, `actionPerformed_of_ne`: what it does with the LG table, for the
  television and for every other device;
* `digitFrame`, `IsPower`, `IsDigit`: the frames that flip the power of the television and those
  that key a digit of a channel.
-/

namespace FauxmoLinux

/-- `class RemoteControl`. -/
structure RemoteControl where
  table : StrMap Bytes
  lastState : Bool
  lastValue : UInt8
  deriving DecidableEq

/-- The constructor: the LG table, nothing acted on yet. -/
def RemoteControl.new : Except Fault RemoteControl := do
  let table ← getRemoteControl [] (bytes "LG")
  return ⟨table, false, 255⟩

/-- A remote control with the LG table. -/
def RemoteControl.lg (lastState : Bool) (lastValue : UInt8) : RemoteControl :=
  ⟨lgTable, lastState, lastValue⟩

lemma RemoteControl.new_eq : RemoteControl.new = .ok (RemoteControl.lg false 255) := by
  rw [RemoteControl.new, getRemoteControl_LG]
  rfl

/-- `sendBytes`: the frame handed to the serial port. Its trace message reads five bytes. -/
def sendBytes (frame : Bytes) : Except Fault Bytes :=
  if 5 ≤ frame.length then .ok frame else .error .badIndex

/-- `get_digits` with as many rounds as the first argument allows. -/
def getDigitsRounds : ℕ → UInt8 → List UInt8
  | 0, num => [num % 10]
  | rounds + 1, num =>
      (if num > 9 then getDigitsRounds rounds (num / 10) else []) ++ [num % 10]

/-- `get_digits`: a byte has at most three digits. -/
def getDigits (num : UInt8) : List UInt8 := getDigitsRounds 2 num

/-- The loop over the digits of a channel: a digit without a command is passed over. -/
def sendDigits (table : StrMap Bytes) : List UInt8 → Except Fault (List Bytes)
  | [] => .ok []
  | digit :: digits => do
      let cmd := bytes "ch" ++ toDec digit.toNat
      let sent ← match table.lookup cmd with
        | some frame => do
            let frame ← sendBytes frame
            pure [frame]
        | none => pure []
      let rest ← sendDigits table digits
      return sent ++ rest

/-- The first half of `actionPerformed`, "handling switch on/off". -/
def switchPower (r : RemoteControl) (state : Bool) : Except Fault (RemoteControl × List Bytes) :=
  match r.table.lookup (bytes "on/off") with
  | some frame =>
      if state ≠ r.lastState then do
        let frame ← sendBytes frame
        return ({ r with lastState := state }, [frame])
      else .ok (r, [])
  | none => .ok (r, [])

/-- The second half of `actionPerformed`, "handling channel selection". -/
def selectChannel (r : RemoteControl) (value : UInt8) :
    Except Fault (RemoteControl × List Bytes) :=
  if value > 0 ∧ value ≠ r.lastValue then do
    let channel ← convertBrightnessToChannel value
    let frames ← sendDigits r.table (getDigits channel)
    return ({ r with lastValue := value }, frames)
  else .ok (r, [])

/-- `actionPerformed`: the state of the remote control afterwards and the frames sent. -/
def actionPerformed (r : RemoteControl) (_deviceId : UInt8) (deviceName : CString)
    (state : Bool) (value : UInt8) : Except Fault (RemoteControl × List Bytes) :=
  if deviceName = fernseher then do
    let (r, power) ← switchPower r state
    let (r, digits) ← selectChannel r value
    return (r, power ++ digits)
  else .ok (r, [])

/-- A completed call for the television is its two halves. -/
lemma actionPerformed_ok_iff {r r' : RemoteControl} {id : UInt8} {state : Bool} {value : UInt8}
    {frames : List Bytes} :
    actionPerformed r id fernseher state value = .ok (r', frames) ↔
      ∃ r₁ power digits, switchPower r state = .ok (r₁, power) ∧
        selectChannel r₁ value = .ok (r', digits) ∧ frames = power ++ digits := by
  rw [actionPerformed, if_pos rfl, bind_ok_iff]
  constructor
  · rintro ⟨⟨r₁, power⟩, hpower, h⟩
    obtain ⟨⟨r₂, digits⟩, hdigits, hret⟩ := bind_ok_iff.mp h
    cases hret
    exact ⟨r₁, power, digits, hpower, hdigits, rfl⟩
  · rintro ⟨r₁, power, digits, hpower, hdigits, rfl⟩
    exact ⟨(r₁, power), hpower, bind_ok_iff.mpr ⟨(r', digits), hdigits, rfl⟩⟩

/-! ### Frames of the LG table -/

/-- The frame of the power button, which flips the power of the television. -/
def powerFrame : Bytes := lgFrame 0x08

/-- The frame of a digit button. -/
def digitFrame (digit : UInt8) : Bytes := lgFrame (0x10 + digit)

/-- The frame flips the power. -/
def IsPower (frame : Bytes) : Prop := lgTable.lookup (bytes "on/off") = some frame

/-- The frame keys a digit. -/
def IsDigit (frame : Bytes) : Prop :=
  ∃ digit < 10, lgTable.lookup (bytes "ch" ++ toDec digit) = some frame

instance (frame : Bytes) : Decidable (IsPower frame) :=
  inferInstanceAs (Decidable (_ = _))

instance (frame : Bytes) : Decidable (IsDigit frame) :=
  inferInstanceAs (Decidable (∃ digit < 10, _))

lemma isPower_iff {frame : Bytes} : IsPower frame ↔ frame = powerFrame := by
  rw [IsPower, show lgTable.lookup (bytes "on/off") = some powerFrame from rfl,
    Option.some.injEq, eq_comm]

lemma lookup_digit : ∀ digit < 10,
    lgTable.lookup (bytes "ch" ++ toDec digit) = some (digitFrame (UInt8.ofNat digit)) := by
  decide

lemma isDigit_digitFrame {digit : UInt8} (h : digit < 10) : IsDigit (digitFrame digit) := by
  rw [UInt8.lt_iff_toNat_lt] at h
  refine ⟨digit.toNat, h, ?_⟩
  rw [lookup_digit digit.toNat h, UInt8.ofNat_toNat]

/-- No frame both flips the power and keys a digit. -/
lemma not_isPower_of_isDigit {frame : Bytes} (h : IsDigit frame) : ¬ IsPower frame := by
  obtain ⟨digit, hlt, hd⟩ := h
  rw [lookup_digit digit hlt, Option.some.injEq] at hd
  have hne : ∀ n < 10, digitFrame (UInt8.ofNat n) ≠ powerFrame := by decide
  rw [isPower_iff, ← hd]
  exact hne digit hlt

/-- The frames that key the channel of a brightness. -/
def channelFrames (value : UInt8) : List Bytes := (getDigits (channelOf value)).map digitFrame

lemma getDigitsRounds_lt {rounds : ℕ} {num digit : UInt8}
    (h : digit ∈ getDigitsRounds rounds num) : digit < 10 := by
  have hmod : ∀ n : UInt8, n % 10 < 10 := fun n => UInt8.mod_lt n (by decide)
  induction rounds generalizing num with
  | zero =>
      rw [getDigitsRounds, List.mem_singleton] at h
      exact h ▸ hmod num
  | succ rounds ih =>
      rw [getDigitsRounds, List.mem_append, List.mem_singleton] at h
      rcases h with h | rfl
      · by_cases hgt : num > 9
        · rw [if_pos hgt] at h
          exact ih h
        · simp [hgt] at h
      · exact hmod num

/-- Digits are below ten. -/
lemma getDigits_lt {num digit : UInt8} (h : digit ∈ getDigits num) : digit < 10 :=
  getDigitsRounds_lt h

lemma getDigits_ne_nil (num : UInt8) : getDigits num ≠ [] := by
  simp [getDigits, getDigitsRounds]

/-- The recursion of the source: three rounds are never used up. -/
lemma getDigits_eq (num : UInt8) :
    getDigits num = (if num > 9 then getDigits (num / 10) else []) ++ [num % 10] := by
  have hsmall : ¬ num / 10 / 10 > 9 := by
    have hlt := num.toNat_lt
    rw [gt_iff_lt, UInt8.lt_iff_toNat_lt, UInt8.toNat_div, UInt8.toNat_div]
    simp only [UInt8.toNat_ofNat, Nat.reducePow, Nat.reduceMod]
    omega
  simp only [getDigits, getDigitsRounds, if_neg hsmall, List.nil_append]

/-- The channel of a brightness is keyed with digits only, and with at least one. -/
lemma isDigit_of_mem_channelFrames {value : UInt8} {frame : Bytes}
    (h : frame ∈ channelFrames value) : IsDigit frame := by
  obtain ⟨digit, hd, rfl⟩ := List.mem_map.mp h
  exact isDigit_digitFrame (getDigits_lt hd)

lemma channelFrames_ne_nil (value : UInt8) : channelFrames value ≠ [] := by
  rw [channelFrames, ne_eq, List.map_eq_nil_iff]
  exact getDigits_ne_nil _

/-! ### What a callback does -/

/-- The LG table has a command for every digit. -/
lemma sendDigits_lg {digits : List UInt8} (h : ∀ digit ∈ digits, digit < 10) :
    sendDigits lgTable digits = .ok (digits.map digitFrame) := by
  induction digits with
  | nil => rfl
  | cons digit digits ih =>
      have hlt : digit.toNat < 10 := UInt8.lt_iff_toNat_lt.mp (h digit (by simp))
      have hlook := lookup_digit digit.toNat hlt
      rw [UInt8.ofNat_toNat] at hlook
      have hsend : sendBytes (digitFrame digit) = .ok (digitFrame digit) := rfl
      simp only [sendDigits, hlook, hsend, ih fun d hd => h d (by simp [hd]), ok_bind]
      rfl

/-- The frames of the power button on a change from `lastState` to `state`. -/
def powerFrames (lastState state : Bool) : List Bytes :=
  if state ≠ lastState then [powerFrame] else []

/-- The value leads to a channel selection. -/
def Selects (lastValue value : UInt8) : Prop := value > 0 ∧ value ≠ lastValue

instance (lastValue value : UInt8) : Decidable (Selects lastValue value) :=
  inferInstanceAs (Decidable (_ ∧ _))

lemma switchPower_lg (lastState state : Bool) (lastValue : UInt8) :
    switchPower (.lg lastState lastValue) state =
      .ok (.lg state lastValue, powerFrames lastState state) := by
  have hlook : lgTable.lookup (bytes "on/off") = some powerFrame := rfl
  have hsend : sendBytes powerFrame = .ok powerFrame := rfl
  by_cases h : state = lastState
  · simp [switchPower, RemoteControl.lg, hlook, powerFrames, h]
  · simp [switchPower, RemoteControl.lg, hlook, powerFrames, h, hsend, pure, Except.pure]

lemma selectChannel_lg (lastState : Bool) (lastValue value : UInt8) :
    selectChannel (.lg lastState lastValue) value =
      .ok (.lg lastState (if Selects lastValue value then value else lastValue),
        if Selects lastValue value then channelFrames value else []) := by
  have hdig : sendDigits lgTable (getDigits (channelOf value)) = .ok (channelFrames value) :=
    sendDigits_lg fun _ hd => getDigits_lt hd
  by_cases h : Selects lastValue value
  · have hsel : value > 0 ∧ value ≠ (RemoteControl.lg lastState lastValue).lastValue := h
    rw [if_pos h, if_pos h, selectChannel, if_pos hsel, convertBrightnessToChannel_eq]
    simp only [ok_bind, RemoteControl.lg, hdig]
    rfl
  · have hsel : ¬ (value > 0 ∧ value ≠ (RemoteControl.lg lastState lastValue).lastValue) := h
    rw [if_neg h, if_neg h, selectChannel, if_neg hsel]

/-- **A callback for the television**: a power frame when the state has changed, then the digits
of the channel when there is a new value other than `0`. -/
theorem actionPerformed_fernseher (lastState state : Bool) (lastValue value id : UInt8) :
    actionPerformed (.lg lastState lastValue) id fernseher state value =
      .ok (.lg state (if Selects lastValue value then value else lastValue),
        powerFrames lastState state ++
          if Selects lastValue value then channelFrames value else []) := by
  rw [actionPerformed, if_pos rfl]
  simp only [switchPower_lg, ok_bind, selectChannel_lg]
  rfl

/-- A callback for another device does nothing. -/
theorem actionPerformed_of_ne {r : RemoteControl} {name : CString} (h : name ≠ fernseher)
    (id : UInt8) (state : Bool) (value : UInt8) :
    actionPerformed r id name state value = .ok (r, []) := if_neg h

end FauxmoLinux
