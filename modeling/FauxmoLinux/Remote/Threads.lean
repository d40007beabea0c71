import FauxmoLinux.Base.Threads
import FauxmoLinux.Remote.Action

/-!
`actionPerformed` statement by statement, as a thread.

* `Call`, `Point`, `Call.step`: a call for the television, the points between its statements,
  and its next statement; every test, assignment and `sendBytes` is one step;
* `alone_iff_actionPerformed`: a complete run of the thread by itself is the call;
* `step_testState` and the lemmas behind it: the steps with the LG table;
* `Serial`, `serial_lg`: two calls one behind the other, and what they do.
-/

namespace FauxmoLinux

/-- A call of `actionPerformed` for the television. -/
structure Call where
  id : UInt8
  state : Bool
  value : UInt8
  deriving DecidableEq, Repr

/-- The statement a call is about to execute. With no digits left it is over. -/
inductive Point where
  | testState
  | sendPower
  | assignState
  | testValue
  | assignValue
  | sendDigits (digits : List UInt8)
  deriving DecidableEq, Repr

/-- The next statement of a call. -/
def Call.step (c : Call) : Thread Point RemoteControl Bytes Fault
  | .testState, r =>
      match r.table.lookup (bytes "on/off") with
      | some _ => .ok (some (if c.state ≠ r.lastState then .sendPower else .testValue, r, []))
      | none => .ok (some (.testValue, r, []))
  | .sendPower, r =>
      match r.table.lookup (bytes "on/off") with
      | some frame => do
          let frame ← sendBytes frame
          return some (.assignState, r, [frame])
      | none => .error .outOfRange
  | .assignState, r => .ok (some (.testValue, { r with lastState := c.state }, []))
  | .testValue, r =>
      .ok (some (if c.value > 0 ∧ c.value ≠ r.lastValue then .assignValue else .sendDigits [],
        r, []))
  | .assignValue, r => do
      let channel ← convertBrightnessToChannel c.value
      return some (.sendDigits (getDigits channel), { r with lastValue := c.value }, [])
  | .sendDigits [], _ => .ok none
  | .sendDigits (digit :: digits), r =>
      match r.table.lookup (bytes "ch" ++ toDec digit.toNat) with
      | some frame => do
          let frame ← sendBytes frame
          return some (.sendDigits digits, r, [frame])
      | none => .ok (some (.sendDigits digits, r, []))

/-! ### A call by itself -/

variable {c : Call} {r r' : RemoteControl} {frames : List Bytes}

/-- The end of a call does not depend on the state. -/
lemma Call.step_eq_none {t : Point} (h : c.step t r = .ok none) (r' : RemoteControl) :
    c.step t r' = .ok none := by
  cases t with
  | testState =>
      rw [Call.step] at h
      split at h <;> cases h
  | sendPower =>
      rw [Call.step] at h
      split at h
      · obtain ⟨_, -, h⟩ := bind_ok_iff.mp h
        cases h
      · cases h
  | assignState => cases h
  | testValue => cases h
  | assignValue =>
      obtain ⟨_, -, h⟩ := bind_ok_iff.mp h
      cases h
  | sendDigits digits =>
      cases digits with
      | nil => rfl
      | cons digit digits =>
          rw [Call.step] at h
          split at h
          · obtain ⟨_, -, h⟩ := bind_ok_iff.mp h
            cases h
          · cases h

lemma alone_sendDigits {digits : List UInt8} :
    Alone c.step (.sendDigits digits) r r' frames ↔
      r' = r ∧ sendDigits r.table digits = .ok frames := by
  induction digits generalizing frames with
  | nil =>
      rw [alone_of_done rfl, sendDigits, Except.ok.injEq]
      exact and_congr_right fun _ => eq_comm
  | cons digit digits ih =>
      rw [sendDigits]
      cases hlook : r.table.lookup (bytes "ch" ++ toDec digit.toNat) with
      | none =>
          have hstep : c.step (.sendDigits (digit :: digits)) r =
              .ok (some (.sendDigits digits, r, [])) := by rw [Call.step, hlook]
          simp only [alone_of_step hstep, ih]
          cases sendDigits r.table digits <;> simp [pure, Except.pure, eq_comm]
      | some frame =>
          by_cases hlen : 5 ≤ frame.length
          · have hsend : sendBytes frame = .ok frame := if_pos hlen
            have hstep : c.step (.sendDigits (digit :: digits)) r =
                .ok (some (.sendDigits digits, r, [frame])) := by
              rw [Call.step, hlook]
              simp only [hsend, ok_bind]
              rfl
            simp only [alone_of_step hstep, ih, hsend, ok_bind]
            cases sendDigits r.table digits <;> simp [pure, Except.pure, eq_comm]
          · have hsend : sendBytes frame = .error .badIndex := if_neg hlen
            have hstep : c.step (.sendDigits (digit :: digits)) r = .error .badIndex := by
              rw [Call.step, hlook]
              simp only [hsend, error_bind]
            simp [not_alone_of_error hstep, hsend]

lemma alone_testValue :
    Alone c.step .testValue r r' frames ↔ selectChannel r c.value = .ok (r', frames) := by
  rw [alone_of_step rfl, selectChannel]
  by_cases h : c.value > 0 ∧ c.value ≠ r.lastValue
  · rw [if_pos h, if_pos h]
    cases hconv : convertBrightnessToChannel c.value with
    | error e =>
        have hstep : c.step .assignValue r = .error e := by
          simp only [Call.step, hconv, error_bind]
        simp [not_alone_of_error hstep]
    | ok channel =>
        have hstep : c.step .assignValue r = .ok (some (.sendDigits (getDigits channel),
            { r with lastValue := c.value }, [])) := by
          simp only [Call.step, hconv, ok_bind]
          rfl
        simp only [alone_of_step hstep, alone_sendDigits, ok_bind]
        cases sendDigits r.table (getDigits channel) <;>
          simp [pure, Except.pure, eq_comm, and_comm]
  · rw [if_neg h, if_neg h]
    simp only [alone_of_done (rfl : c.step (.sendDigits []) r = .ok none)]
    simp [eq_comm]

/-- **A complete run of the thread by itself is the call.** -/
theorem alone_iff_actionPerformed :
    Alone c.step .testState r r' frames ↔
      actionPerformed r c.id fernseher c.state c.value = .ok (r', frames) := by
  rw [actionPerformed_ok_iff]
  -- without a change of state the call goes on with the value
  have hskip : c.step .testState r = .ok (some (.testValue, r, [])) →
      switchPower r c.state = .ok (r, []) →
      (Alone c.step .testState r r' frames ↔ ∃ r₁ power digits,
        switchPower r c.state = .ok (r₁, power) ∧
          selectChannel r₁ c.value = .ok (r', digits) ∧ frames = power ++ digits) := by
    intro hstep hswitch
    rw [alone_of_step hstep, hswitch]
    simp [alone_testValue]
  cases hlook : r.table.lookup (bytes "on/off") with
  | none => exact hskip (by rw [Call.step, hlook]) (by rw [switchPower, hlook])
  | some frame =>
      by_cases hne : c.state = r.lastState
      · exact hskip (by simp only [Call.step, hlook, hne, ne_eq, not_true, if_false])
          (by simp only [switchPower, hlook, hne, ne_eq, not_true, if_false])
      have hstep : c.step .testState r = .ok (some (.sendPower, r, [])) := by
        simp only [Call.step, hlook, hne, ne_eq, not_false_iff, if_true]
      rw [alone_of_step hstep]
      by_cases hlen : 5 ≤ frame.length
      · have hsend : sendBytes frame = .ok frame := if_pos hlen
        have hswitch : switchPower r c.state =
            .ok ({ r with lastState := c.state }, [frame]) := by
          simp only [switchPower, hlook, hne, ne_eq, not_false_iff, if_true, hsend, ok_bind]
          rfl
        have hpower : c.step .sendPower r = .ok (some (.assignState, r, [frame])) := by
          simp only [Call.step, hlook, hsend, ok_bind]
          rfl
        have hassign : c.step .assignState r =
            .ok (some (.testValue, { r with lastState := c.state }, [])) := rfl
        simp [alone_of_step hpower, alone_of_step hassign, alone_testValue, hswitch]
      · have hsend : sendBytes frame = .error .badIndex := if_neg hlen
        have hswitch : switchPower r c.state = .error .badIndex := by
          simp only [switchPower, hlook, hne, ne_eq, not_false_iff, if_true, hsend, error_bind]
        have hpower : c.step .sendPower r = .error .badIndex := by
          simp only [Call.step, hlook, hsend, error_bind]
        simp [not_alone_of_error hpower, hswitch]

/-! ### Steps with the LG table -/

section LG

variable {lastState : Bool} {lastValue : UInt8}

lemma step_testState : c.step .testState (.lg lastState lastValue) =
    .ok (some (if c.state ≠ lastState then .sendPower else .testValue,
      .lg lastState lastValue, [])) := rfl

lemma step_sendPower : c.step .sendPower (.lg lastState lastValue) =
    .ok (some (.assignState, .lg lastState lastValue, [powerFrame])) := rfl

lemma step_assignState : c.step .assignState (.lg lastState lastValue) =
    .ok (some (.testValue, .lg c.state lastValue, [])) := rfl

lemma step_testValue : c.step .testValue (.lg lastState lastValue) =
    .ok (some (if Selects lastValue c.value then .assignValue else .sendDigits [],
      .lg lastState lastValue, [])) := rfl

lemma step_testState_same (h : c.state = lastState) :
    c.step .testState (.lg lastState lastValue) =
      .ok (some (.testValue, .lg lastState lastValue, [])) := by
  rw [step_testState, if_neg (not_not.mpr h)]

lemma step_testState_change (h : c.state ≠ lastState) :
    c.step .testState (.lg lastState lastValue) =
      .ok (some (.sendPower, .lg lastState lastValue, [])) := by
  rw [step_testState, if_pos h]

lemma step_testValue_new (h : Selects lastValue c.value) :
    c.step .testValue (.lg lastState lastValue) =
      .ok (some (.assignValue, .lg lastState lastValue, [])) := by
  rw [step_testValue, if_pos h]

lemma step_testValue_old (h : ¬ Selects lastValue c.value) :
    c.step .testValue (.lg lastState lastValue) =
      .ok (some (.sendDigits [], .lg lastState lastValue, [])) := by
  rw [step_testValue, if_neg h]

lemma step_assignValue : c.step .assignValue (.lg lastState lastValue) =
    .ok (some (.sendDigits (getDigits (channelOf c.value)), .lg lastState c.value, [])) := by
  rw [Call.step, convertBrightnessToChannel_eq]
  rfl

lemma step_sendDigits {digit : UInt8} {digits : List UInt8} (h : digit < 10) :
    c.step (.sendDigits (digit :: digits)) (.lg lastState lastValue) =
      .ok (some (.sendDigits digits, .lg lastState lastValue, [digitFrame digit])) := by
  have hlook := lookup_digit digit.toNat (UInt8.lt_iff_toNat_lt.mp h)
  rw [UInt8.ofNat_toNat] at hlook
  have hsend : sendBytes (digitFrame digit) = .ok (digitFrame digit) := rfl
  simp only [Call.step, RemoteControl.lg, hlook, hsend, ok_bind]
  rfl

/-- The digits a value keys behind the last value acted on. -/
def selected (lastValue value : UInt8) : List Bytes :=
  if Selects lastValue value then channelFrames value else []

/-- The last value acted on behind a value. -/
def valueAfter (lastValue value : UInt8) : UInt8 :=
  if Selects lastValue value then value else lastValue

lemma selected_of_selects {value : UInt8} (h : Selects lastValue value) :
    selected lastValue value = channelFrames value := if_pos h

lemma selected_of_not {value : UInt8} (h : ¬ Selects lastValue value) :
    selected lastValue value = [] := if_neg h

lemma valueAfter_of_selects {value : UInt8} (h : Selects lastValue value) :
    valueAfter lastValue value = value := if_pos h

lemma valueAfter_of_not {value : UInt8} (h : ¬ Selects lastValue value) :
    valueAfter lastValue value = lastValue := if_neg h

/-- A call that is about to act on its value. -/
lemma alone_assignValue_lg (c : Call) (lastState : Bool) (lastValue : UInt8) :
    Alone c.step .assignValue (.lg lastState lastValue) (.lg lastState c.value)
      (channelFrames c.value) := by
  have hdig : sendDigits lgTable (getDigits (channelOf c.value)) = .ok (channelFrames c.value) :=
    sendDigits_lg fun _ hd => getDigits_lt hd
  exact .step step_assignValue (alone_sendDigits.mpr ⟨rfl, hdig⟩)

/-- The second half of a call. -/
lemma alone_testValue_lg : Alone c.step .testValue (.lg lastState lastValue) r' frames ↔
    r' = .lg lastState (valueAfter lastValue c.value) ∧ frames = selected lastValue c.value := by
  rw [alone_testValue, selectChannel_lg, Except.ok.injEq, Prod.mk.injEq, eq_comm,
    eq_comm (b := frames)]
  rfl

/-- A whole call. -/
lemma alone_testState_lg : Alone c.step .testState (.lg lastState lastValue) r' frames ↔
    r' = .lg c.state (valueAfter lastValue c.value) ∧
      frames = powerFrames lastState c.state ++ selected lastValue c.value := by
  rw [alone_iff_actionPerformed, actionPerformed_fernseher, Except.ok.injEq, Prod.mk.injEq,
    eq_comm, eq_comm (b := frames)]
  rfl

end LG

/-! ### One call behind the other -/

/-- The second call behind the first: the remote control afterwards and all frames. -/
def Serial (a b : Call) (r r' : RemoteControl) (frames : List Bytes) : Prop :=
  ∃ r₁ fa fb, actionPerformed r a.id fernseher a.state a.value = .ok (r₁, fa) ∧
    actionPerformed r₁ b.id fernseher b.state b.value = .ok (r', fb) ∧ frames = fa ++ fb

/-- What two calls one behind the other do with the LG table. -/
lemma serial_lg {a b : Call} {lastState : Bool} {lastValue : UInt8} :
    Serial a b (.lg lastState lastValue) r' frames ↔
      r' = .lg b.state (valueAfter (valueAfter lastValue a.value) b.value) ∧
        frames = powerFrames lastState a.state ++ selected lastValue a.value ++
          (powerFrames a.state b.state ++
            selected (valueAfter lastValue a.value) b.value) := by
  constructor
  · rintro ⟨r₁, fa, fb, ha, hb, rfl⟩
    obtain ⟨rfl, rfl⟩ := alone_testState_lg.mp (alone_iff_actionPerformed.mpr ha)
    obtain ⟨rfl, rfl⟩ := alone_testState_lg.mp (alone_iff_actionPerformed.mpr hb)
    exact ⟨rfl, rfl⟩
  · rintro ⟨rfl, rfl⟩
    exact ⟨_, _, _, alone_iff_actionPerformed.mp (alone_testState_lg.mpr ⟨rfl, rfl⟩),
      alone_iff_actionPerformed.mp (alone_testState_lg.mpr ⟨rfl, rfl⟩), rfl⟩

end FauxmoLinux
