import FauxmoLinux.Bridge.Control
import FauxmoLinux.Remote.Action

/-!
The system `main` wires: control requests update the store, and the state callback is
`RemoteControl::actionPerformed`.

* `System`, `System.control`: the store and the remote control, and one control request handled
  by both, with the frames it sends;
* `System.control_ok_cases`: a request that completes changes nothing and sends nothing, or
  carries out one command on one device, which is reported to the remote control (`report`);
* `System.control_again`: a request handled twice is handled once, and the second time no
  frame is sent.
-/

namespace FauxmoLinux

/-- The store and the remote control behind it. -/
structure System where
  devices : List Device
  remote : RemoteControl
  deriving DecidableEq

/-- A control request. -/
structure ControlRequest where
  url : Bytes
  body : Bytes
  deriving DecidableEq, Repr

/-- The state callbacks among the events of a handler, passed to `actionPerformed`. -/
def deliver (r : RemoteControl) : List Event → Except Fault (RemoteControl × List Bytes)
  | [] => .ok (r, [])
  | .setState id name state value :: events => do
      let (r, frames) ← actionPerformed r id name state value
      let (r, rest) ← deliver r events
      return (r, frames ++ rest)
  | .tcp _ :: events => deliver r events
  | .udp _ _ _ :: events => deliver r events

/-- A control request: the handler with its callback set, then the frames of the callback. -/
def System.control (env : Env) (s : System) (q : ControlRequest) :
    Except Fault (System × List Bytes) := do
  let o ← onTCPControl env true s.devices q.url q.body
  let (remote, frames) ← deliver s.remote o.events
  return (⟨o.devices, remote⟩, frames)

variable {env : Env}

/-! ### One request -/

/-- What the report of a device does to a remote control with the LG table. -/
def report (lastState : Bool) (lastValue : UInt8) (d : Device) : RemoteControl × List Bytes :=
  if d.name = fernseher then
    (.lg d.state (if Selects lastValue d.value then d.value else lastValue),
      powerFrames lastState d.state ++
        if Selects lastValue d.value then channelFrames d.value else [])
  else (.lg lastState lastValue, [])

lemma report_fernseher {lastState : Bool} {lastValue : UInt8} {d : Device}
    (h : d.name = fernseher) :
    report lastState lastValue d =
      (.lg d.state (if Selects lastValue d.value then d.value else lastValue),
        powerFrames lastState d.state ++
          if Selects lastValue d.value then channelFrames d.value else []) := if_pos h

lemma report_of_ne {lastState : Bool} {lastValue : UInt8} {d : Device}
    (h : d.name ≠ fernseher) :
    report lastState lastValue d = (.lg lastState lastValue, []) := if_neg h

/-- Responses reach nobody but the client. -/
lemma deliver_sendTCPResponse (r : RemoteControl) (code body mime : Bytes) :
    deliver r (sendTCPResponse code body mime) = .ok (r, []) := rfl

lemma deliver_stateEvents (lastState : Bool) (lastValue id : UInt8) (d : Device) :
    deliver (.lg lastState lastValue) (stateEvents true id d) =
      .ok (report lastState lastValue d) := by
  have hstep : deliver (.lg lastState lastValue) (stateEvents true id d) = do
      let (r, frames) ← actionPerformed (.lg lastState lastValue) id d.name d.state d.value
      return (r, frames ++ []) := rfl
  rw [hstep]
  by_cases h : d.name = fernseher
  · rw [h, actionPerformed_fernseher, report_fernseher h]
    simp only [ok_bind, List.append_nil]
    rfl
  · rw [actionPerformed_of_ne h, report_of_ne h]
    rfl

namespace System

/-- A request with a target and a command: the command is carried out and its device
reported. -/
theorem control_of_target {devices : List Device} {lastState : Bool} {lastValue id : UInt8}
    {q : ControlRequest} {d : Device} {c : Command} (ht : target q.url q.body = .ok (some id))
    (hd : devices[id.toNat]? = some d) (hc : decode env q.body = .ok c) :
    control env ⟨devices, .lg lastState lastValue⟩ q =
      .ok (⟨devices.modify id.toNat c.apply, (report lastState lastValue (c.apply d)).1⟩,
        (report lastState lastValue (c.apply d)).2) := by
  rw [control, onTCPControl_of_target ht hd, hc]
  simp only [Except.map, ok_bind, deliver_stateEvents]
  rfl

/-- **What a completed request did** to the system. -/
theorem control_ok_cases {devices : List Device} {lastState : Bool} {lastValue : UInt8}
    {q : ControlRequest} {s' : System} {frames : List Bytes}
    (h : control env ⟨devices, .lg lastState lastValue⟩ q = .ok (s', frames)) :
    (s' = ⟨devices, .lg lastState lastValue⟩ ∧ frames = [] ∧
        ∀ id, target q.url q.body ≠ .ok (some id)) ∨
      ∃ id d c, target q.url q.body = .ok (some id) ∧ devices[id.toNat]? = some d ∧
        decode env q.body = .ok c ∧
        s' = ⟨devices.modify id.toNat c.apply, (report lastState lastValue (c.apply d)).1⟩ ∧
        frames = (report lastState lastValue (c.apply d)).2 := by
  have h' := h
  rw [control, bind_ok_iff] at h'
  obtain ⟨o, ho, h'⟩ := h'
  rcases onTCPControl_ok_cases ho with ⟨hdt, rfl⟩ | ⟨-, ht, rfl⟩ | ⟨id, d, c, ht, hd, hc, -⟩
  · refine Or.inl ?_
    simp only [deliver_sendTCPResponse, ok_bind, pure, Except.pure, Except.ok.injEq,
      Prod.mk.injEq] at h'
    refine ⟨h'.1.symm, h'.2.symm, fun id ht => ?_⟩
    exact hdt (isStateRequest_of_target ht).1
  · refine Or.inl ?_
    simp only [deliver, ok_bind, pure, Except.pure, Except.ok.injEq, Prod.mk.injEq] at h'
    exact ⟨h'.1.symm, h'.2.symm, fun id hid => by simp [ht] at hid⟩
  · refine Or.inr ⟨id, d, c, ht, hd, hc, ?_⟩
    rw [control_of_target ht hd hc, Except.ok.injEq, Prod.mk.injEq] at h
    exact ⟨h.1.symm, h.2.symm⟩

/-! ### Retransmission -/

/-- A reported state and value are not reported twice. -/
lemma report_report (lastState : Bool) (lastValue : UInt8) (d : Device) :
    ∃ lastState' lastValue',
      (report lastState lastValue d).1 = .lg lastState' lastValue' ∧
        report lastState' lastValue' d = (.lg lastState' lastValue', []) := by
  by_cases h : d.name = fernseher
  · refine ⟨d.state, if Selects lastValue d.value then d.value else lastValue, ?_, ?_⟩
    · rw [report_fernseher h]
    · have hnot : ¬ Selects (if Selects lastValue d.value then d.value else lastValue)
          d.value := by
        by_cases hs : Selects lastValue d.value
        · rw [if_pos hs]
          exact fun h => h.2 rfl
        · rwa [if_neg hs]
      rw [report_fernseher h, if_neg hnot, if_neg hnot]
      simp [powerFrames]
  · exact ⟨lastState, lastValue, by rw [report_of_ne h], report_of_ne h⟩

/-- **A retransmitted request**: in every state of the store and of the remote control, the
second handling of a request leaves both as the first did and sends no frame. -/
theorem control_again (devices : List Device) (lastState : Bool) (lastValue : UInt8)
    (q : ControlRequest) (s₁ : System) (frames : List Bytes)
    (h : control env ⟨devices, .lg lastState lastValue⟩ q = .ok (s₁, frames)) :
    control env s₁ q = .ok (s₁, []) := by
  rcases control_ok_cases h with ⟨rfl, rfl, -⟩ | ⟨id, d, c, ht, hd, hc, rfl, -⟩
  · exact h
  · obtain ⟨lastState', lastValue', hr, hagain⟩ := report_report lastState lastValue (c.apply d)
    have hget : (devices.modify id.toNat c.apply)[id.toNat]? = some (c.apply d) := by
      rw [List.getElem?_modify_eq, hd]
      rfl
    have hmod : (devices.modify id.toNat c.apply).modify id.toNat c.apply =
        devices.modify id.toNat c.apply := by
      rw [List.modify_modify_eq]
      exact congrArg _ (funext c.apply_apply)
    rw [hr, control_of_target ht hget hc, Command.apply_apply, hagain, hmod]

/-- A brightness sent twice to a television that is off: power and channel only once. -/
theorem control_again_bri :
    ∃ s₁ frames, control homeEnv ⟨addDevices homeEnv.iface [(zeroSlot, fernseher)], .lg false 255⟩
        ⟨bytes "/api/u/lights/1/state", bytes "\x7b\"bri\":128\x7d"⟩ = .ok (s₁, frames) ∧
      frames ≠ [] ∧
      control homeEnv s₁ ⟨bytes "/api/u/lights/1/state", bytes "\x7b\"bri\":128\x7d"⟩ =
        .ok (s₁, []) :=
  ⟨_, _, rfl, by decide, @control_again homeEnv
    (addDevices homeEnv.iface [(zeroSlot, fernseher)]) false 255
    ⟨bytes "/api/u/lights/1/state", bytes "\x7b\"bri\":128\x7d"⟩ _ _ rfl⟩

end System

end FauxmoLinux
