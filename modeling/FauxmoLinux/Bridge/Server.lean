import FauxmoLinux.Bridge.Request

/-!
The life of one `fauxmoLINUX`: `_sendUDPResponse`, `_onUDPData`, `enable`, and what reaches the
program from outside.

* `onUDPData`, `enable`: the discovery handler and the switch; `enable` makes the sockets once
  and never closes them;
* `Input`, `Fauxmo.step`: calls of the public functions and traffic in any order. Traffic is
  received only by sockets that exist;
* `Tracks`, `tracks_of_runs`: the flag is the argument of the last `enable`, and the UDP receiver
  is there from the first `enable(true)` on;
* `disabled_quiet_iff`: traffic behind `enable(false)` goes without a trace on exactly the runs
  in which no discovery datagram arrives there after an earlier `enable(true)`: `_onUDPData`
  alone does not look at `_enabled`;
* `single_iff`: one accept loop at most runs on exactly the runs that start none on a server that
  is there already, which `enable` does whenever it is called after `enable(false)`.
-/

namespace FauxmoLinux

def FAUXMO_TCP_PORT : UInt32 := 1901

variable (env : Env)

/-- `_sendUDPResponse`. -/
def sendUDPResponse (fauxmo : Fauxmo) (ipv4 : Bytes) (port : UInt16) : List Event :=
  let ip := bridgeIp env.iface
  let mac := bridgeMac env.iface
  let response := snprintf (strlen FAUXMO_UDP_RESPONSE_TEMPLATE + 128)
    FAUXMO_UDP_RESPONSE_TEMPLATE
    (ip.toList.map octetArg ++ [portArg fauxmo.tcpPort, .cstr mac, .cstr mac])
  [.udp (cstr response) ipv4 port]

/-- `_onUDPData`. -/
def onUDPData (fauxmo : Fauxmo) (message ipv4 : Bytes) (port : UInt16) : List Event :=
  if message.length > 0 then
    let request := cstr message
    if find (bytes "M-SEARCH") request ≠ none then
      if find (bytes "ssdp:discover") request ≠ none ∨
          find (bytes "upnp:rootdevice") request ≠ none ∨
          find (bytes "device:basic:1") request ≠ none then
        sendUDPResponse env fauxmo ipv4 port
      else []
    else []
  else []

/-- The object the constructor makes. -/
def Fauxmo.fresh : Fauxmo :=
  { enabled := false
    internal := true
    tcpPort := FAUXMO_TCP_PORT
    devices := []
    callback := false
    server := none
    udpReceivers := 0 }

/-- `enable`. Each `Listen` starts an accept loop; the constructor of `UDPServer` starts its
receiver. -/
def enable (fauxmo : Fauxmo) (enable : Bool) : Fauxmo :=
  if enable = fauxmo.enabled then fauxmo
  else
    let fauxmo := { fauxmo with enabled := enable }
    if enable then
      let fauxmo :=
        if fauxmo.internal then
          -- `Bind` takes the port as a `uint16_t`
          let server := fauxmo.server.getD ⟨fauxmo.tcpPort.toUInt16, 0⟩
          { fauxmo with server := some { server with acceptLoops := server.acceptLoops + 1 } }
        else fauxmo
      if fauxmo.udpReceivers = 0 then { fauxmo with udpReceivers := 1 } else fauxmo
    else fauxmo

/-- What happens to a `fauxmoLINUX`: calls of its public functions, UDP datagrams and TCP
messages. -/
inductive Input where
  | enable (enable : Bool)
  | createServer (internal : Bool)
  | setPort (tcpPort : UInt32)
  | onSetState (callback : Bool)
  | op (op : StoreOp)
  | udp (message ipv4 : Bytes) (port : UInt16)
  | tcp (data : Bytes)

/-- One call, datagram or message. Without a socket nothing is received. -/
def Fauxmo.step (fauxmo : Fauxmo) : Input → Except Fault (Fauxmo × List Event)
  | .enable b => .ok (FauxmoLinux.enable fauxmo b, [])
  | .createServer internal => .ok ({ fauxmo with internal := internal }, [])
  | .setPort tcpPort => .ok ({ fauxmo with tcpPort := tcpPort }, [])
  | .onSetState callback => .ok ({ fauxmo with callback := callback }, [])
  | .op op => do
      let devices ← op.apply env.iface fauxmo.devices
      return ({ fauxmo with devices := devices }, [])
  | .udp message ipv4 port =>
      if fauxmo.udpReceivers = 0 then .ok (fauxmo, [])
      else .ok (fauxmo, onUDPData env fauxmo message ipv4 port)
  | .tcp data =>
      if fauxmo.server = none then .ok (fauxmo, []) else onMessageReceived env fauxmo data

/-! ### The flag and the receiver -/

@[simp] lemma enable_enabled (fauxmo : Fauxmo) (b : Bool) : (enable fauxmo b).enabled = b := by
  rw [enable]
  split
  · rename_i h
    exact h.symm
  · cases b with
    | false => rfl
    | true => cases fauxmo.internal <;> by_cases h0 : fauxmo.udpReceivers = 0 <;> simp [h0]

/-- After a change to enabled there is a receiver, and `enable` takes none away. -/
lemma enable_udpReceivers (fauxmo : Fauxmo) (b : Bool) :
    (enable fauxmo b).udpReceivers ≠ 0 ↔
      fauxmo.udpReceivers ≠ 0 ∨ (fauxmo.enabled = false ∧ b = true) := by
  rw [enable]
  split
  · rename_i h
    cases b <;> simp_all
  · rename_i h
    cases b with
    | false => simp
    | true =>
        have hoff : fauxmo.enabled = false := by simpa using h
        cases fauxmo.internal <;> by_cases h0 : fauxmo.udpReceivers = 0 <;> simp [h0, hoff]

/-- The argument of the last `enable` among the inputs, `false` without one. -/
def lastEnable : List Input → Bool :=
  List.foldl (fun last a => match a with | .enable b => b | _ => last) false

/-- What the inputs so far say about the object. -/
structure Tracks (inputs : List Input) (fauxmo : Fauxmo) : Prop where
  enabled : fauxmo.enabled = lastEnable inputs
  received : fauxmo.udpReceivers ≠ 0 ↔ Input.enable true ∈ inputs
  running : fauxmo.enabled = true → Input.enable true ∈ inputs

variable {env}

/-- Inputs other than `enable` touch neither the flag nor the sockets. -/
lemma step_frame {fauxmo fauxmo' : Fauxmo} {a : Input} {events : List Event}
    (ha : ∀ b, a ≠ .enable b) (h : fauxmo.step env a = .ok (fauxmo', events)) :
    fauxmo'.enabled = fauxmo.enabled ∧ fauxmo'.server = fauxmo.server ∧
      fauxmo'.udpReceivers = fauxmo.udpReceivers := by
  cases a with
  | enable b => exact absurd rfl (ha b)
  | createServer internal => cases h; exact ⟨rfl, rfl, rfl⟩
  | setPort tcpPort => cases h; exact ⟨rfl, rfl, rfl⟩
  | onSetState callback => cases h; exact ⟨rfl, rfl, rfl⟩
  | op op =>
      obtain ⟨devices, -, hret⟩ := bind_ok_iff.mp h
      cases hret
      exact ⟨rfl, rfl, rfl⟩
  | udp message ipv4 port =>
      simp only [Fauxmo.step] at h
      split at h <;> (cases h; exact ⟨rfl, rfl, rfl⟩)
  | tcp data =>
      simp only [Fauxmo.step] at h
      split at h
      · cases h
        exact ⟨rfl, rfl, rfl⟩
      · obtain ⟨o, -, hret⟩ := bind_ok_iff.mp h
        cases hret
        exact ⟨rfl, rfl, rfl⟩

/-- **One input keeps track.** -/
lemma Tracks.step {inputs : List Input} {fauxmo fauxmo' : Fauxmo} {a : Input}
    {events : List Event} (h : Tracks inputs fauxmo)
    (hok : fauxmo.step env a = .ok (fauxmo', events)) : Tracks (inputs ++ [a]) fauxmo' := by
  by_cases ha : ∃ b, a = .enable b
  · obtain ⟨b, rfl⟩ := ha
    obtain rfl : enable fauxmo b = fauxmo' := congrArg Prod.fst (Except.ok.inj hok)
    refine ⟨by simp [lastEnable], ?_, fun hon => ?_⟩
    · rw [enable_udpReceivers, h.received, List.mem_append, List.mem_singleton,
        Input.enable.injEq]
      refine or_congr_right' fun hnot => ?_
      have hoff : fauxmo.enabled = false := by
        by_contra hon
        exact hnot (h.running (by simpa using hon))
      simp [hoff, eq_comm]
    · rw [enable_enabled] at hon
      simp [hon]
  · have hne : ∀ b, a ≠ .enable b := fun b hb => ha ⟨b, hb⟩
    obtain ⟨he, -, hr⟩ := step_frame hne hok
    have hlast : lastEnable (inputs ++ [a]) = lastEnable inputs := by
      rw [lastEnable, List.foldl_append]
      cases a with
      | enable b => exact absurd rfl (hne b)
      | _ => rfl
    have hmem : Input.enable true ∈ inputs ++ [a] ↔ Input.enable true ∈ inputs := by
      simp [(hne true).symm]
    exact ⟨by rw [he, h.enabled, hlast], by rw [hr, hmem, h.received],
      fun hon => hmem.mpr (h.running (he ▸ hon))⟩

/-- What the inputs say holds at the end of every run. -/
theorem tracks_of_runs {inputs : List Input} {fauxmo : Fauxmo} {events : List Event}
    (h : runs (Fauxmo.step env) Fauxmo.fresh inputs = .ok (fauxmo, events)) :
    Tracks inputs fauxmo :=
  runs_history (I := fun inputs fauxmo _ => Tracks inputs fauxmo)
    (fun _ _ _ _ _ _ h hok => h.step hok) (l := []) (o := [])
    ⟨rfl, by simp [Fauxmo.fresh], by simp [Fauxmo.fresh]⟩ h

/-! ### Traffic -/

/-- The input is a datagram or a message. -/
def Input.IsTraffic : Input → Prop
  | .udp _ _ _ => True
  | .tcp _ => True
  | _ => False

/-- A datagram the discovery handler answers. -/
def IsDiscovery (message : Bytes) : Prop :=
  find (bytes "M-SEARCH") (cstr message) ≠ none ∧
    (find (bytes "ssdp:discover") (cstr message) ≠ none ∨
      find (bytes "upnp:rootdevice") (cstr message) ≠ none ∨
      find (bytes "device:basic:1") (cstr message) ≠ none)

instance (message : Bytes) : Decidable (IsDiscovery message) :=
  inferInstanceAs (Decidable (_ ∧ _))

lemma onUDPData_eq_nil_iff {fauxmo : Fauxmo} {message ipv4 : Bytes} {port : UInt16} :
    onUDPData env fauxmo message ipv4 port = [] ↔ ¬ IsDiscovery message := by
  have hlen : IsDiscovery message → message.length > 0 := by
    rintro ⟨hfind, -⟩
    cases message with
    | nil => exact absurd (by decide) hfind
    | cons b message => simp
  by_cases hd : IsDiscovery message
  · rw [onUDPData, if_pos (hlen hd)]
    simp [hd.1, hd.2, hd, sendUDPResponse]
  · refine iff_of_true ?_ hd
    rw [onUDPData]
    split
    · simp only
      split
      · rename_i hsearch
        rw [if_neg fun htarget => hd ⟨hsearch, htarget⟩]
      · rfl
    · rfl

/-- A disabled object takes no notice of a message. -/
lemma step_tcp_disabled {fauxmo fauxmo' : Fauxmo} {data : Bytes} {events : List Event}
    (hoff : fauxmo.enabled = false) (h : fauxmo.step env (.tcp data) = .ok (fauxmo', events)) :
    events = [] ∧ fauxmo'.devices = fauxmo.devices := by
  rw [Fauxmo.step, onMessageReceived, onTCPData, if_pos hoff] at h
  split at h <;> (cases h; exact ⟨rfl, rfl⟩)

/-- **Disabling**: traffic that arrives while the last `enable` was `enable(false)`, or before
any, sends nothing, calls nobody and changes no device, on exactly the runs in which no
discovery datagram arrives there after an earlier `enable(true)`. -/
theorem disabled_quiet_iff (inputs : List Input) :
    (∀ pre a post, inputs = pre ++ a :: post → a.IsTraffic → lastEnable pre = false →
        ∀ fauxmo events fauxmo' events',
          runs (Fauxmo.step env) Fauxmo.fresh pre = .ok (fauxmo, events) →
          fauxmo.step env a = .ok (fauxmo', events') →
          events' = [] ∧ fauxmo'.devices = fauxmo.devices) ↔
      ∀ pre message ipv4 port post, inputs = pre ++ .udp message ipv4 port :: post →
        lastEnable pre = false → Input.enable true ∈ pre →
        (∃ r, runs (Fauxmo.step env) Fauxmo.fresh pre = .ok r) → ¬ IsDiscovery message := by
  constructor
  · rintro h pre message ipv4 port post heq hlast hmem ⟨⟨fauxmo, events⟩, hrun⟩
    have hrec : fauxmo.udpReceivers ≠ 0 := (tracks_of_runs hrun).received.mpr hmem
    have hstep : fauxmo.step env (.udp message ipv4 port) =
        .ok (fauxmo, onUDPData env fauxmo message ipv4 port) := if_neg hrec
    exact onUDPData_eq_nil_iff.mp
      (h pre _ post heq trivial hlast fauxmo events _ _ hrun hstep).1
  · intro h pre a post heq htraffic hlast fauxmo events fauxmo' events' hrun hstep
    have htracks := tracks_of_runs hrun
    cases a with
    | tcp data => exact step_tcp_disabled (htracks.enabled.trans hlast) hstep
    | udp message ipv4 port =>
        rw [Fauxmo.step] at hstep
        split at hstep
        · cases hstep
          exact ⟨rfl, rfl⟩
        · rename_i hrec
          cases hstep
          exact ⟨onUDPData_eq_nil_iff.mpr (h pre message ipv4 port post heq hlast
            (htracks.received.mp hrec) ⟨_, hrun⟩), rfl⟩
    | _ => exact htraffic.elim

/-- Enabled, disabled, and discovered all the same. -/
theorem disabled_answers :
    ¬ ∀ pre a post, [.enable true, .enable false,
          .udp (bytes "M-SEARCH * HTTP/1.1\r\nMAN: \"ssdp:discover\"\r\n\r\n")
            (bytes "192.168.0.20") 50000] = pre ++ a :: post →
        a.IsTraffic → lastEnable pre = false → ∀ fauxmo events fauxmo' events',
          runs (Fauxmo.step homeEnv) Fauxmo.fresh pre = .ok (fauxmo, events) →
          fauxmo.step homeEnv a = .ok (fauxmo', events') →
          events' = [] ∧ fauxmo'.devices = fauxmo.devices := by
  intro h
  have hquiet := (h [.enable true, .enable false] _ [] rfl trivial rfl _ _ _ _ rfl rfl).1
  cases hquiet

/-! ### Listening -/

/-- The accept loops that run. -/
def Fauxmo.acceptLoops (fauxmo : Fauxmo) : ℕ := (fauxmo.server.map Server.acceptLoops).getD 0

/-- The call starts an accept loop. -/
def Fauxmo.Starts (fauxmo : Fauxmo) (a : Input) : Prop :=
  a = .enable true ∧ fauxmo.enabled = false ∧ fauxmo.internal = true

instance (fauxmo : Fauxmo) (b : Bool) : Decidable (fauxmo.Starts (.enable b)) :=
  decidable_of_iff (b = true ∧ fauxmo.enabled = false ∧ fauxmo.internal = true)
    (and_congr_left' (by simp))

/-- `enable` starts one loop more on the server there is or on a new one, or leaves it alone. -/
lemma enable_server (fauxmo : Fauxmo) (b : Bool) : (enable fauxmo b).server =
    if fauxmo.Starts (.enable b) then
      some { fauxmo.server.getD ⟨fauxmo.tcpPort.toUInt16, 0⟩ with
        acceptLoops := (fauxmo.server.getD ⟨fauxmo.tcpPort.toUInt16, 0⟩).acceptLoops + 1 }
    else fauxmo.server := by
  rw [enable]
  cases b with
  | false => cases fauxmo.enabled <;> simp [Fauxmo.Starts]
  | true =>
      cases hon : fauxmo.enabled with
      | true => simp [Fauxmo.Starts, hon]
      | false =>
          cases hint : fauxmo.internal <;> by_cases h0 : fauxmo.udpReceivers = 0 <;>
            simp [Fauxmo.Starts, hon, hint, h0]

/-- A second receiver is never made. -/
lemma enable_udpReceivers_le (fauxmo : Fauxmo) (b : Bool) (h : fauxmo.udpReceivers ≤ 1) :
    (enable fauxmo b).udpReceivers ≤ 1 := by
  rw [enable]
  split
  · exact h
  · cases b with
    | false => exact h
    | true => cases fauxmo.internal <;> by_cases h0 : fauxmo.udpReceivers = 0 <;> simp [h0, h]

/-- One accept loop on the server, and one receiver at most. -/
structure Fauxmo.Listening (fauxmo : Fauxmo) : Prop where
  accepts : ∀ server, fauxmo.server = some server → server.acceptLoops = 1
  receives : fauxmo.udpReceivers ≤ 1

/-- After the step at most one accept loop runs and there is at most one receiver. -/
def SingleAfter (_ : Fauxmo) (_ : Input) (fauxmo' : Fauxmo) (_ : List Event) : Prop :=
  fauxmo'.acceptLoops ≤ 1 ∧ fauxmo'.udpReceivers ≤ 1

/-- An accept loop is started only by the call that makes the server. -/
def StartsOnNew (fauxmo : Fauxmo) (a : Input) (_ : Fauxmo) (_ : List Event) : Prop :=
  fauxmo.Starts a → fauxmo.server = none

/-- **One input** leaves one loop, except that a start on a server that is there leaves two. -/
lemma Fauxmo.Listening.step {fauxmo fauxmo' : Fauxmo} {a : Input} {events : List Event}
    (h : fauxmo.Listening) (hok : fauxmo.step env a = .ok (fauxmo', events)) :
    (StartsOnNew fauxmo a fauxmo' events ∧ fauxmo'.Listening) ∨
      (¬ StartsOnNew fauxmo a fauxmo' events ∧ fauxmo'.acceptLoops = 2) := by
  by_cases ha : ∃ b, a = .enable b
  · obtain ⟨b, rfl⟩ := ha
    obtain rfl : FauxmoLinux.enable fauxmo b = fauxmo' := congrArg Prod.fst (Except.ok.inj hok)
    have hrec := enable_udpReceivers_le fauxmo b h.receives
    have hserver := enable_server fauxmo b
    by_cases hstart : fauxmo.Starts (.enable b)
    · rw [if_pos hstart] at hserver
      cases hold : fauxmo.server with
      | none =>
          rw [hold] at hserver
          refine Or.inl ⟨fun _ => hold, ⟨fun server hs => ?_, hrec⟩⟩
          obtain rfl := Option.some.inj (hserver.symm.trans hs)
          rfl
      | some server =>
          refine Or.inr ⟨fun hnew => (nomatch hold.symm.trans (hnew hstart)), ?_⟩
          simp [Fauxmo.acceptLoops, hserver, hold, h.accepts server hold]
    · rw [if_neg hstart] at hserver
      exact Or.inl ⟨fun hs => absurd hs hstart,
        fun server hs => h.accepts server (hserver.symm.trans hs), hrec⟩
  · have hne : ∀ b, a ≠ .enable b := fun b hb => ha ⟨b, hb⟩
    obtain ⟨-, hserver, hrec⟩ := step_frame hne hok
    exact Or.inl ⟨fun hstart => absurd hstart.1 (hne true),
      fun server hs => h.accepts server (hserver.symm.trans hs), hrec ▸ h.receives⟩

/-- **One accept loop, one receiver**: no step of a run leaves more exactly when on no step of it
an object with its own server, which was disabled, is enabled again. -/
theorem single_iff (inputs : List Input) :
    EveryStep (Fauxmo.step env) SingleAfter Fauxmo.fresh inputs ↔
      EveryStep (Fauxmo.step env) StartsOnNew Fauxmo.fresh inputs := by
  have hsingle : ∀ fauxmo : Fauxmo, fauxmo.Listening → fauxmo.acceptLoops ≤ 1 := by
    intro fauxmo h
    cases hs : fauxmo.server with
    | none => simp [Fauxmo.acceptLoops, hs]
    | some server => simp [Fauxmo.acceptLoops, hs, h.accepts server hs]
  refine everyStep_congr (I := Fauxmo.Listening) ?_ ?_ ⟨by simp [Fauxmo.fresh], by decide⟩
  · intro fauxmo a fauxmo' events h hok hafter
    rcases h.step hok with ⟨-, hl⟩ | ⟨-, htwo⟩
    · exact hl
    · rw [SingleAfter, htwo] at hafter
      omega
  · intro fauxmo a fauxmo' events h hok
    rcases h.step hok with ⟨hnew, hl⟩ | ⟨hnew, htwo⟩
    · exact iff_of_true ⟨hsingle fauxmo' hl, hl.receives⟩ hnew
    · exact iff_of_false (fun hafter => by rw [SingleAfter, htwo] at hafter; omega) hnew

/-- Enabled, disabled and enabled again: two accept loops on one socket. -/
theorem not_single_toggled :
    ¬ EveryStep (Fauxmo.step homeEnv) SingleAfter Fauxmo.fresh
      [.enable true, .enable false, .enable true] := by
  intro h
  have htwo := (((h _ _ rfl).2 _ _ rfl).2 _ _ rfl).1.1
  exact absurd htwo (by decide)

end FauxmoLinux
