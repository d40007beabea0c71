import FauxmoLinux.Bridge.Control

/-!
From a TCP message to a response: `_deviceJson`, `_onTCPDescription`, `_onTCPList`,
`_onTCPRequest` and `_onTCPData`.

* `listLoop`: the loop over all devices, whose counter is an `unsigned char`;
* `onTCPRequest`: the dispatch on method and URL;
* `splitRequest`: the three scanning loops that cut method, URL and body out of a message. The
  memory they walk over is the message and the terminator stored behind it; a loop that leaves
  it fails with `Fault.overrun`;
* `onTCPData`, `onMessageReceived`: the handler of a message.
-/

namespace FauxmoLinux

/-- The TCP server: the port that is handed to `bind`, which chooses one itself where that is `0`,
and the accept loops that run on it. -/
structure Server where
  port : UInt16
  acceptLoops : ℕ
  deriving DecidableEq, Repr

/-- The data of `class fauxmoLINUX`. `callback` is whether `_setStateCallback` is set,
`udpReceivers` counts the receivers behind `_udp`, which is `NULL` at `0`. -/
structure Fauxmo where
  enabled : Bool
  internal : Bool
  tcpPort : UInt32
  devices : List Device
  callback : Bool
  server : Option Server
  udpReceivers : ℕ
  deriving DecidableEq

variable (env : Env)

/-- `_tcp_port` as an argument of `%d`. -/
def portArg (port : UInt32) : Arg := .int (Int.bmod port.toNat (2 ^ 32))

/-- `_deviceJson`. -/
def deviceJson (devices : List Device) (id : UInt8) (all : Bool) : Except Fault Bytes :=
  match devices[id.toNat]? with
  | none => .ok (bytes "\x7b\x7d")
  | some device => do
      let uniqueid ← device.readUniqueid
      let size := strlen FAUXMO_DEVICE_JSON_TEMPLATE + 64
      return if all then
        snprintf size FAUXMO_DEVICE_JSON_TEMPLATE
          [.cstr device.name.1, .cstr uniqueid, .cstr (boolText device.state),
           .int device.value.toNat]
      else
        snprintf size FAUXMO_DEVICE_JSON_TEMPLATE_SHORT [.cstr device.name.1, .cstr uniqueid]

/-- `_onTCPDescription`. -/
def onTCPDescription (fauxmo : Fauxmo) : Outcome :=
  let ip := bridgeIp env.iface
  let mac := bridgeMac env.iface
  let host := ip.toList.map octetArg ++ [portArg fauxmo.tcpPort]
  let response := snprintf (strlen FAUXMO_DESCRIPTION_TEMPLATE + 64)
    FAUXMO_DESCRIPTION_TEMPLATE (host ++ host ++ [.cstr mac, .cstr mac])
  ⟨fauxmo.devices, sendTCPResponse (bytes "200 OK") response (bytes "text/xml"), true⟩

/-- The loop of `_onTCPList`: device `i`, then `i + 1`, which is `0` again behind `255`. The
first argument counts the rounds that are still allowed. -/
def listLoop (devices : List Device) : ℕ → UInt8 → Bytes → Except Fault Bytes
  | 0, _, _ => .error .diverge
  | rounds + 1, i, response =>
      if i.toNat < devices.length then do
        let comma := if i > 0 then bytes "," else []
        let json ← deviceJson devices i false
        listLoop devices rounds (i + 1)
          (response ++ comma ++ bytes "\"" ++ toDec (i.toNat + 1) ++ bytes "\":" ++ json)
      else .ok response

/-- `_onTCPList`. A loop that is not over after `256` rounds has come back to its start. -/
def onTCPList (devices : List Device) (url : Bytes) : Except Fault Outcome :=
  match find (bytes "lights") url with
  | none => .ok ⟨devices, [], false⟩
  | some pos => do
      let id ← if pos + 7 < url.length then lightNumber url pos else pure 0
      let response ←
        if id = 0 then do
          let list ← listLoop devices 256 0 (bytes "\x7b")
          pure (list ++ bytes "\x7d")
        else deviceJson devices (id - 1) true
      return ⟨devices, sendTCPResponse (bytes "200 OK") response (bytes "application/json"),
        true⟩

/-- `_onTCPRequest`. -/
def onTCPRequest (fauxmo : Fauxmo) (isGet : Bool) (url body : Bytes) : Except Fault Outcome :=
  if fauxmo.enabled = false then .ok ⟨fauxmo.devices, [], false⟩
  else if url = bytes "/description.xml" then .ok (onTCPDescription env fauxmo)
  else if bytes "/api" <+: url then
    if isGet then onTCPList fauxmo.devices url
    else onTCPControl env fauxmo.callback fauxmo.devices url body
  else .ok ⟨fauxmo.devices, [], false⟩

/-! ### Splitting a message -/

/-- `while (*p != ' ') p++;` over the memory from the cell `p` on. -/
def scanSpace : Bytes → ℕ → Except Fault ℕ
  | [], _ => .error .overrun
  | b :: rest, p => if b ≠ 32 then scanSpace rest (p + 1) else .ok p

/-- The counter of line feeds behind a byte: carriage returns do not count, other bytes start
the count again. -/
def countLineFeed (c b : UInt8) : UInt8 := if b ≠ 13 then (if b = 10 then c + 1 else 0) else c

/-- The search for the double line feed, `c` being the line feeds seen last. -/
def scanBlank : Bytes → ℕ → UInt8 → Except Fault ℕ
  | [], _, _ => .error .overrun
  | b :: rest, p, c =>
      if b ≠ 0 ∧ c < 2 then scanBlank rest (p + 1) (countLineFeed c b) else .ok p

/-- The parts of a message as C strings. -/
structure Request where
  method : Bytes
  url : Bytes
  body : Bytes
  deriving DecidableEq, Repr

/-- The three loops of `_onTCPData` over the message and the terminator at its end. -/
def splitRequest (data : Bytes) : Except Fault Request := do
  let mem := data ++ [0]
  let p ← scanSpace mem 0
  let mem := mem.set p 0
  let url := p + 1
  let p ← scanSpace (mem.drop url) url
  let mem := mem.set p 0
  let body ← scanBlank (mem.drop (p + 1)) (p + 1) 0
  return ⟨cstr mem, cstr (mem.drop url), cstr (mem.drop body)⟩

/-- `strncmp(method, "GET", 3) == 0`. -/
def Request.isGet (r : Request) : Bool := r.method.take 3 = bytes "GET"

/-- `_onTCPData`. -/
def onTCPData (fauxmo : Fauxmo) (data : Bytes) : Except Fault Outcome :=
  if fauxmo.enabled = false then .ok ⟨fauxmo.devices, [], false⟩
  else do
    let r ← splitRequest data
    onTCPRequest env fauxmo r.isGet r.url r.body

/-- The most that one `recv` reads, and one `recvfrom`. -/
def AS_DEFAULT_BUFFER_SIZE : ℕ := 0x1000

/-- The `onMessageReceived` of a connection: `_onTCPData` on what one `recv` has read, the
object and what was sent and called. -/
def onMessageReceived (fauxmo : Fauxmo) (message : Bytes) :
    Except Fault (Fauxmo × List Event) := do
  let o ← onTCPData env fauxmo message
  return ({ fauxmo with devices := o.devices }, o.events)

end FauxmoLinux
