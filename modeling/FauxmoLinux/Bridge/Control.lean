import FauxmoLinux.Bridge.Device
import FauxmoLinux.Bridge.Templates

/-!
Control requests: `_sendTCPResponse` and `_onTCPControl`.

* `applyBody`: the five branches that write to the addressed device;
* `onTCPControl`: the handler, its responses and its callback;
* `Command`, `decode`: what a body asks for, read without a device. `applyBody_of_lt` says that
  the branches carry out the command their body decodes to, and `applyBody_of_le` that they
  fail on a device that is not there;
* `onTCPControl_ok_cases`: a request that completes asks for the device type, is rejected, or
  carries out one command on one device of the store.
-/

namespace FauxmoLinux

/-- What the handlers take from outside: the network interface, and the floating-point colour
arithmetic of `_hs2rgb` and of `_ct2rgb` behind its integer division. -/
structure Env where
  iface : Interface
  hs2rgb : UInt16 → UInt8 → Rgb
  tempRgb : ℕ → Rgb

/-- An environment to run the handlers in: a home network, and colours that are all white. -/
def homeEnv : Env :=
  { iface := ⟨#v[192, 168, 0, 10], #v[2, 0, 94, 16, 0, 1]⟩
    hs2rgb := fun _ _ => ⟨255, 255, 255⟩
    tempRgb := fun _ => ⟨255, 255, 255⟩ }

/-- What the program does to the outside: bytes on a TCP connection, a UDP datagram, a call of
`_setStateCallback`. -/
inductive Event where
  | tcp (payload : Bytes)
  | udp (payload ipv4 : Bytes) (port : UInt16)
  | setState (id : UInt8) (name : CString) (state : Bool) (value : UInt8)
  deriving DecidableEq

/-- The result of a request handler: the store behind it, what it sent in order, and the
returned flag. -/
structure Outcome where
  devices : List Device
  events : List Event
  handled : Bool
  deriving DecidableEq

/-- `_sendTCPResponse`: the header block, then the body. -/
def sendTCPResponse (code body mime : Bytes) : List Event :=
  let body := cstr body
  let headers := snprintf (strlen FAUXMO_TCP_HEADERS + 32) FAUXMO_TCP_HEADERS
    [.cstr code, .cstr mime, .int body.length]
  [.tcp headers, .tcp body]

def boolText (b : Bool) : Bytes := if b then bytes "true" else bytes "false"

variable (env : Env)

/-- `_ct2rgb`, whose first step divides integers. -/
def ct2rgb (ct : UInt16) : Except Fault Rgb :=
  if ct = 0 then .error .divByZero else .ok (env.tempRgb (10000 / ct.toNat))

/-- The update of `_devices[id]` in `_onTCPControl`: the branches on `bri`, `hue`, `ct`, `false`
and the rest. -/
def applyBody (devices : List Device) (id : UInt8) (body : Bytes) :
    Except Fault (List Device) :=
  match find (bytes "bri") body with
  | some pos => do
      let value := UInt8.ofInt (atoi (← substr body (pos + 5) none))
      modifyDevice devices id fun d => { d with value := value, state := decide (value > 0) }
  | none =>
  match find (bytes "hue") body with
  | some pos => do
      let devices ← modifyDevice devices id fun d => { d with state := true }
      let posComma := findFrom (bytes ",") body (some pos)
      let hue := UInt16.ofInt (atoi (← substr body (pos + 5) posComma))
      let pos := toInt (findFrom (bytes "sat") body posComma)
      let sat := UInt8.ofInt (atoi (← substr body (pos + 5) none))
      modifyDevice devices id fun d => { d with rgb := env.hs2rgb hue sat }
  | none =>
  match find (bytes "ct") body with
  | some pos => do
      let devices ← modifyDevice devices id fun d => { d with state := true }
      let ct := UInt16.ofInt (atoi (← substr body (pos + 4) none))
      let rgb ← ct2rgb env ct
      modifyDevice devices id fun d => { d with rgb := rgb }
  | none =>
  if find (bytes "false") body ≠ none then
    modifyDevice devices id fun d => { d with state := false }
  else
    modifyDevice devices id fun d =>
      { d with state := true, value := if d.value = 0 then 255 else d.value }

/-- The light number of a URL whose first `lights` stands at `pos`, cut to an `unsigned char`. -/
def lightNumber (url : Bytes) (pos : ℕ) : Except Fault UInt8 := do
  return UInt8.ofInt (atoi (← substr url (pos + 7) none))

/-- The response and the callback behind an update that left the device `id` as `d`. -/
def stateEvents (callback : Bool) (id : UInt8) (d : Device) : List Event :=
  let response := snprintf (strlen FAUXMO_TCP_STATE_RESPONSE + 10) FAUXMO_TCP_STATE_RESPONSE
    [.int (id.toNat + 1), .cstr (boolText d.state)]
  sendTCPResponse (bytes "200 OK") response (bytes "text/xml") ++
    if callback then [.setState id d.name d.state d.value] else []

/-- `stateEvents` of `_devices[id]`. -/
def reportState (callback : Bool) (devices : List Device) (id : UInt8) :
    Except Fault (List Event) :=
  match devices[id.toNat]? with
  | none => .error .badIndex
  | some d => .ok (stateEvents callback id d)

/-- The body `_onTCPControl` answers a `devicetype` request with. -/
def devicetypeResponse : Bytes :=
  bytes ("[\x7b\"success\":\x7b\"username\": " ++
    "\"2WLEDHardQrI3WHYTHoMcXHgEspsM8ZZRpSKtBQr\"\x7d\x7d]")

/-- `_onTCPControl`; `callback` is whether `_setStateCallback` is set. -/
def onTCPControl (callback : Bool) (devices : List Device) (url body : Bytes) :
    Except Fault Outcome :=
  if find (bytes "devicetype") body ≠ none then
    .ok ⟨devices, sendTCPResponse (bytes "200 OK") devicetypeResponse
      (bytes "application/json"), true⟩
  else if find (bytes "state") url ≠ none ∧ body.length > 0 then
    match find (bytes "lights") url with
    | none => .ok ⟨devices, [], false⟩
    | some pos => do
        let id ← lightNumber url pos
        if id > 0 then
          let id := id - 1
          let devices ← applyBody env devices id body
          let events ← reportState callback devices id
          return ⟨devices, events, true⟩
        else return ⟨devices, [], false⟩
  else .ok ⟨devices, [], false⟩

/-! ### Commands -/

/-- What a control request can ask of a light. -/
inductive Command where
  | bri (value : UInt8)
  | colour (rgb : Rgb)
  | off
  | on
  deriving DecidableEq, Repr

/-- The effect of a command on a light. -/
def Command.apply : Command → Device → Device
  | .bri value, d => { d with value := value, state := decide (value > 0) }
  | .colour rgb, d => { d with state := true, rgb := rgb }
  | .off, d => { d with state := false }
  | .on, d => { d with state := true, value := if d.value = 0 then 255 else d.value }

@[simp] lemma Command.apply_name (c : Command) (d : Device) : (c.apply d).name = d.name := by
  cases c <;> rfl

@[simp] lemma Command.apply_uniqueid (c : Command) (d : Device) :
    (c.apply d).uniqueid = d.uniqueid := by
  cases c <;> rfl

/-- A command carried out twice is carried out once. -/
lemma Command.apply_apply (c : Command) (d : Device) : c.apply (c.apply d) = c.apply d := by
  cases c with
  | bri value => rfl
  | colour rgb => rfl
  | off => rfl
  | on => by_cases h : d.value = 0 <;> simp [Command.apply, h]

/-- The command a body stands for. -/
def decode (body : Bytes) : Except Fault Command :=
  match find (bytes "bri") body with
  | some pos => do return .bri (UInt8.ofInt (atoi (← substr body (pos + 5) none)))
  | none =>
  match find (bytes "hue") body with
  | some pos => do
      let posComma := findFrom (bytes ",") body (some pos)
      let hue := UInt16.ofInt (atoi (← substr body (pos + 5) posComma))
      let pos := toInt (findFrom (bytes "sat") body posComma)
      let sat := UInt8.ofInt (atoi (← substr body (pos + 5) none))
      return .colour (env.hs2rgb hue sat)
  | none =>
  match find (bytes "ct") body with
  | some pos => do
      return .colour (← ct2rgb env (UInt16.ofInt (atoi (← substr body (pos + 4) none))))
  | none => .ok (if find (bytes "false") body ≠ none then .off else .on)

/-- The branches carry out the command their body stands for. -/
theorem applyBody_of_lt {devices : List Device} {id : UInt8} (body : Bytes)
    (h : id.toNat < devices.length) :
    applyBody env devices id body =
      (decode env body).map fun c => devices.modify id.toNat c.apply := by
  have hmod : ∀ f g : Device → Device,
      modifyDevice (devices.modify id.toNat f) id g =
        .ok (devices.modify id.toNat fun d => g (f d)) := fun f g => by
    rw [modifyDevice_of_lt _ (by rwa [List.length_modify]), List.modify_modify_eq]
    rfl
  rw [applyBody, decode]
  cases find (bytes "bri") body with
  | some pos =>
      simp only [modifyDevice_of_lt _ h]
      cases substr body (pos + 5) none with
      | error e => rfl
      | ok s => rfl
  | none =>
  cases find (bytes "hue") body with
  | some pos =>
      simp only [modifyDevice_of_lt _ h, ok_bind, hmod]
      cases substr body (pos + 5) (findFrom (bytes ",") body (some pos)) with
      | error e => rfl
      | ok s =>
          simp only [ok_bind]
          cases substr body (toInt (findFrom (bytes "sat") body
              (findFrom (bytes ",") body (some pos))) + 5) none with
          | error e => rfl
          | ok t => rfl
  | none =>
  cases find (bytes "ct") body with
  | some pos =>
      simp only [modifyDevice_of_lt _ h, ok_bind, hmod]
      cases substr body (pos + 4) none with
      | error e => rfl
      | ok s =>
          simp only [ok_bind]
          cases ct2rgb env (UInt16.ofInt (atoi s)) with
          | error e => rfl
          | ok rgb => rfl
  | none =>
      by_cases hf : find (bytes "false") body = none
      · simp only [hf, ne_eq, not_true, if_false, modifyDevice_of_lt _ h]; rfl
      · simp only [hf, ne_eq, not_false_iff, if_true, modifyDevice_of_lt _ h]; rfl

/-- On a device that is not there every branch fails, at the index or before it. -/
lemma applyBody_of_le {devices : List Device} {id : UInt8} (body : Bytes)
    (h : devices.length ≤ id.toNat) : applyBody env devices id body = .error .outOfRange ∨
      applyBody env devices id body = .error .badIndex := by
  rw [applyBody]
  cases find (bytes "bri") body with
  | some pos =>
      simp only [modifyDevice_of_le _ h]
      cases hs : substr body (pos + 5) none with
      | error e =>
          rw [substr_error hs]
          exact Or.inl rfl
      | ok s => exact Or.inr rfl
  | none =>
  cases find (bytes "hue") body with
  | some pos => exact Or.inr (by simp [modifyDevice_of_le _ h])
  | none =>
  cases find (bytes "ct") body with
  | some pos => exact Or.inr (by simp [modifyDevice_of_le _ h])
  | none => exact Or.inr (by simp [modifyDevice_of_le _ h])

variable {env}

/-- The branches complete exactly when the device is there and the body decodes, and then they
carry out its command. -/
theorem applyBody_ok_iff {devices devices' : List Device} {id : UInt8} {body : Bytes} :
    applyBody env devices id body = .ok devices' ↔
      ∃ c, id.toNat < devices.length ∧ decode env body = .ok c ∧
        devices' = devices.modify id.toNat c.apply := by
  by_cases h : id.toNat < devices.length
  · rw [applyBody_of_lt env body h]
    cases decode env body with
    | error e => simp [Except.map]
    | ok c => simp [Except.map, h, eq_comm]
  · rcases applyBody_of_le env body (not_lt.mp h) with he | he <;> simp [he, h]

/-! ### The handler -/

/-- The request reaches the state branch of the handler. -/
def IsStateRequest (url body : Bytes) : Prop :=
  find (bytes "devicetype") body = none ∧ find (bytes "state") url ≠ none ∧ body.length > 0

instance (url body : Bytes) : Decidable (IsStateRequest url body) :=
  inferInstanceAs (Decidable (_ ∧ _ ∧ _))

/-- The index of the device a request writes to, `none` for a request that is rejected or asks
for the device type. -/
def target (url body : Bytes) : Except Fault (Option UInt8) :=
  if IsStateRequest url body then
    match find (bytes "lights") url with
    | none => .ok none
    | some pos => do
        let id ← lightNumber url pos
        return if id > 0 then some (id - 1) else none
  else .ok none

/-- Where a request has a target, it is a state request. -/
lemma isStateRequest_of_target {url body : Bytes} {id : UInt8}
    (h : target url body = .ok (some id)) : IsStateRequest url body := by
  by_contra hs
  rw [target, if_neg hs] at h
  cases h

/-- The handler finds the target of the request, rejects a request without one, and otherwise
updates the device and reports it. -/
lemma onTCPControl_eq_target {callback : Bool} {devices : List Device} {url body : Bytes}
    (h : find (bytes "devicetype") body = none) :
    onTCPControl env callback devices url body = do
      match ← target url body with
      | none => return ⟨devices, [], false⟩
      | some id => do
          let devices ← applyBody env devices id body
          let events ← reportState callback devices id
          return ⟨devices, events, true⟩ := by
  rw [onTCPControl, if_neg (by simp [h]), target]
  by_cases hs : find (bytes "state") url ≠ none ∧ body.length > 0
  · rw [if_pos hs, if_pos ⟨h, hs⟩]
    cases find (bytes "lights") url with
    | none => rfl
    | some pos =>
        cases hn : lightNumber url pos with
        | error e => simp [hn]
        | ok n =>
            simp only [hn, ok_bind]
            by_cases h0 : n > 0
            · rw [if_pos h0, if_pos h0]; rfl
            · rw [if_neg h0, if_neg h0]; rfl
  · rw [if_neg hs, if_neg fun hst => hs hst.2]
    rfl

/-- A request with a target in the store completes when its body decodes: the command is
carried out on that device alone, and what is reported is the device behind it. -/
theorem onTCPControl_of_target {callback : Bool} {devices : List Device} {url body : Bytes}
    {id : UInt8} {d : Device} (ht : target url body = .ok (some id))
    (hd : devices[id.toNat]? = some d) :
    onTCPControl env callback devices url body = (decode env body).map fun c =>
      ⟨devices.modify id.toNat c.apply, stateEvents callback id (c.apply d), true⟩ := by
  have hdt : find (bytes "devicetype") body = none := (isStateRequest_of_target ht).1
  have hlt : id.toNat < devices.length := (List.getElem?_eq_some_iff.mp hd).1
  rw [onTCPControl_eq_target hdt, ht]
  simp only [ok_bind, applyBody_of_lt env body hlt]
  cases decode env body with
  | error e => rfl
  | ok c =>
      have hget : (devices.modify id.toNat c.apply)[id.toNat]? = some (c.apply d) := by
        rw [List.getElem?_modify_eq, hd]
        rfl
      simp only [Except.map, ok_bind, reportState, hget]
      rfl

/-- **What a completed request did**: it asked for the device type, it was rejected, or it
carried out the command of its body on its target. -/
theorem onTCPControl_ok_cases {callback : Bool} {devices : List Device} {url body : Bytes}
    {o : Outcome} (h : onTCPControl env callback devices url body = .ok o) :
    (find (bytes "devicetype") body ≠ none ∧
        o = ⟨devices, sendTCPResponse (bytes "200 OK") devicetypeResponse
          (bytes "application/json"), true⟩) ∨
      (find (bytes "devicetype") body = none ∧ target url body = .ok none ∧
        o = ⟨devices, [], false⟩) ∨
      ∃ id d c, target url body = .ok (some id) ∧ devices[id.toNat]? = some d ∧
        decode env body = .ok c ∧
        o = ⟨devices.modify id.toNat c.apply, stateEvents callback id (c.apply d), true⟩ := by
  by_cases hdt : find (bytes "devicetype") body = none
  · refine Or.inr ?_
    have h' := h
    rw [onTCPControl_eq_target hdt, bind_ok_iff] at h'
    obtain ⟨t, ht, h'⟩ := h'
    cases t with
    | none =>
        refine Or.inl ⟨hdt, ht, ?_⟩
        simpa [pure, Except.pure, eq_comm] using h'
    | some id =>
        obtain ⟨devices', happ, -⟩ := bind_ok_iff.mp h'
        obtain ⟨c, hlt, hc, -⟩ := applyBody_ok_iff.mp happ
        have hd : devices[id.toNat]? = some devices[id.toNat] := List.getElem?_eq_getElem hlt
        refine Or.inr ⟨id, _, c, ht, hd, hc, ?_⟩
        rw [onTCPControl_of_target ht hd, hc] at h
        simpa [Except.map, eq_comm] using h
  · refine Or.inl ⟨hdt, ?_⟩
    rw [onTCPControl, if_pos hdt, Except.ok.injEq] at h
    exact h.symm

end FauxmoLinux
