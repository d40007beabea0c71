import FauxmoLinux.Bridge.Request

/-!
What a message asks of the bridge, read without a store.

* `Meaning`, `meaning`: the requests the handlers tell apart, and the one a message stands for;
* `Meaning.answer`, `onMessageReceived_ok_iff`: what an enabled object does on a message is the
  answer to its meaning;
* `Meaning.eq_of_answer`: two requests that are answered alike on every store on which the first
  completes are the same request.
-/

namespace FauxmoLinux

variable {env : Env}

/-! ### Requests -/

/-- The requests the handlers tell apart: none, the description, the lights or one of them, the
registration of a device type, and a command for a light. The number of a light in `list` is
the one of the URL, `0` for all of them; in `command` it is an index. -/
inductive Meaning where
  | nothing
  | description
  | list (id : UInt8)
  | register
  | command (id : UInt8) (c : Command)
  deriving DecidableEq

variable (env)

/-- The light number of a request for the lights whose URL has its first `lights` at `pos`,
`0` when no text is behind it. -/
def listNumber (url : Bytes) (pos : ℕ) : Except Fault UInt8 :=
  if pos + 7 < url.length then lightNumber url pos else .ok 0

/-- The request the parts of a message stand for. -/
def Request.meaning (q : Request) : Except Fault Meaning :=
  if q.url = bytes "/description.xml" then .ok .description
  else if bytes "/api" <+: q.url then
    if q.isGet then
      match find (bytes "lights") q.url with
      | none => .ok .nothing
      | some pos => do return .list (← listNumber q.url pos)
    else if find (bytes "devicetype") q.body ≠ none then .ok .register
    else do
      match ← target q.url q.body with
      | none => return .nothing
      | some id => return .command id (← decode env q.body)
  else .ok .nothing

/-- The request a message stands for. -/
def meaning (message : Bytes) : Except Fault Meaning := do
  let q ← splitRequest message
  q.meaning env

variable {env}

/-- The text that answers a request for the lights. -/
def listResponse (devices : List Device) (id : UInt8) : Except Fault Bytes :=
  if id = 0 then do
    let list ← listLoop devices 256 0 (bytes "\x7b")
    pure (list ++ bytes "\x7d")
  else deviceJson devices (id - 1) true

variable (env)

/-- What an enabled object does on a request. -/
def Meaning.answer (fauxmo : Fauxmo) : Meaning → Except Fault (Fauxmo × List Event)
  | .nothing => .ok (fauxmo, [])
  | .description => .ok (fauxmo, (onTCPDescription env fauxmo).events)
  | .list id => (listResponse fauxmo.devices id).map fun response =>
      (fauxmo, sendTCPResponse (bytes "200 OK") response (bytes "application/json"))
  | .register => .ok (fauxmo, sendTCPResponse (bytes "200 OK") devicetypeResponse
      (bytes "application/json"))
  | .command id c =>
      match fauxmo.devices[id.toNat]? with
      | none => .error .badIndex
      | some d => .ok ({ fauxmo with devices := fauxmo.devices.modify id.toNat c.apply },
          stateEvents fauxmo.callback id (c.apply d))

variable {env}

/-- `_onTCPList` reads a light number and answers it. -/
lemma onTCPList_eq (devices : List Device) (url : Bytes) :
    onTCPList devices url =
      match find (bytes "lights") url with
      | none => .ok ⟨devices, [], false⟩
      | some pos => do
          let id ← listNumber url pos
          let response ← listResponse devices id
          return ⟨devices, sendTCPResponse (bytes "200 OK") response (bytes "application/json"),
            true⟩ := by
  rw [onTCPList]
  cases find (bytes "lights") url with
  | none => rfl
  | some pos =>
      simp only [listNumber, listResponse]
      by_cases hpos : pos + 7 < url.length
      · rw [if_pos hpos, if_pos hpos]
        cases lightNumber url pos with
        | error e => rfl
        | ok id => by_cases h0 : id = 0 <;> simp [h0]
      · rw [if_neg hpos, if_neg hpos]
        simp [pure, Except.pure]

lemma Meaning.answer_list {fauxmo : Fauxmo} {id : UInt8} {response : Bytes}
    (h : listResponse fauxmo.devices id = .ok response) :
    (Meaning.list id).answer env fauxmo =
      .ok (fauxmo, sendTCPResponse (bytes "200 OK") response (bytes "application/json")) := by
  rw [answer, h]
  rfl

/-- The answer to a request for the lights that completes had a text. -/
lemma Meaning.answer_list_ok {fauxmo : Fauxmo} {id : UInt8} {r : Fauxmo × List Event}
    (h : (Meaning.list id).answer env fauxmo = .ok r) :
    ∃ response, listResponse fauxmo.devices id = .ok response ∧
      r = (fauxmo, sendTCPResponse (bytes "200 OK") response (bytes "application/json")) := by
  cases hlist : listResponse fauxmo.devices id with
  | error e =>
      rw [answer, hlist] at h
      cases h
  | ok response =>
      rw [answer_list hlist] at h
      exact ⟨response, rfl, (Except.ok.inj h).symm⟩

lemma Meaning.answer_command {fauxmo : Fauxmo} {id : UInt8} {c : Command} {d : Device}
    (hd : fauxmo.devices[id.toNat]? = some d) :
    (Meaning.command id c).answer env fauxmo =
      .ok ({ fauxmo with devices := fauxmo.devices.modify id.toNat c.apply },
        stateEvents fauxmo.callback id (c.apply d)) := by
  rw [answer, hd]

/-- The answer to a command that completes had a device to carry it out on. -/
lemma Meaning.answer_command_ok {fauxmo : Fauxmo} {id : UInt8} {c : Command}
    {r : Fauxmo × List Event} (h : (Meaning.command id c).answer env fauxmo = .ok r) :
    ∃ d, fauxmo.devices[id.toNat]? = some d ∧
      r = ({ fauxmo with devices := fauxmo.devices.modify id.toNat c.apply },
        stateEvents fauxmo.callback id (c.apply d)) := by
  cases hd : fauxmo.devices[id.toNat]? with
  | none =>
      rw [answer, hd] at h
      cases h
  | some d =>
      rw [answer_command hd] at h
      exact ⟨d, rfl, (Except.ok.inj h).symm⟩

/-- An enabled object hands the parts of a message to `_onTCPRequest`. -/
lemma onMessageReceived_of_split {fauxmo : Fauxmo} {message : Bytes} {q : Request}
    (hon : fauxmo.enabled = true) (hq : splitRequest message = .ok q) :
    onMessageReceived env fauxmo message =
      (onTCPRequest env fauxmo q.isGet q.url q.body).map fun o =>
        ({ fauxmo with devices := o.devices }, o.events) := by
  rw [onMessageReceived, onTCPData, if_neg (by simp [hon]), hq, ok_bind]
  cases onTCPRequest env fauxmo q.isGet q.url q.body <;> rfl

/-- A control request that completes is the answer to its meaning, and one whose meaning is
answered completes. -/
lemma onTCPControl_ok_iff_answer {fauxmo : Fauxmo} {q : Request} {r : Fauxmo × List Event}
    (hdesc : q.url ≠ bytes "/description.xml") (hapi : bytes "/api" <+: q.url)
    (hget : q.isGet = false) :
    ((onTCPControl env fauxmo.callback fauxmo.devices q.url q.body).map fun o =>
        (({ fauxmo with devices := o.devices } : Fauxmo), o.events)) = .ok r ↔
      ∃ m, q.meaning env = .ok m ∧ m.answer env fauxmo = .ok r := by
  have hmean : find (bytes "devicetype") q.body = none → q.meaning env = do
      match ← target q.url q.body with
      | none => return .nothing
      | some id => return .command id (← decode env q.body) := fun hdt => by
    rw [Request.meaning, if_neg hdesc, if_pos hapi, if_neg (by simp [hget]),
      if_neg (by simp [hdt])]
  constructor
  · intro h
    cases ho : onTCPControl env fauxmo.callback fauxmo.devices q.url q.body with
    | error e => rw [ho] at h; cases h
    | ok o =>
        rw [ho] at h
        obtain rfl := Except.ok.inj h
        rcases onTCPControl_ok_cases ho with ⟨hdt, rfl⟩ | ⟨hdt, ht, rfl⟩ |
          ⟨id, d, c, ht, hd, hc, rfl⟩
        · refine ⟨.register, ?_, rfl⟩
          rw [Request.meaning, if_neg hdesc, if_pos hapi, if_neg (by simp [hget]), if_pos hdt]
        · exact ⟨.nothing, by rw [hmean hdt, ht]; rfl, rfl⟩
        · have hdt := (isStateRequest_of_target ht).1
          exact ⟨.command id c, by rw [hmean hdt, ht, hc]; rfl, Meaning.answer_command hd⟩
  · rintro ⟨m, hm, ha⟩
    by_cases hdt : find (bytes "devicetype") q.body = none
    · rw [hmean hdt] at hm
      cases ht : target q.url q.body with
      | error e => rw [ht] at hm; cases hm
      | ok t =>
          rw [ht, ok_bind] at hm
          cases t with
          | none =>
              cases hm
              rw [onTCPControl_eq_target hdt, ht]
              exact ha
          | some id =>
              obtain ⟨c, hc, hret⟩ : ∃ c, decode env q.body = .ok c ∧
                  (.ok (.command id c) : Except Fault Meaning) = .ok m := bind_ok_iff.mp hm
              cases hret
              obtain ⟨d, hd, rfl⟩ := Meaning.answer_command_ok ha
              rw [onTCPControl_of_target ht hd, hc]
              rfl
    · rw [Request.meaning, if_neg hdesc, if_pos hapi, if_neg (by simp [hget]), if_pos hdt] at hm
      cases hm
      rw [onTCPControl, if_pos hdt]
      exact ha

/-- **The handlers answer meanings**: an enabled object completes on a message exactly when the
message has a meaning and that has an answer, which is then what the object does. -/
theorem onMessageReceived_ok_iff {fauxmo : Fauxmo} {message : Bytes} {r : Fauxmo × List Event}
    (hon : fauxmo.enabled = true) :
    onMessageReceived env fauxmo message = .ok r ↔
      ∃ m, meaning env message = .ok m ∧ m.answer env fauxmo = .ok r := by
  cases hq : splitRequest message with
  | error e => simp [onMessageReceived, onTCPData, meaning, hon, hq]
  | ok q =>
      have hmean : meaning env message = q.meaning env := by rw [meaning, hq, ok_bind]
      rw [onMessageReceived_of_split hon hq, hmean, onTCPRequest, if_neg (by simp [hon])]
      by_cases hdesc : q.url = bytes "/description.xml"
      · rw [if_pos hdesc, Request.meaning, if_pos hdesc]
        simp [Except.map, Meaning.answer, onTCPDescription]
      rw [if_neg hdesc]
      by_cases hapi : bytes "/api" <+: q.url
      · rw [if_pos hapi]
        cases hget : q.isGet with
        | false => exact onTCPControl_ok_iff_answer hdesc hapi hget
        | true =>
            rw [if_pos rfl, Request.meaning, if_neg hdesc, if_pos hapi, if_pos hget, onTCPList_eq]
            cases find (bytes "lights") q.url with
            | none => simp [Except.map, Meaning.answer]
            | some pos =>
                cases hid : listNumber q.url pos with
                | error e => simp [hid, Except.map]
                | ok id =>
                    cases hlist : listResponse fauxmo.devices id with
                    | error e => simp [hid, hlist, Except.map, Meaning.answer, pure, Except.pure]
                    | ok text => simp [hid, hlist, Except.map, Meaning.answer, pure, Except.pure]
      · rw [if_neg hapi, Request.meaning, if_neg hdesc, if_neg hapi]
        simp [Except.map, Meaning.answer]

/-! ### Telling requests apart -/

/-- The first byte of the body of a response, the second thing that is sent. -/
def bodyHead : List Event → Option UInt8
  | _ :: .tcp body :: _ => body.head?
  | _ => none

/-- The first byte of the body that answers a request. -/
def Meaning.head : Meaning → Option UInt8
  | .nothing => none
  | .description => some 60
  | .list _ => some 123
  | .register => some 91
  | .command _ _ => some 91

/-- What a format string begins with, its text begins with, as far as the buffer goes. -/
lemma prefix_snprintf {k n : ℕ} {p s : Bytes} (hp : p <+: s) (hn : p.length < n)
    (t : List Piece) (args : List Arg) : p <+: snprintf (k + n) (.lit s :: t) args := by
  rw [snprintf, sprintf, List.prefix_take_iff]
  exact ⟨hp.trans (List.prefix_append _ _), by omega⟩

lemma head_snprintf {k n : ℕ} {s : Bytes} {b : UInt8} (hn : 1 < n) (hs : s.head? = some b)
    (t : List Piece) (args : List Arg) :
    (snprintf (k + n) (.lit s :: t) args).head? = some b := by
  have hp : [b] <+: s := by
    cases s with
    | nil => cases hs
    | cons c s => simpa [eq_comm] using hs
  obtain ⟨rest, hrest⟩ := prefix_snprintf hp hn t args
  rw [← hrest]
  rfl

lemma bodyHead_sendTCPResponse {body : Bytes} {b : UInt8} (hbody : body.head? = some b)
    (hb : b ≠ 0) (code mime : Bytes) : bodyHead (sendTCPResponse code body mime) = some b := by
  cases body with
  | nil => cases hbody
  | cons c body =>
      obtain rfl : c = b := by simpa using hbody
      simp [sendTCPResponse, bodyHead, cstr, hb]

/-- The loop over the devices only adds to what it is given. -/
lemma listLoop_extends {devices : List Device} {rounds : ℕ} {i : UInt8} {response list : Bytes}
    (h : listLoop devices rounds i response = .ok list) : response <+: list := by
  induction rounds generalizing i response with
  | zero => cases h
  | succ rounds ih =>
      rw [listLoop] at h
      by_cases hi : i.toNat < devices.length
      · rw [if_pos hi] at h
        obtain ⟨json, -, hrest⟩ := bind_ok_iff.mp h
        have hpre := ih hrest
        simp only [List.append_assoc] at hpre
        exact (List.prefix_append _ _).trans hpre
      · rw [if_neg hi] at h
        exact (Except.ok.inj h) ▸ List.prefix_rfl

lemma deviceJson_head {devices : List Device} {id : UInt8} {all : Bool} {json : Bytes}
    (h : deviceJson devices id all = .ok json) : json.head? = some 123 := by
  rw [deviceJson] at h
  cases hd : devices[id.toNat]? with
  | none =>
      rw [hd] at h
      cases h
      rfl
  | some d =>
      rw [hd] at h
      obtain ⟨uniqueid, -, hret⟩ := bind_ok_iff.mp h
      obtain rfl := Except.ok.inj hret
      cases all with
      | false =>
          rw [if_neg Bool.false_ne_true]
          exact head_snprintf (by decide) (by decide +kernel) _ _
      | true =>
          rw [if_pos rfl]
          exact head_snprintf (by decide) (by decide +kernel) _ _

lemma listResponse_head {devices : List Device} {id : UInt8} {response : Bytes}
    (h : listResponse devices id = .ok response) : response.head? = some 123 := by
  rw [listResponse] at h
  by_cases h0 : id = 0
  · rw [if_pos h0] at h
    obtain ⟨list, hlist, hret⟩ := bind_ok_iff.mp h
    obtain rfl := Except.ok.inj hret
    obtain ⟨rest, rfl⟩ := listLoop_extends hlist
    rfl
  · rw [if_neg h0] at h
    exact deviceJson_head h

/-- The answer to a request shows its first byte. -/
lemma Meaning.bodyHead_answer {fauxmo : Fauxmo} {m : Meaning} {r : Fauxmo × List Event}
    (h : m.answer env fauxmo = .ok r) : bodyHead r.2 = m.head := by
  cases m with
  | nothing => cases h; rfl
  | description =>
      cases h
      exact bodyHead_sendTCPResponse (head_snprintf (by decide) (by decide +kernel) _ _)
        (by decide) _ _
  | list id =>
      obtain ⟨response, hlist, rfl⟩ := answer_list_ok h
      exact bodyHead_sendTCPResponse (listResponse_head hlist) (by decide) _ _
  | register => cases h; rfl
  | command id c =>
      obtain ⟨d, -, rfl⟩ := Meaning.answer_command_ok h
      exact bodyHead_sendTCPResponse (head_snprintf (by decide) (by decide +kernel) _ _)
        (by decide) (bytes "200 OK") (bytes "text/xml")

/-- A command is known by what it does to lights: to their state, to the values `0`, `1` and
`2`, and to two colours. -/
lemma Command.eq_of_apply {c c' : Command} (h : ∀ d, c.apply d = c'.apply d) : c = c' := by
  have hd : ∀ v k, c.apply ⟨fernseher, false, v, k, zeroSlot⟩ =
      c'.apply ⟨fernseher, false, v, k, zeroSlot⟩ := fun v k => h _
  have hstate := congrArg Device.state (hd 0 ⟨0, 0, 0⟩)
  have hzero := congrArg Device.value (hd 0 ⟨0, 0, 0⟩)
  have hone := congrArg Device.value (hd 1 ⟨0, 0, 0⟩)
  have htwo := congrArg Device.value (hd 2 ⟨0, 0, 0⟩)
  have hblack := congrArg Device.rgb (hd 0 ⟨0, 0, 0⟩)
  have hwhite := congrArg Device.rgb (hd 0 ⟨255, 255, 255⟩)
  have h01 : (0 : UInt8) ≠ 1 := by decide
  have h12 : (1 : UInt8) ≠ 2 := by decide
  have hcol : (⟨0, 0, 0⟩ : Rgb) ≠ ⟨255, 255, 255⟩ := by decide
  cases c with
  | bri v =>
      cases c' with
      | bri w => exact congrArg Command.bri hzero
      | colour k => exact absurd (hzero.symm.trans hone) h01
      | off => exact absurd (hzero.symm.trans hone) h01
      | on => exact absurd (hone.symm.trans htwo) h12
  | colour k =>
      cases c' with
      | bri w => exact absurd (hzero.trans hone.symm) h01
      | colour k' => exact congrArg Command.colour hblack
      | off => exact absurd hstate Bool.noConfusion
      | on => exact absurd (hblack.symm.trans hwhite) hcol
  | off =>
      cases c' with
      | bri w => exact absurd (hzero.trans hone.symm) h01
      | colour k => exact absurd hstate Bool.noConfusion
      | off => rfl
      | on => exact absurd hstate Bool.noConfusion
  | on =>
      cases c' with
      | bri w => exact absurd (hone.trans htwo.symm) h12
      | colour k => exact absurd (hblack.trans hwhite.symm) hcol
      | off => exact absurd hstate Bool.noConfusion
      | on => rfl

/-- The object `main` sets up, with the given devices. -/
def mainBridge (devices : List Device) : Fauxmo :=
  { enabled := true
    internal := true
    tcpPort := 80
    devices := devices
    callback := true
    server := some ⟨80, 1⟩
    udpReceivers := 1 }

/-- A light to tell requests apart on, and its answer to a request for it alone. -/
def lamp : Device := ⟨fernseher, false, 0, ⟨0, 0, 0⟩, zeroSlot⟩

def lampJson : Bytes :=
  snprintf (strlen FAUXMO_DEVICE_JSON_TEMPLATE + 64) FAUXMO_DEVICE_JSON_TEMPLATE
    [.cstr fernseher.1, .cstr lamp.uniqueidString, .cstr (boolText false), .int 0]

lemma readUniqueid_lamp : lamp.readUniqueid = .ok lamp.uniqueidString := if_pos (by decide)

/-- A light that is there shows its data, one that is not an empty object. -/
lemma listResponse_lamps {id : UInt8} (h0 : id ≠ 0) (n : ℕ) :
    listResponse (List.replicate n lamp) id =
      .ok (if (id - 1).toNat < n then lampJson else bytes "\x7b\x7d") := by
  rw [listResponse, if_neg h0, deviceJson]
  by_cases hn : (id - 1).toNat < n
  · rw [if_pos hn, List.getElem?_replicate_of_lt hn]
    simp only [readUniqueid_lamp, ok_bind, if_true]
    rfl
  · rw [if_neg hn, List.getElem?_eq_none (by simpa using hn)]

lemma cstr_lampJson : (cstr lampJson).take 3 = bytes "\x7b\"t" := by
  obtain ⟨rest, hrest⟩ : bytes "\x7b\"t" <+: lampJson :=
    prefix_snprintf (by decide +kernel) (by decide) _ _
  rw [← hrest]
  rfl

/-- All lights of a store of one. -/
lemma listResponse_lamp_zero :
    ∃ list, listResponse [lamp] 0 = .ok list ∧ (cstr list).take 3 = bytes "\x7b\"1" := by
  have hjson : ∃ json, deviceJson [lamp] 0 false = .ok json := by
    rw [deviceJson]
    simp only [UInt8.toNat_zero, List.getElem?_cons_zero, readUniqueid_lamp, ok_bind]
    exact ⟨_, rfl⟩
  obtain ⟨json, hjson⟩ := hjson
  -- one round for the light, and one that finds no further light
  have hlist : listLoop [lamp] 256 0 (bytes "\x7b") =
      .ok (bytes "\x7b" ++ [] ++ bytes "\"" ++ toDec 1 ++ bytes "\":" ++ json) := by
    rw [listLoop, if_pos (by decide), hjson, ok_bind, listLoop, if_neg (by decide)]
    rfl
  rw [listResponse, if_pos rfl, hlist]
  exact ⟨_, rfl, rfl⟩

lemma cstr_empty_ne_lampJson : cstr (bytes "\x7b\x7d") ≠ cstr lampJson := by
  intro heq
  have h3 := congrArg (List.take 3) heq
  rw [cstr_lampJson] at h3
  exact absurd h3 (by decide)

/-- The list of all lights is none of one. -/
lemma exists_listResponse_lamp {j : UInt8} (hj : j ≠ 0) :
    ∃ all one, listResponse [lamp] 0 = .ok all ∧ listResponse [lamp] j = .ok one ∧
      cstr one ≠ cstr all := by
  obtain ⟨all, hall, htake⟩ := listResponse_lamp_zero
  refine ⟨all, _, hall, listResponse_lamps hj 1, fun heq => ?_⟩
  rw [← heq] at htake
  by_cases hlt : (j - 1).toNat < 1
  · rw [if_pos hlt, cstr_lampJson] at htake
    exact absurd htake (by decide)
  · rw [if_neg hlt] at htake
    exact absurd htake (by decide)

lemma cstr_eq_of_sendTCPResponse {code mime body body' : Bytes}
    (h : sendTCPResponse code body mime = sendTCPResponse code body' mime) :
    cstr body = cstr body' := by
  simp only [sendTCPResponse, List.cons.injEq, Event.tcp.injEq, and_true] at h
  exact h.2

/-- Requests for the lights that are answered alike ask for the same lights. -/
lemma Meaning.list_eq_of_answer {id id' : UInt8}
    (h : ∀ devices r, (Meaning.list id).answer env (mainBridge devices) = .ok r →
      (Meaning.list id').answer env (mainBridge devices) = .ok r) : id' = id := by
  -- the bodies on a store of equal lights
  have hbody : ∀ devices list list', listResponse devices id = .ok list →
      listResponse devices id' = .ok list' → cstr list' = cstr list := by
    intro devices list list' hl hl'
    have hr := h devices _ (answer_list hl)
    rw [answer_list hl', Except.ok.injEq, Prod.mk.injEq] at hr
    exact cstr_eq_of_sendTCPResponse hr.2
  by_cases h0 : id = 0
  · by_cases h0' : id' = 0
    · rw [h0, h0']
    · obtain ⟨all, one, hall, hone, hdiff⟩ := exists_listResponse_lamp h0'
      exact absurd (hbody [lamp] all one (h0 ▸ hall) hone) hdiff
  · by_cases h0' : id' = 0
    · obtain ⟨all, one, hall, hone, hdiff⟩ := exists_listResponse_lamp h0
      exact absurd (hbody [lamp] one all hone (h0' ▸ hall)).symm hdiff
    · -- a store of `n` lights holds both or none
      have hboth : ∀ n, (id' - 1).toNat < n ↔ (id - 1).toNat < n := by
        intro n
        have heq := hbody _ _ _ (listResponse_lamps h0 n) (listResponse_lamps h0' n)
        by_cases hlt : (id - 1).toNat < n <;> by_cases hlt' : (id' - 1).toNat < n
        · simp [hlt, hlt']
        · rw [if_pos hlt, if_neg hlt'] at heq
          exact absurd heq cstr_empty_ne_lampJson
        · rw [if_neg hlt, if_pos hlt'] at heq
          exact absurd heq.symm cstr_empty_ne_lampJson
        · simp [hlt, hlt']
      have heq : (id' - 1).toNat = (id - 1).toNat :=
        le_antisymm (by have := (hboth ((id - 1).toNat + 1)).mpr (by omega); omega)
          (by have := (hboth ((id' - 1).toNat + 1)).mp (by omega); omega)
      have hsub : id' - 1 = id - 1 := UInt8.toNat_inj.mp heq
      exact (UInt8.sub_left_inj 1).mp hsub

/-- Commands that are carried out alike are one command for one light. -/
lemma Meaning.command_eq_of_answer {id id' : UInt8} {c c' : Command}
    (h : ∀ devices r, (Meaning.command id c).answer env (mainBridge devices) = .ok r →
      (Meaning.command id' c').answer env (mainBridge devices) = .ok r) : id' = id ∧ c' = c := by
  have hone : ∀ d, id' = id ∧ c'.apply d = c.apply d := by
    intro d
    have hd : (mainBridge (List.replicate (id.toNat + 1) d)).devices[id.toNat]? = some d :=
      List.getElem?_replicate_of_lt (by omega)
    obtain ⟨d', hd', heq⟩ := answer_command_ok (h _ _ (answer_command (c := c) hd))
    rw [Prod.mk.injEq] at heq
    obtain ⟨hstore, hevents⟩ := heq
    have hid : id' = id := by
      simp only [stateEvents, sendTCPResponse, mainBridge, if_true, List.cons_append,
        List.nil_append, List.cons.injEq, Event.setState.injEq] at hevents
      exact hevents.2.2.1.1.symm
    subst hid
    obtain rfl : d = d' := Option.some.inj (hd.symm.trans hd')
    have hget := congrArg (fun f : Fauxmo => f.devices[id'.toNat]?) hstore
    simp only [List.getElem?_modify_eq, hd] at hget
    exact ⟨rfl, by simpa using hget.symm⟩
  exact ⟨(hone lamp).1, Command.eq_of_apply fun d => (hone d).2⟩

/-- Every request completes on some store. -/
lemma Meaning.exists_answer (env : Env) (m : Meaning) :
    ∃ devices r, m.answer env (mainBridge devices) = .ok r := by
  cases m with
  | nothing => exact ⟨[], _, rfl⟩
  | description => exact ⟨[], _, rfl⟩
  | list id =>
      by_cases h0 : id = 0
      · obtain ⟨list, hlist, -⟩ := listResponse_lamp_zero
        exact ⟨[lamp], _, answer_list (h0 ▸ hlist)⟩
      · exact ⟨List.replicate 0 lamp, _, answer_list (listResponse_lamps h0 0)⟩
  | register => exact ⟨[], _, rfl⟩
  | command id c =>
      have hd : (mainBridge (List.replicate (id.toNat + 1) lamp)).devices[id.toNat]? =
          some lamp := List.getElem?_replicate_of_lt (by omega)
      exact ⟨_, _, answer_command hd⟩

/-- **Requests are known by their answers**: one that is answered like another wherever that
completes is the same request. -/
theorem Meaning.eq_of_answer {m m' : Meaning}
    (h : ∀ devices r, m.answer env (mainBridge devices) = .ok r →
      m'.answer env (mainBridge devices) = .ok r) : m' = m := by
  have hhead : m'.head = m.head := by
    obtain ⟨devices, r, hr⟩ := m.exists_answer env
    rw [← bodyHead_answer hr, ← bodyHead_answer (h devices r hr)]
  cases m with
  | nothing => cases m' <;> first | rfl | cases hhead
  | description => cases m' <;> first | rfl | cases hhead
  | list id =>
      cases m' with
      | list id' => rw [list_eq_of_answer h]
      | _ => cases hhead
  | register =>
      cases m' with
      | register => rfl
      | command id' c' =>
          -- the empty store has no light for a command
          obtain ⟨d, hd, -⟩ := answer_command_ok (h [] _ rfl)
          cases hd
      | _ => cases hhead
  | command id c =>
      cases m' with
      | register =>
          -- a command is reported to the callback as well
          obtain ⟨devices, r, hr⟩ := (Meaning.command id c).exists_answer env
          have hreg := h devices r hr
          obtain ⟨d, -, rfl⟩ := answer_command_ok hr
          simp [answer, stateEvents, sendTCPResponse, mainBridge] at hreg
      | command id' c' =>
          obtain ⟨rfl, rfl⟩ := command_eq_of_answer h
          rfl
      | _ => cases hhead

end FauxmoLinux
