import FauxmoLinux.Bridge.Effect
import FauxmoLinux.Bridge.Server

/-!
What is sent. Every text is formatted into a buffer of the length of its template and some slack,
and the slack is enough.

* `headerBlock`, `response`: a header block and the body it announces;
* `sendTCPResponse_eq`, `snprintf_description`, `snprintf_discovery`, `stateEvents_eq`: the four
  buffers hold their texts, whatever is put into them;
* `onTCPRequest_response`: the returned flag says whether there was a response, which is then
  the only one;
* `Sent`, `Fauxmo.step_sent`: what is sent in answer to any input;
* `onTCPControl_reports`: what a control request tells the outside is what it stored.
-/

namespace FauxmoLinux

variable {env : Env}

/-! ### Header blocks -/

/-- The header block for a body of the given type and length. -/
def headerBlock (mime : Bytes) (length : ℕ) : Bytes :=
  bytes "HTTP/1.1 " ++ bytes "200 OK" ++ bytes "\r\nContent-Type: " ++ mime ++
    bytes "\r\nContent-Length: " ++ toDec length ++ bytes "\r\nConnection: close\r\n\r\n"

/-- A header block and the body it announces. -/
def response (mime body : Bytes) : List Event :=
  [.tcp (headerBlock mime body.length), .tcp body]

/-- The buffer of the header block holds it. -/
lemma sendTCPResponse_eq {mime body : Bytes} (hmime : mime.length ≤ 16)
    (hlen : (cstr body).length < 2 ^ 31) :
    sendTCPResponse (bytes "200 OK") body mime = response mime (cstr body) := by
  have hwidth : (intDec (cstr body).length).length ≤ 10 := by
    rw [intDec_natCast]
    exact length_toDec_le (by norm_num) (by omega)
  have hcode : (bytes "200 OK").length = 6 := rfl
  have hfull : snprintf (strlen FAUXMO_TCP_HEADERS + 32) FAUXMO_TCP_HEADERS
      [.cstr (bytes "200 OK"), .cstr mime, .int (cstr body).length] =
        sprintf FAUXMO_TCP_HEADERS
          [.cstr (bytes "200 OK"), .cstr mime, .int (cstr body).length] := by
    refine snprintf_of_slack rfl ?_
    simp only [List.map_cons, List.map_nil, List.sum_cons, List.sum_nil, Arg.width_cstr,
      Arg.width_int, hcode]
    omega
  rw [sendTCPResponse, hfull, response, headerBlock]
  simp [FAUXMO_TCP_HEADERS, sprintf, intDec_natCast]

/-- The block stands in front of the body: it opens as a response does, and it is complete when the
length of the body is an `int`. -/
structure Announces (mime body header : Bytes) : Prop where
  opens : bytes "HTTP/1.1 " <+: header
  complete : body.length < 2 ^ 31 → header = headerBlock mime body.length

/-- One header block is sent, and one body. -/
lemma exists_sendTCPResponse {mime : Bytes} (hmime : mime.length ≤ 16) (body : Bytes) :
    ∃ header, sendTCPResponse (bytes "200 OK") body mime = [.tcp header, .tcp (cstr body)] ∧
      Announces mime (cstr body) header := by
  refine ⟨_, rfl, prefix_snprintf List.prefix_rfl (by decide) _ _, fun hlen => ?_⟩
  have hsend := sendTCPResponse_eq hmime hlen
  rw [sendTCPResponse, response, List.cons.injEq, Event.tcp.injEq] at hsend
  exact hsend.1

/-! ### The texts with addresses -/

/-- An address and the port as the templates show them. -/
def hostArgs (env : Env) (fauxmo : Fauxmo) : List Arg :=
  (bridgeIp env.iface).toList.map octetArg ++ [portArg fauxmo.tcpPort]

lemma width_portArg_le (port : UInt32) : (portArg port).width ≤ 11 := by
  refine length_intDec_le ?_
  have hlt := port.toNat_lt
  rw [Int.bmod]
  split <;> omega

lemma width_octetArg_le (b : UInt8) : (octetArg b).width ≤ 3 := by
  rw [octetArg, Arg.width_int, intDec_natCast]
  exact length_toDec_le (by norm_num) (by have := b.toNat_lt; omega)

/-- What the octets and the port need beside their conversions. -/
lemma sum_hostArgs_le (env : Env) (fauxmo : Fauxmo) :
    ((hostArgs env fauxmo).map fun a => a.width - 2).sum ≤ 13 := by
  have hoctet : ∀ w ∈ ((bridgeIp env.iface).toList.map octetArg).map fun a => a.width - 2,
      w ≤ 1 := by
    intro w hw
    obtain ⟨a, ha, rfl⟩ := List.mem_map.mp hw
    obtain ⟨b, -, rfl⟩ := List.mem_map.mp ha
    have hlen := width_octetArg_le b
    omega
  have hsum := List.sum_le_card_nsmul _ _ hoctet
  have hport := width_portArg_le fauxmo.tcpPort
  rw [List.length_map, List.length_map, Vector.length_toList, smul_eq_mul] at hsum
  rw [hostArgs, List.map_append, List.sum_append, List.map_cons, List.map_nil, List.sum_cons,
    List.sum_nil]
  omega

/-- The description of the bridge. -/
def descriptionText (env : Env) (fauxmo : Fauxmo) : Bytes :=
  sprintf FAUXMO_DESCRIPTION_TEMPLATE (hostArgs env fauxmo ++ hostArgs env fauxmo ++
    [.cstr (bridgeMac env.iface), .cstr (bridgeMac env.iface)])

/-- The answer to a discovery. -/
def discoveryText (env : Env) (fauxmo : Fauxmo) : Bytes :=
  sprintf FAUXMO_UDP_RESPONSE_TEMPLATE (hostArgs env fauxmo ++
    [.cstr (bridgeMac env.iface), .cstr (bridgeMac env.iface)])

/-- The buffer of the description holds it. -/
lemma snprintf_description (env : Env) (fauxmo : Fauxmo) :
    snprintf (strlen FAUXMO_DESCRIPTION_TEMPLATE + 64) FAUXMO_DESCRIPTION_TEMPLATE
        (hostArgs env fauxmo ++ hostArgs env fauxmo ++
          [.cstr (bridgeMac env.iface), .cstr (bridgeMac env.iface)]) =
      descriptionText env fauxmo := by
  have hhost := sum_hostArgs_le env fauxmo
  have hmac := length_bridgeMac_le env.iface
  rw [descriptionText]
  refine snprintf_of_slack rfl ?_
  simp only [List.map_append, List.sum_append, List.map_cons, List.map_nil, List.sum_cons,
    List.sum_nil, Arg.width_cstr]
  omega

/-- The buffer of the discovery response holds it. -/
lemma snprintf_discovery (env : Env) (fauxmo : Fauxmo) :
    snprintf (strlen FAUXMO_UDP_RESPONSE_TEMPLATE + 128) FAUXMO_UDP_RESPONSE_TEMPLATE
        (hostArgs env fauxmo ++
          [.cstr (bridgeMac env.iface), .cstr (bridgeMac env.iface)]) =
      discoveryText env fauxmo := by
  have hhost := sum_hostArgs_le env fauxmo
  have hmac := length_bridgeMac_le env.iface
  rw [discoveryText]
  refine snprintf_of_slack rfl ?_
  simp only [List.map_append, List.sum_append, List.map_cons, List.map_nil, List.sum_cons,
    List.sum_nil, Arg.width_cstr]
  omega

lemma nulFree_description : ∀ p ∈ FAUXMO_DESCRIPTION_TEMPLATE, p.NulFree := by
  simp only [FAUXMO_DESCRIPTION_TEMPLATE, List.forall_mem_cons, Piece.NulFree, bytes_append,
    List.mem_append, not_or, List.not_mem_nil, true_and, and_true, IsEmpty.forall_iff,
    implies_true]
  and_intros <;> exact notMem_bytes (by decide +kernel)

lemma nulFree_discovery : ∀ p ∈ FAUXMO_UDP_RESPONSE_TEMPLATE, p.NulFree := by
  simp only [FAUXMO_UDP_RESPONSE_TEMPLATE, List.forall_mem_cons, Piece.NulFree, bytes_append,
    List.mem_append, not_or, List.not_mem_nil, true_and, and_true, IsEmpty.forall_iff,
    implies_true]
  and_intros <;> exact notMem_bytes (by decide +kernel)

/-- No argument of the two texts brings a NUL. -/
lemma zero_notMem_of_mem_args (env : Env) (fauxmo : Fauxmo) {s : Bytes} {args : List Arg}
    (hargs : ∀ a ∈ args, a ∈ hostArgs env fauxmo ∨ a = .cstr (bridgeMac env.iface))
    (hs : .cstr s ∈ args) : (0 : UInt8) ∉ s := by
  rcases hargs _ hs with h | h
  · rcases List.mem_append.mp h with h | h
    · obtain ⟨b, -, hb⟩ := List.mem_map.mp h
      cases hb
    · cases List.mem_singleton.mp h
  · rw [Arg.cstr.inj h, bridgeMac_eq]
    exact notMem_getMacAddr (by decide) (by decide) env.iface

lemma cstr_descriptionText (env : Env) (fauxmo : Fauxmo) :
    cstr (descriptionText env fauxmo) = descriptionText env fauxmo := by
  refine cstr_of_notMem (zero_notMem_sprintf nulFree_description fun s hs =>
    zero_notMem_of_mem_args env fauxmo ?_ hs)
  intro a ha
  simp only [List.mem_append, List.mem_cons, List.not_mem_nil, or_false] at ha
  tauto

lemma cstr_discoveryText (env : Env) (fauxmo : Fauxmo) :
    cstr (discoveryText env fauxmo) = discoveryText env fauxmo := by
  refine cstr_of_notMem (zero_notMem_sprintf nulFree_discovery fun s hs =>
    zero_notMem_of_mem_args env fauxmo ?_ hs)
  intro a ha
  simp only [List.mem_append, List.mem_cons, List.not_mem_nil, or_false] at ha
  tauto

lemma onTCPDescription_eq (env : Env) (fauxmo : Fauxmo) :
    onTCPDescription env fauxmo = ⟨fauxmo.devices,
      sendTCPResponse (bytes "200 OK") (descriptionText env fauxmo) (bytes "text/xml"), true⟩ := by
  rw [← snprintf_description]
  rfl

lemma sendUDPResponse_eq (env : Env) (fauxmo : Fauxmo) (ipv4 : Bytes) (port : UInt16) :
    sendUDPResponse env fauxmo ipv4 port = [.udp (discoveryText env fauxmo) ipv4 port] := by
  rw [← cstr_discoveryText, ← snprintf_discovery, hostArgs, List.append_assoc]
  rfl

/-! ### The state of a light -/

/-- The response to a control request for the light at the index `id`. -/
def stateText (id : UInt8) (state : Bool) : Bytes :=
  bytes "[\x7b\"success\":\x7b\"/lights/" ++ toDec (id.toNat + 1) ++ bytes "/state/on\":" ++
    boolText state ++ bytes "\x7d\x7d]"

/-- The buffer of the state response holds it. -/
lemma snprintf_state (id : UInt8) (state : Bool) :
    snprintf (strlen FAUXMO_TCP_STATE_RESPONSE + 10) FAUXMO_TCP_STATE_RESPONSE
      [.int (id.toNat + 1), .cstr (boolText state)] = stateText id state := by
  have hid : intDec ((id.toNat : ℤ) + 1) = toDec (id.toNat + 1) := intDec_natCast (id.toNat + 1)
  have hnum : (toDec (id.toNat + 1)).length ≤ 3 :=
    length_toDec_le (by norm_num) (by have := id.toNat_lt; omega)
  have hbool : (boolText state).length ≤ 5 := by cases state <;> decide
  rw [snprintf_of_slack]
  · simp [FAUXMO_TCP_STATE_RESPONSE, sprintf, stateText, hid]
  · rfl
  · simp only [List.map_cons, List.map_nil, List.sum_cons, List.sum_nil, Arg.width_cstr,
      Arg.width_int, hid]
    omega

lemma cstr_stateText (id : UInt8) (state : Bool) :
    cstr (stateText id state) = stateText id state := by
  refine cstr_of_notMem ?_
  have hbool : (0 : UInt8) ∉ boolText state := by cases state <;> decide
  rw [stateText]
  simp only [List.mem_append, not_or]
  exact ⟨⟨⟨⟨by decide, zero_notMem_toDec _⟩, by decide⟩, hbool⟩, by decide⟩

lemma length_stateText_lt (id : UInt8) (state : Bool) :
    (stateText id state).length < 2 ^ 31 := by
  have hnum : (toDec (id.toNat + 1)).length ≤ 3 :=
    length_toDec_le (by norm_num) (by have := id.toNat_lt; omega)
  have hbool : (boolText state).length ≤ 5 := by cases state <;> decide
  have hfront : (bytes "[\x7b\"success\":\x7b\"/lights/").length = 22 := length_bytes _
  have hmiddle : (bytes "/state/on\":").length = 11 := length_bytes _
  have hback : (bytes "\x7d\x7d]").length = 3 := length_bytes _
  simp only [stateText, List.length_append, hfront, hmiddle, hback]
  omega

lemma stateEvents_eq (callback : Bool) (id : UInt8) (d : Device) :
    stateEvents callback id d = response (bytes "text/xml") (stateText id d.state) ++
      if callback then [.setState id d.name d.state d.value] else [] := by
  have hlen : (cstr (stateText id d.state)).length < 2 ^ 31 := by
    rw [cstr_stateText]
    exact length_stateText_lt id d.state
  have hmime : (bytes "text/xml").length ≤ 16 := by decide
  have hsend := sendTCPResponse_eq hmime hlen
  rw [cstr_stateText] at hsend
  rw [stateEvents, ← hsend, ← snprintf_state]

/-! ### The returned flag -/

/-- A response with at most one call behind it. -/
lemma exists_response_calls {mime : Bytes} (hmime : mime.length ≤ 16) (body : Bytes)
    {calls : List Event} (hlen : calls.length ≤ 1) (hcalls : ∀ e ∈ calls, e.isCall = true) :
    ∃ mime' text header calls', sendTCPResponse (bytes "200 OK") body mime ++ calls =
        .tcp header :: .tcp text :: calls' ∧ Announces mime' text header ∧
      calls'.length ≤ 1 ∧ ∀ e ∈ calls', e.isCall = true := by
  obtain ⟨header, hsend, hann⟩ := exists_sendTCPResponse hmime body
  exact ⟨mime, cstr body, header, calls, by rw [hsend]; rfl, hann, hlen, hcalls⟩

/-- **The returned flag**: a request that returns `false` sent nothing, called nobody and left
the store alone; one that returns `true` sent one header block and one body, and called back
once at most. -/
theorem onTCPRequest_response (fauxmo : Fauxmo) (isGet : Bool) (url body : Bytes) (o : Outcome)
    (h : onTCPRequest env fauxmo isGet url body = .ok o) :
    (o.handled = false → o.events = [] ∧ o.devices = fauxmo.devices) ∧
      (o.handled = true → ∃ mime text header calls,
        o.events = .tcp header :: .tcp text :: calls ∧ Announces mime text header ∧
          calls.length ≤ 1 ∧ ∀ e ∈ calls, e.isCall = true) := by
  rcases onTCPRequest_ok_cases h with rfl | rfl | ⟨response, rfl⟩ |
    ⟨-, -, id, d, c, -, -, -, rfl⟩
  · exact ⟨fun _ => ⟨rfl, rfl⟩, (nomatch ·)⟩
  · refine ⟨(nomatch ·), fun _ => ?_⟩
    have hsent := @exists_response_calls (bytes "text/xml") (by decide)
      (descriptionText env fauxmo) [] (by simp) (by simp)
    rw [List.append_nil] at hsent
    rwa [onTCPDescription_eq]
  · refine ⟨(nomatch ·), fun _ => ?_⟩
    have hsent := @exists_response_calls (bytes "application/json") (by decide) response []
      (by simp) (by simp)
    rwa [List.append_nil] at hsent
  · refine ⟨(nomatch ·), fun _ => exists_response_calls (by decide) _ ?_ ?_⟩
    · cases fauxmo.callback <;> simp
    · cases fauxmo.callback <;> simp [Event.isCall]

/-- A control request for the television: a response and a callback. -/
theorem onTCPRequest_response_on :
    ∃ o, onTCPRequest homeEnv (mainBridge (addDevices homeEnv.iface [(zeroSlot, fernseher)]))
        false (bytes "/api/u/lights/1/state") (bytes "\x7b\"on\":true\x7d") = .ok o ∧
      o.events = [.tcp (headerBlock (bytes "text/xml") 41),
        .tcp (bytes "[\x7b\"success\":\x7b\"/lights/1/state/on\":true\x7d\x7d]"),
        .setState 0 fernseher true 255] ∧
      ∃ mime text header calls, o.events = .tcp header :: .tcp text :: calls ∧
        Announces mime text header ∧ calls.length ≤ 1 ∧ ∀ e ∈ calls, e.isCall = true := by
  refine ⟨_, rfl, ?_, (@onTCPRequest_response homeEnv
    (mainBridge (addDevices homeEnv.iface [(zeroSlot, fernseher)])) false
    (bytes "/api/u/lights/1/state") (bytes "\x7b\"on\":true\x7d") _ rfl).2 rfl⟩
  exact (stateEvents_eq true 0 _).trans rfl

/-! ### What a control request reports -/

/-- **A control request reports what it stored**: behind one that completes on a light, the body
that is sent names the light and its state, and the callback is called once behind it, with the
place of the light, its name, its state and its value. -/
theorem onTCPControl_reports (env : Env) (callback : Bool) {devices : List Device}
    {url body : Bytes} {id : UInt8} {o : Outcome} (ht : target url body = .ok (some id))
    (h : onTCPControl env callback devices url body = .ok o) :
    ∃ d, o.devices[id.toNat]? = some d ∧
      o.events = response (bytes "text/xml") (stateText id d.state) ++
        if callback then [.setState id d.name d.state d.value] else [] := by
  have hdt := (isStateRequest_of_target ht).1
  rcases onTCPControl_ok_cases h with ⟨hne, -⟩ | ⟨-, hnone, -⟩ | ⟨id', d, c, ht', hd, -, rfl⟩
  · exact absurd hdt hne
  · cases ht.symm.trans hnone
  · obtain rfl : id = id' := Option.some.inj (Except.ok.inj (ht.symm.trans ht'))
    refine ⟨c.apply d, ?_, stateEvents_eq callback id (c.apply d)⟩
    rw [List.getElem?_modify_eq, hd]
    rfl

/-- A lamp that is put on. -/
theorem onTCPControl_reports_on :
    ∃ o, onTCPControl homeEnv true [lamp] (bytes "/api/u/lights/1/state")
        (bytes "\x7b\"on\":true\x7d") = .ok o ∧
      ∃ d, o.devices[(0 : UInt8).toNat]? = some d ∧
        o.events = response (bytes "text/xml") (stateText 0 d.state) ++
          if true then [.setState 0 d.name d.state d.value] else [] :=
  ⟨_, rfl, @onTCPControl_reports homeEnv true [lamp] (bytes "/api/u/lights/1/state")
    (bytes "\x7b\"on\":true\x7d") 0 _ rfl rfl⟩

/-! ### What is sent -/

/-- What is sent in answer to an input, with no text cut: nothing, the answer to a discovery, the
description, a state with a callback behind it, or a JSON document. -/
inductive Sent (env : Env) (fauxmo : Fauxmo) : List Event → Prop
  | nothing : Sent env fauxmo []
  | discovery (ipv4 : Bytes) (port : UInt16) :
      Sent env fauxmo [.udp (discoveryText env fauxmo) ipv4 port]
  | description :
      Sent env fauxmo (response (bytes "text/xml") (descriptionText env fauxmo))
  | state (id : UInt8) (d : Device) :
      Sent env fauxmo (response (bytes "text/xml") (stateText id d.state) ++
        if fauxmo.callback then [.setState id d.name d.state d.value] else [])
  | json (body : Bytes) : Sent env fauxmo (response (bytes "application/json") body)

/-- The body behind a header block is short enough for its length to be an `int`. -/
def ShortBody : List Event → Prop
  | .tcp _ :: .tcp body :: _ => body.length < 2 ^ 31
  | _ => True

/-- What is sent in answer to a request over TCP. -/
lemma sent_of_onTCPRequest {fauxmo : Fauxmo} {isGet : Bool} {url body : Bytes} {o : Outcome}
    (h : onTCPRequest env fauxmo isGet url body = .ok o) (hshort : ShortBody o.events) :
    Sent env fauxmo o.events := by
  rcases onTCPRequest_ok_cases h with rfl | rfl | ⟨json, rfl⟩ | ⟨-, -, id, d, c, -, -, -, rfl⟩
  · exact .nothing
  · rw [onTCPDescription_eq] at hshort ⊢
    dsimp only at hshort ⊢
    rw [sendTCPResponse_eq (by decide) hshort, cstr_descriptionText]
    exact .description
  · dsimp only at hshort ⊢
    rw [sendTCPResponse_eq (by decide) hshort]
    exact .json (cstr json)
  · rw [stateEvents_eq]
    exact .state id (c.apply d)

/-- What is sent in answer to a datagram. -/
lemma sent_of_onUDPData (fauxmo : Fauxmo) (message ipv4 : Bytes) (port : UInt16) :
    Sent env fauxmo (onUDPData env fauxmo message ipv4 port) := by
  rw [onUDPData]
  split
  · dsimp only
    split
    · split
      · rw [sendUDPResponse_eq]
        exact .discovery ipv4 port
      · exact .nothing
    · exact .nothing
  · exact .nothing

/-- **Nothing that is sent is cut**: in every state of the object the answer to a datagram or to a
message is one of the texts as a whole, and on TCP the header block is complete and announces
exactly the bytes behind it. -/
theorem Fauxmo.step_sent (env : Env) {fauxmo fauxmo' : Fauxmo} {a : Input} {events : List Event}
    (h : fauxmo.step env a = .ok (fauxmo', events)) (hshort : ShortBody events) :
    Sent env fauxmo events := by
  cases a with
  | enable b => cases h; exact .nothing
  | createServer internal => cases h; exact .nothing
  | setPort tcpPort => cases h; exact .nothing
  | onSetState callback => cases h; exact .nothing
  | op op =>
      obtain ⟨devices, -, hret⟩ := bind_ok_iff.mp h
      cases hret
      exact .nothing
  | udp message ipv4 port =>
      rw [Fauxmo.step] at h
      split at h
      · cases h
        exact .nothing
      · cases h
        exact sent_of_onUDPData fauxmo message ipv4 port
  | tcp data =>
      rw [Fauxmo.step] at h
      split at h
      · cases h
        exact .nothing
      · obtain ⟨o, ho, hret⟩ := bind_ok_iff.mp h
        cases hret
        rw [onTCPData] at ho
        split at ho
        · cases ho
          exact .nothing
        · obtain ⟨q, -, hreq⟩ := bind_ok_iff.mp ho
          exact sent_of_onTCPRequest hreq hshort

/-- A lamp is put on over TCP: its state is sent, and the callback made. -/
theorem Fauxmo.step_sent_on :
    Fauxmo.step homeEnv (mainBridge [lamp]) (.tcp (bytes
        "PUT /api/u/lights/1/state HTTP/1.1\n\n\x7b\"on\":true\x7d")) =
      .ok (mainBridge [Command.on.apply lamp], response (bytes "text/xml") (stateText 0 true) ++
        [.setState 0 lamp.name true 255]) ∧
      Sent homeEnv (mainBridge [lamp]) (response (bytes "text/xml") (stateText 0 true) ++
        [.setState 0 lamp.name true 255]) := by
  have hstep : Fauxmo.step homeEnv (mainBridge [lamp]) (.tcp (bytes
      "PUT /api/u/lights/1/state HTTP/1.1\n\n\x7b\"on\":true\x7d")) =
        .ok (mainBridge [Command.on.apply lamp], stateEvents true 0 (Command.on.apply lamp)) := rfl
  have hevents : stateEvents true 0 (Command.on.apply lamp) =
      response (bytes "text/xml") (stateText 0 true) ++ [.setState 0 lamp.name true 255] :=
    stateEvents_eq true 0 _
  rw [hevents] at hstep
  exact ⟨hstep, step_sent homeEnv hstep (length_stateText_lt 0 true)⟩

end FauxmoLinux
