import FauxmoLinux.Base.Http
import FauxmoLinux.Bridge.Response

/-!
What the clients read. On each connection the answers stand one behind the other, and only the
announced lengths tell where one ends.

* `httpResponse`, `tcpBytes_response`: the two pieces a response is sent in, as a client reads
  them;
* `length_listResponse_lt`: no text is too long for its length to be announced;
* `Fauxmo.serve`: the bridge with several connections; `connections_framed`: whatever arrives on
  them, the bytes on each one are read back as the answers to its messages, in order.
-/

namespace FauxmoLinux

variable {env : Env}

/-- The bytes that are sent on TCP. -/
def tcpBytes (events : List Event) : Bytes :=
  events.flatMap fun
    | .tcp payload => payload
    | _ => []

/-- The body of an answer. -/
def answerBody : List Event → Option Bytes
  | .tcp _ :: .tcp body :: _ => some body
  | _ => none

/-- A response as it is read. -/
def httpResponse (mime body : Bytes) : HttpResponse :=
  { status := bytes "HTTP/1.1 200 OK"
    fields := [(bytes "Content-Type", mime), (bytes "Content-Length", toDec body.length),
      (bytes "Connection", bytes "close")]
    body := body }

/-- The header block and the body are the bytes of the response. -/
lemma tcpBytes_response (mime body : Bytes) :
    tcpBytes (response mime body) = (httpResponse mime body).text := by
  simp [tcpBytes, response, headerBlock, httpResponse, HttpResponse.text, fieldLine, lineBreak,
    bytes]

/-- The client sees where the response ends. -/
lemma framed_httpResponse {mime : Bytes} (hmime : (13 : UInt8) ∉ mime)
    (hhead : mime.head? ≠ some 32) (body : Bytes) : (httpResponse mime body).Framed := by
  have hdigits : ∀ n : ℕ, (toDec n).head? ≠ some 32 ∧ (13 : UInt8) ∉ toDec n := by
    intro n
    refine ⟨fun h => ?_, fun h => ?_⟩
    · exact absurd (isDigit_of_mem_toDec (List.mem_of_mem_head? h)) (by decide)
    · exact absurd (isDigit_of_mem_toDec h) (by decide)
  refine ⟨?_, ?_, ?_, ?_⟩
  · exact (by decide : bytes "HTTP/1.1 200 OK" ≠ [] ∧ (13 : UInt8) ∉ bytes "HTTP/1.1 200 OK")
  · simp only [httpResponse, List.forall_mem_cons, List.not_mem_nil, IsEmpty.forall_iff,
      implies_true, and_true]
    decide
  · simp only [httpResponse, List.forall_mem_cons, List.not_mem_nil, IsEmpty.forall_iff,
      implies_true, and_true]
    exact ⟨⟨hhead, hmime⟩, hdigits _, by decide⟩
  · have hfind : (httpResponse mime body).fields.find?
        (fun f => f.1.map lower = bytes "content-length") =
          some (bytes "Content-Length", toDec body.length) := rfl
    rw [contentLength, hfind]
    exact readNumber_toDec _

/-! ### The length of a body -/

/-- A literal is as long as it is written. -/
lemma length_bytes_le {l : List Char} {n : ℕ} (h : l.length ≤ n) :
    (bytes (String.ofList l)).length ≤ n := (length_bytes l).trans_le h

lemma length_bytes_append_le {s t : String} {m n : ℕ} (hs : (bytes s).length ≤ m)
    (ht : (bytes t).length ≤ n) : (bytes (s ++ t)).length ≤ m + n := by
  rw [bytes_append, List.length_append]
  exact Nat.add_le_add hs ht

lemma strlen_le {t : List Piece} {n : ℕ} (h : ∀ p ∈ t, p.strlen ≤ n) :
    strlen t ≤ t.length * n := by
  have hle := List.sum_le_card_nsmul (t.map Piece.strlen) n (List.forall_mem_map.mpr h)
  rwa [List.length_map, smul_eq_mul] at hle

/-- No literal part of the templates is written in more than six pieces of `90` characters. -/
lemma strlen_deviceJson_le : strlen FAUXMO_DEVICE_JSON_TEMPLATE ≤ 9 * 540 := by
  have hlit : ∀ l : List Char, l.length ≤ 90 → (bytes (String.ofList l)).length ≤ 90 :=
    fun l hl => length_bytes_le hl
  have hpair := fun s t hs ht => @length_bytes_append_le s t 90 90 hs ht
  refine strlen_le ?_
  simp only [FAUXMO_DEVICE_JSON_TEMPLATE, List.forall_mem_cons, Piece.strlen, List.not_mem_nil,
    IsEmpty.forall_iff, implies_true, and_true]
  and_intros
  · exact (hlit _ (by decide)).trans (by norm_num)
  · norm_num
  · exact (hlit _ (by decide)).trans (by norm_num)
  · norm_num
  · exact (hpair _ _ (hlit _ (by decide)) (hlit _ (by decide))).trans (by norm_num)
  · norm_num
  · exact (hlit _ (by decide)).trans (by norm_num)
  · norm_num
  · refine (length_bytes_append_le (m := 360) ?_ (hlit _ (by decide))).trans (by norm_num)
    refine length_bytes_append_le (m := 270) ?_ (hlit _ (by decide))
    refine length_bytes_append_le (m := 180) ?_ (hlit _ (by decide))
    exact hpair _ _ (hlit _ (by decide)) (hlit _ (by decide))

lemma strlen_description_le : strlen FAUXMO_DESCRIPTION_TEMPLATE ≤ 25 * 540 := by
  have hlit : ∀ l : List Char, l.length ≤ 90 → (bytes (String.ofList l)).length ≤ 90 :=
    fun l hl => length_bytes_le hl
  have hpair := fun s t hs ht => @length_bytes_append_le s t 90 90 hs ht
  refine strlen_le ?_
  simp only [FAUXMO_DESCRIPTION_TEMPLATE, List.forall_mem_cons, Piece.strlen, List.not_mem_nil,
    IsEmpty.forall_iff, implies_true, and_true]
  and_intros
  · exact (hpair _ _ (hlit _ (by decide)) (hlit _ (by decide))).trans (by norm_num)
  on_goal 10 =>
    refine (length_bytes_append_le (m := 180) ?_ (hlit _ (by decide))).trans (by norm_num)
    exact hpair _ _ (hlit _ (by decide)) (hlit _ (by decide))
  on_goal 19 =>
    refine (length_bytes_append_le (m := 450) ?_ (hlit _ (by decide))).trans (by norm_num)
    refine length_bytes_append_le (m := 360) ?_ (hlit _ (by decide))
    refine length_bytes_append_le (m := 270) ?_ (hlit _ (by decide))
    refine length_bytes_append_le (m := 180) ?_ (hlit _ (by decide))
    exact hpair _ _ (hlit _ (by decide)) (hlit _ (by decide))
  all_goals first
    | exact (hlit _ (by decide)).trans (by norm_num)
    | norm_num

lemma length_deviceJson_lt {devices : List Device} {id : UInt8} {all : Bool} {json : Bytes}
    (h : deviceJson devices id all = .ok json) :
    json.length < strlen FAUXMO_DEVICE_JSON_TEMPLATE + 64 := by
  have hcut : ∀ t args, (snprintf (strlen FAUXMO_DEVICE_JSON_TEMPLATE + 64) t args).length <
      strlen FAUXMO_DEVICE_JSON_TEMPLATE + 64 := by
    intro t args
    rw [snprintf, List.length_take]
    exact (Nat.min_le_left _ _).trans_lt (by omega)
  rw [deviceJson] at h
  cases hd : devices[id.toNat]? with
  | none =>
      rw [hd] at h
      cases h
      exact (by decide : (bytes "\x7b\x7d").length < 64).trans_le (Nat.le_add_left _ _)
  | some d =>
      rw [hd] at h
      obtain ⟨uniqueid, -, hret⟩ := bind_ok_iff.mp h
      cases hret
      split
      · exact hcut _ _
      · exact hcut _ _

/-- Each round of the loop adds one description, and there are `256` rounds at most. -/
lemma length_listLoop_le {devices : List Device} {rounds : ℕ} {i : UInt8} {text list : Bytes}
    (h : listLoop devices rounds i text = .ok list) :
    list.length ≤ text.length + rounds * (strlen FAUXMO_DEVICE_JSON_TEMPLATE + 70) := by
  induction rounds generalizing i text with
  | zero => cases h
  | succ rounds ih =>
      rw [listLoop] at h
      split at h
      · obtain ⟨json, hjson, hrest⟩ := bind_ok_iff.mp h
        have hle := ih hrest
        have hcomma : (if i > 0 then bytes "," else []).length ≤ 1 := by
          split <;> decide
        have hnumber : (toDec (i.toNat + 1)).length ≤ 3 :=
          length_toDec_le (by norm_num) (by have := i.toNat_lt; omega)
        have hquote : (bytes "\"").length = 1 := rfl
        have hcolon : (bytes "\":").length = 2 := rfl
        have hlen := length_deviceJson_lt hjson
        simp only [List.length_append, hquote, hcolon] at hle
        rw [Nat.succ_mul]
        omega
      · cases h
        omega

lemma length_listResponse_lt {devices : List Device} {id : UInt8} {text : Bytes}
    (h : listResponse devices id = .ok text) : text.length < 2 ^ 31 := by
  have hsize := strlen_deviceJson_le
  rw [listResponse] at h
  split at h
  · obtain ⟨list, hlist, hret⟩ := bind_ok_iff.mp h
    cases hret
    have hle := length_listLoop_le hlist
    have hlead : (bytes "\x7b").length = 1 := rfl
    have hend : (bytes "\x7d").length = 1 := rfl
    rw [List.length_append, hend]
    omega
  · have hlt := length_deviceJson_lt h
    omega

lemma length_descriptionText_lt (env : Env) (fauxmo : Fauxmo) :
    (descriptionText env fauxmo).length < 2 ^ 31 := by
  have hsize := strlen_description_le
  rw [← snprintf_description, snprintf, List.length_take]
  exact (Nat.min_le_left _ _).trans_lt (by omega)

/-- **What an answer sends** is one of the texts as a whole, whatever the request. -/
lemma Meaning.sent_of_answer {m : Meaning} {fauxmo : Fauxmo} {r : Fauxmo × List Event}
    (h : m.answer env fauxmo = .ok r) : Sent env fauxmo r.2 := by
  have hcstr : ∀ s : Bytes, (cstr s).length ≤ s.length := fun s =>
    (List.takeWhile_prefix _).length_le
  cases m with
  | nothing =>
      cases h
      exact .nothing
  | description =>
      cases h
      dsimp only
      rw [onTCPDescription_eq, sendTCPResponse_eq (by decide), cstr_descriptionText]
      · exact .description
      · exact (hcstr _).trans_lt (length_descriptionText_lt env fauxmo)
  | list id =>
      obtain ⟨text, htext, rfl⟩ := answer_list_ok h
      dsimp only
      rw [sendTCPResponse_eq (by decide) ((hcstr _).trans_lt (length_listResponse_lt htext))]
      exact .json _
  | register =>
      cases h
      dsimp only
      rw [sendTCPResponse_eq (by decide)
        ((hcstr _).trans_lt (by decide : devicetypeResponse.length < 2 ^ 31))]
      exact .json _
  | command id c =>
      obtain ⟨d, -, rfl⟩ := answer_command_ok h
      dsimp only
      rw [stateEvents_eq]
      exact .state id (c.apply d)

/-! ### Connections -/

/-- What is sent is nothing on TCP, or one response that shows where it ends. -/
lemma Sent.cases_framed {fauxmo : Fauxmo} {events : List Event} (h : Sent env fauxmo events) :
    tcpBytes events = [] ∧ answerBody events = none ∨
      ∃ mime body, (httpResponse mime body).Framed ∧
        tcpBytes events = (httpResponse mime body).text ∧ answerBody events = some body := by
  have hxml : ∀ body, (httpResponse (bytes "text/xml") body).Framed :=
    framed_httpResponse (by decide) (by decide)
  have hjson : ∀ body, (httpResponse (bytes "application/json") body).Framed :=
    framed_httpResponse (by decide) (by decide)
  cases h with
  | nothing => exact Or.inl ⟨rfl, rfl⟩
  | discovery ipv4 port => exact Or.inl ⟨rfl, rfl⟩
  | description => exact Or.inr ⟨_, _, hxml _, tcpBytes_response _ _, rfl⟩
  | state id d =>
      refine Or.inr ⟨_, _, hxml _, ?_, rfl⟩
      rw [← tcpBytes_response]
      cases fauxmo.callback <;> simp [tcpBytes, response]
  | json body => exact Or.inr ⟨_, _, hjson _, tcpBytes_response _ _, rfl⟩

/-- What the step of an input sends. -/
lemma Fauxmo.sent_of_step {fauxmo fauxmo' : Fauxmo} {a : Input} {events : List Event}
    (h : fauxmo.step env a = .ok (fauxmo', events)) : Sent env fauxmo events := by
  cases a with
  | tcp data =>
      rw [Fauxmo.step] at h
      split at h
      · cases h
        exact .nothing
      · by_cases hon : fauxmo.enabled = true
        · obtain ⟨m, -, ha⟩ := (onMessageReceived_ok_iff hon).mp h
          exact Meaning.sent_of_answer ha
        · rw [onMessageReceived, onTCPData, if_pos (by simpa using hon)] at h
          cases h
          exact .nothing
  | udp message ipv4 port =>
      rw [Fauxmo.step] at h
      split at h
      · cases h
        exact .nothing
      · cases h
        exact sent_of_onUDPData fauxmo message ipv4 port
  | op op =>
      obtain ⟨devices, -, hret⟩ := bind_ok_iff.mp h
      cases hret
      exact .nothing
  | _ => cases h; exact .nothing

variable {κ : Type}

/-- An input that arrives on a connection, and what is sent on it in answer. The inputs are served
in turn. -/
def Fauxmo.serve (env : Env) (fauxmo : Fauxmo) (a : κ × Input) :
    Except Fault (Fauxmo × List (κ × List Event)) := do
  let (fauxmo, events) ← fauxmo.step env a.2
  return (fauxmo, [(a.1, events)])

/-- Answers one behind the other are the responses with their bodies. -/
lemma exists_responses {answers : List (List Event)}
    (h : ∀ events ∈ answers, ∃ fauxmo, Sent env fauxmo events) :
    ∃ rs : List HttpResponse, (∀ r ∈ rs, r.Framed ∧ r.status = bytes "HTTP/1.1 200 OK") ∧
      answers.flatMap tcpBytes = rs.flatMap HttpResponse.text ∧
      rs.map HttpResponse.body = answers.filterMap answerBody := by
  induction answers with
  | nil => exact ⟨[], by simp, rfl, rfl⟩
  | cons events answers ih =>
      rw [List.forall_mem_cons] at h
      obtain ⟨⟨fauxmo, hsent⟩, hrest⟩ := h
      obtain ⟨rs, hrs, hbytes, hbodies⟩ := ih hrest
      rcases hsent.cases_framed with ⟨hnone, hbody⟩ | ⟨mime, body, hframed, htext, hbody⟩
      · refine ⟨rs, hrs, ?_, ?_⟩
        · rw [List.flatMap_cons, hnone, List.nil_append, hbytes]
        · rw [List.filterMap_cons_none hbody, hbodies]
      · refine ⟨httpResponse mime body :: rs, ?_, ?_, ?_⟩
        · exact List.forall_mem_cons.mpr ⟨⟨hframed, rfl⟩, hrs⟩
        · rw [List.flatMap_cons, List.flatMap_cons, htext, hbytes]
        · rw [List.filterMap_cons_some hbody, List.map_cons, hbodies]
          rfl

/-- Every answer of a run is one to the input at its place. -/
lemma serve_answers {fauxmo fauxmo' : Fauxmo} {arrivals : List (κ × Input)}
    {answers : List (κ × List Event)}
    (h : runs (Fauxmo.serve env) fauxmo arrivals = .ok (fauxmo', answers)) :
    answers.map Prod.fst = arrivals.map Prod.fst ∧
      ∀ a ∈ answers, ∃ fauxmo, Sent env fauxmo a.2 := by
  induction arrivals generalizing fauxmo answers with
  | nil =>
      cases h
      exact ⟨rfl, by simp⟩
  | cons a arrivals ih =>
      obtain ⟨fauxmo₁, o₁, o₂, hstep, hrest, rfl⟩ := runs_cons_ok.mp h
      obtain ⟨⟨fauxmo₂, events⟩, hev, hret⟩ := bind_ok_iff.mp hstep
      cases hret
      obtain ⟨hfst, hsent⟩ := ih hrest
      refine ⟨by simp [hfst], ?_⟩
      intro b hb
      rcases List.mem_append.mp hb with hb | hb
      · obtain rfl := List.mem_singleton.mp hb
        exact ⟨fauxmo, Fauxmo.sent_of_step hev⟩
      · exact hsent b hb

variable [DecidableEq κ]

/-- The answers on a connection, in order. -/
def answersOn (k : κ) (answers : List (κ × List Event)) : List (List Event) :=
  (answers.filter (·.1 = k)).map Prod.snd

/-- **Connections**: whatever arrives on which connections, in which order, every input has one
answer, and the bytes that are sent on each connection are read back as one response for every
answer on it that is not empty, in order, with the body of that answer. -/
theorem connections_framed (env : Env) (fauxmo fauxmo' : Fauxmo) (arrivals : List (κ × Input))
    (answers : List (κ × List Event))
    (h : runs (Fauxmo.serve env) fauxmo arrivals = .ok (fauxmo', answers)) :
    answers.map Prod.fst = arrivals.map Prod.fst ∧
      ∀ k, ∃ rs, decodeHttp ((answersOn k answers).flatMap tcpBytes) = some rs ∧
        rs.map HttpResponse.body = (answersOn k answers).filterMap answerBody ∧
        ∀ r ∈ rs, r.status = bytes "HTTP/1.1 200 OK" := by
  obtain ⟨hfst, hsent⟩ := serve_answers h
  refine ⟨hfst, fun k => ?_⟩
  have hon : ∀ events ∈ answersOn k answers, ∃ fauxmo, Sent env fauxmo events := by
    intro events he
    obtain ⟨a, ha, rfl⟩ := List.mem_map.mp he
    exact hsent a (List.mem_of_mem_filter ha)
  obtain ⟨rs, hrs, hbytes, hbodies⟩ := exists_responses hon
  refine ⟨rs, ?_, hbodies, fun r hr => (hrs r hr).2⟩
  rw [hbytes]
  exact decodeHttp_flatMap fun r hr => (hrs r hr).1

/-- Two clients put a lamp on and off. -/
theorem connections_framed_two :
    ∃ fauxmo' answers, runs (Fauxmo.serve homeEnv) (mainBridge [lamp])
        [(true, .tcp (bytes "PUT /api/u/lights/1/state HTTP/1.1\n\n\x7b\"on\":true\x7d")),
          (false, .tcp (bytes "PUT /api/u/lights/1/state HTTP/1.1\n\n\x7b\"on\":false\x7d")),
          (true, .tcp (bytes "PUT /api HTTP/1.1\n\n"))] = .ok (fauxmo', answers) ∧
      answers.map Prod.fst = [true, false, true] ∧
      ∀ k, ∃ rs, decodeHttp ((answersOn k answers).flatMap tcpBytes) = some rs ∧
        rs.map HttpResponse.body = (answersOn k answers).filterMap answerBody ∧
        ∀ r ∈ rs, r.status = bytes "HTTP/1.1 200 OK" :=
  ⟨_, _, rfl, connections_framed homeEnv (mainBridge [lamp]) _
    [(true, .tcp (bytes "PUT /api/u/lights/1/state HTTP/1.1\n\n\x7b\"on\":true\x7d")),
      (false, .tcp (bytes "PUT /api/u/lights/1/state HTTP/1.1\n\n\x7b\"on\":false\x7d")),
      (true, .tcp (bytes "PUT /api HTTP/1.1\n\n"))] _ rfl⟩

end FauxmoLinux
