import FauxmoLinux.Bridge.Scan

/-!
HTTP requests as clients write them, and what `_onTCPData` makes of them.

* `TextLine`, `HeaderLine`: the lines of a request, each with the way it is ended; a header line has
  a character other than a carriage return, so it is told from the blank line;
* `HttpMessage`, `HttpMessage.wire`: a request in its parts, and its bytes;
* `afterBlank_text`, `HttpMessage.afterBlank_wire`: the counter of line feeds behind a line is
  that of the line alone, so the search for the body ends behind the blank line and no earlier;
* `onTCPData_wire`: the handler hands on the parts the request was written from;
* `OnePiece`: requests that one `recv` can read.
-/

namespace FauxmoLinux

/-! ### Lines -/

/-- The end of a line, with or without a carriage return. -/
def lineEnd (crlf : Bool) : Bytes := if crlf then [13, 10] else [10]

/-- A line of a request. -/
structure TextLine where
  text : Bytes
  crlf : Bool
  lineFeed_notMem : (10 : UInt8) ∉ text
  zero_notMem : (0 : UInt8) ∉ text

/-- A header line. -/
structure HeaderLine extends TextLine where
  visible : ∃ b ∈ text, b ≠ 13

def TextLine.wire (l : TextLine) : Bytes := l.text ++ lineEnd l.crlf

/-- Inside a line the counter does not rise: it keeps its value over carriage returns and is at
`0` behind any other byte. -/
lemma afterBlank_text {text : Bytes} (h10 : (10 : UInt8) ∉ text) (h0 : (0 : UInt8) ∉ text)
    {c : UInt8} (hc : c < 2) (t : Bytes) :
    afterBlank (text ++ t) c = afterBlank t (if ∃ b ∈ text, b ≠ 13 then 0 else c) := by
  induction text generalizing c with
  | nil => simp
  | cons b text ih =>
      have hb : b ≠ 0 ∧ c < 2 := ⟨fun h => h0 (by simp [h]), hc⟩
      have hlf : b ≠ 10 := fun h => h10 (by simp [h])
      have h10' : (10 : UInt8) ∉ text := fun h => h10 (List.mem_cons_of_mem _ h)
      have h0' : (0 : UInt8) ∉ text := fun h => h0 (List.mem_cons_of_mem _ h)
      rw [List.cons_append, afterBlank, if_pos hb]
      by_cases hcr : b = 13
      · have hcount : countLineFeed c b = c := by simp [countLineFeed, hcr]
        have hiff : (∃ d ∈ b :: text, d ≠ 13) ↔ ∃ d ∈ text, d ≠ 13 := by simp [hcr]
        rw [hcount, ih h10' h0' hc]
        simp only [hiff]
      · have hcount : countLineFeed c b = 0 := by simp [countLineFeed, hcr, hlf]
        rw [hcount, ih h10' h0' (by decide), ite_self, if_pos ⟨b, List.mem_cons_self, hcr⟩]

/-- The end of a line is counted once. -/
lemma afterBlank_lineEnd (crlf : Bool) {c : UInt8} (hc : c < 2) (t : Bytes) :
    afterBlank (lineEnd crlf ++ t) c = afterBlank t (c + 1) := by
  cases crlf <;> simp [lineEnd, afterBlank, countLineFeed, hc]

/-- Behind the version line one line feed is counted. -/
lemma TextLine.afterBlank_wire (l : TextLine) (t : Bytes) :
    afterBlank (l.wire ++ t) 0 = afterBlank t 1 := by
  calc afterBlank (l.wire ++ t) 0
      = afterBlank (l.text ++ (lineEnd l.crlf ++ t)) 0 := by rw [TextLine.wire, List.append_assoc]
    _ = afterBlank (lineEnd l.crlf ++ t) 0 := by
        rw [afterBlank_text l.lineFeed_notMem l.zero_notMem (by decide), ite_self]
    _ = afterBlank t 1 := afterBlank_lineEnd _ (by decide) t

/-- Behind a header line too, whatever stood before it. -/
lemma HeaderLine.afterBlank_wire (l : HeaderLine) (t : Bytes) :
    afterBlank (l.wire ++ t) 1 = afterBlank t 1 := by
  calc afterBlank (l.wire ++ t) 1
      = afterBlank (l.text ++ (lineEnd l.crlf ++ t)) 1 := by rw [TextLine.wire, List.append_assoc]
    _ = afterBlank (lineEnd l.crlf ++ t) 0 := by
        rw [afterBlank_text l.lineFeed_notMem l.zero_notMem (by decide), if_pos l.visible]
    _ = afterBlank t 1 := afterBlank_lineEnd _ (by decide) t

lemma afterBlank_headers (headers : List HeaderLine) (t : Bytes) :
    afterBlank (headers.flatMap (·.wire) ++ t) 1 = afterBlank t 1 := by
  induction headers with
  | nil => rfl
  | cons l headers ih =>
      rw [List.flatMap_cons, List.append_assoc, l.afterBlank_wire, ih]

/-! ### Requests -/

/-- A request: method and URL without spaces, the version line, the header lines, the blank line
and the body. -/
structure HttpMessage where
  method : CString
  url : CString
  version : TextLine
  headers : List HeaderLine
  blank : Bool
  body : CString
  method_space : (32 : UInt8) ∉ method.1
  url_space : (32 : UInt8) ∉ url.1

namespace HttpMessage

/-- Everything behind the URL and its space. -/
def rest (msg : HttpMessage) : Bytes :=
  msg.version.wire ++ (msg.headers.flatMap (·.wire) ++ (lineEnd msg.blank ++ msg.body.1))

/-- The bytes of the request. -/
def wire (msg : HttpMessage) : Bytes := msg.method.1 ++ 32 :: (msg.url.1 ++ 32 :: msg.rest)

/-- The search for the double line feed ends behind the blank line. -/
lemma afterBlank_rest (msg : HttpMessage) : afterBlank msg.rest 0 = msg.body.1 := by
  calc afterBlank msg.rest 0
      = afterBlank (msg.headers.flatMap (·.wire) ++ (lineEnd msg.blank ++ msg.body.1)) 1 :=
        msg.version.afterBlank_wire _
    _ = afterBlank (lineEnd msg.blank ++ msg.body.1) 1 := afterBlank_headers _ _
    _ = afterBlank msg.body.1 2 := afterBlank_lineEnd _ (by decide) _
    _ = msg.body.1 := by cases msg.body.1 <;> simp [afterBlank]

/-- **The request is split into the parts it was written from.** -/
lemma splitRequest_wire (msg : HttpMessage) :
    splitRequest msg.wire = .ok ⟨msg.method.1, msg.url.1, msg.body.1⟩ := by
  rw [wire, splitRequest_append msg.method_space msg.url_space, afterBlank_rest,
    cstr_of_notMem msg.method.2, cstr_of_notMem msg.url.2, cstr_of_notMem msg.body.2]

/-- `strncmp` with `GET` looks whether the method begins with it. -/
lemma isGet_eq (r : Request) : r.isGet = decide (bytes "GET" <+: r.method) := by
  rw [Request.isGet, decide_eq_decide, List.prefix_iff_eq_take]
  exact eq_comm

/-- A request with one header line that has a carriage return and one that has none, and a body
that begins like the end of a line. -/
def sample : HttpMessage where
  method := ⟨bytes "PUT", by decide⟩
  url := ⟨bytes "/api/u/lights/1/state", by decide⟩
  version := ⟨bytes "HTTP/1.1", true, by decide, by decide⟩
  headers := [⟨⟨bytes "Accept: */*", true, by decide, by decide⟩, 65, by decide, by decide⟩,
    ⟨⟨bytes "Host: fernseher", false, by decide, by decide⟩, 72, by decide, by decide⟩]
  blank := true
  body := ⟨bytes "\r\n\x7b\"on\":true\x7d", by decide⟩
  method_space := by decide
  url_space := by decide

end HttpMessage

/-- **A request is read back**: the handler of an enabled object is given the URL and the body it
was written from, and whether its method begins with `GET`. -/
theorem onTCPData_wire (env : Env) (msg : HttpMessage) (fauxmo : Fauxmo)
    (hon : fauxmo.enabled = true) :
    splitRequest msg.wire = .ok ⟨msg.method.1, msg.url.1, msg.body.1⟩ ∧
      onTCPData env fauxmo msg.wire =
        onTCPRequest env fauxmo (decide (bytes "GET" <+: msg.method.1)) msg.url.1 msg.body.1 := by
  refine ⟨msg.splitRequest_wire, ?_⟩
  rw [onTCPData, if_neg (by simp [hon]), msg.splitRequest_wire, ok_bind, HttpMessage.isGet_eq]

/-- The request, on an object with one light. -/
theorem onTCPData_wire_sample :
    splitRequest HttpMessage.sample.wire = .ok ⟨HttpMessage.sample.method.1,
        HttpMessage.sample.url.1, HttpMessage.sample.body.1⟩ ∧
      onTCPData homeEnv ⟨true, true, 80, addDevices homeEnv.iface [(zeroSlot, fernseher)], true,
          some ⟨80, 1⟩, 1⟩ HttpMessage.sample.wire =
        onTCPRequest homeEnv ⟨true, true, 80, addDevices homeEnv.iface [(zeroSlot, fernseher)],
          true, some ⟨80, 1⟩, 1⟩ (decide (bytes "GET" <+: HttpMessage.sample.method.1))
          HttpMessage.sample.url.1 HttpMessage.sample.body.1 :=
  onTCPData_wire homeEnv HttpMessage.sample ⟨true, true, 80, _, true, some ⟨80, 1⟩, 1⟩ rfl

/-- A request that is handed over in one piece, which a longer one never is. -/
structure OnePiece extends HttpMessage where
  fits : toHttpMessage.wire.length ≤ AS_DEFAULT_BUFFER_SIZE

end FauxmoLinux
