import FauxmoLinux.Base.Numeral
import FauxmoLinux.Base.Reader

/-!
Responses on a stream of bytes, as a client of HTTP reads them.

* `HttpResponse`, `HttpResponse.text`: a status line, header fields and a body, and their bytes;
* `readHttpResponse`: the reader: lines up to the empty one, and behind it as many bytes as the
  field `Content-Length` says; `decodeHttp`: a whole stream;
* `HttpResponse.Framed`: the responses whose bytes show where they end;
* `readHttpResponse_text`, `decodeHttp_flatMap`: what is written is read, one response after the
  other, and nothing else.
-/

namespace FauxmoLinux

/-- A response. -/
structure HttpResponse where
  status : Bytes
  fields : List (Bytes × Bytes)
  body : Bytes
  deriving DecidableEq, Repr

/-- The end of a line. -/
def lineBreak : Bytes := [13, 10]

/-- A header field as it is written. -/
def fieldLine (f : Bytes × Bytes) : Bytes := f.1 ++ 58 :: 32 :: f.2

/-- The bytes of a response. -/
def HttpResponse.text (r : HttpResponse) : Bytes :=
  ((r.status :: r.fields.map fieldLine).flatMap fun line => line ++ lineBreak) ++ lineBreak ++
    r.body

/-! ### The reader -/

/-- A line and what is behind its end. -/
def readLine : Bytes → Option (Bytes × Bytes)
  | [] => none
  | b :: rest =>
      if b = 13 ∧ rest.head? = some 10 then some ([], rest.tail)
      else (readLine rest).map fun r => (b :: r.1, r.2)

/-- The lines up to the empty one, and what is behind that, the first argument counting the lines
that are still allowed. -/
def readLines : ℕ → Bytes → Option (List Bytes × Bytes)
  | 0, _ => none
  | n + 1, s => do
      let (line, rest) ← readLine s
      if line = [] then return ([], rest)
      else do
        let (lines, rest) ← readLines n rest
        return (line :: lines, rest)

/-- The name and the value of a header line, without the spaces in front of the value. -/
def readField (line : Bytes) : Bytes × Bytes :=
  (line.takeWhile (· ≠ 58), ((line.dropWhile (· ≠ 58)).drop 1).dropWhile (· = 32))

/-- A letter in lower case. -/
def lower (c : UInt8) : UInt8 := if 65 ≤ c ∧ c ≤ 90 then c + 32 else c

/-- A number that is written with digits alone. -/
def readNumber (s : Bytes) : Option ℕ :=
  if s ≠ [] ∧ s.all isDigit = true then some (digitsVal 0 s) else none

/-- The length of the body that the fields announce. -/
def contentLength (fields : List (Bytes × Bytes)) : Option ℕ := do
  let f ← fields.find? fun f => f.1.map lower = bytes "content-length"
  readNumber f.2

/-- The response at the front of a stream, and what is behind it. -/
def readHttpResponse (s : Bytes) : Option (HttpResponse × Bytes) := do
  match ← readLines s.length s with
  | ([], _) => none
  | (status :: lines, rest) => do
      let fields := lines.map readField
      let n ← contentLength fields
      if n ≤ rest.length then some (⟨status, fields, rest.take n⟩, rest.drop n) else none

/-- The responses of a stream. -/
def decodeHttp (s : Bytes) : Option (List HttpResponse) := readAll readHttpResponse s

/-! ### What is read back -/

/-- The end of the response can be seen: no line contains a carriage return, a field falls apart
at its colon, and the length of the body is announced. -/
structure HttpResponse.Framed (r : HttpResponse) : Prop where
  status : r.status ≠ [] ∧ (13 : UInt8) ∉ r.status
  name : ∀ f ∈ r.fields, (58 : UInt8) ∉ f.1 ∧ (13 : UInt8) ∉ f.1
  value : ∀ f ∈ r.fields, f.2.head? ≠ some 32 ∧ (13 : UInt8) ∉ f.2
  length : contentLength r.fields = some r.body.length

/-- A line is read back. -/
lemma readLine_append {line : Bytes} (h : (13 : UInt8) ∉ line) (rest : Bytes) :
    readLine (line ++ (lineBreak ++ rest)) = some (line, rest) := by
  induction line with
  | nil => rfl
  | cons b line ih =>
      rw [List.mem_cons, not_or] at h
      rw [List.cons_append, readLine, if_neg fun hb => h.1 hb.1.symm, ih h.2]
      rfl

/-- Lines up to an empty one are read back. -/
lemma readLines_append {lines : List Bytes} (h : ∀ line ∈ lines, line ≠ [] ∧ (13 : UInt8) ∉ line)
    {n : ℕ} (hn : lines.length < n) (rest : Bytes) :
    readLines n ((lines.flatMap fun line => line ++ lineBreak) ++ (lineBreak ++ rest)) =
      some (lines, rest) := by
  induction lines generalizing n with
  | nil =>
      obtain ⟨n, rfl⟩ := Nat.exists_eq_succ_of_ne_zero (Nat.pos_iff_ne_zero.mp hn)
      rw [List.flatMap_nil, List.nil_append, readLines]
      have hline : readLine (lineBreak ++ rest) = some ([], rest) := rfl
      simp [hline]
  | cons line lines ih =>
      rw [List.forall_mem_cons] at h
      obtain ⟨n, rfl⟩ := Nat.exists_eq_succ_of_ne_zero (Nat.ne_zero_of_lt hn)
      rw [List.flatMap_cons, List.append_assoc, List.append_assoc, readLines,
        readLine_append h.1.2]
      have hlines := ih h.2 (Nat.lt_of_succ_lt_succ hn)
      simp [h.1.1, hlines]

/-- There are no more lines than bytes. -/
lemma length_lines_lt (lines : List Bytes) (rest : Bytes) : lines.length <
    ((lines.flatMap fun line => line ++ lineBreak) ++ (lineBreak ++ rest)).length := by
  have hle := length_le_length_flatMap (l := lines) (f := fun line => line ++ lineBreak)
    fun line _ => by simp [lineBreak]
  have hbreak : lineBreak.length = 2 := rfl
  rw [List.length_append, List.length_append, hbreak]
  omega

/-- A field is read back. -/
lemma readField_fieldLine {f : Bytes × Bytes} (hname : (58 : UInt8) ∉ f.1)
    (hvalue : f.2.head? ≠ some 32) : readField (fieldLine f) = f := by
  have hdrop : (32 :: f.2).dropWhile (fun c => decide (c = 32)) = f.2 := by
    rw [List.dropWhile_cons_of_pos (by decide)]
    cases hf : f.2 with
    | nil => rfl
    | cons c t =>
        rw [hf] at hvalue
        exact List.dropWhile_cons_of_neg (by simpa using hvalue)
  rw [readField, fieldLine, takeWhile_ne_append hname, dropWhile_ne_append hname, List.drop_one,
    List.tail_cons, hdrop]

/-- A number is read back. -/
lemma readNumber_toDec (n : ℕ) : readNumber (toDec n) = some n := by
  have hdigits : (toDec n).all isDigit = true :=
    List.all_eq_true.mpr fun c hc => isDigit_of_mem_toDec hc
  have hval := digitsVal_toDec n []
  rw [List.append_nil] at hval
  rw [readNumber, if_pos ⟨toDec_ne_nil n, hdigits⟩, hval, digitsVal]

namespace HttpResponse

variable {r : HttpResponse}

/-- The lines in front of the empty one. -/
lemma Framed.lines (h : r.Framed) : ∀ line ∈ r.status :: r.fields.map fieldLine,
    line ≠ [] ∧ (13 : UInt8) ∉ line := by
  rw [List.forall_mem_cons, List.forall_mem_map]
  refine ⟨h.status, fun f hf => ⟨by simp [fieldLine], ?_⟩⟩
  simp [fieldLine, (h.name f hf).2, (h.value f hf).2]

/-- **A response is read back**, whatever follows on the stream. -/
theorem readHttpResponse_text (h : r.Framed) (rest : Bytes) :
    readHttpResponse (r.text ++ rest) = some (r, rest) := by
  have htext : r.text ++ rest = ((r.status :: r.fields.map fieldLine).flatMap
      fun line => line ++ lineBreak) ++ (lineBreak ++ (r.body ++ rest)) := by
    simp [text]
  have hlines := readLines_append h.lines (length_lines_lt _ (r.body ++ rest)) (r.body ++ rest)
  have hfields : (r.fields.map fieldLine).map readField = r.fields := by
    rw [List.map_map]
    exact (List.map_congr_left fun f hf =>
      readField_fieldLine (h.name f hf).1 (h.value f hf).1).trans (List.map_id _)
  rw [← htext] at hlines
  rw [readHttpResponse, hlines]
  simp only [Option.bind_eq_bind, Option.bind_some, hfields, h.length]
  rw [if_pos (by simp), List.take_left, List.drop_left]

lemma text_ne_nil (r : HttpResponse) : r.text ≠ [] := by
  simp [text, lineBreak]

end HttpResponse

/-- **A stream of responses is read back**, each of them once and in order. -/
theorem decodeHttp_flatMap {rs : List HttpResponse} (h : ∀ r ∈ rs, r.Framed) :
    decodeHttp (rs.flatMap HttpResponse.text) = some rs := by
  have hread : decodeHttp (rs.flatMap HttpResponse.text) = some (rs.map id) :=
    readAll_flatMap (fun r _ => r.text_ne_nil) fun r hr =>
      HttpResponse.readHttpResponse_text (h r hr)
  rwa [List.map_id] at hread

end FauxmoLinux
