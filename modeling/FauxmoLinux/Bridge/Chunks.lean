import FauxmoLinux.Bridge.Meaning
import FauxmoLinux.Bridge.Scan

/-!
A message that `recv` reads in pieces. Every piece is handled as a message of its own, and
nothing is kept of it for the next.

* `splitRequest_leadingPiece`, `meaning_leadingPiece`: a first piece with two spaces has the
  method and the URL of the whole, and asks for the same unless its body matters;
* `runs_iff_answers`, `answers_asked`: a run over pieces answers what each of them asks;
* `chunks_iff`: the pieces do what the whole does, on every store on which it completes, exactly
  when together they ask for what the whole asks for.
-/

namespace FauxmoLinux

variable {env : Env}

/-! ### The first piece -/

/-- Text added behind a body that has begun is added to the body. -/
lemma afterBlank_append {t : Bytes} {c : UInt8} (rest : Bytes) (h : afterBlank t c ≠ []) :
    afterBlank (t ++ rest) c = afterBlank t c ++ rest := by
  induction t generalizing c with
  | nil => exact absurd rfl h
  | cons b t ih =>
      rw [afterBlank] at h
      rw [List.cons_append, afterBlank, afterBlank]
      by_cases hgo : b ≠ 0 ∧ c < 2
      · rw [if_pos hgo] at h
        rw [if_pos hgo, if_pos hgo]
        exact ih h
      · rw [if_neg hgo, if_neg hgo, List.cons_append]

lemma cstr_prefix_append (s rest : Bytes) : cstr s <+: cstr (s ++ rest) := by
  induction s with
  | nil => exact List.nil_prefix
  | cons b s ih =>
      by_cases hb : b = 0
      · simp [cstr, hb]
      · simpa [cstr, hb] using ih

/-- **The first piece**: with two spaces it has the method and the URL of the whole and a prefix
of its body. -/
theorem splitRequest_leadingPiece {first : Bytes} (h : 2 ≤ first.count 32) (rest : Bytes) :
    ∃ q₁ q, splitRequest first = .ok q₁ ∧ splitRequest (first ++ rest) = .ok q ∧
      q₁.method = q.method ∧ q₁.url = q.url ∧ q₁.body <+: q.body := by
  obtain ⟨m, u, t, rfl, hm, hu⟩ := exists_split h
  have hwhole : m ++ 32 :: (u ++ 32 :: t) ++ rest = m ++ 32 :: (u ++ 32 :: (t ++ rest)) := by
    simp
  refine ⟨⟨cstr m, cstr u, cstr (afterBlank t 0)⟩,
    ⟨cstr m, cstr u, cstr (afterBlank (t ++ rest) 0)⟩, splitRequest_append hm hu t, ?_, rfl, rfl,
    ?_⟩
  · rw [hwhole]
    exact splitRequest_append hm hu (t ++ rest)
  · by_cases hbegun : afterBlank t 0 = []
    · simp only [hbegun]
      exact List.nil_prefix
    · simp only [afterBlank_append rest hbegun]
      exact cstr_prefix_append _ _

/-- A first piece with two spaces asks for what the whole asks for, unless that is a control
request, whose body matters. -/
theorem meaning_leadingPiece {first : Bytes} (h : 2 ≤ first.count 32) (rest : Bytes)
    (hcontrol : ∀ q, splitRequest (first ++ rest) = .ok q → bytes "/api" <+: q.url →
      q.isGet = true) : meaning env first = meaning env (first ++ rest) := by
  obtain ⟨q₁, q, hq₁, hq, hmethod, hurl, -⟩ := splitRequest_leadingPiece h rest
  have hget : q₁.isGet = q.isGet := by rw [Request.isGet, Request.isGet, hmethod]
  rw [meaning, meaning, hq₁, hq, ok_bind, ok_bind, Request.meaning, Request.meaning, hget, hurl]
  by_cases hapi : bytes "/api" <+: q.url
  · simp only [hcontrol q hq hapi, if_true]
  · simp only [hapi, if_false]

/-! ### Answering the pieces -/

/-- The answers to a list of requests, one after another. -/
def answers (env : Env) : Fauxmo → List Meaning → Except Fault (Fauxmo × List Event) :=
  runs fun fauxmo m => m.answer env fauxmo

/-- What a list of requests asks for. -/
def asked (ms : List Meaning) : List Meaning := ms.filter (· ≠ .nothing)

lemma Meaning.answer_enabled {m : Meaning} {fauxmo : Fauxmo} {r : Fauxmo × List Event}
    (h : m.answer env fauxmo = .ok r) : r.1.enabled = fauxmo.enabled := by
  cases m with
  | nothing => cases h; rfl
  | description => cases h; rfl
  | list id =>
      obtain ⟨response, -, rfl⟩ := answer_list_ok h
      rfl
  | register => cases h; rfl
  | command id c =>
      obtain ⟨d, -, rfl⟩ := answer_command_ok h
      rfl

/-- **A run over pieces** answers what each piece asks for. -/
theorem runs_iff_answers {fauxmo : Fauxmo} {chunks : List Bytes} {r : Fauxmo × List Event}
    (hon : fauxmo.enabled = true) :
    runs (onMessageReceived env) fauxmo chunks = .ok r ↔
      ∃ ms, List.Forall₂ (fun chunk m => meaning env chunk = .ok m) chunks ms ∧
        answers env fauxmo ms = .ok r := by
  induction chunks generalizing fauxmo r with
  | nil => simp [answers]
  | cons chunk chunks ih =>
      obtain ⟨f₂, o⟩ := r
      rw [runs_cons_ok]
      constructor
      · rintro ⟨f₁, o₁, o₂, hstep, hrest, rfl⟩
        obtain ⟨m, hm, ha⟩ := (onMessageReceived_ok_iff hon).mp hstep
        have hon₁ : f₁.enabled = true := (Meaning.answer_enabled ha).trans hon
        obtain ⟨ms, hms, has⟩ := (ih hon₁).mp hrest
        exact ⟨m :: ms, .cons hm hms, runs_cons_ok.mpr ⟨f₁, o₁, o₂, ha, has, rfl⟩⟩
      · rintro ⟨_, hall, has⟩
        cases hall with
        | cons hm hms =>
            obtain ⟨f₁, o₁, o₂, ha, hrest, rfl⟩ := runs_cons_ok.mp has
            have hon₁ : f₁.enabled = true := (Meaning.answer_enabled ha).trans hon
            exact ⟨f₁, o₁, o₂, (onMessageReceived_ok_iff hon).mpr ⟨_, hm, ha⟩,
              (ih hon₁).mpr ⟨_, hms, hrest⟩, rfl⟩

/-- Requests for nothing can be left out. -/
lemma answers_asked (fauxmo : Fauxmo) (ms : List Meaning) :
    answers env fauxmo (asked ms) = answers env fauxmo ms := by
  refine runs_filter (fun f m hm => ?_) fauxmo ms
  obtain rfl : m = .nothing := by simpa using hm
  rfl

/-! ### Counting responses -/

/-- Bytes on the TCP connection. -/
def Event.isTcp : Event → Bool
  | .tcp _ => true
  | _ => false

/-- A request is answered by one response, a header block and a body. -/
lemma Meaning.answer_isTcp {m : Meaning} {fauxmo : Fauxmo} {r : Fauxmo × List Event}
    (hm : m ≠ .nothing) (h : m.answer env fauxmo = .ok r) : r.2.countP Event.isTcp = 2 := by
  cases m with
  | nothing => exact absurd rfl hm
  | description => cases h; rfl
  | list id =>
      obtain ⟨response, -, rfl⟩ := answer_list_ok h
      rfl
  | register => cases h; rfl
  | command id c =>
      obtain ⟨d, -, rfl⟩ := answer_command_ok h
      cases fauxmo.callback <;> rfl

/-- There are as many responses as requests that ask for something. -/
theorem answers_isTcp {ms : List Meaning} {fauxmo : Fauxmo} {r : Fauxmo × List Event}
    (h : answers env fauxmo ms = .ok r) : r.2.countP Event.isTcp = 2 * (asked ms).length := by
  have hstep : ∀ (l : List Meaning) (s : Fauxmo) (o : List Event) (m : Meaning) (s' : Fauxmo)
      (o' : List Event), o.countP Event.isTcp = 2 * (asked l).length →
        m.answer env s = .ok (s', o') →
        (o ++ o').countP Event.isTcp = 2 * (asked (l ++ [m])).length := by
    intro l s o m s' o' hl ha
    rw [asked, List.filter_append, List.countP_append, hl]
    by_cases hm : m = .nothing
    · subst hm
      cases ha
      simp [asked]
    · have h2 : o'.countP Event.isTcp = 2 := Meaning.answer_isTcp hm ha
      simp only [h2, asked, List.length_append]
      simp [hm, Nat.mul_add]
  have hrun := runs_history (I := fun l (_ : Fauxmo) o =>
    o.countP Event.isTcp = 2 * (asked l).length) hstep (l := []) (o := []) rfl h
  simpa using hrun

/-! ### All pieces -/

/-- A disabled object takes no notice of any piece. -/
lemma runs_disabled {fauxmo : Fauxmo} (hoff : fauxmo.enabled = false) (chunks : List Bytes) :
    runs (onMessageReceived env) fauxmo chunks = .ok (fauxmo, []) := by
  have hstep : ∀ chunk, onMessageReceived env fauxmo chunk = .ok (fauxmo, []) := fun chunk => by
    rw [onMessageReceived, onTCPData, if_pos hoff]
    rfl
  induction chunks with
  | nil => rfl
  | cons chunk chunks ih => exact runs_cons_ok.mpr ⟨_, [], [], hstep chunk, ih, rfl⟩

lemma runs_of_disabled {fauxmo : Fauxmo} {chunks : List Bytes} {message : Bytes}
    {r : Fauxmo × List Event} (hoff : fauxmo.enabled = false)
    (hr : onMessageReceived env fauxmo message = .ok r) :
    runs (onMessageReceived env) fauxmo chunks = .ok r := by
  have hwhole : runs (onMessageReceived env) fauxmo [message] = .ok r :=
    (runs_singleton _ _).trans hr
  rw [runs_disabled hoff] at hwhole
  rw [runs_disabled hoff, hwhole]

/-- Requests that are answered like one request wherever that completes ask for it. -/
lemma asked_eq_of_answers {ms : List Meaning} {m : Meaning}
    (h : ∀ devices r, m.answer env (mainBridge devices) = .ok r →
      answers env (mainBridge devices) ms = .ok r) : asked ms = asked [m] := by
  have hlength : (asked ms).length = (asked [m]).length := by
    obtain ⟨devices, r, hr⟩ := m.exists_answer env
    have hwhole : answers env (mainBridge devices) [m] = .ok r := (runs_singleton _ _).trans hr
    have hcount := (answers_isTcp (h devices r hr)).symm.trans (answers_isTcp hwhole)
    omega
  by_cases hm : m = .nothing
  · subst hm
    exact List.eq_nil_of_length_eq_zero hlength
  · have hone : asked [m] = [m] := by simp [asked, hm]
    rw [hone] at hlength ⊢
    obtain ⟨m', hm'⟩ := List.length_eq_one_iff.mp hlength
    have hsame : ∀ devices r, m.answer env (mainBridge devices) = .ok r →
        m'.answer env (mainBridge devices) = .ok r := by
      intro devices r hr
      have hpieces := h devices r hr
      rwa [← answers_asked, hm', answers, runs_singleton] at hpieces
    rw [hm', Meaning.eq_of_answer hsame]

/-- Pieces that together ask for what the whole asks for do what it does. -/
theorem runs_of_asked {chunks : List Bytes} {ms : List Meaning} {m : Meaning} {fauxmo : Fauxmo}
    {r : Fauxmo × List Event}
    (hms : List.Forall₂ (fun chunk m => meaning env chunk = .ok m) chunks ms)
    (hm : meaning env chunks.flatten = .ok m) (hasked : asked ms = asked [m])
    (hr : onMessageReceived env fauxmo chunks.flatten = .ok r) :
    runs (onMessageReceived env) fauxmo chunks = .ok r := by
  cases hon : fauxmo.enabled with
  | false => exact runs_of_disabled hon hr
  | true =>
      obtain ⟨m', hm', ha⟩ := (onMessageReceived_ok_iff hon).mp hr
      obtain rfl : m = m' := Except.ok.inj (hm.symm.trans hm')
      refine (runs_iff_answers hon).mpr ⟨ms, hms, ?_⟩
      rw [← answers_asked, hasked, answers_asked, answers, runs_singleton, ha]

/-- A message that is no control request may be cut anywhere behind its second space, as long as
the later pieces ask for nothing by themselves. -/
theorem runs_of_leadingPiece {first : Bytes} {later : List Bytes} {fauxmo : Fauxmo}
    {r : Fauxmo × List Event} (h2 : 2 ≤ first.count 32)
    (hcontrol : ∀ q, splitRequest (first ++ later.flatten) = .ok q → bytes "/api" <+: q.url →
      q.isGet = true)
    (hlater : ∀ chunk ∈ later, meaning env chunk = .ok .nothing)
    (hr : onMessageReceived env fauxmo (first ++ later.flatten) = .ok r) :
    runs (onMessageReceived env) fauxmo (first :: later) = .ok r := by
  cases hon : fauxmo.enabled with
  | false => exact runs_of_disabled hon hr
  | true =>
      obtain ⟨m, hm, -⟩ := (onMessageReceived_ok_iff hon).mp hr
      have hfirst : meaning env first = .ok m := (meaning_leadingPiece h2 _ hcontrol).trans hm
      have hall : List.Forall₂ (fun chunk m => meaning env chunk = .ok m) later
          (later.map fun _ => .nothing) :=
        List.forall₂_map_right_iff.mpr (List.forall₂_same.mpr hlater)
      have hnothing : asked (later.map fun _ => Meaning.nothing) = [] := by simp [asked]
      refine runs_of_asked (.cons hfirst hall) hm ?_ hr
      rw [asked, asked, ← List.singleton_append, List.filter_append, ← asked, ← asked, hnothing,
        List.append_nil]

/-- **A message in pieces**: whenever the whole completes the pieces lead to the same store,
callbacks and responses, exactly when each piece can be read as a request of its own and
together they ask for what the whole asks for, which is one request at most. -/
theorem chunks_iff (chunks : List Bytes)
    (hdone : ∃ (fauxmo : Fauxmo) (r : Fauxmo × List Event), fauxmo.enabled = true ∧
      onMessageReceived env fauxmo chunks.flatten = .ok r) :
    (∀ fauxmo r, onMessageReceived env fauxmo chunks.flatten = .ok r →
        runs (onMessageReceived env) fauxmo chunks = .ok r) ↔
      ∃ ms m, List.Forall₂ (fun chunk m => meaning env chunk = .ok m) chunks ms ∧
        meaning env chunks.flatten = .ok m ∧ asked ms = asked [m] := by
  obtain ⟨fauxmo, r, hon, hr⟩ := hdone
  obtain ⟨m, hm, ha⟩ := (onMessageReceived_ok_iff hon).mp hr
  constructor
  · intro h
    obtain ⟨ms, hms, -⟩ := (runs_iff_answers hon).mp (h fauxmo r hr)
    refine ⟨ms, m, hms, hm, @asked_eq_of_answers env ms m fun devices r' ha' => ?_⟩
    have hwhole := h _ _ ((onMessageReceived_ok_iff rfl).mpr ⟨m, hm, ha'⟩)
    obtain ⟨ms', hms', has'⟩ := (runs_iff_answers rfl).mp hwhole
    obtain rfl : ms' = ms := List.right_unique_forall₂'
      (fun _ _ _ h₁ h₂ => Except.ok.inj (h₁.symm.trans h₂)) hms' hms
    exact has'
  · rintro ⟨ms, m, hms, hm, hasked⟩ f r hr
    exact runs_of_asked hms hm hasked hr

/-- The object behind `addDevice("fernseher")`. -/
def fernseherBridge : Fauxmo := mainBridge (addDevices homeEnv.iface [(zeroSlot, fernseher)])

/-- A control request cut behind its command. -/
theorem chunks_keep_command :
    runs (onMessageReceived homeEnv) fernseherBridge
        [bytes "PUT /api/u/lights/1/state HTTP/1.1\r\n\r\n\x7b\"on\": true",
          bytes ", \"transitiontime\": 0 \x7d"] =
      onMessageReceived homeEnv fernseherBridge
        (bytes "PUT /api/u/lights/1/state HTTP/1.1\r\n\r\n\x7b\"on\": true" ++
          bytes ", \"transitiontime\": 0 \x7d") := by
  obtain ⟨r, hr⟩ : ∃ r, onMessageReceived homeEnv fernseherBridge
      (bytes "PUT /api/u/lights/1/state HTTP/1.1\r\n\r\n\x7b\"on\": true" ++
        bytes ", \"transitiontime\": 0 \x7d") = .ok r := ⟨_, rfl⟩
  rw [hr]
  exact (@chunks_iff homeEnv
    [bytes "PUT /api/u/lights/1/state HTTP/1.1\r\n\r\n\x7b\"on\": true",
      bytes ", \"transitiontime\": 0 \x7d"] ⟨fernseherBridge, r, rfl, hr⟩).mpr
    ⟨[.command 0 .on, .nothing], .command 0 .on, .cons rfl (.cons rfl .nil), rfl, rfl⟩
    fernseherBridge r hr

/-- A control request cut between its header and its body: the command is lost. -/
theorem chunks_lose_command :
    ¬ ∀ chunks : List Bytes,
      chunks.flatten = bytes ("PUT /api/u/lights/1/state HTTP/1.1\r\n\r\n" ++
        "\x7b\"on\": true, \"transitiontime\": 0\x7d") →
      (∀ chunk ∈ chunks, chunk ≠ []) →
      runs (onMessageReceived homeEnv) fernseherBridge chunks =
        onMessageReceived homeEnv fernseherBridge
          (bytes ("PUT /api/u/lights/1/state HTTP/1.1\r\n\r\n" ++
            "\x7b\"on\": true, \"transitiontime\": 0\x7d")) := by
  intro h
  have hsame := h [bytes "PUT /api/u/lights/1/state HTTP/1.1\r\n\r\n",
    bytes "\x7b\"on\": true, \"transitiontime\": 0\x7d"] rfl (by decide)
  have hpieces : runs (onMessageReceived homeEnv) fernseherBridge
      [bytes "PUT /api/u/lights/1/state HTTP/1.1\r\n\r\n",
        bytes "\x7b\"on\": true, \"transitiontime\": 0\x7d"] = .ok (fernseherBridge, []) := rfl
  have hwhole : ∃ r, onMessageReceived homeEnv fernseherBridge
      (bytes ("PUT /api/u/lights/1/state HTTP/1.1\r\n\r\n" ++
        "\x7b\"on\": true, \"transitiontime\": 0\x7d")) = .ok r ∧ r.2 ≠ [] :=
    ⟨_, rfl, by decide⟩
  obtain ⟨r, hr, hne⟩ := hwhole
  rw [hpieces, hr] at hsame
  cases hsame
  exact hne rfl

end FauxmoLinux
