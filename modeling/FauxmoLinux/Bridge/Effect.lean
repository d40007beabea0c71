import FauxmoLinux.Bridge.Guard
import FauxmoLinux.Bridge.Meaning

/-!
What a request may do.

* `onTCPRequest_ok_cases`: a request that completes is rejected without a trace, is answered, or
  carries out one command on one device of the store;
* `Idle`, `Updates`, `onTCPData_frame`: which messages may change a device at all, which one
  they change, and which of its fields, as a function of the body alone.
-/

namespace FauxmoLinux

variable {env : Env}

/-! ### Three kinds of requests -/

lemma exists_onTCPDescription (env : Env) (fauxmo : Fauxmo) :
    ∃ response, onTCPDescription env fauxmo =
      ⟨fauxmo.devices, sendTCPResponse (bytes "200 OK") response (bytes "text/xml"), true⟩ :=
  ⟨_, rfl⟩

/-- The lists are answers. -/
lemma onTCPList_ok_cases {devices : List Device} {url : Bytes} {o : Outcome}
    (h : onTCPList devices url = .ok o) :
    o = ⟨devices, [], false⟩ ∨
      ∃ response, o = ⟨devices, sendTCPResponse (bytes "200 OK") response
        (bytes "application/json"), true⟩ := by
  rw [onTCPList_eq] at h
  cases hf : find (bytes "lights") url with
  | none =>
      rw [hf] at h
      exact Or.inl (Except.ok.inj h).symm
  | some pos =>
      rw [hf] at h
      obtain ⟨id, -, h⟩ := bind_ok_iff.mp h
      obtain ⟨response, -, hret⟩ := bind_ok_iff.mp h
      exact Or.inr ⟨response, (Except.ok.inj hret).symm⟩

/-- **What a completed request did**: it was rejected, it was answered with the description or with
a list, or it carried out the command of its body on its target. -/
theorem onTCPRequest_ok_cases {fauxmo : Fauxmo} {isGet : Bool} {url body : Bytes} {o : Outcome}
    (h : onTCPRequest env fauxmo isGet url body = .ok o) :
    o = ⟨fauxmo.devices, [], false⟩ ∨ o = onTCPDescription env fauxmo ∨
      (∃ response, o = ⟨fauxmo.devices, sendTCPResponse (bytes "200 OK") response
        (bytes "application/json"), true⟩) ∨
      (isGet = false ∧ bytes "/api" <+: url ∧
        ∃ id d c, target url body = .ok (some id) ∧ fauxmo.devices[id.toNat]? = some d ∧
          decode env body = .ok c ∧
          o = ⟨fauxmo.devices.modify id.toNat c.apply,
            stateEvents fauxmo.callback id (c.apply d), true⟩) := by
  rw [onTCPRequest] at h
  by_cases hon : fauxmo.enabled = false
  · rw [if_pos hon] at h
    exact Or.inl (Except.ok.inj h).symm
  rw [if_neg hon] at h
  by_cases hdesc : url = bytes "/description.xml"
  · rw [if_pos hdesc] at h
    exact Or.inr (Or.inl (Except.ok.inj h).symm)
  rw [if_neg hdesc] at h
  by_cases hapi : bytes "/api" <+: url
  swap
  · rw [if_neg hapi] at h
    exact Or.inl (Except.ok.inj h).symm
  rw [if_pos hapi] at h
  cases isGet with
  | true =>
      rcases onTCPList_ok_cases h with rfl | ⟨response, rfl⟩
      · exact Or.inl rfl
      · exact Or.inr (Or.inr (Or.inl ⟨response, rfl⟩))
  | false =>
      rcases onTCPControl_ok_cases h with ⟨-, rfl⟩ | ⟨-, -, rfl⟩ | ⟨id, d, c, ht, hd, hc, rfl⟩
      · exact Or.inr (Or.inr (Or.inl ⟨_, rfl⟩))
      · exact Or.inl rfl
      · exact Or.inr (Or.inr (Or.inr ⟨rfl, hapi, id, d, c, ht, hd, hc, rfl⟩))

/-! ### Which device, which fields -/

/-- A call of `_setStateCallback`. -/
def Event.isCall : Event → Bool
  | .setState _ _ _ _ => true
  | _ => false

/-- The request is none that could change a device: it reads, it is not for the interface, it
names no state of a light, or it brings no command. -/
def Request.Idle (q : Request) : Prop :=
  q.isGet = true ∨ ¬ bytes "/api" <+: q.url ∨ find (bytes "state") q.url = none ∨
    find (bytes "lights") q.url = none ∨ q.body = [] ∨ find (bytes "devicetype") q.body ≠ none

/-- The body takes the branch on `bri` or that of a plain on. -/
def SetsValue (body : Bytes) : Prop :=
  find (bytes "bri") body ≠ none ∨
    (find (bytes "hue") body = none ∧ find (bytes "ct") body = none ∧
      find (bytes "false") body = none)

/-- The body takes the branch on `hue` or that on `ct`. -/
def SetsRgb (body : Bytes) : Prop :=
  find (bytes "bri") body = none ∧
    (find (bytes "hue") body ≠ none ∨ find (bytes "ct") body ≠ none)

/-- Only the branches on `bri` and of a plain on write the value. -/
lemma apply_value_of_decode {body : Bytes} {c : Command} (hc : decode env body = .ok c)
    {d : Device} (h : (c.apply d).value ≠ d.value) : SetsValue body := by
  by_contra hno
  rw [SetsValue, not_or, not_not] at hno
  obtain ⟨hbri, hrest⟩ := hno
  rw [decode, hbri] at hc
  cases hhue : find (bytes "hue") body with
  | some pos =>
      rw [hhue] at hc
      obtain ⟨_, -, hc⟩ := bind_ok_iff.mp hc
      obtain ⟨_, -, hc⟩ := bind_ok_iff.mp hc
      obtain rfl := Except.ok.inj hc
      exact h rfl
  | none =>
  rw [hhue] at hc
  cases hct : find (bytes "ct") body with
  | some pos =>
      rw [hct] at hc
      obtain ⟨_, -, hc⟩ := bind_ok_iff.mp hc
      obtain ⟨_, -, hc⟩ := bind_ok_iff.mp hc
      obtain rfl := Except.ok.inj hc
      exact h rfl
  | none =>
  rw [hct] at hc
  have hfalse : find (bytes "false") body ≠ none := fun hf => hrest ⟨hhue, hct, hf⟩
  obtain rfl : Command.off = c := by simpa [hfalse] using hc
  exact h rfl

/-- Only the branches on `hue` and on `ct` write the colour. -/
lemma apply_rgb_of_decode {body : Bytes} {c : Command} (hc : decode env body = .ok c)
    {d : Device} (h : (c.apply d).rgb ≠ d.rgb) : SetsRgb body := by
  rw [decode] at hc
  cases hbri : find (bytes "bri") body with
  | some pos =>
      rw [hbri] at hc
      obtain ⟨_, -, hc⟩ := bind_ok_iff.mp hc
      obtain rfl := Except.ok.inj hc
      exact absurd rfl h
  | none =>
  rw [hbri] at hc
  refine ⟨hbri, ?_⟩
  by_contra hno
  rw [not_or, not_not, not_not] at hno
  rw [hno.1, hno.2] at hc
  obtain rfl := Except.ok.inj hc
  by_cases hf : find (bytes "false") body = none <;> simp [hf, Command.apply] at h

/-- What the handler makes of the addressed device: a function of the body and of the device. -/
def update (env : Env) (body : Bytes) (d : Device) : Device :=
  match decode env body with
  | .ok c => c.apply d
  | .error _ => d

lemma update_eq {body : Bytes} {c : Command} (hc : decode env body = .ok c) :
    update env body = c.apply := by
  funext d
  rw [update, hc]

/-- A function from bodies to updates that keeps names and `uniqueid`s, and writes the value and
the colour in their own branches only. -/
structure Updates (f : Bytes → Device → Device) : Prop where
  name : ∀ body d, (f body d).name = d.name
  uniqueid : ∀ body d, (f body d).uniqueid = d.uniqueid
  value : ∀ body d, (f body d).value ≠ d.value → SetsValue body
  rgb : ∀ body d, (f body d).rgb ≠ d.rgb → SetsRgb body

lemma updates_update (env : Env) : Updates (update env) := by
  have hcases : ∀ body, (∃ c, decode env body = .ok c ∧ update env body = c.apply) ∨
      update env body = id := by
    intro body
    cases hc : decode env body with
    | error e => exact Or.inr (funext fun d => by rw [update, hc]; rfl)
    | ok c => exact Or.inl ⟨c, rfl, update_eq hc⟩
  constructor
  · intro body d
    rcases hcases body with ⟨c, -, heq⟩ | heq <;> simp [heq]
  · intro body d
    rcases hcases body with ⟨c, -, heq⟩ | heq <;> simp [heq]
  · intro body d h
    rcases hcases body with ⟨c, hc, heq⟩ | heq
    · rw [heq] at h
      exact apply_value_of_decode hc h
    · rw [heq] at h
      exact absurd rfl h
  · intro body d h
    rcases hcases body with ⟨c, hc, heq⟩ | heq
    · rw [heq] at h
      exact apply_rgb_of_decode hc h
    · rw [heq] at h
      exact absurd rfl h

/-- The target of a request is the number behind `lights/` as an `unsigned char`, less one. -/
lemma exists_of_target {url body : Bytes} {id : UInt8} (h : target url body = .ok (some id)) :
    ∃ pos, find (bytes "lights") url = some pos ∧
      UInt8.ofInt (atoi (url.drop (pos + 7))) ≠ 0 ∧
      id = UInt8.ofInt (atoi (url.drop (pos + 7))) - 1 := by
  have hs := isStateRequest_of_target h
  cases hf : find (bytes "lights") url with
  | none =>
      rw [target, if_pos hs, hf] at h
      cases h
  | some pos =>
      by_cases hle : pos + 7 ≤ url.length
      · rw [target_of_le hs hf hle] at h
        by_cases hd : (256 : ℤ) ∣ atoi (url.drop (pos + 7))
        · rw [if_pos hd] at h
          cases h
        · rw [if_neg hd, Except.ok.injEq, Option.some.injEq] at h
          exact ⟨pos, rfl, mt ofInt_uint8_eq_zero_iff.mp hd, h.symm⟩
      · rw [target, if_pos hs, hf] at h
        simp [lightNumber_of_lt (not_le.mp hle)] at h

/-- **What a message may change**: there is one function from bodies to updates such that every
message that is handled to completion either is idle, and changes no device and calls nobody,
or changes at most the device at its light number, by that function of its body. -/
theorem onTCPData_frame (env : Env) :
    ∃ f, Updates f ∧ ∀ (fauxmo : Fauxmo) (message : Bytes) (o : Outcome),
      onTCPData env fauxmo message = .ok o →
        (fauxmo.enabled = false ∧ o.devices = fauxmo.devices ∧ o.events = []) ∨
        ∃ q, splitRequest message = .ok q ∧
          (q.Idle → o.devices = fauxmo.devices ∧ ∀ e ∈ o.events, e.isCall = false) ∧
          (¬ q.Idle →
            (o.devices = fauxmo.devices ∨
              ∃ pos, find (bytes "lights") q.url = some pos ∧
                UInt8.ofInt (atoi (q.url.drop (pos + 7))) ≠ 0 ∧
                o.devices = fauxmo.devices.modify
                  (UInt8.ofInt (atoi (q.url.drop (pos + 7))) - 1).toNat (f q.body))) := by
  refine ⟨update env, updates_update env, fun fauxmo message o h => ?_⟩
  rw [onTCPData] at h
  by_cases hoff : fauxmo.enabled = false
  · rw [if_pos hoff] at h
    obtain rfl := Except.ok.inj h
    exact Or.inl ⟨hoff, rfl, rfl⟩
  · rw [if_neg hoff] at h
    obtain ⟨q, hq, h⟩ := bind_ok_iff.mp h
    refine Or.inr ⟨q, hq, ?_⟩
    rcases onTCPRequest_ok_cases h with rfl | rfl | ⟨response, rfl⟩ |
      ⟨hget, hapi, id, d, c, ht, hd, hc, rfl⟩
    · exact ⟨fun _ => ⟨rfl, by simp⟩, fun _ => Or.inl rfl⟩
    · obtain ⟨response, hdesc⟩ := exists_onTCPDescription env fauxmo
      rw [hdesc]
      exact ⟨fun _ => ⟨rfl, by simp [sendTCPResponse, Event.isCall]⟩, fun _ => Or.inl rfl⟩
    · exact ⟨fun _ => ⟨rfl, by simp [sendTCPResponse, Event.isCall]⟩, fun _ => Or.inl rfl⟩
    · obtain ⟨hdt, hstate, hlen⟩ := isStateRequest_of_target ht
      obtain ⟨pos, hpos, hne, rfl⟩ := exists_of_target ht
      refine ⟨?_, fun _ => Or.inr ⟨pos, hpos, hne, by rw [update_eq hc]⟩⟩
      -- a request with a target is not idle
      rintro (hg | ha | hs | hl | hb | hv)
      · rw [hget] at hg
        cases hg
      · exact absurd hapi ha
      · exact absurd hs hstate
      · rw [hpos] at hl
        cases hl
      · rw [hb] at hlen
        cases hlen
      · exact absurd hdt hv

/-- A message that puts on the first of two lamps changes that one, by the function. -/
theorem onTCPData_frame_on : ∃ f, Updates f ∧ ∃ o,
    onTCPData homeEnv (mainBridge [lamp, lamp]) (bytes
      "PUT /api/u/lights/1/state HTTP/1.1\n\n\x7b\"on\":true\x7d") = .ok o ∧
    o.devices = [f (bytes "\x7b\"on\":true\x7d") lamp, lamp] ∧ o.devices ≠ [lamp, lamp] := by
  obtain ⟨f, hf, hframe⟩ := onTCPData_frame homeEnv
  obtain ⟨o, ho, hdevices⟩ : ∃ o, onTCPData homeEnv (mainBridge [lamp, lamp]) (bytes
      "PUT /api/u/lights/1/state HTTP/1.1\n\n\x7b\"on\":true\x7d") = .ok o ∧
      o.devices = [Command.on.apply lamp, lamp] := ⟨_, rfl, rfl⟩
  have hne : o.devices ≠ [lamp, lamp] := by
    rw [hdevices]
    decide
  refine ⟨f, hf, o, ho, ?_, hne⟩
  have hsplit : splitRequest (bytes
      "PUT /api/u/lights/1/state HTTP/1.1\n\n\x7b\"on\":true\x7d") =
        .ok ⟨bytes "PUT", bytes "/api/u/lights/1/state", bytes "\x7b\"on\":true\x7d"⟩ := rfl
  rcases hframe _ _ o ho with ⟨hoff, -⟩ | ⟨q, hq, hidle, hbusy⟩
  · cases hoff
  · obtain rfl := Except.ok.inj (hsplit.symm.trans hq)
    rcases hbusy fun hi => hne (hidle hi).1 with hsame | ⟨pos, hpos, -, hmod⟩
    · exact absurd hsame hne
    · obtain rfl : 7 = pos := Option.some.inj hpos
      exact hmod

end FauxmoLinux
