import FauxmoLinux.Bridge.Control

/-!
Where control requests go wrong: the light number, and the positions handed to `substr`.

* `target_eq_none_iff`: a state request has no target exactly when its URL has no `lights`, or
  has text behind `lights/` whose number is a multiple of `256`;
* `onTCPControl_unknownLight_iff`: a request for a light that is not in the store is rejected
  without a trace exactly then, so that the number `257` is taken for `1` and the number of a
  missing light is used as an index;
* `BodyInRange`, `onTCPControl_ne_outOfRange_iff`: the handler throws `std::out_of_range`
  exactly when a keyword stands too close to the end of the URL or of the body;
* `NonzeroCt`, `onTCPControl_ne_divByZero_iff`: it divides by zero, on some store, exactly when
  the request has a target and the colour temperature it reads is a multiple of `65536`.
-/

namespace FauxmoLinux

variable {env : Env}

/-! ### The light number -/

/-- The number written in a URL behind the `lights/` at `pos`, before any cut. -/
def writtenNumber (url : Bytes) (pos : ℕ) : ℤ := decimal (url.drop (pos + 7))

/-- The URL names no light of the store. -/
def UnknownLight (devices : List Device) (url : Bytes) : Prop :=
  ∀ pos, find (bytes "lights") url = some pos →
    ¬ (1 ≤ writtenNumber url pos ∧ writtenNumber url pos ≤ devices.length)

/-- The handler came to an end with the store as it was, without a callback, and returned
`false`. -/
def LeavesAlone (devices : List Device) (r : Except Fault Outcome) : Prop :=
  ∃ o, r = .ok o ∧ o.devices = devices ∧
    (∀ id name state value, Event.setState id name state value ∉ o.events) ∧ o.handled = false

/-- The number behind `lights/` is read, and is `0` as an `unsigned char`. -/
def NumberVanishes (url : Bytes) : Prop :=
  ∀ pos, find (bytes "lights") url = some pos →
    pos + 7 ≤ url.length ∧ (256 : ℤ) ∣ atoi (url.drop (pos + 7))

lemma lightNumber_of_le {url : Bytes} {pos : ℕ} (h : pos + 7 ≤ url.length) :
    lightNumber url pos = .ok (UInt8.ofInt (atoi (url.drop (pos + 7)))) := by
  rw [lightNumber, show ((pos : ℤ) + 7) = ((pos + 7 : ℕ) : ℤ) by push_cast; rfl,
    substr_none h]
  rfl

lemma lightNumber_of_lt {url : Bytes} {pos : ℕ} (h : url.length < pos + 7) :
    lightNumber url pos = .error .outOfRange := by
  rw [lightNumber, show ((pos : ℤ) + 7) = ((pos + 7 : ℕ) : ℤ) by push_cast; rfl,
    (substr_eq_error_iff _ _ _).mpr h]
  rfl

/-- The target of a state request whose URL has text behind its first `lights/`. -/
lemma target_of_le {url body : Bytes} {pos : ℕ} (hs : IsStateRequest url body)
    (hf : find (bytes "lights") url = some pos) (h : pos + 7 ≤ url.length) :
    target url body = .ok (if (256 : ℤ) ∣ atoi (url.drop (pos + 7)) then none
      else some (UInt8.ofInt (atoi (url.drop (pos + 7))) - 1)) := by
  rw [target, if_pos hs, hf]
  simp only [lightNumber_of_le h, ok_bind]
  by_cases hd : (256 : ℤ) ∣ atoi (url.drop (pos + 7))
  · rw [if_pos hd, if_neg fun hpos => ofInt_uint8_pos_iff.mp hpos hd]
    rfl
  · rw [if_neg hd, if_pos (ofInt_uint8_pos_iff.mpr hd)]
    rfl

lemma target_eq_none_iff {url body : Bytes} (hs : IsStateRequest url body) :
    target url body = .ok none ↔ NumberVanishes url := by
  cases hf : find (bytes "lights") url with
  | none =>
      rw [target, if_pos hs, hf]
      simp [NumberVanishes, hf]
  | some pos =>
      have hiff : NumberVanishes url ↔
          pos + 7 ≤ url.length ∧ (256 : ℤ) ∣ atoi (url.drop (pos + 7)) := by
        simp [NumberVanishes, hf]
      rw [hiff]
      by_cases h : pos + 7 ≤ url.length
      · rw [target_of_le hs hf h]
        simp [h]
      · rw [target, if_pos hs, hf]
        simp [lightNumber_of_lt (not_le.mp h), h]

/-- **Requests for unknown lights**: such a request leaves the store alone, calls nobody and is
refused exactly when its number vanishes in an `unsigned char`. There is no comparison with the
number of devices. -/
theorem onTCPControl_unknownLight_iff (callback : Bool) (devices : List Device)
    (url body : Bytes) :
    (IsStateRequest url body → UnknownLight devices url →
        LeavesAlone devices (onTCPControl env callback devices url body)) ↔
      (IsStateRequest url body → UnknownLight devices url → NumberVanishes url) := by
  refine imp_congr_right fun hs => imp_congr_right fun _ => ?_
  rw [← target_eq_none_iff hs]
  constructor
  · rintro ⟨o, ho, -, -, hh⟩
    rcases onTCPControl_ok_cases ho with ⟨hdt, -⟩ | ⟨-, ht, -⟩ | ⟨id, d, c, -, -, -, rfl⟩
    · exact absurd hs.1 hdt
    · exact ht
    · cases hh
  · intro ht
    refine ⟨⟨devices, [], false⟩, ?_, rfl, by simp, rfl⟩
    rw [onTCPControl_eq_target hs.1, ht]
    rfl

/-- One device, light number `2`: the handler indexes behind the store. -/
theorem onTCPControl_unknownLight_two :
    IsStateRequest (bytes "/api/u/lights/2/state") (bytes "\x7b\"on\":true\x7d") ∧
      UnknownLight (addDevices homeEnv.iface [(zeroSlot, fernseher)])
        (bytes "/api/u/lights/2/state") ∧
      ¬ LeavesAlone (addDevices homeEnv.iface [(zeroSlot, fernseher)])
        (onTCPControl homeEnv true (addDevices homeEnv.iface [(zeroSlot, fernseher)])
          (bytes "/api/u/lights/2/state") (bytes "\x7b\"on\":true\x7d")) := by
  refine ⟨by decide, fun pos hpos => ?_, ?_⟩
  · have hfind : find (bytes "lights") (bytes "/api/u/lights/2/state") = some 7 := rfl
    obtain rfl : 7 = pos := Option.some.inj (hfind.symm.trans hpos)
    decide
  · rintro ⟨o, ho, -⟩
    have hbad : onTCPControl homeEnv true (addDevices homeEnv.iface [(zeroSlot, fernseher)])
        (bytes "/api/u/lights/2/state") (bytes "\x7b\"on\":true\x7d") = .error .badIndex := rfl
    rw [hbad] at ho
    cases ho

/-! ### Positions handed to `substr` -/

/-- The store contains the light a URL addresses. -/
def ContainsLight (devices : List Device) (url : Bytes) : Prop :=
  ∀ pos, find (bytes "lights") url = some pos → pos + 7 ≤ url.length →
    (atoi (url.drop (pos + 7)) % 256).toNat ≤ devices.length

/-- The keywords of a body stand far enough from its end: the value of `bri`, `hue` or `sat`
is looked for five bytes behind the keyword, that of `ct` four bytes behind. -/
def BodyInRange (body : Bytes) : Prop :=
  match find (bytes "bri") body with
  | some pos => pos + 5 ≤ body.length
  | none =>
  match find (bytes "hue") body with
  | some pos => pos + 5 ≤ body.length ∧
      ∀ sat, findFrom (bytes "sat") body (findFrom (bytes ",") body (some pos)) = some sat →
        sat + 5 ≤ body.length
  | none =>
  match find (bytes "ct") body with
  | some pos => pos + 4 ≤ body.length
  | none => True

/-- `lights` is not at the end of the URL, and where a light is addressed the keywords are not
at the end of the body. -/
def RequestInRange (url body : Bytes) : Prop :=
  ∀ pos, find (bytes "lights") url = some pos → pos + 7 ≤ url.length ∧
    (¬ (256 : ℤ) ∣ atoi (url.drop (pos + 7)) → BodyInRange body)

/-- A computation behind a successful part does not change which fault the part can give. -/
lemma substr_bind_ne_outOfRange {α : Type} (s : Bytes) (n : ℕ) (count : Option ℕ)
    {f : Bytes → Except Fault α} (hf : ∀ t, f t ≠ .error .outOfRange) :
    (substr s n count >>= f) ≠ .error .outOfRange ↔ n ≤ s.length := by
  rw [ne_eq, bind_error_iff, substr_eq_error_iff]
  constructor
  · intro h
    by_contra hlt
    exact h (Or.inl (not_le.mp hlt))
  · rintro hle (hlt | ⟨t, -, ht⟩)
    · omega
    · exact hf t ht

/-- The position behind `sat`: in a body that reaches past the value of `hue`, a missing `sat`
sends the handler to index `4`, which is inside. -/
lemma satPos_ne_outOfRange_iff {body : Bytes} {sat : Option ℕ} (h : 5 ≤ body.length)
    {f : Bytes → Except Fault Command} (hf : ∀ t, f t ≠ .error .outOfRange) :
    (substr body (toInt sat + 5) none >>= f) ≠ .error .outOfRange ↔
      ∀ q, sat = some q → q + 5 ≤ body.length := by
  cases sat with
  | none =>
      have hin := (substr_bind_ne_outOfRange body 4 none hf).mpr (by omega)
      simpa using hin
  | some q =>
      have hq := substr_bind_ne_outOfRange body (q + 5) none hf
      simpa using hq

/-- Reading a command out of a body throws exactly when a keyword is too close to its end. -/
lemma decode_ne_outOfRange_iff (body : Bytes) :
    decode env body ≠ .error .outOfRange ↔ BodyInRange body := by
  rw [decode, BodyInRange]
  cases find (bytes "bri") body with
  | some pos =>
      exact substr_bind_ne_outOfRange body (pos + 5) none (by simp [pure, Except.pure])
  | none =>
  cases find (bytes "hue") body with
  | some pos =>
      by_cases h : pos + 5 ≤ body.length
      · have hok : ∃ s, substr body ((pos : ℤ) + 5) (findFrom (bytes ",") body (some pos)) =
            .ok s := by
          cases hs : substr body ((pos : ℤ) + 5) (findFrom (bytes ",") body (some pos)) with
          | ok s => exact ⟨s, rfl⟩
          | error e =>
              have he := substr_error hs
              subst he
              have hlt := (substr_eq_error_iff body (pos + 5) _).mp hs
              omega
        obtain ⟨s, hs⟩ := hok
        simp only [hs, ok_bind, h, true_and]
        exact satPos_ne_outOfRange_iff (by omega) (by simp [pure, Except.pure])
      · have hs := (substr_eq_error_iff body (pos + 5)
          (findFrom (bytes ",") body (some pos))).mpr (by omega)
        push_cast at hs
        simp [hs, h]
  | none =>
  cases find (bytes "ct") body with
  | some pos =>
      refine substr_bind_ne_outOfRange body (pos + 4) none fun t => ?_
      by_cases h0 : UInt16.ofInt (atoi t) = 0 <;> simp [ct2rgb, h0, pure, Except.pure]
  | none => simp

/-- Other requests are answered or rejected without a `substr`. -/
lemma exists_onTCPControl_of_not {callback : Bool} {devices : List Device} {url body : Bytes}
    (hs : ¬ IsStateRequest url body) :
    ∃ o, onTCPControl env callback devices url body = .ok o := by
  rw [onTCPControl]
  by_cases hdt : find (bytes "devicetype") body ≠ none
  · exact ⟨_, if_pos hdt⟩
  · rw [if_neg hdt, if_neg fun h => hs ⟨not_not.mp hdt, h⟩]
    exact ⟨_, rfl⟩

/-- A number that is in the store as an `unsigned char` leads to a device of the store. -/
lemma light_lt_length {devices : List Device} {x : ℤ} (hd : ¬ (256 : ℤ) ∣ x)
    (hle : (x % 256).toNat ≤ devices.length) :
    (UInt8.ofInt x - 1).toNat < devices.length := by
  have hne : UInt8.ofInt x ≠ 0 := mt ofInt_uint8_eq_zero_iff.mp hd
  rw [toNat_sub_one_uint8 hne, toNat_ofInt_uint8]
  omega

/-- **`std::out_of_range`**: with the addressed light in the store, the handler throws it
exactly when `lights` ends the URL or a keyword stands at the end of the body. No position is
compared with a length, unlike in `_onTCPList`. -/
theorem onTCPControl_ne_outOfRange_iff (callback : Bool) (devices : List Device)
    (url body : Bytes) :
    (ContainsLight devices url →
        onTCPControl env callback devices url body ≠ .error .outOfRange) ↔
      (ContainsLight devices url → IsStateRequest url body → RequestInRange url body) := by
  refine imp_congr_right fun hin => ?_
  by_cases hs : IsStateRequest url body
  swap
  · obtain ⟨o, ho⟩ : ∃ o, onTCPControl env callback devices url body = .ok o :=
      exists_onTCPControl_of_not hs
    simp [ho, hs]
  rw [onTCPControl_eq_target hs.1]
  simp only [hs, true_implies]
  cases hf : find (bytes "lights") url with
  | none => simp [target, hs, hf, RequestInRange, pure, Except.pure]
  | some pos =>
      have hreq : RequestInRange url body ↔ pos + 7 ≤ url.length ∧
          (¬ (256 : ℤ) ∣ atoi (url.drop (pos + 7)) → BodyInRange body) := by
        simp [RequestInRange, hf]
      rw [hreq]
      by_cases h : pos + 7 ≤ url.length
      swap
      · simp [target, hs, hf, lightNumber_of_lt (not_le.mp h), h]
      have ht := target_of_le hs hf h
      by_cases hd : (256 : ℤ) ∣ atoi (url.drop (pos + 7))
      · rw [if_pos hd] at ht
        simp [ht, h, hd, pure, Except.pure]
      rw [if_neg hd] at ht
      simp only [h, hd, not_false_iff, true_and, true_implies]
      -- the addressed light is in the store, so what can fail is the reading of the body
      have hlt := light_lt_length hd (hin pos hf h)
      rw [← onTCPControl_eq_target hs.1,
        onTCPControl_of_target ht (List.getElem?_eq_getElem hlt), ← decode_ne_outOfRange_iff]
      cases decode env body <;> simp [Except.map]

/-- The body `bri` alone: its value is looked for behind the end. -/
theorem onTCPControl_outOfRange_bri :
    ContainsLight (addDevices homeEnv.iface [(zeroSlot, fernseher)])
        (bytes "/api/u/lights/1/state") ∧
      onTCPControl homeEnv true (addDevices homeEnv.iface [(zeroSlot, fernseher)])
        (bytes "/api/u/lights/1/state") (bytes "bri") = .error .outOfRange := by
  refine ⟨fun pos hpos _ => ?_, rfl⟩
  have hfind : find (bytes "lights") (bytes "/api/u/lights/1/state") = some 7 := rfl
  obtain rfl : 7 = pos := Option.some.inj (hfind.symm.trans hpos)
  decide

/-! ### The colour temperature -/

/-- The request addresses a light of the store. -/
def AddressesLight (devices : List Device) (url body : Bytes) : Prop :=
  ∃ id d, target url body = .ok (some id) ∧ devices[id.toNat]? = some d

/-- A body that takes the colour-temperature branch has a number behind its first `ct` that is
not `0` in 16 bits. -/
def NonzeroCt (body : Bytes) : Prop :=
  find (bytes "bri") body = none → find (bytes "hue") body = none →
    ∀ pos, find (bytes "ct") body = some pos → pos + 4 ≤ body.length →
      ¬ (65536 : ℤ) ∣ atoi (body.drop (pos + 4))

/-- Behind a `substr` only what follows it can divide by zero. -/
lemma substr_bind_ne_divByZero {α : Type} (s : Bytes) (pos : ℤ) (count : Option ℕ)
    {f : Bytes → Except Fault α} (hf : ∀ t, f t ≠ .error .divByZero) :
    (substr s pos count >>= f) ≠ .error .divByZero := by
  rw [ne_eq, bind_error_iff]
  rintro (hs | ⟨t, -, ht⟩)
  · cases substr_error hs
  · exact hf t ht

/-- Reading the light number divides nothing. -/
lemma target_ne_divByZero (url body : Bytes) : target url body ≠ .error .divByZero := by
  rw [target]
  by_cases hs : IsStateRequest url body
  swap
  · rw [if_neg hs]
    exact fun hok => by cases hok
  rw [if_pos hs]
  cases find (bytes "lights") url with
  | none => exact fun hok => by cases hok
  | some pos =>
      simp only [lightNumber, bind_assoc]
      refine substr_bind_ne_divByZero _ _ _ fun t => ?_
      exact fun hok => by cases hok

lemma decode_ne_divByZero_iff (body : Bytes) :
    decode env body ≠ .error .divByZero ↔ NonzeroCt body := by
  rw [decode, NonzeroCt]
  cases find (bytes "bri") body with
  | some pos =>
      have hok := substr_bind_ne_divByZero body ((pos : ℤ) + 5) none
        (f := fun t => .ok (Command.bri (UInt8.ofInt (atoi t)))) (by simp)
      simpa [pure, Except.pure] using hok
  | none =>
  cases find (bytes "hue") body with
  | some pos =>
      simp only [reduceCtorEq, false_implies, implies_true, iff_true]
      refine substr_bind_ne_divByZero _ _ _ fun s => ?_
      exact substr_bind_ne_divByZero _ _ _ (by simp [pure, Except.pure])
  | none =>
  cases find (bytes "ct") body with
  | some pos =>
      by_cases h : pos + 4 ≤ body.length
      · have hs : substr body ((pos : ℤ) + 4) none = .ok (body.drop (pos + 4)) := substr_none h
        have hct : UInt16.ofInt (atoi (body.drop (pos + 4))) = 0 ↔
            (65536 : ℤ) ∣ atoi (body.drop (pos + 4)) := ofInt_uint16_eq_zero_iff
        by_cases h0 : (65536 : ℤ) ∣ atoi (body.drop (pos + 4))
        · simp [hs, ct2rgb, hct.mpr h0, h0, h]
        · simp [hs, ct2rgb, mt hct.mp h0, h0, pure, Except.pure]
      · have hs := (substr_eq_error_iff body (pos + 4) none).mpr (by omega)
        push_cast at hs
        simp [hs, h]
  | none => simp

/-- With the addressed light in the store, `_ct2rgb` divides by zero exactly when the body takes
its branch and the number behind `ct` vanishes in 16 bits. -/
lemma AddressesLight.ne_divByZero_iff {callback : Bool} {devices : List Device} {url body : Bytes}
    (h : AddressesLight devices url body) :
    onTCPControl env callback devices url body ≠ .error .divByZero ↔ NonzeroCt body := by
  obtain ⟨id, d, ht, hd⟩ := h
  rw [onTCPControl_of_target ht hd, ← decode_ne_divByZero_iff]
  cases decode env body <;> simp [Except.map]

/-- Where no light of the store is addressed, the handler fails in front of the division or does
not come to the branches. -/
lemma ne_divByZero_of_not_addressesLight {callback : Bool} {devices : List Device}
    {url body : Bytes} (h : ¬ AddressesLight devices url body) :
    onTCPControl env callback devices url body ≠ .error .divByZero := by
  by_cases hdt : find (bytes "devicetype") body = none
  swap
  · rw [onTCPControl, if_pos hdt]
    exact fun hok => by cases hok
  rw [onTCPControl_eq_target hdt, ne_eq, bind_error_iff]
  rintro (ht | ⟨_ | id, ht, hrun⟩)
  · exact target_ne_divByZero url body ht
  · cases hrun
  · have hle : devices.length ≤ id.toNat := by
      by_contra hlt
      exact h ⟨id, _, ht, List.getElem?_eq_getElem (not_le.mp hlt)⟩
    rcases applyBody_of_le env body hle with he | he <;> simp [he] at hrun

/-- **The integer division**: `_ct2rgb` never divides by zero, whatever the store, exactly when
the request has no target, or its body does not take the branch, or the number behind `ct` does
not vanish in 16 bits. -/
theorem onTCPControl_ne_divByZero_iff (callback : Bool) (url body : Bytes) :
    (∀ devices, onTCPControl env callback devices url body ≠ .error .divByZero) ↔
      ((∃ id, target url body = .ok (some id)) → NonzeroCt body) := by
  constructor
  · rintro h ⟨id, ht⟩
    -- a store that has every light there is a number for
    have hlt : id.toNat <
        (addDevices env.iface (List.replicate 256 (zeroSlot, fernseher))).length := by
      rw [length_addDevices, List.length_replicate]
      exact id.toNat_lt
    have hin : AddressesLight (addDevices env.iface (List.replicate 256 (zeroSlot, fernseher)))
        url body := ⟨id, _, ht, List.getElem?_eq_getElem hlt⟩
    exact hin.ne_divByZero_iff.mp (h _)
  · intro h devices
    by_cases hin : AddressesLight devices url body
    · have htarget : ∃ id, target url body = .ok (some id) := by
        obtain ⟨id, d, ht, -⟩ := hin
        exact ⟨id, ht⟩
      exact hin.ne_divByZero_iff.mpr (h htarget)
    · exact ne_divByZero_of_not_addressesLight hin

/-- A colour temperature of `0`. -/
theorem onTCPControl_divByZero_ct :
    AddressesLight (addDevices homeEnv.iface [(zeroSlot, fernseher)])
        (bytes "/api/u/lights/1/state") (bytes "\x7b\"ct\":0\x7d") ∧
      onTCPControl homeEnv true (addDevices homeEnv.iface [(zeroSlot, fernseher)])
        (bytes "/api/u/lights/1/state") (bytes "\x7b\"ct\":0\x7d") = .error .divByZero :=
  ⟨⟨0, _, rfl, rfl⟩, rfl⟩

end FauxmoLinux
