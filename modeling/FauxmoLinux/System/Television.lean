import FauxmoLinux.System.Wiring

/-!
The television at the other end of the infrared line.

* `tvPower`, `KeyedWhileOn`: the power after a list of frames, and that no digit is keyed into a
  television that is off;
* `TvInv`: the invariant of the wired system. The remote control has acted on the state of the
  television's device, and the value of the device is `0` or the one acted on last: this is why
  a command that leaves the value alone never keys a channel;
* `System.power_eq_state`: along every run the power of the television is the state of its
  device, and digits are keyed only while it is on;
* `System.plain_keys_nothing_iff`: a plain "on" or "off" keys no channel exactly when no "on"
  comes at the value `0` behind a value other than `255`.
-/

namespace FauxmoLinux

/-! ### Power and digits -/

/-- The power behind a frame. -/
def tvStep (on : Bool) (frame : Bytes) : Bool := if IsPower frame then !on else on

/-- The power of a television that was off, after a list of frames. -/
def tvPower (frames : List Bytes) : Bool := frames.foldl tvStep false

/-- Digits are keyed only while the power, `on` at first, is on. -/
def KeyedWhileOn : Bool → List Bytes → Prop
  | _, [] => True
  | on, frame :: frames => (IsDigit frame → on = true) ∧ KeyedWhileOn (tvStep on frame) frames

lemma keyedWhileOn_append {on : Bool} {fs gs : List Bytes} :
    KeyedWhileOn on (fs ++ gs) ↔ KeyedWhileOn on fs ∧ KeyedWhileOn (fs.foldl tvStep on) gs := by
  induction fs generalizing on with
  | nil => simp [KeyedWhileOn]
  | cons f fs ih => simp only [List.cons_append, KeyedWhileOn, ih, List.foldl_cons, and_assoc]

/-- Every digit comes behind frames that leave the power on. -/
lemma KeyedWhileOn.power_eq_true {on : Bool} {pre post : List Bytes} {frame : Bytes}
    (h : KeyedWhileOn on (pre ++ frame :: post)) (hd : IsDigit frame) :
    pre.foldl tvStep on = true :=
  (keyedWhileOn_append.mp h).2.1 hd

lemma foldl_tvStep_digits {fs : List Bytes} (h : ∀ f ∈ fs, IsDigit f) (on : Bool) :
    fs.foldl tvStep on = on := by
  induction fs generalizing on with
  | nil => rfl
  | cons f fs ih =>
      have hf : ¬ IsPower f := not_isPower_of_isDigit (h f (by simp))
      rw [List.foldl_cons, tvStep, if_neg hf, ih fun g hg => h g (by simp [hg])]

lemma keyedWhileOn_digits {fs : List Bytes} (h : ∀ f ∈ fs, IsDigit f) : KeyedWhileOn true fs := by
  induction fs with
  | nil => trivial
  | cons f fs ih =>
      have hf : ¬ IsPower f := not_isPower_of_isDigit (h f (by simp))
      refine ⟨fun _ => rfl, ?_⟩
      rw [tvStep, if_neg hf]
      exact ih fun g hg => h g (by simp [hg])

/-- The power frames of a change of state bring the power to the new state. -/
lemma foldl_tvStep_powerFrames (lastState state : Bool) :
    (powerFrames lastState state).foldl tvStep lastState = state := by
  cases lastState <;> cases state <;> rfl

lemma keyedWhileOn_powerFrames (on lastState state : Bool) :
    KeyedWhileOn on (powerFrames lastState state) := by
  have hnot : ¬ IsDigit powerFrame := fun h => not_isPower_of_isDigit h rfl
  rw [powerFrames]
  split
  · exact ⟨fun h => absurd h hnot, trivial⟩
  · trivial

/-! ### The invariant -/

/-- What holds of the device of the television and of the remote control behind every
request. -/
structure Agrees (lastState : Bool) (lastValue : UInt8) (d : Device) : Prop where
  state : d.state = lastState
  value : d.value = 0 ∨ d.value = lastValue

/-- A command selects a channel only when it switches the device on. -/
lemma state_eq_true_of_selects {lastState : Bool} {lastValue : UInt8} {d : Device}
    (h : Agrees lastState lastValue d) {c : Command} (hs : Selects lastValue (c.apply d).value) :
    (c.apply d).state = true := by
  have hold : ¬ Selects lastValue d.value := by
    rintro ⟨hpos, hne⟩
    rcases h.value with h0 | hl
    · rw [h0] at hpos
      exact absurd hpos (by decide)
    · exact hne hl
  cases c with
  | bri value => exact decide_eq_true hs.1
  | colour rgb => rfl
  | off => exact absurd hs hold
  | on => rfl

/-- The report of a device brings the remote control to agree with it. -/
lemma agrees_report (lastValue : UInt8) (d : Device) :
    Agrees d.state (if Selects lastValue d.value then d.value else lastValue) d := by
  refine ⟨rfl, ?_⟩
  by_cases hs : Selects lastValue d.value
  · rw [if_pos hs]
    exact Or.inr rfl
  · rw [if_neg hs]
    by_cases h0 : d.value = 0
    · exact Or.inl h0
    · refine Or.inr (by_contra fun hne => hs ⟨?_, hne⟩)
      exact UInt8.pos_iff_ne_zero.mpr h0

/-- The invariant of the wired system, with the frames sent so far. -/
structure TvInv (names : List CString) (s : System) (frames : List Bytes) : Prop where
  names_eq : s.devices.map Device.name = names
  remote : ∃ lastState lastValue, s.remote = .lg lastState lastValue ∧
    tvPower frames = lastState ∧
    ∀ d ∈ s.devices, d.name = fernseher → Agrees lastState lastValue d
  keyed : KeyedWhileOn false frames

/-- A command renames nothing. -/
lemma map_name_modify (devices : List Device) (i : ℕ) (c : Command) :
    (devices.modify i c.apply).map Device.name = devices.map Device.name :=
  map_modify c.apply_name devices i

/-- Two positions with a name that occurs once are the same. -/
lemma index_unique {names : List CString} (h : names.count fernseher = 1) {i j : ℕ}
    (hi : names[i]? = some fernseher) (hj : names[j]? = some fernseher) : i = j := by
  obtain ⟨hi', hgi⟩ := List.getElem?_eq_some_iff.mp hi
  obtain ⟨hj', hgj⟩ := List.getElem?_eq_some_iff.mp hj
  have hdup : ¬ List.Duplicate fernseher names := fun hd => by
    have htwo : 2 ≤ names.count fernseher := by convert List.duplicate_iff_two_le_count.mp hd
    omega
  rw [List.duplicate_iff_exists_distinct_get] at hdup
  by_contra hne
  rcases Nat.lt_or_gt_of_ne hne with hlt | hgt
  · exact hdup ⟨⟨i, hi'⟩, ⟨j, hj'⟩, hlt, hgi.symm, hgj.symm⟩
  · exact hdup ⟨⟨j, hj'⟩, ⟨i, hi'⟩, hgt, hgj.symm, hgi.symm⟩

variable {env : Env} {names : List CString}

/-- A command on the device of the television: its report brings the power to the new state,
and a channel is keyed only behind a power that is on. -/
lemma TvInv.report_fernseher {devices : List Device} {r : RemoteControl} {frames : List Bytes}
    {i : ℕ} {d : Device} {lastState : Bool} {lastValue : UInt8} {c : Command}
    (h : TvInv names ⟨devices, r⟩ frames) (hcount : names.count fernseher = 1)
    (hpow : tvPower frames = lastState) (hd : devices[i]? = some d)
    (hname : d.name = fernseher) (hag : Agrees lastState lastValue d) :
    TvInv names ⟨devices.modify i c.apply, (report lastState lastValue (c.apply d)).1⟩
      (frames ++ (report lastState lastValue (c.apply d)).2) := by
  have hname' : (c.apply d).name = fernseher := by rw [Command.apply_name, hname]
  have hget : (devices.modify i c.apply)[i]? = some (c.apply d) := by
    rw [List.getElem?_modify_eq, hd]
    rfl
  have hnames : (devices.modify i c.apply).map Device.name = names := by
    rw [map_name_modify, h.names_eq]
  have hafter : (powerFrames lastState (c.apply d).state).foldl tvStep (tvPower frames) =
      (c.apply d).state := by
    rw [hpow, foldl_tvStep_powerFrames]
  have hdigits : ∀ f ∈ (if Selects lastValue (c.apply d).value then
      channelFrames (c.apply d).value else []), IsDigit f := by
    split
    · exact fun f hf => isDigit_of_mem_channelFrames hf
    · simp
  rw [FauxmoLinux.report_fernseher hname']
  refine ⟨hnames, ⟨_, _, rfl, ?_, fun d' hd' hn' => ?_⟩, ?_⟩
  · rw [tvPower, List.foldl_append, List.foldl_append, ← tvPower, hafter,
      foldl_tvStep_digits hdigits]
  · -- the device of the television is the one the command was carried out on
    obtain ⟨j, hj⟩ := List.mem_iff_getElem?.mp hd'
    obtain rfl : i = j := index_unique hcount
      (by rw [← hnames, List.getElem?_map, hget, Option.map_some, hname'])
      (by rw [← hnames, List.getElem?_map, hj, Option.map_some, hn'])
    obtain rfl : c.apply d = d' := Option.some.inj (hget.symm.trans hj)
    exact agrees_report lastValue (c.apply d)
  · refine keyedWhileOn_append.mpr ⟨h.keyed, keyedWhileOn_append.mpr
      ⟨keyedWhileOn_powerFrames _ _ _, ?_⟩⟩
    rw [← tvPower, hafter]
    by_cases hs : Selects lastValue (c.apply d).value
    · rw [state_eq_true_of_selects hag hs]
      exact keyedWhileOn_digits hdigits
    · rw [if_neg hs]
      trivial

/-- **One request keeps the invariant.** -/
theorem TvInv.control {s s' : System} {frames fs : List Bytes} {q : ControlRequest}
    (h : TvInv names s frames) (hcount : names.count fernseher = 1)
    (hok : s.control env q = .ok (s', fs)) : TvInv names s' (frames ++ fs) := by
  obtain ⟨devices, r⟩ := s
  obtain ⟨lastState, lastValue, hr, hpow, hag⟩ := h.remote
  obtain rfl : r = .lg lastState lastValue := hr
  rcases System.control_ok_cases hok with ⟨rfl, rfl, -⟩ | ⟨id, d, c, -, hd, -, rfl, rfl⟩
  · rwa [List.append_nil]
  · have hmem : d ∈ devices := List.mem_of_getElem? hd
    by_cases hname : d.name = fernseher
    · exact h.report_fernseher hcount hpow hd hname (hag d hmem hname)
    · -- another device: the remote control is not called upon
      rw [report_of_ne (by rwa [Command.apply_name]), List.append_nil]
      refine ⟨by rw [map_name_modify, h.names_eq], ⟨_, _, rfl, hpow, fun d' hd' hn' => ?_⟩,
        h.keyed⟩
      obtain ⟨j, hj⟩ := List.mem_iff_getElem?.mp hd'
      by_cases hij : id.toNat = j
      · obtain rfl : c.apply d = d' := by simpa [← hij, hd] using hj
        exact absurd (by rwa [Command.apply_name] at hn') hname
      · rw [List.getElem?_modify_ne _ _ hij] at hj
        exact hag d' (List.mem_of_getElem? hj) hn'

/-! ### Runs -/

/-- The system behind `addDevice` calls on an empty store and the constructor of the remote
control. -/
def System.fresh (env : Env) (added : List (UniqueIdArray × CString)) : System :=
  ⟨addDevices env.iface added, .lg false 255⟩

/-- The invariant holds at the start: nothing has been acted on, and nothing is on. -/
lemma tvInv_fresh (env : Env) (added : List (UniqueIdArray × CString)) :
    TvInv (added.map Prod.snd) (System.fresh env added) [] := by
  obtain ⟨hnames, hfresh⟩ := addDevices_fresh env.iface added
  refine ⟨hnames, ⟨false, 255, rfl, rfl, fun d hd _ => ?_⟩, trivial⟩
  exact ⟨(hfresh d hd).1, Or.inl (hfresh d hd).2⟩

/-- **The television follows its device**: behind every run from the fresh system with one
`fernseher` the power is the stored state, and every digit was keyed while the power was on. -/
theorem System.power_eq_state (added : List (UniqueIdArray × CString))
    (hone : (added.map Prod.snd).count fernseher = 1) (qs : List ControlRequest) (s : System)
    (frames : List Bytes)
    (hrun : runs (System.control env) (System.fresh env added) qs = .ok (s, frames)) :
    (s.devices.filter fun d => d.name = fernseher).map Device.state = [tvPower frames] ∧
      ∀ pre frame post, frames = pre ++ frame :: post → IsDigit frame → tvPower pre = true := by
  have hinv : TvInv (added.map Prod.snd) s ([] ++ frames) :=
    runs_invariant (fun _ _ _ _ _ h hok => h.control hone hok) (tvInv_fresh env added) hrun
  rw [List.nil_append] at hinv
  refine ⟨?_, fun pre frame post heq hd => ?_⟩
  · obtain ⟨lastState, lastValue, -, hpow, hag⟩ := hinv.remote
    rw [← List.replicate_one, List.eq_replicate_iff]
    refine ⟨?_, fun b hb => ?_⟩
    · have hcount := hone
      rw [← hinv.names_eq, List.count, List.countP_map, List.countP_eq_length_filter] at hcount
      rw [List.length_map, ← hcount]
      refine congrArg List.length (List.filter_congr fun d _ => ?_)
      rw [Bool.eq_iff_iff, decide_eq_true_iff, Function.comp_apply, beq_iff_eq]
    · obtain ⟨d, hd, rfl⟩ := List.mem_map.mp hb
      obtain ⟨hmem, hname⟩ := List.mem_filter.mp hd
      rw [(hag d hmem (of_decide_eq_true hname)).state, hpow]
  · have hkeyed := hinv.keyed
    rw [heq] at hkeyed
    exact hkeyed.power_eq_true hd

/-- A lamp and a television, the lamp switched on and the television set to a brightness. -/
theorem System.power_eq_state_two :
    ∃ s frames, runs (System.control homeEnv)
        (System.fresh homeEnv [(zeroSlot, ⟨bytes "lampe", by decide⟩), (zeroSlot, fernseher)])
        [⟨bytes "/api/u/lights/1/state", bytes "\x7b\"on\":true\x7d"⟩,
          ⟨bytes "/api/u/lights/2/state", bytes "\x7b\"bri\":128\x7d"⟩] = .ok (s, frames) ∧
      (s.devices.filter fun d => d.name = fernseher).map Device.state = [tvPower frames] :=
  ⟨_, _, rfl, (@System.power_eq_state homeEnv
    [(zeroSlot, ⟨bytes "lampe", by decide⟩), (zeroSlot, fernseher)] (by decide)
    [⟨bytes "/api/u/lights/1/state", bytes "\x7b\"on\":true\x7d"⟩,
      ⟨bytes "/api/u/lights/2/state", bytes "\x7b\"bri\":128\x7d"⟩] _ _ rfl).1⟩

/-! ### Plain switching -/

/-- A body that only switches on. -/
def plainOn : Bytes := bytes "\x7b\"on\":true\x7d"

/-- A body that only switches off. -/
def plainOff : Bytes := bytes "\x7b\"on\":false\x7d"

/-- A request with a plain body keys no digit. -/
def PlainKeysNothing (_ : System) (q : ControlRequest) (_ : System) (frames : List Bytes) :
    Prop :=
  (q.body = plainOn ∨ q.body = plainOff) → ∀ f ∈ frames, ¬ IsDigit f

/-- A plain "on" that finds the television at the value `0`, which it will raise to `255`,
finds `255` as the value last acted on. -/
def RaisedToLast (s : System) (q : ControlRequest) (_ : System) (_ : List Bytes) : Prop :=
  q.body = plainOn → target q.url q.body = .ok (some 0) →
    ∀ d ∈ s.devices, d.value = 0 → s.remote.lastValue = 255

/-- Digits are keyed exactly when a channel is selected. -/
lemma report_no_digit_iff {lastState : Bool} {lastValue : UInt8} {d : Device}
    (h : d.name = fernseher) :
    (∀ f ∈ (report lastState lastValue d).2, ¬ IsDigit f) ↔ ¬ Selects lastValue d.value := by
  rw [report_fernseher h]
  constructor
  · intro hno hs
    obtain ⟨f, hf⟩ := List.exists_mem_of_ne_nil _ (channelFrames_ne_nil d.value)
    exact hno f (by simp [hs, hf]) (isDigit_of_mem_channelFrames hf)
  · intro hs f hf
    have hpow : f = powerFrame := by
      simp only [if_neg hs, List.append_nil, powerFrames] at hf
      split at hf
      · exact List.mem_singleton.mp hf
      · simp at hf
    exact fun hd => not_isPower_of_isDigit hd (isPower_iff.mpr hpow)

/-- A plain "on" selects a channel exactly when it raises a value other than the last one. -/
lemma selects_on_iff {lastState : Bool} {lastValue : UInt8} {d : Device}
    (h : Agrees lastState lastValue d) :
    Selects lastValue (Command.on.apply d).value ↔ d.value = 0 ∧ lastValue ≠ 255 := by
  by_cases h0 : d.value = 0
  · have hval : (Command.on.apply d).value = 255 := if_pos h0
    rw [hval, Selects]
    simp [h0, eq_comm]
  · have hval : (Command.on.apply d).value = d.value := if_neg h0
    rw [hval, Selects, h.value.resolve_left h0]
    simp [← h.value.resolve_left h0, h0]

/-- A plain "off" selects no channel. -/
lemma not_selects_off {lastState : Bool} {lastValue : UInt8} {d : Device}
    (h : Agrees lastState lastValue d) : ¬ Selects lastValue (Command.off.apply d).value := by
  rintro ⟨hpos, hne⟩
  have hval : (Command.off.apply d).value = d.value := rfl
  rw [hval] at hpos hne
  rcases h.value with h0 | hl
  · exact absurd hpos (by rw [h0]; decide)
  · exact hne hl

/-- One request to the only device: a plain body keys nothing exactly when it does not raise
the value to one other than the last. -/
lemma plain_step_iff {s s' : System} {frames fs : List Bytes} {q : ControlRequest}
    (h : TvInv [fernseher] s frames) (hok : s.control env q = .ok (s', fs)) :
    PlainKeysNothing s q s' fs ↔ RaisedToLast s q s' fs := by
  obtain ⟨devices, r⟩ := s
  obtain ⟨lastState, lastValue, hr, -, hag⟩ := h.remote
  obtain rfl : r = .lg lastState lastValue := hr
  rcases System.control_ok_cases hok with ⟨rfl, rfl, ht⟩ | ⟨id, d, c, ht, hd, hc, rfl, rfl⟩
  · exact ⟨fun _ _ ht' => absurd ht' (ht 0), fun _ _ f hf => by simp at hf⟩
  · obtain ⟨d₀, rfl, hname⟩ : ∃ d₀, devices = [d₀] ∧ d₀.name = fernseher := by
      have hnames : devices.map Device.name = [fernseher] := h.names_eq
      simpa [List.map_eq_singleton_iff] using hnames
    have hid : id.toNat = 0 := by
      have hlt := (List.getElem?_eq_some_iff.mp hd).1
      simpa using hlt
    obtain rfl : id = 0 := UInt8.toNat_inj.mp hid
    obtain rfl : d₀ = d := by simpa using hd
    have hag₀ := hag d₀ (by simp) hname
    have hname' : (c.apply d₀).name = fernseher := by rw [Command.apply_name, hname]
    rw [PlainKeysNothing, RaisedToLast, report_no_digit_iff hname']
    constructor
    · intro hno hb _ d' hd' h0
      obtain rfl : d' = d₀ := List.mem_singleton.mp hd'
      have hon : decode env plainOn = .ok .on := rfl
      rw [hb, hon, Except.ok.injEq] at hc
      have hns := hno (Or.inl hb)
      rw [← hc, selects_on_iff hag₀] at hns
      exact by_contra fun hne => hns ⟨h0, hne⟩
    · rintro hraise (hb | hb)
      · have hon : decode env plainOn = .ok .on := rfl
        rw [hb, hon, Except.ok.injEq] at hc
        rw [← hc, selects_on_iff hag₀]
        exact fun hsel => hsel.2 (hraise hb ht d₀ (by simp) hsel.1)
      · have hoff : decode env plainOff = .ok .off := rfl
        rw [hb, hoff, Except.ok.injEq] at hc
        rw [← hc]
        exact not_selects_off hag₀

/-- **Plain switching and channels**: on every run of the system with one `fernseher`, plain
bodies key no digit exactly when no plain "on" raises the value `0` to `255` behind another
value last acted on. -/
theorem System.plain_keys_nothing_iff (slot : UniqueIdArray) (qs : List ControlRequest) :
    EveryStep (System.control env) PlainKeysNothing (System.fresh env [(slot, fernseher)]) qs ↔
      EveryStep (System.control env) RaisedToLast (System.fresh env [(slot, fernseher)]) qs := by
  refine everyStep_congr (I := fun s => ∃ frames, TvInv [fernseher] s frames) ?_ ?_
    ⟨[], tvInv_fresh env [(slot, fernseher)]⟩
  · rintro s q s' fs ⟨frames, h⟩ hok -
    exact ⟨frames ++ fs, h.control (by decide) hok⟩
  · rintro s q s' fs ⟨frames, h⟩ hok
    exact plain_step_iff h hok

/-- Half brightness, brightness `0`, then a plain "on": the channel of brightness `255` is
keyed. -/
theorem System.plain_keys_channel :
    ¬ EveryStep (System.control homeEnv) PlainKeysNothing
      (System.fresh homeEnv [(zeroSlot, fernseher)])
      [⟨bytes "/api/u/lights/1/state", bytes "\x7b\"bri\":128\x7d"⟩,
        ⟨bytes "/api/u/lights/1/state", bytes "\x7b\"bri\":0\x7d"⟩,
        ⟨bytes "/api/u/lights/1/state", plainOn⟩] := by
  intro h
  have hlast := (((h _ _ rfl).2 _ _ rfl).2 _ _ rfl).1 (Or.inl rfl)
  revert hlast
  decide

end FauxmoLinux
