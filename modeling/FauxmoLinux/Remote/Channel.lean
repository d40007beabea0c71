import FauxmoLinux.Remote.Action

/-!
The channel behind a sequence of calls.

* `Action`, `perform`: a call of `actionPerformed` for any device, its frames being kept
  together as one output;
* `toDec_getDigits`: the recursive digit splitter writes a number in decimal;
* `Spells`, `lastGroup`, `latestValue`: the frames that key a number, the channel frames of the
  latest call that sent some, and the latest value other than `0` for the television;
* `Tuned`: the history invariant, that the value acted on last is the latest one and that its
  channel was keyed last, unless no value other than `0` and `255` has come;
* `lastGroup_spells_channel`: so it is behind every sequence of calls with such a value.
-/

namespace FauxmoLinux

/-- A call of `actionPerformed`. -/
structure Action where
  deviceId : UInt8
  deviceName : CString
  state : Bool
  value : UInt8
  deriving DecidableEq

/-- A call as a step whose only output is the list of its frames. -/
def perform (r : RemoteControl) (a : Action) :
    Except Fault (RemoteControl × List (List Bytes)) := do
  let (r, frames) ← actionPerformed r a.deviceId a.deviceName a.state a.value
  return (r, [frames])

/-! ### Decimal digits -/

/-- A numeral is that of a tenth of the number with the last digit behind it. -/
lemma toDec_eq (n : ℕ) : toDec n =
    (if n > 9 then toDec (n / 10) else []) ++ [digitChar 97 (n % 10)] := by
  by_cases h0 : n = 0
  · subst h0
    decide
  · have hdigits : Nat.digits 10 n = n % 10 :: Nat.digits 10 (n / 10) :=
      Nat.digits_def' (by norm_num) (by omega)
    rw [toDec, toBase, if_neg h0, hdigits, List.map_cons, List.reverse_cons]
    by_cases h9 : n > 9
    · rw [if_pos h9, toDec, toBase, if_neg (by omega)]
    · rw [if_neg h9, show n / 10 = 0 by omega, Nat.digits_zero]
      rfl

/-- `get_digits` splits a number into the digits of its numeral. -/
lemma toDec_getDigits (num : UInt8) :
    toDec num.toNat = (getDigits num).map fun digit => digitChar 97 digit.toNat := by
  induction hn : num.toNat using Nat.strong_induction_on generalizing num with
  | _ n ih =>
      subst hn
      have hgt : num > 9 ↔ num.toNat > 9 := by
        rw [gt_iff_lt, UInt8.lt_iff_toNat_lt]
        rfl
      have hdiv : (num / 10).toNat = num.toNat / 10 := by
        rw [UInt8.toNat_div]
        rfl
      have hmod : (num % 10).toNat = num.toNat % 10 := by
        rw [UInt8.toNat_mod]
        rfl
      rw [toDec_eq, getDigits_eq, List.map_append, List.map_singleton, hmod]
      by_cases h9 : num > 9
      · rw [if_pos h9, if_pos (hgt.mp h9), ← hdiv,
          ih (num / 10).toNat (by have := hgt.mp h9; omega) (num / 10) rfl]
      · rw [if_neg h9, if_neg (mt hgt.mpr h9)]
        rfl

/-! ### What was keyed -/

/-- The frames are those of the digits of the number in decimal, without leading zeros. -/
def Spells (frames : List Bytes) (number : ℕ) : Prop :=
  frames.map some = (toDec number).map fun c => lgTable.lookup (bytes "ch" ++ [c])

instance (frames : List Bytes) (number : ℕ) : Decidable (Spells frames number) :=
  inferInstanceAs (Decidable (_ = _))

/-- The channel frames of the latest call that sent some. -/
def lastGroup (sent : List (List Bytes)) : Option (List Bytes) :=
  ((sent.map fun frames => frames.filter fun f => IsDigit f).filter (· ≠ [])).getLast?

/-- The call is for the television and its value is not `0`. -/
def Action.Requests (a : Action) : Prop := a.deviceName = fernseher ∧ a.value ≠ 0

instance (a : Action) : Decidable a.Requests := inferInstanceAs (Decidable (_ ∧ _))

/-- The value of the latest call for the television whose value is not `0`. -/
def latestValue (actions : List Action) : Option UInt8 :=
  ((actions.filter fun a => a.Requests).getLast?).map Action.value

lemma channelFrames_spells (value : UInt8) :
    Spells (channelFrames value) (channelOf value).toNat := by
  have hkey : ∀ n < 10, lgTable.lookup (bytes "ch" ++ [digitChar 97 n]) =
      some (digitFrame (UInt8.ofNat n)) := by
    decide
  rw [Spells, toDec_getDigits, channelFrames, List.map_map, List.map_map]
  refine List.map_congr_left fun digit hd => ?_
  have hlt : digit.toNat < 10 := UInt8.lt_iff_toNat_lt.mp (getDigits_lt hd)
  rw [Function.comp_apply, Function.comp_apply, hkey digit.toNat hlt, UInt8.ofNat_toNat]

/-- A call that keys no channel does not change which one was keyed last. -/
lemma lastGroup_append_of_no_digit {sent : List (List Bytes)} {frames : List Bytes}
    (h : ∀ f ∈ frames, ¬ IsDigit f) : lastGroup (sent ++ [frames]) = lastGroup sent := by
  have hnil : (frames.filter fun f => IsDigit f) = [] :=
    List.filter_eq_nil_iff.mpr fun f hf => by simpa using h f hf
  simp [lastGroup, hnil]

/-- Digits behind a power frame are the group keyed last. -/
lemma lastGroup_append_channel (sent : List (List Bytes)) (lastState state : Bool)
    (value : UInt8) : lastGroup (sent ++ [powerFrames lastState state ++ channelFrames value]) =
      some (channelFrames value) := by
  have hpower : (powerFrames lastState state).filter (fun f => IsDigit f) = [] := by
    cases lastState <;> cases state <;> decide
  have hdigits : (channelFrames value).filter (fun f => IsDigit f) = channelFrames value :=
    List.filter_eq_self.mpr fun f hf => decide_eq_true (isDigit_of_mem_channelFrames hf)
  simp [lastGroup, hpower, hdigits, channelFrames_ne_nil]

/-- Calls that ask for no channel do not change which value came last. -/
lemma latestValue_append_of_not {actions : List Action} {a : Action} (h : ¬ a.Requests) :
    latestValue (actions ++ [a]) = latestValue actions := by
  simp [latestValue, h]

lemma latestValue_append_of_requests (actions : List Action) {a : Action} (h : a.Requests) :
    latestValue (actions ++ [a]) = some a.value := by
  simp [latestValue, h]

/-- Behind a call that asks for a channel there is a latest value. -/
lemma exists_latestValue {actions : List Action} {a : Action} (ha : a ∈ actions)
    (h : a.Requests) : ∃ value, latestValue actions = some value := by
  have hne : actions.filter (fun a => a.Requests) ≠ [] :=
    List.ne_nil_of_mem (List.mem_filter.mpr ⟨ha, decide_eq_true h⟩)
  exact ⟨_, by rw [latestValue, List.getLast?_eq_some_getLast hne]; rfl⟩

/-! ### The invariant -/

/-- What holds behind every sequence of calls: the value acted on last is the latest one, and
its channel was keyed last. The constructor pretends that `255` was acted on, so as long as no
other value comes no channel is keyed at all. -/
def Tuned (actions : List Action) (r : RemoteControl) (sent : List (List Bytes)) : Prop :=
  ∃ lastState lastValue, r = .lg lastState lastValue ∧
    lastValue = (latestValue actions).getD 255 ∧
    (lastGroup sent = some (channelFrames lastValue) ∨
      lastGroup sent = none ∧ ∀ a ∈ actions, a.Requests → a.value = 255)

lemma tuned_new : Tuned [] (.lg false 255) [] :=
  ⟨false, 255, rfl, rfl, Or.inr ⟨rfl, by simp⟩⟩

/-- A call that asks for no channel or for the one acted on last. -/
lemma Tuned.append_of_no_digit {actions : List Action} {lastState state : Bool}
    {lastValue : UInt8} {sent : List (List Bytes)} {a : Action} {frames : List Bytes}
    (h : Tuned actions (.lg lastState lastValue) sent)
    (hvalue : a.Requests → a.value = lastValue) (hframes : ∀ f ∈ frames, ¬ IsDigit f) :
    Tuned (actions ++ [a]) (.lg state lastValue) (sent ++ [frames]) := by
  obtain ⟨_, _, hr, hlast, hgroup⟩ := h
  cases hr
  have hlatest : lastValue = (latestValue (actions ++ [a])).getD 255 := by
    by_cases ha : a.Requests
    · rw [latestValue_append_of_requests actions ha, hvalue ha]
      rfl
    · rw [latestValue_append_of_not ha, hlast]
  refine ⟨state, lastValue, rfl, hlatest, ?_⟩
  rw [lastGroup_append_of_no_digit hframes]
  rcases hgroup with hgroup | ⟨hnone, hall⟩
  · exact Or.inl hgroup
  · refine Or.inr ⟨hnone, fun b hb hreq => ?_⟩
    rcases List.mem_append.mp hb with hb | hb
    · exact hall b hb hreq
    · -- the call repeats the value acted on last, which is still `255`
      obtain rfl := List.mem_singleton.mp hb
      rw [hvalue hreq, hlast]
      cases hl : latestValue actions with
      | none => rfl
      | some value =>
          obtain ⟨c, hc, rfl⟩ : ∃ c ∈ actions.filter (fun a => a.Requests), c.value = value := by
            obtain ⟨c, hc, hv⟩ := Option.map_eq_some_iff.mp hl
            exact ⟨c, List.mem_of_getLast? hc, hv⟩
          obtain ⟨hmem, hreq'⟩ := List.mem_filter.mp hc
          exact hall c hmem (of_decide_eq_true hreq')

/-- **One call keeps the invariant.** -/
lemma Tuned.perform {actions : List Action} {r r' : RemoteControl} {sent o : List (List Bytes)}
    {a : Action} (h : Tuned actions r sent) (hok : perform r a = .ok (r', o)) :
    Tuned (actions ++ [a]) r' (sent ++ o) := by
  obtain ⟨lastState, lastValue, rfl, -, -⟩ := id h
  by_cases hname : a.deviceName = fernseher
  · rw [FauxmoLinux.perform, hname, actionPerformed_fernseher] at hok
    cases hok
    have hpower : ∀ f ∈ powerFrames lastState a.state, ¬ IsDigit f := by
      cases lastState <;> cases a.state <;> decide
    by_cases hs : Selects lastValue a.value
    · rw [if_pos hs, if_pos hs]
      have hreq : a.Requests := ⟨hname, UInt8.pos_iff_ne_zero.mp hs.1⟩
      refine ⟨a.state, a.value, rfl, ?_, Or.inl (lastGroup_append_channel _ _ _ _)⟩
      rw [latestValue_append_of_requests actions hreq]
      rfl
    · rw [if_neg hs, if_neg hs, List.append_nil]
      refine h.append_of_no_digit (fun hreq => by_contra fun hne => hs ⟨?_, hne⟩) hpower
      exact UInt8.pos_iff_ne_zero.mpr hreq.2
  · rw [FauxmoLinux.perform, actionPerformed_of_ne hname] at hok
    cases hok
    exact h.append_of_no_digit (fun hreq => absurd hreq.1 hname) (by simp)

/-- Every call completes. -/
lemma exists_perform (lastState : Bool) (lastValue : UInt8) (a : Action) :
    ∃ lastState' lastValue' o, perform (.lg lastState lastValue) a =
      .ok (.lg lastState' lastValue', o) := by
  by_cases hname : a.deviceName = fernseher
  · rw [perform, hname, actionPerformed_fernseher]
    exact ⟨_, _, _, rfl⟩
  · rw [perform, actionPerformed_of_ne hname]
    exact ⟨_, _, _, rfl⟩

lemma exists_runs_perform (lastState : Bool) (lastValue : UInt8) (actions : List Action) :
    ∃ r sent, runs perform (.lg lastState lastValue) actions = .ok (r, sent) := by
  induction actions generalizing lastState lastValue with
  | nil => exact ⟨_, _, rfl⟩
  | cons a actions ih =>
      obtain ⟨lastState', lastValue', o, ha⟩ := exists_perform lastState lastValue a
      obtain ⟨r, sent, hrest⟩ := ih lastState' lastValue'
      exact ⟨r, o ++ sent, runs_cons_ok.mpr ⟨_, _, _, ha, hrest, rfl⟩⟩

/-- **The channel keyed last**: behind every sequence of calls on a new remote control that
asks for a value other than `0` and `255`, the digits of the latest call that keyed any spell the
channel of the latest value other than `0`. -/
theorem lastGroup_spells_channel (actions : List Action)
    (h : ∃ a ∈ actions, a.deviceName = fernseher ∧ a.value ≠ 0 ∧ a.value ≠ 255) :
    ∃ r sent value channel frames,
      (RemoteControl.new >>= fun r => runs perform r actions) = .ok (r, sent) ∧
      latestValue actions = some value ∧
      brightness_to_channel_mapping.lookup value = some channel ∧
      lastGroup sent = some frames ∧ Spells frames channel.toNat := by
  obtain ⟨a, ha, hname, h0, h255⟩ := h
  obtain ⟨r, sent, hrun⟩ := exists_runs_perform false 255 actions
  obtain ⟨value, hvalue⟩ := exists_latestValue ha ⟨hname, h0⟩
  obtain ⟨_, lastValue, -, hlast, hgroup⟩ : Tuned ([] ++ actions) r ([] ++ sent) :=
    runs_history (fun _ _ _ _ _ _ hI hok => hI.perform hok) tuned_new hrun
  rw [List.nil_append] at hlast
  rw [List.nil_append, List.nil_append] at hgroup
  obtain rfl : lastValue = value := by rw [hlast, hvalue]; rfl
  refine ⟨r, sent, lastValue, channelOf lastValue, channelFrames lastValue, ?_, hvalue,
    lookup_channel lastValue, ?_, channelFrames_spells lastValue⟩
  · rw [RemoteControl.new_eq, ok_bind, hrun]
  · rcases hgroup with hgroup | ⟨-, hall⟩
    · exact hgroup
    · exact absurd (hall a ha ⟨hname, h0⟩) h255

/-- The values `255`, `128` and `0` for the television and `7` for another device. -/
def fourCalls : List Action :=
  [⟨0, fernseher, true, 255⟩, ⟨0, fernseher, true, 128⟩, ⟨0, fernseher, false, 0⟩,
    ⟨1, ⟨bytes "lampe", by decide⟩, true, 7⟩]

/-- Behind them the channel `50` of `128` was keyed last. -/
theorem lastGroup_spells_channel_half : ∃ r sent frames,
    (RemoteControl.new >>= fun r => runs perform r fourCalls) = .ok (r, sent) ∧
      latestValue fourCalls = some 128 ∧ brightness_to_channel_mapping.lookup 128 = some 50 ∧
      lastGroup sent = some frames ∧ Spells frames 50 := by
  obtain ⟨r, sent, value, channel, frames, hrun, hvalue, hchannel, hgroup, hspells⟩ :=
    lastGroup_spells_channel fourCalls
      ⟨⟨0, fernseher, true, 128⟩, by simp [fourCalls], by decide⟩
  have hlatest : latestValue fourCalls = some 128 := by decide
  obtain rfl : 128 = value := Option.some.inj (hlatest.symm.trans hvalue)
  have hlookup : brightness_to_channel_mapping.lookup 128 = some 50 := by decide +kernel
  obtain rfl : 50 = channel := Option.some.inj (hlookup.symm.trans hchannel)
  exact ⟨r, sent, frames, hrun, hlatest, hlookup, hgroup, hspells⟩

end FauxmoLinux
