import FauxmoLinux.Remote.Threads

/-!
Two clients at once: the interleavings of two calls of `actionPerformed`, which nothing in the
program keeps apart.

* `Serialisable`: every interleaving of two calls does what one call behind the other does;
* `SafePair`: what the calls and the remote control must be like for that. Neither call acts on
  its value and they do not both change the state to the same, or neither changes the state and
  one of them has the value `0`, or their channels are keyed with one digit alone;
* `serialisable_iff`: these are exactly the pairs whose interleavings are all serial.
-/

namespace FauxmoLinux

/-- Every interleaving of two calls is one of them behind the other. -/
def Serialisable (r : RemoteControl) (a b : Call) : Prop :=
  ∀ r' frames, Interleaved a.step b.step .testState .testState r r' frames →
    Serial a b r r' frames ∨ Serial b a r r' frames

/-- The pairs of calls that cannot get into each other's way. -/
def SafePair (lastState : Bool) (lastValue : UInt8) (a b : Call) : Prop :=
  (¬ Selects lastValue a.value ∧ ¬ Selects lastValue b.value ∧
      ¬ (a.state = b.state ∧ a.state ≠ lastState)) ∨
    (a.state = lastState ∧ b.state = lastState ∧ (a.value = 0 ∨ b.value = 0 ∨
      (a.value ≠ b.value ∧ Uniform (channelFrames a.value ++ channelFrames b.value))))

instance (lastState : Bool) (lastValue : UInt8) (a b : Call) :
    Decidable (SafePair lastState lastValue a b) :=
  inferInstanceAs (Decidable (_ ∨ _))

variable {a b c : Call} {r' : RemoteControl} {frames : List Bytes} {lastState : Bool}
  {lastValue : UInt8}

lemma Serialisable.swap {r : RemoteControl} (h : Serialisable r a b) : Serialisable r b a :=
  fun r' frames hi => (h r' frames hi.swap).symm

lemma uniform_append_comm {α : Type} {l m : List α} (h : Uniform (l ++ m)) : Uniform (m ++ l) :=
  fun x hx y hy => h x (List.perm_append_comm.mem_iff.mp hx) y
    (List.perm_append_comm.mem_iff.mp hy)

lemma not_selects_zero (lastValue : UInt8) : ¬ Selects lastValue 0 :=
  fun h => absurd h.1 (by decide)

/-! ### What a step does -/

/-- A step leaves the state alone, or is one of the two assignments; only a value that selects
a channel leads to the second. -/
lemma step_cases {t t' : Point} {s₁ : RemoteControl} {o : List Bytes}
    (h : c.step t (.lg lastState lastValue) = .ok (some (t', s₁, o))) :
    (s₁ = .lg lastState lastValue ∧ (t' = .assignValue → Selects lastValue c.value)) ∨
      (t = .assignState ∧ t' = .testValue ∧ s₁ = .lg c.state lastValue) ∨
      (t = .assignValue ∧ s₁ = .lg lastState c.value) := by
  cases t with
  | testState =>
      rw [step_testState] at h
      cases h
      refine Or.inl ⟨rfl, fun ht => ?_⟩
      split at ht <;> cases ht
  | sendPower =>
      rw [step_sendPower] at h
      cases h
      exact Or.inl ⟨rfl, fun ht => by cases ht⟩
  | assignState =>
      rw [step_assignState] at h
      cases h
      exact Or.inr (Or.inl ⟨rfl, rfl, rfl⟩)
  | testValue =>
      rw [step_testValue] at h
      cases h
      refine Or.inl ⟨rfl, fun ht => ?_⟩
      by_contra hns
      rw [if_neg hns] at ht
      cases ht
  | assignValue =>
      rw [step_assignValue] at h
      cases h
      exact Or.inr (Or.inr ⟨rfl, rfl⟩)
  | sendDigits digits =>
      cases digits with
      | nil => cases h
      | cons digit digits =>
          rw [Call.step] at h
          split at h
          · obtain ⟨frame, -, h⟩ := bind_ok_iff.mp h
            cases h
            exact Or.inl ⟨rfl, fun ht => by cases ht⟩
          · cases h
            exact Or.inl ⟨rfl, fun ht => by cases ht⟩

/-! ### Neither call acts on its value -/

/-- A call that neither changes the state nor has a value is left out. -/
lemma serial_of_no_value (ha : a.state = lastState) (hb : b.state = lastState)
    (h0 : a.value = 0)
    (h : Interleaved a.step b.step .testState .testState (.lg lastState lastValue) r' frames) :
    Serial a b (.lg lastState lastValue) r' frames := by
  have hns : ∀ v, ¬ Selects v a.value := fun v => h0 ▸ not_selects_zero v
  have halone : Alone b.step .testState (.lg lastState lastValue) r' frames := by
    refine h.alone_of_idle (I := fun t _ s => (t = .testState ∨ t = .testValue ∨
      t = .sendDigits []) ∧ ∃ v, s = .lg lastState v) ?_ ?_ ⟨Or.inl rfl, _, rfl⟩
    · rintro t u s ⟨rfl | rfl | rfl, v, rfl⟩
      · exact Or.inr ⟨.testValue, step_testState_same ha, by simp, v, rfl⟩
      · exact Or.inr ⟨.sendDigits [], step_testValue_old (hns v), by simp, v, rfl⟩
      · exact Or.inl rfl
    · rintro t u s u' s₁ o ⟨ht, v, rfl⟩ hstep
      refine ⟨ht, ?_⟩
      rcases step_cases hstep with ⟨rfl, -⟩ | ⟨-, -, rfl⟩ | ⟨-, rfl⟩
      · exact ⟨v, rfl⟩
      · exact ⟨v, by rw [hb]⟩
      · exact ⟨_, rfl⟩
  obtain ⟨rfl, rfl⟩ := alone_testState_lg.mp halone
  rw [serial_lg, valueAfter_of_not (hns _), selected_of_not (hns _), ha]
  exact ⟨rfl, by simp [powerFrames]⟩

/-- A call that is past its change of state and has no new value is left out. -/
lemma alone_of_past (ha : ¬ Selects lastValue a.value) (hb : ¬ Selects lastValue b.value)
    {u : Point} (hu : u ≠ .assignValue)
    (h : Interleaved a.step b.step .testValue u (.lg lastState lastValue) r' frames) :
    Alone b.step u (.lg lastState lastValue) r' frames := by
  refine h.alone_of_idle (I := fun t u s => (t = .testValue ∨ t = .sendDigits []) ∧
    u ≠ .assignValue ∧ ∃ p, s = .lg p lastValue) ?_ ?_ ⟨Or.inl rfl, hu, _, rfl⟩
  · rintro t u s ⟨rfl | rfl, hu, p, rfl⟩
    · exact Or.inr ⟨.sendDigits [], step_testValue_old ha, by simp, hu, p, rfl⟩
    · exact Or.inl rfl
  · rintro t u s u' s₁ o ⟨ht, hu, p, rfl⟩ hstep
    refine ⟨ht, ?_⟩
    rcases step_cases hstep with ⟨rfl, hsel⟩ | ⟨-, rfl, rfl⟩ | ⟨rfl, -⟩
    · exact ⟨fun hu' => hb (hsel hu'), p, rfl⟩
    · exact ⟨by simp, _, rfl⟩
    · exact absurd rfl hu

/-- Two calls without new values, the first of which asks for the state there is: it sees the
state before the second changes it, or behind that. -/
lemma serial_of_old_values (hs : a.state = lastState) (ha : ¬ Selects lastValue a.value)
    (hb : ¬ Selects lastValue b.value)
    (h : Interleaved a.step b.step .testState .testState (.lg lastState lastValue) r' frames) :
    Serial a b (.lg lastState lastValue) r' frames ∨
      Serial b a (.lg lastState lastValue) r' frames := by
  have hfirst : ∀ {fs}, Alone b.step .testState (.lg lastState lastValue) r' fs →
      Serial a b (.lg lastState lastValue) r' fs := by
    intro fs halone
    obtain ⟨rfl, rfl⟩ := alone_testState_lg.mp halone
    rw [serial_lg, valueAfter_of_not ha, selected_of_not ha, hs]
    exact ⟨rfl, by simp [powerFrames]⟩
  have hsecond : ∀ {fs}, Alone a.step .testState (.lg b.state lastValue) r' fs →
      Serial b a (.lg lastState lastValue) r' (powerFrames lastState b.state ++ fs) := by
    intro fs halone
    obtain ⟨rfl, rfl⟩ := alone_testState_lg.mp halone
    rw [serial_lg, valueAfter_of_not hb, selected_of_not hb]
    exact ⟨rfl, by simp⟩
  by_cases hsb : b.state = lastState
  · obtain ⟨_, hr, rfl⟩ | ⟨_, hr, rfl⟩ :=
      h.inv (step_testState_same hs) (step_testState_same hsb)
    · exact Or.inl (hfirst (alone_of_past ha hb (by simp) hr))
    · have halone := alone_of_past hb ha (by simp) hr.swap
      rw [← hsb] at halone
      have hserial := hsecond halone
      rw [show powerFrames lastState b.state = [] from if_neg (by simp [hsb])] at hserial
      exact Or.inr hserial
  · have hpow : powerFrames lastState b.state = [powerFrame] := if_pos hsb
    have hstepa : a.step .testState (.lg lastState lastValue) =
        .ok (some (.testValue, .lg lastState lastValue, [])) := step_testState_same hs
    have hstepb : b.step .testState (.lg lastState lastValue) =
        .ok (some (.sendPower, .lg lastState lastValue, [])) := step_testState_change hsb
    -- the test of the first call may come at each of the four points of the second
    rcases h.inv hstepa hstepb with ⟨_, h₁, rfl⟩ | ⟨_, h₁, rfl⟩
    · exact Or.inl (hfirst (alone_of_past ha hb (by simp) h₁))
    rcases h₁.inv hstepa step_sendPower with ⟨_, h₂, rfl⟩ | ⟨_, h₂, rfl⟩
    · exact Or.inl (hfirst (.step hstepb (alone_of_past ha hb (by simp) h₂)))
    rcases h₂.inv hstepa step_assignState with ⟨_, h₃, rfl⟩ | ⟨_, h₃, rfl⟩
    · have hpower := Alone.step step_sendPower (alone_of_past ha hb (by simp) h₃)
      have htest := Alone.step hstepb hpower
      exact Or.inl (hfirst htest)
    · have hserial := hsecond (alone_of_past hb ha (by simp) h₃.swap)
      rw [hpow] at hserial
      exact Or.inr hserial

/-! ### Digits of two calls -/

/-- Two calls that key their digits: the frames are merged. -/
lemma interleaved_sendDigits {ds es : List UInt8} (hds : ∀ d ∈ ds, d < 10)
    (hes : ∀ d ∈ es, d < 10) :
    Interleaved a.step b.step (.sendDigits ds) (.sendDigits es) (.lg lastState lastValue)
        r' frames ↔
      r' = .lg lastState lastValue ∧
        Shuffle (ds.map digitFrame) (es.map digitFrame) frames := by
  constructor
  · intro h
    generalize ht : Point.sendDigits ds = t at h
    generalize hu : Point.sendDigits es = u at h
    generalize hs : RemoteControl.lg lastState lastValue = s at h
    induction h generalizing ds es with
    | done hf hg =>
        subst ht hu hs
        cases ds with
        | cons d ds => rw [step_sendDigits (hds d (by simp))] at hf; cases hf
        | nil =>
            cases es with
            | cons e es => rw [step_sendDigits (hes e (by simp))] at hg; cases hg
            | nil => exact ⟨rfl, .nil⟩
    | left hstep _ ih =>
        subst ht hu hs
        cases ds with
        | nil => cases hstep
        | cons d ds =>
            rw [step_sendDigits (hds d (by simp))] at hstep
            cases hstep
            obtain ⟨hr, hk⟩ := ih (fun x hx => hds x (by simp [hx])) hes rfl rfl rfl
            exact ⟨hr, .left hk⟩
    | right hstep _ ih =>
        subst ht hu hs
        cases es with
        | nil => cases hstep
        | cons e es =>
            rw [step_sendDigits (hes e (by simp))] at hstep
            cases hstep
            obtain ⟨hr, hk⟩ := ih hds (fun x hx => hes x (by simp [hx])) rfl rfl rfl
            exact ⟨hr, .right hk⟩
  · rintro ⟨rfl, h⟩
    generalize hl : ds.map digitFrame = l at h
    generalize hm : es.map digitFrame = m at h
    induction h generalizing ds es with
    | nil =>
        obtain rfl := List.map_eq_nil_iff.mp hl
        obtain rfl := List.map_eq_nil_iff.mp hm
        exact .done rfl rfl
    | left _ ih =>
        obtain ⟨d, ds, rfl, rfl, rfl⟩ := List.map_eq_cons_iff.mp hl
        exact .left (step_sendDigits (hds d (by simp)))
          (ih (fun x hx => hds x (by simp [hx])) hes rfl hm)
    | right _ ih =>
        obtain ⟨e, es, rfl, rfl, rfl⟩ := List.map_eq_cons_iff.mp hm
        exact .right (step_sendDigits (hes e (by simp)))
          (ih hds (fun x hx => hes x (by simp [hx])) hl rfl)

/-- A call that is still to select its channel, beside one that keys digits: it is the last to
assign its value, and the frames are merged. -/
lemma late_selection (hs : a.state = lastState) (hsel : Selects lastValue a.value)
    {digits : List UInt8} (hd : ∀ d ∈ digits, d < 10) {t : Point}
    (ht : t = .testState ∨ t = .testValue ∨ t = .assignValue)
    (h : Interleaved a.step b.step t (.sendDigits digits) (.lg lastState lastValue)
      r' frames) :
    r' = .lg lastState a.value ∧
      Shuffle (channelFrames a.value) (digits.map digitFrame) frames := by
  generalize hu : Point.sendDigits digits = u at h
  generalize hr : RemoteControl.lg lastState lastValue = s at h
  induction h generalizing digits with
  | done hf _ =>
      subst hr
      rcases ht with rfl | rfl | rfl
      · cases hf
      · cases hf
      · rw [step_assignValue] at hf; cases hf
  | left hstep hrest ih =>
      subst hr
      rcases ht with rfl | rfl | rfl
      · rw [step_testState_same hs] at hstep
        cases hstep
        exact ih hd (by simp) hu rfl
      · rw [step_testValue_new hsel] at hstep
        cases hstep
        exact ih hd (by simp) hu rfl
      · rw [step_assignValue] at hstep
        cases hstep
        subst hu
        exact (interleaved_sendDigits (fun _ hx => getDigits_lt hx) hd).mp hrest
  | right hstep _ ih =>
      subst hr hu
      cases digits with
      | nil => cases hstep
      | cons d digits =>
          rw [step_sendDigits (hd d (by simp))] at hstep
          cases hstep
          obtain ⟨hr, hk⟩ := ih (fun x hx => hd x (by simp [hx])) ht rfl rfl
          exact ⟨hr, .right hk⟩

/-- The call has not yet assigned its value. -/
def Ahead (lastValue : UInt8) (c : Call) (t : Point) : Prop :=
  t = .testState ∨ t = .testValue ∨ (t = .assignValue ∧ Selects lastValue c.value)

lemma Ahead.points {t : Point} (h : Ahead lastValue c t) :
    t = .testState ∨ t = .testValue ∨ t = .assignValue :=
  h.imp_right (Or.imp_right And.left)

/-- What the calls of a pair without a change of state and with different values do next: stay
ahead, assign the value, or pass over it. -/
lemma Ahead.step (hs : c.state = lastState) {t t' : Point} {s₁ : RemoteControl}
    {o : List Bytes} (h : Ahead lastValue c t)
    (hstep : c.step t (.lg lastState lastValue) = .ok (some (t', s₁, o))) :
    o = [] ∧ ((Ahead lastValue c t' ∧ s₁ = .lg lastState lastValue) ∨
      (Selects lastValue c.value ∧ t' = .sendDigits (getDigits (channelOf c.value)) ∧
        s₁ = .lg lastState c.value) ∨
      (¬ Selects lastValue c.value ∧ t' = .sendDigits [] ∧ s₁ = .lg lastState lastValue)) := by
  rcases h with rfl | rfl | ⟨rfl, hsel⟩
  · rw [step_testState_same hs] at hstep
    cases hstep
    exact ⟨rfl, Or.inl ⟨Or.inr (Or.inl rfl), rfl⟩⟩
  · by_cases hsel : Selects lastValue c.value
    · rw [step_testValue_new hsel] at hstep
      cases hstep
      exact ⟨rfl, Or.inl ⟨Or.inr (Or.inr ⟨rfl, hsel⟩), rfl⟩⟩
    · rw [step_testValue_old hsel] at hstep
      cases hstep
      exact ⟨rfl, Or.inr (Or.inr ⟨hsel, rfl, rfl⟩)⟩
  · rw [step_assignValue] at hstep
    cases hstep
    exact ⟨rfl, Or.inr (Or.inl ⟨hsel, rfl, rfl⟩)⟩

/-- The first call is through with its value while the second is still ahead: the frames are
those of the first, then those of the second. -/
lemma serial_of_first (ha : a.state = lastState) (hb : b.state = lastState)
    (ha0 : a.value > 0) (hb0 : b.value > 0) (hne : a.value ≠ b.value)
    (hu : Uniform (channelFrames a.value ++ channelFrames b.value)) {t u : Point}
    {s : RemoteControl} (hahead : Ahead lastValue b u)
    (hmove : (Selects lastValue a.value ∧ t = .sendDigits (getDigits (channelOf a.value)) ∧
        s = .lg lastState a.value) ∨
      (¬ Selects lastValue a.value ∧ t = .sendDigits [] ∧ s = .lg lastState lastValue))
    (h : Interleaved a.step b.step t u s r' frames) :
    Serial a b (.lg lastState lastValue) r' frames := by
  have hpow : powerFrames lastState lastState = [] := if_neg (by simp)
  rw [serial_lg, ha, hb, hpow]
  rcases hmove with ⟨hsel, rfl, rfl⟩ | ⟨hns, rfl, rfl⟩
  · have hselb : Selects a.value b.value := ⟨hb0, hne.symm⟩
    obtain ⟨rfl, hk⟩ := late_selection hb hselb (fun _ hx => getDigits_lt hx) hahead.points
      h.swap
    rw [valueAfter_of_selects hsel, valueAfter_of_selects hselb, selected_of_selects hsel,
      selected_of_selects hselb]
    exact ⟨rfl, (shuffle_eq_append hk.swap hu).1⟩
  · have hlast : a.value = lastValue := by
      by_contra hne'
      exact hns ⟨ha0, hne'⟩
    have hselb : Selects lastValue b.value := ⟨hb0, hlast ▸ hne.symm⟩
    obtain ⟨rfl, hk⟩ := late_selection hb hselb (by simp) hahead.points h.swap
    rw [valueAfter_of_not hns, valueAfter_of_selects hselb, selected_of_not hns,
      selected_of_selects hselb]
    exact ⟨rfl, hk.swap.eq_of_nil⟩

/-- Two calls without a change of state, whose channels are keyed with one digit alone. -/
lemma serial_of_uniform (ha : a.state = lastState) (hb : b.state = lastState)
    (ha0 : a.value > 0) (hb0 : b.value > 0) (hne : a.value ≠ b.value)
    (hu : Uniform (channelFrames a.value ++ channelFrames b.value)) {t u : Point}
    (hta : Ahead lastValue a t) (htb : Ahead lastValue b u)
    (h : Interleaved a.step b.step t u (.lg lastState lastValue) r' frames) :
    Serial a b (.lg lastState lastValue) r' frames ∨
      Serial b a (.lg lastState lastValue) r' frames := by
  generalize hs : RemoteControl.lg lastState lastValue = s at h
  induction h with
  | done hf _ =>
      subst hs
      rcases hta with rfl | rfl | ⟨rfl, -⟩
      · cases hf
      · cases hf
      · rw [step_assignValue] at hf; cases hf
  | left hstep hrest ih =>
      subst hs
      rcases hta.step ha hstep with ⟨rfl, ⟨hta', rfl⟩ | hmove⟩
      · exact ih hta' htb rfl
      · exact Or.inl (serial_of_first ha hb ha0 hb0 hne hu htb hmove hrest)
  | right hstep hrest ih =>
      subst hs
      rcases htb.step hb hstep with ⟨rfl, ⟨htb', rfl⟩ | hmove⟩
      · exact ih hta htb' rfl
      · exact Or.inr (serial_of_first hb ha hb0 ha0 hne.symm (uniform_append_comm hu) hta hmove
          hrest.swap)

/-- **Safe pairs are serialisable.** -/
theorem serialisable_of_safePair (h : SafePair lastState lastValue a b) :
    Serialisable (.lg lastState lastValue) a b := by
  intro r' frames hi
  rcases h with ⟨ha, hb, hne⟩ | ⟨hsa, hsb, hval⟩
  · by_cases hsa : a.state = lastState
    · exact serial_of_old_values hsa ha hb hi
    · have hsb : b.state = lastState := by
        by_contra hsb
        exact hne ⟨by cases hx : a.state <;> cases hy : b.state <;> simp_all, hsa⟩
      exact (serial_of_old_values hsb hb ha hi.swap).symm
  · by_cases ha0 : a.value = 0
    · exact Or.inl (serial_of_no_value hsa hsb ha0 hi)
    by_cases hb0 : b.value = 0
    · exact Or.inr (serial_of_no_value hsb hsa hb0 hi.swap)
    obtain ⟨hne, hu⟩ := (hval.resolve_left ha0).resolve_left hb0
    exact serial_of_uniform hsa hsb (UInt8.pos_iff_ne_zero.mpr ha0)
      (UInt8.pos_iff_ne_zero.mpr hb0) hne hu (Or.inl rfl) (Or.inl rfl) hi

/-! ### Bad schedules -/

lemma count_powerFrames (p q : Bool) :
    (powerFrames p q).count powerFrame = if q ≠ p then 1 else 0 := by
  rw [powerFrames]
  split <;> simp

lemma count_selected (lastValue value : UInt8) :
    (selected lastValue value).count powerFrame = 0 := by
  rw [selected]
  split
  · exact List.count_eq_zero.mpr fun h =>
      not_isPower_of_isDigit (isDigit_of_mem_channelFrames h) (isPower_iff.mpr rfl)
  · rfl

/-- Channels are not keyed with the power button. -/
lemma channelFrames_ne_cons (value : UInt8) (fs : List Bytes) :
    channelFrames value ≠ powerFrame :: fs := fun h =>
  not_isPower_of_isDigit (isDigit_of_mem_channelFrames (h ▸ List.mem_cons_self))
    (isPower_iff.mpr rfl)

lemma lg_inj {p q : Bool} {v w : UInt8} (h : RemoteControl.lg p v = .lg q w) : p = q ∧ v = w := by
  cases h
  exact ⟨rfl, rfl⟩

/-- Two calls finished one behind the other, from any points. -/
lemma interleaved_in_turn {t u : Point} {r r₁ : RemoteControl} {fa fb : List Bytes}
    (ha : Alone a.step t r r₁ fa) (hb : Alone b.step u r₁ r' fb) :
    Interleaved a.step b.step t u r r' (fa ++ fb) :=
  Interleaved.of_alone (f := a.step) (fun _ _ s' h => Call.step_eq_none h s') ha hb

/-- The value part of a call. -/
lemma alone_value (c : Call) (lastState : Bool) (lastValue : UInt8) :
    Alone c.step .testValue (.lg lastState lastValue)
      (.lg lastState (valueAfter lastValue c.value)) (selected lastValue c.value) :=
  alone_testValue_lg.mpr ⟨rfl, rfl⟩

/-- Both calls see the old state: the power button is sent twice. -/
lemma not_serialisable_of_same_change (hs : a.state = b.state) (hne : a.state ≠ lastState) :
    ¬ Serialisable (.lg lastState lastValue) a b := by
  intro h
  have hneb : b.state ≠ lastState := hs ▸ hne
  have hi := Interleaved.left (step_testState_change hne)
    (.right (step_testState_change hneb) (.left step_sendPower (.right step_sendPower
      (interleaved_in_turn (.step step_assignState (alone_value a _ lastValue))
        (.step step_assignState (alone_value b _ _))))))
  rcases h _ _ hi with hser | hser
  · have hcount := congrArg (List.count powerFrame) (serial_lg.mp hser).2
    simp [count_powerFrames, count_selected, hneb, hs] at hcount
  · have hcount := congrArg (List.count powerFrame) (serial_lg.mp hser).2
    simp [count_powerFrames, count_selected, hneb, hs] at hcount

/-- Both calls see the old value: the channel is keyed twice. -/
lemma not_serialisable_of_same_value (ha : a.state = lastState) (hb : b.state = lastState)
    (hv : a.value = b.value) (hsel : Selects lastValue a.value) :
    ¬ Serialisable (.lg lastState lastValue) a b := by
  intro h
  have hselb : Selects lastValue b.value := hv ▸ hsel
  have hi := Interleaved.left (step_testState_same ha) (.left (step_testValue_new hsel)
    (.right (step_testState_same hb) (.right (step_testValue_new hselb)
      (interleaved_in_turn (alone_assignValue_lg a _ lastValue) (alone_assignValue_lg b _ _)))))
  have hnot : ¬ Selects b.value b.value := fun h => h.2 rfl
  -- in a serial run the second call finds its value there
  have honce : ∀ {x y : Call} {r'}, x.state = lastState → y.state = lastState →
      x.value = b.value → y.value = b.value → ¬ Serial x y (.lg lastState lastValue) r'
        (channelFrames a.value ++ channelFrames b.value) := by
    intro x y r' hx hy hxv hyv hser
    have heq := congrArg List.length (serial_lg.mp hser).2
    rw [hxv, hyv, hv, valueAfter_of_selects hselb, selected_of_selects hselb,
      selected_of_not hnot, hx, hy] at heq
    exact channelFrames_ne_nil b.value (by simpa [powerFrames] using heq)
  rcases h _ _ hi with hser | hser
  · exact honce ha hb hv rfl hser
  · exact honce hb ha rfl hv hser

/-- Two calls with different values, the second of which selects a channel. Every merge of the
digits can come out with one last value, so all merges are one list. -/
lemma uniform_of_serialisable_aux (ha : a.state = lastState) (hb : b.state = lastState)
    (ha0 : a.value > 0) (hne : a.value ≠ b.value) (hselb : Selects lastValue b.value)
    (h : Serialisable (.lg lastState lastValue) a b) :
    Uniform (channelFrames a.value ++ channelFrames b.value) := by
  have hsela : Selects b.value a.value := ⟨ha0, hne⟩
  have hselab : Selects a.value b.value := ⟨hselb.1, hne.symm⟩
  -- the second call assigns its value, then the first tests and assigns, then both key
  refine eq_of_shuffle_eq (channelFrames_ne_nil _) (channelFrames_ne_nil _)
    (z := channelFrames b.value ++ channelFrames a.value) fun k hk => ?_
  have hdigits : Interleaved a.step b.step (.sendDigits (getDigits (channelOf a.value)))
      (.sendDigits (getDigits (channelOf b.value))) (.lg lastState a.value)
      (.lg lastState a.value) k :=
    (interleaved_sendDigits (fun _ hx => getDigits_lt hx) fun _ hx => getDigits_lt hx).mpr
      ⟨rfl, hk⟩
  have hi := Interleaved.right (step_testState_same hb) (.right (step_testValue_new hselb)
    (.right step_assignValue (.left (step_testState_same ha) (.left (step_testValue_new hsela)
      (.left step_assignValue hdigits)))))
  have hpow : powerFrames lastState lastState = [] := if_neg (by simp)
  rcases h _ _ hi with hser | hser
  · -- behind the first call alone the last value is that of the second
    have hlast := (lg_inj (serial_lg.mp hser).1).2
    rw [valueAfter] at hlast
    split at hlast
    · exact absurd hlast hne
    · rename_i hns
      rw [valueAfter] at hns
      split at hns
      · exact absurd hselab hns
      · exact absurd hselb hns
  · have heq := (serial_lg.mp hser).2
    rw [valueAfter_of_selects hselb, selected_of_selects hselb, selected_of_selects hsela, ha, hb,
      hpow] at heq
    exact heq

/-- Two calls with different values: their channels are keyed with one digit alone. -/
lemma uniform_of_serialisable (ha : a.state = lastState) (hb : b.state = lastState)
    (ha0 : a.value ≠ 0) (hb0 : b.value ≠ 0) (hne : a.value ≠ b.value)
    (h : Serialisable (.lg lastState lastValue) a b) :
    Uniform (channelFrames a.value ++ channelFrames b.value) := by
  have ha0' : a.value > 0 := UInt8.pos_iff_ne_zero.mpr ha0
  have hb0' : b.value > 0 := UInt8.pos_iff_ne_zero.mpr hb0
  by_cases hselb : Selects lastValue b.value
  · exact uniform_of_serialisable_aux ha hb ha0' hne hselb h
  · have hsela : Selects lastValue a.value :=
      ⟨ha0', fun heq => hselb ⟨hb0', fun heq' => hne (heq.trans heq'.symm)⟩⟩
    exact uniform_append_comm
      (uniform_of_serialisable_aux hb ha hb0' hne.symm hsela h.swap)

/-- The first call asks for the state there is and the second changes it. If one of them acts on
its value, a power frame comes out at the wrong place. -/
lemma old_values_of_serialisable (ha : a.state = lastState) (hb : b.state ≠ lastState)
    (h : Serialisable (.lg lastState lastValue) a b) :
    ¬ Selects lastValue a.value ∧ ¬ Selects lastValue b.value := by
  have hab : a.state ≠ b.state := fun heq => hb (heq ▸ ha)
  have hpow : powerFrames lastState b.state = [powerFrame] := if_pos hb
  have hback : powerFrames b.state a.state = [powerFrame] := if_pos hab
  have hsame : powerFrames lastState lastState = [] := if_neg (by simp)
  have hnsa : ¬ Selects lastValue a.value := by
    intro hsel
    -- the first call has tested the state when the second changes it
    have hi := Interleaved.left (step_testState_same ha) (.right (step_testState_change hb)
      (.right step_sendPower (.right step_assignState
        (interleaved_in_turn (alone_value a _ lastValue) (alone_value b _ _)))))
    rcases h _ _ hi with hser | hser
    · have heq := (serial_lg.mp hser).2
      obtain ⟨f, fs, hf⟩ := List.exists_cons_of_ne_nil (channelFrames_ne_nil a.value)
      rw [ha, hsame, selected_of_selects hsel, hf] at heq
      obtain ⟨rfl, -⟩ := List.cons.inj heq
      exact channelFrames_ne_cons _ _ hf
    · exact hab (lg_inj (serial_lg.mp hser).1).1.symm
  refine ⟨hnsa, fun hsel => ?_⟩
  -- the first call changes the state back before the second tests its value
  have hwhole : Alone a.step .testState (.lg b.state lastValue) (.lg a.state lastValue)
      [powerFrame] := by
    refine alone_testState_lg.mpr ⟨by rw [valueAfter_of_not hnsa], ?_⟩
    rw [hback, selected_of_not hnsa]
    rfl
  have hi := Interleaved.right (step_testState_change hb) (.right step_sendPower
    (.right step_assignState (interleaved_in_turn hwhole (alone_value b _ _))))
  rcases h _ _ hi with hser | hser
  · exact hab (lg_inj (serial_lg.mp hser).1).1
  · have heq := (serial_lg.mp hser).2
    obtain ⟨f, fs, hf⟩ := List.exists_cons_of_ne_nil (channelFrames_ne_nil b.value)
    rw [hpow, hback, selected_of_selects hsel, hf] at heq
    obtain ⟨rfl, -⟩ := List.cons.inj (List.cons.inj heq).2
    exact channelFrames_ne_cons _ _ hf

/-- **The interleavings of two calls** are all serial exactly for the safe pairs: in each other
case a test of one call can come between a test and an assignment of the other. -/
theorem serialisable_iff (lastState : Bool) (lastValue : UInt8) (a b : Call) :
    Serialisable (.lg lastState lastValue) a b ↔ SafePair lastState lastValue a b := by
  refine ⟨fun h => ?_, serialisable_of_safePair⟩
  by_cases hsa : a.state = lastState
  · by_cases hsb : b.state = lastState
    · by_cases ha0 : a.value = 0
      · exact Or.inr ⟨hsa, hsb, Or.inl ha0⟩
      by_cases hb0 : b.value = 0
      · exact Or.inr ⟨hsa, hsb, Or.inr (Or.inl hb0)⟩
      by_cases hv : a.value = b.value
      · have hns : ¬ Selects lastValue a.value :=
          fun hsel => not_serialisable_of_same_value hsa hsb hv hsel h
        exact Or.inl ⟨hns, hv ▸ hns, fun hne => hne.2 hsa⟩
      · exact Or.inr ⟨hsa, hsb, Or.inr (Or.inr
          ⟨hv, uniform_of_serialisable hsa hsb ha0 hb0 hv h⟩)⟩
    · obtain ⟨hna, hnb⟩ := old_values_of_serialisable hsa hsb h
      exact Or.inl ⟨hna, hnb, fun hne => hne.2 hsa⟩
  · have hns : a.state ≠ b.state := fun heq => not_serialisable_of_same_change heq hsa h
    have hsb : b.state = lastState := by
      cases hx : a.state <;> cases hy : b.state <;> cases lastState <;> simp_all
    obtain ⟨hnb, hna⟩ := old_values_of_serialisable hsb hsa h.swap
    exact Or.inl ⟨hna, hnb, fun hne => hns hne.1⟩

/-- Two clients that switch the television on at once: the power button is sent twice. -/
theorem not_serialisable_on :
    ¬ Serialisable (.lg false 255) ⟨0, true, 255⟩ ⟨0, true, 255⟩ :=
  not_serialisable_of_same_change rfl (by decide)

end FauxmoLinux
