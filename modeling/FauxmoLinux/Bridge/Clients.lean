import FauxmoLinux.Base.Pool
import FauxmoLinux.Bridge.Meaning

/-!
Several clients at once. Every connection has a thread of its own, and `_onTCPControl` writes to
`_devices` without a lock.

* `Statement`, `Statement.run`: the assignments and tests of the state branch, the response and
  the callback, one at a time; `Command.statements`: those of one request;
* `handler`: a request as a thread; `alone_light_of_handler`, `alone_light`: by itself it does what
  `onTCPControl` does;
* `clients_apart`: any number of requests for different lights, in every order of their
  statements, do what each of them does by itself;
* `clients_agree_iff`: two requests for one light leave it, in every order of their statements, as
  one of them behind the other does, exactly for the pairs of `Agreeable`.
-/

namespace FauxmoLinux

/-! ### Statements -/

/-- A statement of the state branch of `_onTCPControl` behind the reading of the body. -/
inductive Statement where
  | assignValue (value : UInt8)
  | assignState (state : Bool)
  | assignRed (r : UInt8)
  | assignGreen (g : UInt8)
  | assignBlue (b : UInt8)
  /-- `if (0 == _devices[id].value)` in front of `_devices[id].value = 255` -/
  | testValue
  | respond
  | callBack
  deriving DecidableEq, Repr

/-- The statement on the light `id`: what is left to do behind it, the light, and what is sent and
called. -/
def Statement.run (id : UInt8) (d : Device) (rest : List Statement) :
    Statement → List Statement × Device × List Event
  | .assignValue value => (rest, { d with value := value }, [])
  | .assignState state => (rest, { d with state := state }, [])
  | .assignRed r => (rest, { d with rgb := { d.rgb with r := r } }, [])
  | .assignGreen g => (rest, { d with rgb := { d.rgb with g := g } }, [])
  | .assignBlue b => (rest, { d with rgb := { d.rgb with b := b } }, [])
  | .testValue => (if d.value = 0 then .assignValue 255 :: rest else rest, d, [])
  | .respond => (rest, d, stateEvents false id d)
  | .callBack => (rest, d, [.setState id d.name d.state d.value])

/-- The assignments and tests of the branch of a command. -/
def Command.statements : Command → List Statement
  | .bri value => [.assignValue value, .assignState (decide (value > 0))]
  | .colour rgb =>
      [.assignState true, .assignRed rgb.r, .assignGreen rgb.g, .assignBlue rgb.b]
  | .off => [.assignState false]
  | .on => [.assignState true, .testValue]

/-- The statements of a request; `callback` is whether `_setStateCallback` is set. -/
def requestStatements (callback : Bool) (c : Command) : List Statement :=
  c.statements ++ .respond :: if callback then [.callBack] else []

/-- A request as a thread on its light. -/
def light (id : UInt8) : Thread (List Statement) Device Event Fault
  | [], _ => .ok none
  | statement :: rest, d => .ok (some (statement.run id d rest))

/-- A request for the light `id` as a thread on the store. -/
def handler (id : UInt8) : Thread (List Statement) (List Device) Event Fault
  | [], _ => .ok none
  | statement :: rest, devices =>
      match devices[id.toNat]? with
      | none => .error .badIndex
      | some d =>
          let (rest, d, events) := statement.run id d rest
          .ok (some (rest, devices.set id.toNat d, events))

variable {callback : Bool} {id : UInt8} {devices devices' : List Device} {d d' : Device}
  {events : List Event} {c c' : Command} {p q : List Statement}

/-! ### One request -/

lemma light_cons (id : UInt8) (statement : Statement) (rest : List Statement) (d : Device) :
    light id (statement :: rest) d = .ok (some ((statement.run id d rest).1,
      (statement.run id d rest).2.1, (statement.run id d rest).2.2)) := rfl

lemma handler_cons (hd : devices[id.toNat]? = some d) (statement : Statement)
    (rest : List Statement) : handler id (statement :: rest) devices =
      .ok (some ((statement.run id d rest).1, devices.set id.toNat (statement.run id d rest).2.1,
        (statement.run id d rest).2.2)) := by
  rw [handler, hd]

lemma getElem?_set_self' (hd : devices[id.toNat]? = some d) (d' : Device) :
    (devices.set id.toNat d')[id.toNat]? = some d' :=
  List.getElem?_set_self (List.getElem?_eq_some_iff.mp hd).1

/-- A request on the store is one on its light. -/
lemma alone_light_of_handler (hd : devices[id.toNat]? = some d)
    (h : Alone (handler id) p devices devices' events) :
    ∃ d', Alone (light id) p d d' events ∧ devices'[id.toNat]? = some d' := by
  induction h generalizing d with
  | @done p devices h =>
      cases p with
      | nil => exact ⟨d, .done rfl, hd⟩
      | cons statement rest =>
          rw [handler_cons hd] at h
          cases h
  | @step p p' devices s₁ _ _ _ h _ ih =>
      cases p with
      | nil => cases h
      | cons statement rest =>
          rw [handler_cons hd] at h
          cases h
          obtain ⟨d', halone, hend⟩ := ih (getElem?_set_self' hd _)
          exact ⟨d', .step rfl halone, hend⟩

/-- The response and the callback of a request. -/
lemma alone_respond (h : Alone (light id) (.respond :: if callback then [.callBack] else [])
    d d' events) : d' = d ∧ events = stateEvents callback id d := by
  cases callback with
  | false =>
      obtain ⟨_, h₁, rfl⟩ := (alone_of_step rfl).mp h
      obtain ⟨rfl, rfl⟩ := (alone_of_done rfl).mp h₁
      exact ⟨rfl, List.append_nil _⟩
  | true =>
      obtain ⟨_, h₁, rfl⟩ := (alone_of_step rfl).mp h
      obtain ⟨_, h₂, rfl⟩ := (alone_of_step rfl).mp h₁
      obtain ⟨rfl, rfl⟩ := (alone_of_done rfl).mp h₂
      exact ⟨rfl, by simp [stateEvents]⟩

/-- **A request by itself** carries out its command and reports the light. -/
theorem alone_light (h : Alone (light id) (requestStatements callback c) d d' events) :
    d' = c.apply d ∧ events = stateEvents callback id (c.apply d) := by
  cases c with
  | bri value =>
      obtain ⟨_, h, rfl⟩ := (alone_of_step rfl).mp h
      obtain ⟨_, h, rfl⟩ := (alone_of_step rfl).mp h
      exact alone_respond h
  | colour rgb =>
      obtain ⟨_, h, rfl⟩ := (alone_of_step rfl).mp h
      obtain ⟨_, h, rfl⟩ := (alone_of_step rfl).mp h
      obtain ⟨_, h, rfl⟩ := (alone_of_step rfl).mp h
      obtain ⟨_, h, rfl⟩ := (alone_of_step rfl).mp h
      exact alone_respond h
  | off =>
      obtain ⟨_, h, rfl⟩ := (alone_of_step rfl).mp h
      exact alone_respond h
  | on =>
      obtain ⟨_, h, rfl⟩ := (alone_of_step rfl).mp h
      obtain ⟨_, h, rfl⟩ := (alone_of_step rfl).mp h
      by_cases h0 : d.value = 0
      · obtain ⟨_, h, rfl⟩ := (alone_of_step (by simp only [if_pos h0]; rfl)).mp h
        simpa [Command.apply, h0] using alone_respond h
      · simp only [if_neg h0] at h
        simpa [Command.apply, h0] using alone_respond h

/-! ### Requests for different lights -/

section Apart

variable {ι : Type} {ids : ι → UInt8}

/-- Requests for different lights are apart: each has its light. -/
lemma apart_handler (hids : Function.Injective ids) :
    Apart (fun i => handler (ids i)) fun i (devices : List Device) =>
      devices[(ids i).toNat]? := by
  refine ⟨fun i p s₁ s₂ p' s₁' o hpart h => ?_, fun i p s₁ s₂ hpart h => ?_,
    fun i p s p' s' o h j hj => ?_⟩
  · cases p with
    | nil => cases h
    | cons statement rest =>
        cases hd : s₁[(ids i).toNat]? with
        | none =>
            rw [handler, hd] at h
            cases h
        | some d =>
            have hd₂ : s₂[(ids i).toNat]? = some d := hpart ▸ hd
            rw [handler_cons hd] at h
            cases h
            refine ⟨_, handler_cons hd₂ statement rest, ?_⟩
            simp only [getElem?_set_self' hd, getElem?_set_self' hd₂]
  · cases p with
    | nil => rfl
    | cons statement rest =>
        cases hd : s₁[(ids i).toNat]? with
        | none => rw [handler, hd] at h; cases h
        | some d => rw [handler_cons hd] at h; cases h
  · cases p with
    | nil => cases h
    | cons statement rest =>
        cases hd : s[(ids i).toNat]? with
        | none => rw [handler, hd] at h; cases h
        | some d =>
            rw [handler_cons hd] at h
            cases h
            have hne : (ids i).toNat ≠ (ids j).toNat := fun heq =>
              hj (hids (UInt8.toNat_inj.mp heq)).symm
            simp only [List.getElem?_set_ne hne]

variable [DecidableEq ι]

/-- A request leaves the lights alone that it does not address. -/
lemma getElem?_of_pool_step {p p' : Pool ι (List Statement) (List Device)} {i : ι}
    {o : List (ι × Event)} {n : ℕ} (hn : ∀ i, (ids i).toNat ≠ n)
    (h : Pool.step (fun i => handler (ids i)) p i = .ok (p', o)) :
    p'.shared[n]? = p.shared[n]? := by
  rw [Pool.step] at h
  cases hp : p.points i with
  | nil =>
      rw [hp] at h
      cases h
      rfl
  | cons statement rest =>
      rw [hp] at h
      cases hd : p.shared[(ids i).toNat]? with
      | none =>
          simp only [handler, hd] at h
          cases h
      | some d =>
          simp only [handler_cons hd] at h
          cases h
          simp only [List.getElem?_set_ne (hn i)]

/-- **Requests for different lights**, any number of them and in any order of their statements:
each of them has done to its light, and answered, what it does by itself, and the lights that
nobody addressed are as they were. -/
theorem clients_apart (callback : Bool) (hids : Function.Injective ids) (cs : ι → Command)
    (devices : List Device) (schedule : List ι) (p : Pool ι (List Statement) (List Device))
    (o : List (ι × Event))
    (hrun : runs (Pool.step fun i => handler (ids i))
      ⟨fun i => requestStatements callback (cs i), devices⟩ schedule = .ok (p, o))
    (hover : ∀ i, p.points i = []) :
    (∀ i d, devices[(ids i).toNat]? = some d →
      p.shared[(ids i).toNat]? = some ((cs i).apply d) ∧
        outputsOf i o = stateEvents callback (ids i) ((cs i).apply d)) ∧
      ∀ n, (∀ i, (ids i).toNat ≠ n) → p.shared[n]? = devices[n]? := by
  refine ⟨fun i d hd => ?_, fun n hn => ?_⟩
  · have hend : handler (ids i) (p.points i) p.shared = .ok none := by rw [hover i, handler]
    obtain ⟨s', halone, hpart⟩ := (apart_handler hids).alone hrun hend rfl
    obtain ⟨d', hlight, hd'⟩ := alone_light_of_handler hd halone
    obtain ⟨rfl, hevents⟩ := alone_light hlight
    exact ⟨hpart.trans hd', hevents⟩
  · exact runs_invariant (I := fun p _ => p.shared[n]? = devices[n]?) (o := [])
      (fun _ _ _ _ _ h hok => (getElem?_of_pool_step hn hok).trans h) rfl hrun

/-- Two lights: one is put off while the other one is dimmed. -/
theorem clients_apart_two :
    ∃ p o, runs (Pool.step fun i : Bool => handler (if i then 1 else 0))
        ⟨fun i => requestStatements false (if i then .off else .bri 7), [lamp, lamp]⟩
        [false, true, false, true, false] = .ok (p, o) ∧
      p.shared[0]? = some ((Command.bri 7).apply lamp) ∧
      outputsOf true o = stateEvents false 1 (Command.off.apply lamp) := by
  have hids : Function.Injective fun i : Bool => if i then (1 : UInt8) else 0 := by decide
  refine ⟨_, _, rfl, ?_⟩
  have h := clients_apart false hids (fun i => if i then .off else .bri 7) [lamp, lamp]
    [false, true, false, true, false] _ _ rfl fun i => by cases i <;> rfl
  exact ⟨(h.1 false lamp rfl).1, (h.1 true lamp rfl).2⟩

end Apart

/-! ### Two requests for one light -/

section Same

/-- What a statement writes to its light. -/
def Statement.write (statement : Statement) (d : Device) : Device := (statement.run 0 d []).2.1

@[simp] lemma Statement.run_write (statement : Statement) (rest : List Statement) :
    (statement.run id d rest).2.1 = statement.write d := by
  cases statement <;> rfl

/-- Behind a statement there is left what was left, or the assignment of `255`. -/
lemma Statement.mem_of_mem_run {statement s : Statement} {rest : List Statement}
    (h : s ∈ (statement.run id d rest).1) : s ∈ rest ∨ s = .assignValue 255 := by
  cases statement with
  | testValue =>
      by_cases h0 : d.value = 0
      · rw [Statement.run, if_pos h0] at h
        exact (List.mem_cons.mp h).symm
      · rw [Statement.run, if_neg h0] at h
        exact Or.inl h
  | _ => exact Or.inl h

lemma Statement.mem_run_of_mem (statement : Statement) {s : Statement} {rest : List Statement}
    (h : s ∈ rest) : s ∈ (statement.run id d rest).1 := by
  cases statement with
  | testValue =>
      by_cases h0 : d.value = 0
      · rw [Statement.run, if_pos h0]
        exact List.mem_cons_of_mem _ h
      · rwa [Statement.run, if_neg h0]
  | _ => exact h

lemma set_self (hd : devices[id.toNat]? = some d) : devices.set id.toNat d = devices := by
  obtain ⟨hlt, rfl⟩ := List.getElem?_eq_some_iff.mp hd
  exact List.set_getElem_self hlt

/-- Two requests on the store are two on their light. -/
lemma interleaved_handler_iff (hd : devices[id.toNat]? = some d) :
    Interleaved (handler id) (handler id) p q devices devices' events ↔
      ∃ d', Interleaved (light id) (light id) p q d d' events ∧
        devices' = devices.set id.toNat d' := by
  constructor
  · intro h
    induction h generalizing d with
    | @done p q devices hp hq =>
        refine ⟨d, ?_, (set_self hd).symm⟩
        cases p with
        | cons statement rest => rw [handler_cons hd] at hp; cases hp
        | nil =>
            cases q with
            | cons statement rest => rw [handler_cons hd] at hq; cases hq
            | nil => exact .done rfl rfl
    | @left p p' q devices _ _ _ _ h _ ih =>
        cases p with
        | nil => cases h
        | cons statement rest =>
            rw [handler_cons hd] at h
            cases h
            obtain ⟨d', hl, rfl⟩ := ih (getElem?_set_self' hd _)
            exact ⟨d', .left rfl hl, List.set_set _⟩
    | @right p q q' devices _ _ _ _ h _ ih =>
        cases q with
        | nil => cases h
        | cons statement rest =>
            rw [handler_cons hd] at h
            cases h
            obtain ⟨d', hl, rfl⟩ := ih (getElem?_set_self' hd _)
            exact ⟨d', .right rfl hl, List.set_set _⟩
  · rintro ⟨d', h, rfl⟩
    induction h generalizing devices with
    | @done p q d hp hq =>
        rw [set_self hd]
        cases p with
        | cons statement rest => cases hp
        | nil =>
            cases q with
            | cons statement rest => cases hq
            | nil => exact .done rfl rfl
    | @left p p' q d d₁ d' _ _ h _ ih =>
        cases p with
        | nil => cases h
        | cons statement rest =>
            rw [light_cons] at h
            cases h
            have hrun := ih (getElem?_set_self' hd _)
            rw [List.set_set] at hrun
            exact .left (handler_cons hd statement rest) hrun
    | @right p q q' d d₁ d' _ _ h _ ih =>
        cases q with
        | nil => cases h
        | cons statement rest =>
            rw [light_cons] at h
            cases h
            have hrun := ih (getElem?_set_self' hd _)
            rw [List.set_set] at hrun
            exact .right (handler_cons hd statement rest) hrun

/-- A step of a request on its light. -/
lemma light_ok_inv {p' : List Statement} {o : List Event}
    (h : light id p d = .ok (some (p', d', o))) :
    ∃ statement rest, p = statement :: rest ∧ p' = (statement.run id d rest).1 ∧
      d' = statement.write d := by
  cases p with
  | nil => cases h
  | cons statement rest =>
      rw [light_cons] at h
      cases h
      exact ⟨statement, rest, rfl, rfl, statement.run_write rest⟩

/-- **An invariant of two requests** on one light: it is enough that a statement of the first one
keeps it. -/
lemma kept_of_interleaved {I : List Statement → List Statement → Device → Prop}
    (hswap : ∀ p q d, I p q d → I q p d)
    (hstep : ∀ statement rest q d, I (statement :: rest) q d →
      I (statement.run id d rest).1 q (statement.write d))
    (h : I p q d) (hrun : Interleaved (light id) (light id) p q d d' events) : I [] [] d' := by
  induction hrun with
  | @done p q d hp hq =>
      cases p with
      | cons statement rest => cases hp
      | nil =>
          cases q with
          | cons statement rest => cases hq
          | nil => exact h
  | left hlight _ ih =>
      obtain ⟨statement, rest, rfl, rfl, rfl⟩ := light_ok_inv hlight
      exact ih (hstep _ _ _ _ h)
  | right hlight _ ih =>
      obtain ⟨statement, rest, rfl, rfl, rfl⟩ := light_ok_inv hlight
      exact ih (hswap _ _ _ (hstep _ _ _ _ (hswap _ _ _ h)))

variable {α : Type}

/-- A field that statements write to with a value of their own, each command at most once. -/
structure Settable (field : Device → α) : Prop where
  push : ∀ d, field ((Statement.assignValue 255).write d) = field d
  write : ∀ c : Command, ∀ statement ∈ c.statements, ∀ d,
    field (statement.write d) = field d ∨ ∀ d₁, field (statement.write d) = field (c.apply d₁)
  apply : ∀ c : Command, (∀ d, field (c.apply d) = field d) ∨
    ∃ statement ∈ c.statements, ∀ d d₁, field (statement.write d) = field (c.apply d₁)

/-- What the statements that are left to two requests keep, and what holds already or is brought
about by one of them. -/
structure Toward (T : Device → Prop) (p q : List Statement) (d : Device) : Prop where
  push : ∀ d, T d → T ((Statement.assignValue 255).write d)
  keeps : ∀ statement, statement ∈ p ∨ statement ∈ q → ∀ d, T d → T (statement.write d)
  brought : T d ∨ ∃ statement, (statement ∈ p ∨ statement ∈ q) ∧ ∀ d, T (statement.write d)

variable {T : Device → Prop}

lemma Toward.swap (h : Toward T p q d) : Toward T q p d :=
  ⟨h.push, fun s hs => h.keeps s hs.symm, h.brought.imp_right fun ⟨s, hs, hT⟩ => ⟨s, hs.symm, hT⟩⟩

lemma Toward.step {statement : Statement} {rest : List Statement}
    (h : Toward T (statement :: rest) q d) :
    Toward T (statement.run id d rest).1 q (statement.write d) := by
  refine ⟨h.push, fun s hs d hd => ?_, ?_⟩
  · rcases hs with hs | hs
    · rcases Statement.mem_of_mem_run hs with hs | rfl
      · exact h.keeps s (Or.inl (List.mem_cons_of_mem _ hs)) d hd
      · exact h.push d hd
    · exact h.keeps s (Or.inr hs) d hd
  · rcases h.brought with hT | ⟨s, hs, hT⟩
    · exact Or.inl (h.keeps statement (Or.inl List.mem_cons_self) d hT)
    · rcases hs with hs | hs
      · rcases List.mem_cons.mp hs with rfl | hs
        · exact Or.inl (hT d)
        · exact Or.inr ⟨s, Or.inl (statement.mem_run_of_mem hs), hT⟩
      · exact Or.inr ⟨s, Or.inr hs, hT⟩

/-- Behind both requests it holds. -/
lemma Toward.holds (h : Toward T p q d)
    (hrun : Interleaved (light id) (light id) p q d d' events) : T d' := by
  have hend := kept_of_interleaved (I := Toward T) (fun _ _ _ h => h.swap)
    (fun _ _ _ _ h => h.step) h hrun
  simpa using hend.brought

lemma mem_requestStatements {statement : Statement}
    (h : statement ∈ requestStatements callback c) :
    statement ∈ c.statements ∨ ∀ d, statement.write d = d := by
  rcases List.mem_append.mp h with h | h
  · exact Or.inl h
  · cases callback with
    | false =>
        obtain rfl := List.mem_singleton.mp h
        exact Or.inr fun d => rfl
    | true =>
        rcases List.mem_pair.mp h with rfl | rfl
        · exact Or.inr fun d => rfl
        · exact Or.inr fun d => rfl

/-- **A field** that both requests write to, or one of them, is at the end what one of the two
orders leaves in it. -/
lemma Settable.either {field : Device → α} (hf : Settable field)
    (hrun : Interleaved (light id) (light id) (requestStatements callback c)
      (requestStatements callback c') d d' events) :
    field d' = field (c'.apply (c.apply d)) ∨ field d' = field (c.apply (c'.apply d)) := by
  refine Toward.holds (T := fun x => field x = field (c'.apply (c.apply d)) ∨
    field x = field (c.apply (c'.apply d))) ⟨fun x hx => by rwa [hf.push], ?_, ?_⟩ hrun
  · rintro s (hs | hs) x hx
    · rcases mem_requestStatements hs with hs | hs
      · rcases hf.write c s hs x with h | h
        · rwa [h]
        · exact Or.inr (h _)
      · rwa [hs]
    · rcases mem_requestStatements hs with hs | hs
      · rcases hf.write c' s hs x with h | h
        · rwa [h]
        · exact Or.inl (h _)
      · rwa [hs]
  · rcases hf.apply c with h | ⟨s, hs, h⟩
    · rcases hf.apply c' with h' | ⟨s, hs, h'⟩
      · exact Or.inl (Or.inl (by rw [h', h]))
      · exact Or.inr ⟨s, Or.inr (List.mem_append_left _ hs), fun x => Or.inl (h' x _)⟩
    · exact Or.inr ⟨s, Or.inl (List.mem_append_left _ hs), fun x => Or.inr (h x _)⟩

/-- A field that no statement writes to. -/
lemma settable_of_kept {field : Device → α}
    (hwrite : ∀ (s : Statement) (d : Device), field (s.write d) = field d)
    (happly : ∀ (c : Command) (d : Device), field (c.apply d) = field d) : Settable field :=
  ⟨hwrite _, fun _ s _ d => Or.inl (hwrite s d), fun c => Or.inl (happly c)⟩

lemma settable_name : Settable Device.name :=
  settable_of_kept (fun s d => by cases s <;> rfl) Command.apply_name

lemma settable_uniqueid : Settable Device.uniqueid :=
  settable_of_kept (fun s d => by cases s <;> rfl) Command.apply_uniqueid

lemma settable_state : Settable Device.state := by
  refine ⟨fun d => rfl, fun c => ?_, fun c => ?_⟩
  · cases c <;> simp [Command.statements, Statement.write, Statement.run, Command.apply]
  · cases c <;> simp [Command.statements, Statement.write, Statement.run, Command.apply]

/-- The three bytes of a colour. -/
inductive Component where
  | red
  | green
  | blue

def Component.of : Component → Rgb → UInt8
  | .red, rgb => rgb.r
  | .green, rgb => rgb.g
  | .blue, rgb => rgb.b

/-- Each of them is written to by one statement of a colour. -/
lemma settable_component (k : Component) : Settable fun d => k.of d.rgb := by
  refine ⟨fun d => rfl, fun c => ?_, fun c => ?_⟩
  · cases k <;> cases c <;>
      simp [Command.statements, Statement.write, Statement.run, Command.apply, Component.of]
  · cases k <;> cases c <;>
      simp [Command.statements, Statement.write, Statement.run, Command.apply, Component.of]

/-! The brightness, which `on` tests before it writes to it. -/

/-- The brightness goes to one of the values of `V`: all that is assigned to it is, it is one or
is still to be assigned, and a test finds `0` only where `255` is one. -/
structure TowardValue (V : UInt8 → Prop) (p q : List Statement) (d : Device) : Prop where
  assigned : ∀ v, .assignValue v ∈ p ∨ .assignValue v ∈ q → V v
  brought : V d.value ∨ (∃ v, .assignValue v ∈ p ∨ .assignValue v ∈ q) ∨
    d.value = 0 ∧ (.testValue ∈ p ∨ .testValue ∈ q)
  tested : .testValue ∈ p ∨ .testValue ∈ q → V 255 ∨ d.value ≠ 0 ∧ ¬ V 0

variable {V : UInt8 → Prop}

lemma TowardValue.swap (h : TowardValue V p q d) : TowardValue V q p d :=
  ⟨fun v hv => h.assigned v hv.symm,
    h.brought.imp_right fun hb => hb.imp (fun ⟨v, hv⟩ => ⟨v, hv.symm⟩) fun ht => ⟨ht.1, ht.2.symm⟩,
    fun ht => h.tested ht.symm⟩

lemma TowardValue.step {statement : Statement} {rest : List Statement}
    (h : TowardValue V (statement :: rest) q d) :
    TowardValue V (statement.run id d rest).1 q (statement.write d) := by
  have hsub : ∀ s, s ∈ rest ∨ s ∈ q → s ∈ statement :: rest ∨ s ∈ q :=
    fun s hs => hs.imp_left (List.mem_cons_of_mem _)
  cases statement with
  | assignValue v =>
      have hv : V v := h.assigned v (Or.inl List.mem_cons_self)
      refine ⟨fun w hw => h.assigned w (hsub _ hw), Or.inl hv, fun ht => ?_⟩
      exact (h.tested (hsub _ ht)).imp_right fun hn => ⟨fun h0 : v = 0 => hn.2 (h0 ▸ hv), hn.2⟩
  | testValue =>
      have htested := h.tested (Or.inl List.mem_cons_self)
      by_cases h0 : d.value = 0
      · have h255 : V 255 := htested.resolve_right fun hn => hn.1 h0
        rw [Statement.run, if_pos h0]
        refine ⟨?_, Or.inr (Or.inl ⟨255, Or.inl List.mem_cons_self⟩), fun _ => Or.inl h255⟩
        rintro v (hv | hv)
        · rcases List.mem_cons.mp hv with hv | hv
          · cases hv
            exact h255
          · exact h.assigned v (hsub _ (Or.inl hv))
        · exact h.assigned v (Or.inr hv)
      · rw [Statement.run, if_neg h0]
        refine ⟨fun v hv => h.assigned v (hsub _ hv), ?_, fun ht => h.tested (hsub _ ht)⟩
        rcases h.brought with hV | ⟨v, hv⟩ | ⟨hz, -⟩
        · exact Or.inl hV
        · exact Or.inr (Or.inl ⟨v, by simpa using hv⟩)
        · exact absurd hz h0
  | _ =>
      refine ⟨fun v hv => h.assigned v (hsub _ hv), ?_, fun ht => h.tested (hsub _ ht)⟩
      simpa [Statement.write, Statement.run] using h.brought

lemma TowardValue.holds (h : TowardValue V p q d)
    (hrun : Interleaved (light id) (light id) p q d d' events) : V d'.value := by
  have hend := kept_of_interleaved (I := TowardValue V) (fun _ _ _ h => h.swap)
    (fun _ _ _ _ h => h.step) h hrun
  simpa using hend.brought

/-- The pairs of commands that leave no mixture behind: two brightnesses that are both `0` or both
not, `on` beside the brightness `255`, or beside another one where its test finds no `0`, two
colours that differ in one component at most, and every other pair. -/
def Agreeable (d : Device) : Command → Command → Prop
  | .bri v, .bri w => v > 0 ↔ w > 0
  | .bri v, .on | .on, .bri v => v = 255 ∨ v ≠ 0 ∧ d.value ≠ 0
  | .colour a, .colour b =>
      (a.r = b.r ∧ a.g = b.g) ∨ (a.r = b.r ∧ a.b = b.b) ∨ (a.g = b.g ∧ a.b = b.b)
  | _, _ => True

lemma assignValue_mem {v : UInt8} :
    .assignValue v ∈ requestStatements callback c ↔ c = .bri v := by
  cases callback <;> cases c <;> simp [requestStatements, Command.statements, eq_comm]

lemma testValue_mem : .testValue ∈ requestStatements callback c ↔ c = .on := by
  cases callback <;> cases c <;> simp [requestStatements, Command.statements]

lemma Agreeable.swap (h : Agreeable d c c') : Agreeable d c' c := by
  cases c <;> cases c' <;> simp_all [Agreeable, eq_comm]

/-- A test of the brightness finds `0` only where `255` is what it comes to. -/
lemma Agreeable.tested (h : Agreeable d .on c) :
    (c.apply (Command.on.apply d)).value = 255 ∨ d.value ≠ 0 ∧
      (c.apply (Command.on.apply d)).value ≠ 0 ∧ (Command.on.apply (c.apply d)).value ≠ 0 := by
  cases c with
  | bri v =>
      rcases h with rfl | ⟨hv, hd⟩
      · exact Or.inl rfl
      · exact Or.inr ⟨hd, hv, by simp [Command.apply, hv]⟩
  | _ => by_cases hd : d.value = 0 <;> simp [Command.apply, hd]

lemma Agreeable.value (h : Agreeable d c c')
    (hrun : Interleaved (light id) (light id) (requestStatements callback c)
      (requestStatements callback c') d d' events) :
    d'.value = (c'.apply (c.apply d)).value ∨ d'.value = (c.apply (c'.apply d)).value := by
  refine TowardValue.holds (V := fun v => v = (c'.apply (c.apply d)).value ∨
    v = (c.apply (c'.apply d)).value) ⟨?_, ?_, ?_⟩ hrun
  · simp only [assignValue_mem]
    rintro v (rfl | rfl)
    · exact Or.inr rfl
    · exact Or.inl rfl
  · simp only [assignValue_mem, testValue_mem]
    by_cases h0 : d.value = 0 <;> cases c <;> cases c' <;> simp [Command.apply, h0]
  · simp only [testValue_mem]
    rintro (rfl | rfl)
    · rcases h.tested with ht | ⟨hd, h₁, h₂⟩
      · exact Or.inl (Or.inl ht.symm)
      · exact Or.inr ⟨hd, fun hor => hor.elim (fun he => h₁ he.symm) fun he => h₂ he.symm⟩
    · rcases h.swap.tested with ht | ⟨hd, h₁, h₂⟩
      · exact Or.inl (Or.inr ht.symm)
      · exact Or.inr ⟨hd, fun hor => hor.elim (fun he => h₂ he.symm) fun he => h₁ he.symm⟩

/-- Each field is as one of the two orders leaves it, and these differ in one field at most. -/
lemma Agreeable.either (h : Agreeable d c c')
    (hrun : Interleaved (light id) (light id) (requestStatements callback c)
      (requestStatements callback c') d d' events) :
    d' = c'.apply (c.apply d) ∨ d' = c.apply (c'.apply d) := by
  have hname := settable_name.either hrun
  have huniqueid := settable_uniqueid.either hrun
  have hstate := settable_state.either hrun
  have hred := (settable_component .red).either hrun
  have hgreen := (settable_component .green).either hrun
  have hblue := (settable_component .blue).either hrun
  have hvalue := h.value hrun
  clear hrun
  obtain ⟨name, state, value, ⟨r, g, b⟩, uniqueid⟩ := d'
  simp only [Component.of] at hred hgreen hblue
  cases c <;> cases c' <;> simp_all [Command.apply]
  case bri.bri v w =>
    have hvw : decide (0 < v) = decide (0 < w) := decide_eq_decide.mpr h
    rw [hvw, or_self] at hstate
    exact hvalue.imp (fun hv => ⟨hstate, hv⟩) fun hv => ⟨hvw ▸ hstate, hv⟩
  case bri.on v =>
    rcases h with rfl | ⟨hv, -⟩
    · simp_all
    · simp_all [UInt8.pos_iff_ne_zero]
  case on.bri v =>
    rcases h with rfl | ⟨hv, -⟩
    · simp_all
    · simp_all
  case colour.colour rgb rgb' =>
    obtain ⟨r₁, g₁, b₁⟩ := rgb
    obtain ⟨r₂, g₂, b₂⟩ := rgb'
    simp only [Rgb.mk.injEq]
    rcases h with ⟨rfl, rfl⟩ | ⟨rfl, rfl⟩ | ⟨rfl, rfl⟩ <;> simp_all
  case off.on =>
    have hv := hvalue.elim (fun hv => hv) fun hv => hv
    cases state
    · exact Or.inr ⟨rfl, hv⟩
    · exact Or.inl ⟨rfl, hv⟩
  case on.off =>
    have hv := hvalue.elim (fun hv => hv) fun hv => hv
    cases state
    · exact Or.inl ⟨rfl, hv⟩
    · exact Or.inr ⟨rfl, hv⟩

/-- The response and the callback leave the light alone. -/
lemma alone_respond_light (callback : Bool) (id : UInt8) (d : Device) :
    ∃ events, Alone (light id) (.respond :: if callback then [.callBack] else []) d d events := by
  cases callback with
  | false => exact ⟨_, .step rfl (.done rfl)⟩
  | true => exact ⟨_, .step rfl (.step rfl (.done rfl))⟩

/-- One request behind the assignments of the other. -/
lemma light_ends (callback : Bool) (id : UInt8) (d : Device) :
    ∃ events, Interleaved (light id) (light id)
      (.respond :: if callback then [.callBack] else [])
      (.respond :: if callback then [.callBack] else []) d d events := by
  obtain ⟨events, h⟩ := alone_respond_light callback id d
  refine ⟨_, Interleaved.of_alone (fun t s s' hs => ?_) h h⟩
  cases t with
  | nil => rfl
  | cons statement rest => cases hs

/-- All interleavings of the two requests end as one of the two orders does. -/
def InSomeOrder (callback : Bool) (id : UInt8) (d : Device) (c c' : Command) : Prop :=
  ∀ d' events, Interleaved (light id) (light id) (requestStatements callback c)
    (requestStatements callback c') d d' events →
    d' = c'.apply (c.apply d) ∨ d' = c.apply (c'.apply d)

lemma InSomeOrder.swap (h : InSomeOrder callback id d c c') : InSomeOrder callback id d c' c :=
  fun _ _ hrun => (h _ _ hrun.swap).symm

/-- `bri` between the two assignments of another `bri`. -/
lemma InSomeOrder.bri_bri {v w : UInt8} (h : InSomeOrder callback id d (.bri v) (.bri w)) :
    v > 0 ↔ w > 0 := by
  obtain ⟨events, hend⟩ := light_ends callback id
    { d with value := v, state := decide (w > 0) }
  have hrun := h _ _ (.right rfl (.left rfl (.left rfl (.right rfl hend))))
  rcases hrun with hrun | hrun
  · have hv : v = w := congrArg Device.value hrun
    rw [hv]
  · have hs : decide (w > 0) = decide (v > 0) := congrArg Device.state hrun
    exact (decide_eq_decide.mp hs).symm

/-- `on` between the two assignments of `bri`, or `bri` behind the test of `on`. -/
lemma InSomeOrder.bri_on {v : UInt8} (h : InSomeOrder callback id d (.bri v) .on) :
    v = 255 ∨ v ≠ 0 ∧ d.value ≠ 0 := by
  by_cases hv : v = 0
  · subst hv
    obtain ⟨events, hend⟩ := light_ends callback id
      { d with value := 255, state := decide ((0 : UInt8) > 0) }
    have hrun := h _ _ (.left rfl (.right rfl (.right rfl (.right rfl (.left rfl hend)))))
    rcases hrun with hrun | hrun
    · exact absurd (congrArg Device.state hrun) (by simp [Command.apply])
    · exact absurd (congrArg Device.value hrun) (by simp [Command.apply])
  · by_cases h0 : d.value = 0
    · obtain ⟨events, hend⟩ := light_ends callback id
        { d with value := 255, state := decide (v > 0) }
      have htest : light id (.testValue :: .respond :: if callback then [.callBack] else [])
          { d with state := true } = .ok (some (.assignValue 255 :: .respond ::
            if callback then [.callBack] else [], { d with state := true }, [])) := by
        rw [light_cons, Statement.run, if_pos h0]
      have hrun := h _ _ (.right rfl (.right htest (.left rfl (.left rfl (.right rfl hend)))))
      have h255 : (255 : UInt8) = v := by
        rcases hrun with hrun | hrun
        · have hval := congrArg Device.value hrun
          simpa [Command.apply, hv] using hval
        · exact congrArg Device.value hrun
      exact Or.inl h255.symm
    · exact Or.inr ⟨hv, h0⟩

/-- A colour between the assignments of another one. -/
lemma InSomeOrder.colour_colour {a b : Rgb}
    (h : InSomeOrder callback id d (.colour a) (.colour b)) :
    (a.r = b.r ∧ a.g = b.g) ∨ (a.r = b.r ∧ a.b = b.b) ∨ (a.g = b.g ∧ a.b = b.b) := by
  -- behind the first component, and behind the second one
  obtain ⟨events, hend⟩ := light_ends callback id
    { d with state := true, rgb := ⟨a.r, b.g, b.b⟩ }
  have hred := h _ _ (.right rfl (.right rfl (.left rfl (.left rfl (.left rfl (.left rfl
    (.right rfl (.right rfl hend))))))))
  obtain ⟨events, hend⟩ := light_ends callback id
    { d with state := true, rgb := ⟨a.r, a.g, b.b⟩ }
  have hgreen := h _ _ (.right rfl (.right rfl (.right rfl (.left rfl (.left rfl (.left rfl
    (.left rfl (.right rfl hend))))))))
  obtain ⟨r, g, b₁⟩ := a
  obtain ⟨r', g', b₂⟩ := b
  simp only [Command.apply, Device.mk.injEq, Rgb.mk.injEq, true_and, and_true] at hred hgreen ⊢
  tauto

/-- **Two requests for one light**: in every order of their statements they leave it as one of
them behind the other does, exactly for the pairs of `Agreeable`. -/
theorem clients_agree_iff (callback : Bool) (id : UInt8) (devices : List Device) (d : Device)
    (c c' : Command) (hd : devices[id.toNat]? = some d) :
    (∀ devices' events, Interleaved (handler id) (handler id) (requestStatements callback c)
        (requestStatements callback c') devices devices' events →
      devices' = (devices.modify id.toNat c.apply).modify id.toNat c'.apply ∨
        devices' = (devices.modify id.toNat c'.apply).modify id.toNat c.apply) ↔
      Agreeable d c c' := by
  obtain ⟨hlt, hget⟩ := List.getElem?_eq_some_iff.mp hd
  have horder : ∀ c c' : Command, (devices.modify id.toNat c.apply).modify id.toNat c'.apply =
      devices.set id.toNat (c'.apply (c.apply d)) := by
    intro c c'
    rw [List.modify_modify_eq, List.modify_eq_set_get _ hlt, List.get_eq_getElem, hget]
    rfl
  have hset : ∀ x y, devices.set id.toNat x = devices.set id.toNat y ↔ x = y := by
    intro x y
    constructor
    · intro h
      have hx := getElem?_set_self' hd x
      rw [h, getElem?_set_self' hd y] at hx
      exact (Option.some.inj hx).symm
    · rintro rfl
      rfl
  have hagree : (∀ devices' events, Interleaved (handler id) (handler id)
        (requestStatements callback c) (requestStatements callback c') devices devices' events →
      devices' = (devices.modify id.toNat c.apply).modify id.toNat c'.apply ∨
        devices' = (devices.modify id.toNat c'.apply).modify id.toNat c.apply) ↔
      InSomeOrder callback id d c c' := by
    simp only [horder, interleaved_handler_iff hd]
    constructor
    · intro h d' events hrun
      simpa only [hset] using h _ _ ⟨d', hrun, rfl⟩
    · rintro h _ events ⟨d', hrun, rfl⟩
      simpa only [hset] using h d' events hrun
  rw [hagree]
  constructor
  · intro h
    cases c <;> cases c'
    case bri.bri => exact h.bri_bri
    case bri.on => exact h.bri_on
    case on.bri => exact h.swap.bri_on
    case colour.colour => exact h.colour_colour
    all_goals trivial
  · exact fun h d' events hrun => h.either hrun

/-- A light that is put out and on at once can stay out with the brightness of one that is on. -/
theorem clients_agree_iff_lamp :
    ¬ ∀ devices' events, Interleaved (handler 0) (handler 0) (requestStatements true (.bri 0))
        (requestStatements true .on) [lamp] devices' events →
      devices' = ([lamp].modify 0 (Command.bri 0).apply).modify 0 Command.on.apply ∨
        devices' = ([lamp].modify 0 Command.on.apply).modify 0 (Command.bri 0).apply := by
  intro h
  rcases (clients_agree_iff true 0 [lamp] lamp (.bri 0) .on rfl).mp h with h | h
  · cases h
  · exact h.1 rfl

end Same

end FauxmoLinux
