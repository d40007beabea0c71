import FauxmoLinux.Bridge.Control

/-!
Devices by their ids and by their names.

* `Change`, `Change.effect`: the changes there are for ids and for names alike, and what takes
  the place of the changed device;
* `IdOp`, `IdOp.run_of_eq`, `IdOp.outside_iff`: the operations on an id, on a device of the store
  and on none; `setDeviceUniqueId` alone does not look whether there is one;
* `IdsAgree`, `NamesAgree`, `addressed_iff`: ids and names lead to the devices they stand for on
  exactly the stores of at most `255` devices.
-/

namespace FauxmoLinux

/-! ### Changes of one device -/

/-- A change of one device, which is addressed by an id or by its name. -/
inductive Change where
  | rename (deviceName : CString)
  | remove
  | setState (state : Bool) (value : UInt8)
  | setStateRgb (state : Bool) (value : UInt8) (rgb : Rgb)

namespace Change

/-- The overload on an id. -/
def byId (devices : List Device) (id : UInt8) : Change → List Device × Bool
  | rename name => renameDevice devices id name
  | remove => removeDevice devices id
  | setState state value => FauxmoLinux.setState devices id state value
  | setStateRgb state value rgb => FauxmoLinux.setStateRgb devices id state value rgb

/-- The overload on a name. -/
def byName (devices : List Device) (deviceName : CString) : Change → List Device × Bool
  | rename name => renameDeviceByName devices deviceName name
  | remove => removeDeviceByName devices deviceName
  | setState state value => setStateByName devices deviceName state value
  | setStateRgb state value rgb => setStateRgbByName devices deviceName state value rgb

/-- What the change makes of the device: nothing is left of one that is removed. -/
def effect (d : Device) : Change → List Device
  | rename name => [{ d with name := name }]
  | remove => []
  | setState state value => [{ d with state := state, value := value }]
  | setStateRgb state value rgb => [{ d with state := state, value := value, rgb := rgb }]

end Change

lemma modify_append_cons (pre : List Device) (d : Device) (post : List Device)
    (f : Device → Device) : (pre ++ d :: post).modify pre.length f = pre ++ f d :: post := by
  rw [List.modify_eq_take_cons_drop (by simp)]
  simp

/-- **A change on an id** reaches the device at that index and no other. -/
lemma Change.byId_of_eq {pre : List Device} {id : UInt8} (h : id.toNat = pre.length)
    (d : Device) (post : List Device) (c : Change) :
    c.byId (pre ++ d :: post) id = (pre ++ c.effect d ++ post, true) := by
  have hlt : id.toNat < (pre ++ d :: post).length := by simp [h]
  have hset : ∀ state value, FauxmoLinux.setState (pre ++ d :: post) id state value =
      (pre ++ { d with state := state, value := value } :: post, true) := by
    intro state value
    rw [FauxmoLinux.setState, if_pos hlt, h, modify_append_cons]
  cases c with
  | rename name =>
      rw [byId, renameDevice, if_pos hlt, h, modify_append_cons]
      simp [effect]
  | remove =>
      rw [byId, removeDevice, if_pos hlt, h, List.eraseIdx_append_of_length_le le_rfl]
      simp [effect]
  | setState state value =>
      rw [byId, hset]
      simp [effect]
  | setStateRgb state value rgb =>
      rw [byId, FauxmoLinux.setStateRgb, if_neg (not_le.mpr hlt)]
      simp only [hset, if_true]
      rw [h, modify_append_cons]
      simp [effect]

/-- A change on an id that no device has. -/
lemma Change.byId_of_le {devices : List Device} {id : UInt8} (h : devices.length ≤ id.toNat)
    (c : Change) : c.byId devices id = (devices, false) := by
  have hlt : ¬ id.toNat < devices.length := not_lt.mpr h
  cases c with
  | rename name => exact if_neg hlt
  | remove => exact if_neg hlt
  | setState state value => exact if_neg hlt
  | setStateRgb state value rgb => exact if_pos h

/-! ### The operations on an id -/

/-- What an operation on an id gives back. -/
inductive Answer where
  | flag (success : Bool)
  | buffer (deviceName : Option Bytes)
  | void
  deriving DecidableEq

/-- A public operation on an id, with its other arguments. -/
inductive IdOp where
  | change (c : Change)
  | setDeviceUniqueId (uniqueid : CString)
  | getDeviceName (deviceName : Option Bytes) (len : ℕ)

namespace IdOp

/-- The operation. A device slot outside the vector cannot be accessed without a fault. -/
def run (devices : List Device) (id : UInt8) : IdOp → Except Fault (List Device × Answer)
  | change c => .ok ((c.byId devices id).1, .flag (c.byId devices id).2)
  | setDeviceUniqueId uniqueid => do
      let devices ← FauxmoLinux.setDeviceUniqueId devices id uniqueid
      return (devices, .void)
  | getDeviceName deviceName len => do
      let buffer ← FauxmoLinux.getDeviceName devices id deviceName len
      return (devices, .buffer buffer)

/-- The operation on the device it is for: what takes its place, and the answer. -/
def effect (d : Device) : IdOp → Except Fault (List Device × Answer)
  | change c => .ok (c.effect d, .flag true)
  | setDeviceUniqueId uniqueid => .ok ([{ d with uniqueid := strncpy _ uniqueid }], .void)
  | getDeviceName deviceName len => do
      let buffer ← FauxmoLinux.getDeviceName [d] 0 deviceName len
      return ([d], .buffer buffer)

/-- The answer without a device: `false`, or the buffer as it was. -/
def refusal : IdOp → Answer
  | change _ => .flag false
  | setDeviceUniqueId _ => .void
  | getDeviceName deviceName _ => .buffer deviceName

/-- **An operation on an id** reaches the device at that index and no other. -/
lemma run_of_eq {pre : List Device} {id : UInt8} (h : id.toNat = pre.length) (d : Device)
    (post : List Device) (op : IdOp) : op.run (pre ++ d :: post) id =
      (op.effect d).map fun r => (pre ++ r.1 ++ post, r.2) := by
  cases op with
  | change c =>
      rw [run, Change.byId_of_eq h]
      rfl
  | setDeviceUniqueId uniqueid =>
      have hlt : id.toNat < (pre ++ d :: post).length := by simp [h]
      rw [run, FauxmoLinux.setDeviceUniqueId, modifyDevice_of_lt _ hlt, h, modify_append_cons]
      simp [effect, Except.map, pure, Except.pure]
  | getDeviceName deviceName len =>
      have hget : (pre ++ d :: post)[id.toNat]? = some d := by simp [h]
      have hsame : FauxmoLinux.getDeviceName (pre ++ d :: post) id deviceName len =
          FauxmoLinux.getDeviceName [d] 0 deviceName len := by
        rw [FauxmoLinux.getDeviceName, hget]
        rfl
      rw [run, hsame, effect]
      cases FauxmoLinux.getDeviceName [d] 0 deviceName len with
      | error e => rfl
      | ok buffer => simp [Except.map, pure, Except.pure]

/-- **Operations on an id that no device has** leave the store alone without access to a slot,
all but `setDeviceUniqueId`. -/
theorem outside_iff {devices : List Device} {id : UInt8} (h : devices.length ≤ id.toNat)
    (op : IdOp) : op.run devices id = .ok (devices, op.refusal) ↔
      ∀ uniqueid, op ≠ .setDeviceUniqueId uniqueid := by
  cases op with
  | change c =>
      rw [run, c.byId_of_le h]
      simp [refusal]
  | setDeviceUniqueId uniqueid =>
      rw [run, FauxmoLinux.setDeviceUniqueId, modifyDevice_of_le _ h]
      simp
  | getDeviceName deviceName len =>
      rw [run, FauxmoLinux.getDeviceName, List.getElem?_eq_none h]
      simp [refusal, pure, Except.pure]

/-- The id of a device that was removed. -/
theorem outside_removed : (IdOp.change .remove).run
    (removeDevice (addDevices homeEnv.iface [(zeroSlot, fernseher)]) 0).1 0 =
      .ok ((removeDevice (addDevices homeEnv.iface [(zeroSlot, fernseher)]) 0).1, .flag false) :=
  (outside_iff (by decide) (.change .remove)).mpr (by simp)

/-- A `uniqueid` for a device that was removed is written outside the vector. -/
theorem not_outside_setDeviceUniqueId :
    (IdOp.setDeviceUniqueId ⟨bytes "01", by decide⟩).run
        (removeDevice (addDevices homeEnv.iface [(zeroSlot, fernseher)]) 0).1 0 ≠
      .ok ((removeDevice (addDevices homeEnv.iface [(zeroSlot, fernseher)]) 0).1, .void) :=
  fun h => nomatch h

end IdOp

/-! ### Names -/

/-- The id of a name is the index of the first device that has it. -/
lemma getDeviceId_append_cons {pre : List Device} {d : Device}
    (hpre : ∀ e ∈ pre, e.name ≠ d.name) (post : List Device) :
    getDeviceId (pre ++ d :: post) d.name = pre.length := by
  have hnone : pre.findIdx? (fun e => e.name = d.name) = none :=
    List.findIdx?_eq_none_iff.mpr fun e he => by simpa using hpre e he
  rw [getDeviceId, List.findIdx?_append, hnone]
  simp [List.findIdx?_cons]

/-- The id of a name that no device has. -/
lemma getDeviceId_of_unknown {devices : List Device} {name : CString}
    (h : ∀ d ∈ devices, d.name ≠ name) : getDeviceId devices name = -1 := by
  have hnone : devices.findIdx? (fun d => d.name = name) = none :=
    List.findIdx?_eq_none_iff.mpr fun d hd => by simpa using h d hd
  rw [getDeviceId, hnone, toInt_none]

/-- A change on a name that has an id is the change on it, as an `unsigned char`. -/
lemma Change.byName_of_nonneg {devices : List Device} {name : CString} {i : ℕ}
    (h : getDeviceId devices name = i) (c : Change) :
    c.byName devices name = c.byId devices (UInt8.ofInt i) := by
  have hneg : ¬ (i : ℤ) < 0 := by omega
  cases c with
  | rename new =>
      rw [byName, renameDeviceByName, h, if_neg hneg]
      rfl
  | remove =>
      rw [byName, removeDeviceByName, h, if_neg hneg]
      rfl
  | setState state value =>
      rw [byName, setStateByName, h]
      rfl
  | setStateRgb state value rgb =>
      rw [byName, setStateRgbByName, h]
      rfl

/-- A change on an unknown name is refused, unless it sets a state and the `-1` of
`getDeviceId` is the id of a device. -/
lemma Change.byName_of_unknown {devices : List Device} {name : CString}
    (h : ∀ d ∈ devices, d.name ≠ name) (hlen : devices.length ≤ 255) (c : Change) :
    c.byName devices name = (devices, false) := by
  have hid := getDeviceId_of_unknown h
  have hle : devices.length ≤ (UInt8.ofInt (-1)).toNat := hlen
  cases c with
  | rename new => rw [byName, renameDeviceByName, hid]; rfl
  | remove => rw [byName, removeDeviceByName, hid]; rfl
  | setState state value =>
      rw [byName, setStateByName, hid]
      exact (Change.setState state value).byId_of_le hle
  | setStateRgb state value rgb =>
      rw [byName, setStateRgbByName, hid]
      exact (Change.setStateRgb state value rgb).byId_of_le hle

/-- The id that `addDevice` returns is that of the device it appends. -/
structure IdsAgree (iface : Interface) (devices : List Device) : Prop where
  run : ∀ slot name, ∃ d, (addDevice iface slot devices name).1 = devices ++ [d] ∧
    d.name = name ∧ ∀ op : IdOp, op.run (devices ++ [d]) (addDevice iface slot devices name).2 =
      (op.effect d).map fun r => (devices ++ r.1, r.2)

/-- A change on a name succeeds exactly when a device has it, and then reaches the first one that
does and no other. -/
structure NamesAgree (devices : List Device) : Prop where
  known : ∀ pre d post, devices = pre ++ d :: post → (∀ e ∈ pre, e.name ≠ d.name) →
    ∀ c : Change, c.byName devices d.name = (pre ++ c.effect d ++ post, true)
  unknown : ∀ name, (∀ d ∈ devices, d.name ≠ name) →
    ∀ c : Change, c.byName devices name = (devices, false)

lemma toNat_addDevice (iface : Interface) (slot : UniqueIdArray) (devices : List Device)
    (name : CString) : (addDevice iface slot devices name).2.toNat = devices.length % 256 := by
  simp [addDevice]

lemma idsAgree_of_le {iface : Interface} {devices : List Device} (h : devices.length ≤ 255) :
    IdsAgree iface devices := by
  refine ⟨fun slot name => ⟨_, rfl, rfl, fun op => ?_⟩⟩
  have hid : (addDevice iface slot devices name).2.toNat = devices.length := by
    rw [toNat_addDevice]
    omega
  rw [IdOp.run_of_eq hid]
  simp

/-- The id returned for the device at an index from `256` on is that of an earlier one. -/
lemma le_of_idsAgree {iface : Interface} {devices : List Device} (h : IdsAgree iface devices) :
    devices.length ≤ 255 := by
  by_contra hlen
  obtain ⟨d, -, hname, hrun⟩ := h.run zeroSlot ⟨bytes "a", by decide⟩
  have hid := toNat_addDevice iface zeroSlot devices ⟨bytes "a", by decide⟩
  generalize (addDevice iface zeroSlot devices ⟨bytes "a", by decide⟩).2 = id at hid hrun
  have hlt : id.toNat < (devices ++ [d]).length := by
    rw [List.length_append, List.length_singleton]
    omega
  -- the new device keeps its name when the one with the id is renamed
  have hren := hrun (.change (.rename ⟨bytes "b", by decide⟩))
  rw [IdOp.run, Change.byId, renameDevice, if_pos hlt] at hren
  have hlists := (Prod.mk.inj (Except.ok.inj hren)).1
  have hlast := congrArg (fun l => l[devices.length]?) hlists
  rw [List.getElem?_modify_ne _ _ (by omega)] at hlast
  have hd : d = { d with name := ⟨bytes "b", by decide⟩ } := by simpa [Change.effect] using hlast
  have hb : d.name = ⟨bytes "b", by decide⟩ := congrArg Device.name hd
  rw [hname] at hb
  exact absurd hb (by decide)

lemma namesAgree_of_le {devices : List Device} (h : devices.length ≤ 255) :
    NamesAgree devices := by
  refine ⟨?_, fun name hno c => c.byName_of_unknown hno h⟩
  rintro pre d post rfl hpre c
  have hid : (UInt8.ofInt (pre.length : ℤ)).toNat = pre.length := by
    rw [toNat_ofInt_uint8]
    rw [List.length_append, List.length_cons] at h
    omega
  rw [Change.byName_of_nonneg (getDeviceId_append_cons hpre post), Change.byId_of_eq hid]

/-- Every store lacks a name. -/
lemma exists_unknown (devices : List Device) :
    ∃ name : CString, ∀ d ∈ devices, d.name ≠ name := by
  let long : ℕ → CString := fun n => ⟨List.replicate n 97, by simp [List.mem_replicate]⟩
  have hlong : Function.Injective long := fun n m heq => by
    simpa [long] using congrArg (fun s : CString => s.1.length) heq
  obtain ⟨name, -, hname⟩ := (Set.infinite_range_of_injective hlong).exists_notMem_finset
    (devices.map Device.name).toFinset
  exact ⟨name, fun d hd heq => hname (by simpa using ⟨d, hd, heq⟩)⟩

/-- From `256` devices on the `-1` for an unknown name is the id of one. -/
lemma le_of_namesAgree {devices : List Device} (h : NamesAgree devices) :
    devices.length ≤ 255 := by
  by_contra hlen
  obtain ⟨name, hname⟩ := exists_unknown devices
  have hset := h.unknown name hname (.setState false 0)
  have hlt : (UInt8.ofInt (-1)).toNat < devices.length := show 255 < devices.length by omega
  rw [Change.byName, setStateByName, getDeviceId_of_unknown hname, setState, if_pos hlt] at hset
  cases (Prod.mk.inj hset).2

/-- **Ids and names lead to their devices** on exactly the stores of at most `255` devices. -/
theorem addressed_iff (iface : Interface) (devices : List Device) :
    IdsAgree iface devices ∧ NamesAgree devices ↔ devices.length ≤ 255 :=
  ⟨fun h => le_of_idsAgree h.1, fun h => ⟨idsAgree_of_le h, namesAgree_of_le h⟩⟩

/-- On a store of `256` devices neither do. -/
theorem not_addressed_256 :
    ¬ IdsAgree homeEnv.iface
        (addDevices homeEnv.iface (List.replicate 256 (zeroSlot, fernseher))) ∧
      ¬ NamesAgree (addDevices homeEnv.iface (List.replicate 256 (zeroSlot, fernseher))) := by
  have hlen : (addDevices homeEnv.iface (List.replicate 256 (zeroSlot, fernseher))).length =
      256 := by
    rw [length_addDevices, List.length_replicate]
  constructor
  · intro h
    have hle := le_of_idsAgree h
    omega
  · intro h
    have hle := le_of_namesAgree h
    omega

end FauxmoLinux
