import FauxmoLinux.Bridge.Address

/-!
The device store of `class fauxmoLINUX`: `fauxmolinux_device_t`, `_devices` and the public
operations on them.

* `Device`: a light; its name cannot hold a NUL and its `uniqueid` is the 27-byte array itself;
* `addDevice`, `getDeviceId`, `setDeviceUniqueId`, `getDeviceName`, and `renameDevice`,
  `removeDevice`, `setState`, each with its overload by name; an id travels as an
  `unsigned char`, so the `-1` of `getDeviceId` becomes `255` where it is not looked at first;
* `StoreOp`, `StoreOp.apply`: the public operations as one type.
-/

namespace FauxmoLinux

def FAUXMO_DEVICE_UNIQUE_ID_LENGTH : ℕ := 27

/-- `byte rgb[3]`. -/
structure Rgb where
  r : UInt8
  g : UInt8
  b : UInt8
  deriving DecidableEq, Repr

/-- The array that holds the text of a `uniqueid`. -/
abbrev UniqueIdArray := Vector UInt8 FAUXMO_DEVICE_UNIQUE_ID_LENGTH

/-- `fauxmolinux_device_t`. -/
structure Device where
  name : CString
  state : Bool
  value : UInt8
  rgb : Rgb
  uniqueid : UniqueIdArray
  deriving DecidableEq

namespace Device

/-- The C string the `uniqueid` array holds. -/
def uniqueidString (d : Device) : Bytes := cstr d.uniqueid.toList

/-- `%s` of the `uniqueid` array: without a terminator in it the read runs out of the array. -/
def readUniqueid (d : Device) : Except Fault Bytes :=
  if (0 : UInt8) ∈ d.uniqueid.toList then .ok d.uniqueidString else .error .overrun

end Device

/-! ### Writing into a character array -/

/-- A C string written to the front of an array: the text, its terminator, and behind it what
was there before. -/
def writeCStr {n : ℕ} (buf : Vector UInt8 n) (text : Bytes) : Vector UInt8 n :=
  Vector.ofFn fun i => if i.val ≤ text.length then text.getD i.val 0 else buf[i]

/-- A string that fits, its terminator, and the rest of the array. -/
lemma toList_writeCStr {n : ℕ} (buf : Vector UInt8 n) {text : Bytes} (hlen : text.length < n) :
    (writeCStr buf text).toList = text ++ 0 :: buf.toList.drop (text.length + 1) := by
  refine List.ext_getElem (by simp; omega) fun i h₁ h₂ => ?_
  have hi : i < buf.toList.length := by simpa using h₁
  have hget : (writeCStr buf text).toList[i] =
      if i ≤ text.length then text.getD i 0 else buf.toList[i] := by
    simp [writeCStr]
  rw [hget]
  rcases Nat.lt_trichotomy i text.length with hlt | rfl | hgt
  · rw [if_pos hlt.le, List.getElem_append_left hlt]
    simp [hlt]
  · simp
  · rw [if_neg (by omega), List.getElem_append_right hgt.le,
      List.getElem_cons, dif_neg (by omega), List.getElem_drop]
    congr 1
    omega

/-- A string without a NUL that fits is what the array holds afterwards. -/
lemma cstr_writeCStr {n : ℕ} (buf : Vector UInt8 n) {text : Bytes} (h0 : (0 : UInt8) ∉ text)
    (hlen : text.length < n) : cstr (writeCStr buf text).toList = text := by
  rw [toList_writeCStr buf hlen, cstr_append_zero, cstr_of_notMem h0]

/-- `strncpy(dest, src, n)` into an array of `n` bytes: padded with NULs, and not terminated
when `src` is too long. -/
def strncpy (n : ℕ) (src : CString) : Vector UInt8 n := Vector.ofFn fun i => src.1.getD i.val 0

lemma toList_strncpy (n : ℕ) (src : CString) :
    (strncpy n src).toList = src.1.take n ++ List.replicate (n - src.1.length) 0 := by
  refine List.ext_getElem (by simp; omega) fun i h₁ h₂ => ?_
  have hget : (strncpy n src).toList[i] = src.1.getD i 0 := by simp [strncpy]
  rw [hget]
  by_cases hi : i < src.1.length
  · rw [List.getElem_append_left (by simp at h₁ ⊢; omega), List.getElem_take]
    simp [hi]
  · rw [List.getElem_append_right (by simp; omega), List.getElem_replicate]
    simp [hi]

/-! ### The store -/

/-- A write through `_devices[id]`, undefined outside the vector. -/
def modifyDevice (devices : List Device) (id : UInt8) (f : Device → Device) :
    Except Fault (List Device) :=
  if id.toNat < devices.length then .ok (devices.modify id.toNat f) else .error .badIndex

lemma modifyDevice_of_lt {devices : List Device} {id : UInt8} (f : Device → Device)
    (h : id.toNat < devices.length) :
    modifyDevice devices id f = .ok (devices.modify id.toNat f) := if_pos h

lemma modifyDevice_of_le {devices : List Device} {id : UInt8} (f : Device → Device)
    (h : devices.length ≤ id.toNat) : modifyDevice devices id f = .error .badIndex :=
  if_neg (by omega)

/-- A change of an element is the change of what is made of it. -/
lemma map_modify_comm {α β : Type} {f : α → α} {g : β → β} {k : α → β}
    (h : ∀ a, k (f a) = g (k a)) (l : List α) (i : ℕ) :
    (l.modify i f).map k = (l.map k).modify i g := by
  refine List.ext_getElem? fun j => ?_
  rw [List.getElem?_map, List.getElem?_modify, List.getElem?_modify, List.getElem?_map]
  by_cases hij : i = j
  · cases l[j]? <;> simp [hij, h]
  · cases l[j]? <;> simp [hij]

/-- A write that keeps a part of every device keeps that part of the store. -/
lemma map_modify {β : Type} {g : Device → β} {f : Device → Device} (h : ∀ d, g (f d) = g d)
    (devices : List Device) (i : ℕ) : (devices.modify i f).map g = devices.map g := by
  refine List.ext_getElem? fun j => ?_
  rw [List.getElem?_map, List.getElem?_map, List.getElem?_modify]
  cases devices[j]? with
  | none => rfl
  | some d => by_cases hij : i = j <;> simp [hij, h]

/-- The text `addDevice` makes the `uniqueid` of: the store size in hexadecimal, the hardware
address and a suffix, cut to the array. -/
def uniqueidText (iface : Interface) (deviceId : ℕ) : Bytes :=
  snprintf FAUXMO_DEVICE_UNIQUE_ID_LENGTH
    [.hex true, .lit (bytes ":"), .str, .lit (bytes ":"), .str]
    [.int deviceId, .cstr (getMacAddr iface), .cstr (bytes "00:00")]

/-- `addDevice`: the store with the new device behind, and its id. `slot` is what the memory of
the device's `uniqueid` held before; `device_id` is an `unsigned int`. -/
def addDevice (iface : Interface) (slot : UniqueIdArray) (devices : List Device)
    (deviceName : CString) : List Device × UInt8 :=
  let deviceId := devices.length % 2 ^ 32
  let device : Device :=
    { name := deviceName
      state := false
      value := 0
      rgb := ⟨255, 255, 255⟩
      uniqueid := writeCStr slot (uniqueidText iface deviceId) }
  (devices ++ [device], deviceId.toUInt8)

/-- The store behind a list of `addDevice` calls on the empty one. -/
def addDevices (iface : Interface) (added : List (UniqueIdArray × CString)) : List Device :=
  added.foldl (fun devices a => (addDevice iface a.1 devices a.2).1) []

/-- What `addDevice` calls on an empty store leave behind: the names in order, and every device
off and at the value `0`. -/
lemma addDevices_fresh (iface : Interface) (added : List (UniqueIdArray × CString)) :
    (addDevices iface added).map Device.name = added.map Prod.snd ∧
      ∀ d ∈ addDevices iface added, d.state = false ∧ d.value = 0 := by
  induction added using List.reverseRecOn with
  | nil => exact ⟨rfl, by simp [addDevices]⟩
  | append_singleton added a ih =>
      have hadd : addDevices iface (added ++ [a]) =
          (addDevice iface a.1 (addDevices iface added) a.2).1 := by
        rw [addDevices, List.foldl_append]
        rfl
      rw [hadd, addDevice]
      refine ⟨by rw [List.map_append, List.map_append, ih.1]; rfl, fun d hd => ?_⟩
      rcases List.mem_append.mp hd with h | h
      · exact ih.2 d h
      · rw [List.mem_singleton.mp h]
        exact ⟨rfl, rfl⟩

lemma length_addDevices (iface : Interface) (added : List (UniqueIdArray × CString)) :
    (addDevices iface added).length = added.length := by
  simpa using congrArg List.length (addDevices_fresh iface added).1

/-- Memory of a `uniqueid` that was zero before. -/
def zeroSlot : UniqueIdArray := Vector.replicate _ 0

/-- The name of the television, the German word for it. -/
def fernseher : CString := ⟨bytes "fernseher", by decide⟩

/-- `getDeviceId`. -/
def getDeviceId (devices : List Device) (deviceName : CString) : ℤ :=
  toInt (devices.findIdx? fun d => d.name = deviceName)

/-- `setDeviceUniqueId`, which does not look at the number of devices. -/
def setDeviceUniqueId (devices : List Device) (id : UInt8) (uniqueid : CString) :
    Except Fault (List Device) :=
  modifyDevice devices id fun d => { d with uniqueid := strncpy _ uniqueid }

/-- `renameDevice(id, name)`. -/
def renameDevice (devices : List Device) (id : UInt8) (deviceName : CString) :
    List Device × Bool :=
  if id.toNat < devices.length then
    (devices.modify id.toNat fun d => { d with name := deviceName }, true)
  else (devices, false)

/-- `renameDevice(old_name, new_name)`. -/
def renameDeviceByName (devices : List Device) (oldName newName : CString) :
    List Device × Bool :=
  let id := getDeviceId devices oldName
  if id < 0 then (devices, false) else renameDevice devices (UInt8.ofInt id) newName

/-- `removeDevice(id)`. -/
def removeDevice (devices : List Device) (id : UInt8) : List Device × Bool :=
  if id.toNat < devices.length then (devices.eraseIdx id.toNat, true) else (devices, false)

/-- `removeDevice(name)`. -/
def removeDeviceByName (devices : List Device) (deviceName : CString) : List Device × Bool :=
  let id := getDeviceId devices deviceName
  if id < 0 then (devices, false) else removeDevice devices (UInt8.ofInt id)

/-- `getDeviceName`: the buffer afterwards, `none` for a null pointer. `strncpy` writes `len` bytes
to it, whatever its size. -/
def getDeviceName (devices : List Device) (id : UInt8) (deviceName : Option Bytes) (len : ℕ) :
    Except Fault (Option Bytes) :=
  match devices[id.toNat]? with
  | none => .ok deviceName
  | some d =>
      match deviceName with
      | none => .ok none
      | some buffer =>
          if len ≤ buffer.length then .ok (some ((strncpy len d.name).toList ++ buffer.drop len))
          else .error .overrun

/-- `setState(id, state, value)`. -/
def setState (devices : List Device) (id : UInt8) (state : Bool) (value : UInt8) :
    List Device × Bool :=
  if id.toNat < devices.length then
    (devices.modify id.toNat fun d => { d with state := state, value := value }, true)
  else (devices, false)

/-- `setState(name, state, value)`: the id is handed on without a look at `-1`. -/
def setStateByName (devices : List Device) (deviceName : CString) (state : Bool)
    (value : UInt8) : List Device × Bool :=
  setState devices (UInt8.ofInt (getDeviceId devices deviceName)) state value

/-- `setState(id, state, value, rgb)`. -/
def setStateRgb (devices : List Device) (id : UInt8) (state : Bool) (value : UInt8)
    (rgb : Rgb) : List Device × Bool :=
  if devices.length ≤ id.toNat then (devices, false)
  else
    let (devices, success) := setState devices id state value
    if success then (devices.modify id.toNat fun d => { d with rgb := rgb }, success)
    else (devices, success)

/-- `setState(name, state, value, rgb)`. -/
def setStateRgbByName (devices : List Device) (deviceName : CString) (state : Bool)
    (value : UInt8) (rgb : Rgb) : List Device × Bool :=
  setStateRgb devices (UInt8.ofInt (getDeviceId devices deviceName)) state value rgb

/-- The public operations that write to the store. -/
inductive StoreOp where
  | addDevice (slot : UniqueIdArray) (deviceName : CString)
  | setDeviceUniqueId (id : UInt8) (uniqueid : CString)
  | renameDevice (id : UInt8) (deviceName : CString)
  | renameDeviceByName (oldName newName : CString)
  | removeDevice (id : UInt8)
  | removeDeviceByName (deviceName : CString)
  | setState (id : UInt8) (state : Bool) (value : UInt8)
  | setStateByName (deviceName : CString) (state : Bool) (value : UInt8)
  | setStateRgb (id : UInt8) (state : Bool) (value : UInt8) (rgb : Rgb)
  | setStateRgbByName (deviceName : CString) (state : Bool) (value : UInt8) (rgb : Rgb)

/-- The store after a public operation. -/
def StoreOp.apply (iface : Interface) (devices : List Device) :
    StoreOp → Except Fault (List Device)
  | .addDevice slot name => .ok (FauxmoLinux.addDevice iface slot devices name).1
  | .setDeviceUniqueId id uniqueid => FauxmoLinux.setDeviceUniqueId devices id uniqueid
  | .renameDevice id name => .ok (FauxmoLinux.renameDevice devices id name).1
  | .renameDeviceByName old new => .ok (FauxmoLinux.renameDeviceByName devices old new).1
  | .removeDevice id => .ok (FauxmoLinux.removeDevice devices id).1
  | .removeDeviceByName name => .ok (FauxmoLinux.removeDeviceByName devices name).1
  | .setState id state value => .ok (FauxmoLinux.setState devices id state value).1
  | .setStateByName name state value =>
      .ok (FauxmoLinux.setStateByName devices name state value).1
  | .setStateRgb id state value rgb =>
      .ok (FauxmoLinux.setStateRgb devices id state value rgb).1
  | .setStateRgbByName name state value rgb =>
      .ok (FauxmoLinux.setStateRgbByName devices name state value rgb).1

end FauxmoLinux
