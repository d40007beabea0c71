import FauxmoLinux.Base.Heap
import FauxmoLinux.Bridge.Names

/-!
The names of the devices as the program keeps them: pointers to blocks that `strdup` makes and
`free` gives back.

* `DeviceCell`, `Memory`: the store with its names on a heap; `CharPtr`: a string of the caller,
  or a pointer into the heap, such as the name a state callback is handed;
* `addDevice`, `renameDevice`, `removeDevice` and the others on that store, statement by
  statement, and `destroy`, the destructor;
* `Memory.store`: the devices a memory stands for; `MemoryOp.call`: the operation on them;
* `Memory.Owned`, `Owned.performs`, `Owned.run_error`: an operation on names that are owned
  completes exactly when its pointers are valid, does then to the devices what the operation on
  strings does, and leaves names that are owned;
* `Memory.completes_iff`, `Memory.refines`: the same of whole runs, and what is left on the heap
  behind the destructor.
-/

namespace FauxmoLinux

/-- What the program must not do with memory, and what the store must not be asked for. -/
inductive MemoryFault where
  | dangling
  | badFree
  | store (e : Fault)
  deriving DecidableEq, Repr

/-- `fauxmolinux_device_t`, whose name is a pointer. -/
structure DeviceCell where
  name : ℕ
  state : Bool
  value : UInt8
  rgb : Rgb
  uniqueid : UniqueIdArray
  deriving DecidableEq

/-- The heap and `_devices`. -/
structure Memory where
  heap : Heap Bytes
  devices : List DeviceCell
  deriving DecidableEq

/-- A `const char*`: a string the caller keeps, or a block of the heap. -/
inductive CharPtr where
  | text (s : CString)
  | block (b : ℕ)
  deriving DecidableEq

/-- The string a block holds. -/
def readText (t : Bytes) : CString :=
  ⟨cstr t, fun h => by simpa using List.mem_takeWhile_imp h⟩

lemma readText_val (s : CString) : readText s.1 = s := Subtype.ext (cstr_of_notMem s.2)

/-- The string behind a pointer. -/
def CharPtr.read (h : Heap Bytes) : CharPtr → Except MemoryFault CString
  | .text s => .ok s
  | .block b =>
      match h.load b with
      | some t => .ok (readText t)
      | none => .error .dangling

/-- `strdup`. -/
def strdup (h : Heap Bytes) (p : CharPtr) : Except MemoryFault (Heap Bytes × ℕ) := do
  let s ← p.read h
  return h.alloc s.1

/-- `free`. -/
def freeName (h : Heap Bytes) (b : ℕ) : Except MemoryFault (Heap Bytes) :=
  match h.free b with
  | some h => .ok h
  | none => .error .badFree

/-- `get_mac_addr`, whose result nobody frees. -/
def macAddress (iface : Interface) (h : Heap Bytes) : Heap Bytes := (h.alloc (getMacAddr iface)).1

/-- `_hs2rgb` and `_ct2rgb`: the bytes of a colour, which nobody deletes. -/
def newRgb (h : Heap Bytes) (rgb : Rgb) : Heap Bytes := (h.alloc [rgb.r, rgb.g, rgb.b]).1

/-- The effect of a command on a cell. -/
def DeviceCell.command (c : Command) (d : DeviceCell) : DeviceCell :=
  match c with
  | .bri value => { d with value := value, state := decide (value > 0) }
  | .colour rgb => { d with state := true, rgb := rgb }
  | .off => { d with state := false }
  | .on => { d with state := true, value := if d.value = 0 then 255 else d.value }

namespace Memory

def empty : Memory := ⟨.empty, []⟩

/-- `addDevice`. -/
def addDevice (iface : Interface) (slot : UniqueIdArray) (m : Memory) (p : CharPtr) :
    Except MemoryFault Memory := do
  let deviceId := m.devices.length % 2 ^ 32
  let (heap, name) ← strdup m.heap p
  let device : DeviceCell :=
    { name := name
      state := false
      value := 0
      rgb := ⟨255, 255, 255⟩
      uniqueid := writeCStr slot (uniqueidText iface deviceId) }
  return ⟨macAddress iface heap, m.devices ++ [device]⟩

/-- The loop of `getDeviceId`, from the device `id` on. -/
def getDeviceIdLoop (h : Heap Bytes) (p : CharPtr) : List DeviceCell → ℤ →
    Except MemoryFault ℤ
  | [], _ => .ok (-1)
  | d :: devices, id => do
      let name ← (CharPtr.block d.name).read h
      let s ← p.read h
      if name = s then return id else getDeviceIdLoop h p devices (id + 1)

/-- `getDeviceId`. -/
def getDeviceId (m : Memory) (p : CharPtr) : Except MemoryFault ℤ :=
  getDeviceIdLoop m.heap p m.devices 0

/-- `setDeviceUniqueId`. -/
def setDeviceUniqueId (m : Memory) (id : UInt8) (p : CharPtr) : Except MemoryFault Memory :=
  if id.toNat < m.devices.length then do
    let uniqueid ← p.read m.heap
    return { m with devices :=
      m.devices.modify id.toNat fun d => { d with uniqueid := strncpy _ uniqueid } }
  else .error (.store .badIndex)

/-- `renameDevice(id, name)`. -/
def renameDevice (m : Memory) (id : UInt8) (p : CharPtr) : Except MemoryFault Memory :=
  match m.devices[id.toNat]? with
  | none => .ok m
  | some d => do
      let heap ← freeName m.heap d.name
      let (heap, name) ← strdup heap p
      return ⟨heap, m.devices.set id.toNat { d with name := name }⟩

/-- `renameDevice(old_name, new_name)`. -/
def renameDeviceByName (m : Memory) (old new : CharPtr) : Except MemoryFault Memory := do
  let id ← m.getDeviceId old
  if id < 0 then return m else m.renameDevice (UInt8.ofInt id) new

/-- `removeDevice(id)`. -/
def removeDevice (m : Memory) (id : UInt8) : Except MemoryFault Memory :=
  match m.devices[id.toNat]? with
  | none => .ok m
  | some d => do
      let heap ← freeName m.heap d.name
      return ⟨heap, m.devices.eraseIdx id.toNat⟩

/-- `removeDevice(name)`. -/
def removeDeviceByName (m : Memory) (p : CharPtr) : Except MemoryFault Memory := do
  let id ← m.getDeviceId p
  if id < 0 then return m else m.removeDevice (UInt8.ofInt id)

/-- `setState(id, state, value)`. -/
def setState (m : Memory) (id : UInt8) (state : Bool) (value : UInt8) : Memory :=
  if id.toNat < m.devices.length then
    { m with devices :=
      m.devices.modify id.toNat fun d => { d with state := state, value := value } }
  else m

/-- `setState(id, state, value, rgb)`. -/
def setStateRgb (m : Memory) (id : UInt8) (state : Bool) (value : UInt8) (rgb : Rgb) : Memory :=
  if id.toNat < m.devices.length then
    { m with devices :=
      m.devices.modify id.toNat fun d => { d with state := state, value := value, rgb := rgb } }
  else m

/-- What `_onTCPControl` does to the device with the index `id`, colours being made first. -/
def command (m : Memory) (id : UInt8) (c : Command) : Except MemoryFault Memory :=
  if id.toNat < m.devices.length then
    let heap := match c with
      | .colour rgb => newRgb m.heap rgb
      | _ => m.heap
    .ok ⟨heap, m.devices.modify id.toNat (DeviceCell.command c)⟩
  else .error (.store .badIndex)

/-- The destructor. -/
def destroy (m : Memory) : Except MemoryFault Memory :=
  match m.heap.freeAll (m.devices.map DeviceCell.name) with
  | some heap => .ok ⟨heap, []⟩
  | none => .error .badFree

end Memory

/-- What changes the memory: the public operations with the pointers they are given, a command of
a control request, and a handler that asks for the hardware address, for a discovery or for the
description. -/
inductive MemoryOp where
  | addDevice (slot : UniqueIdArray) (p : CharPtr)
  | setDeviceUniqueId (id : UInt8) (p : CharPtr)
  | renameDevice (id : UInt8) (p : CharPtr)
  | renameDeviceByName (old new : CharPtr)
  | removeDevice (id : UInt8)
  | removeDeviceByName (p : CharPtr)
  | setState (id : UInt8) (state : Bool) (value : UInt8)
  | setStateByName (p : CharPtr) (state : Bool) (value : UInt8)
  | setStateRgb (id : UInt8) (state : Bool) (value : UInt8) (rgb : Rgb)
  | setStateRgbByName (p : CharPtr) (state : Bool) (value : UInt8) (rgb : Rgb)
  | command (id : UInt8) (c : Command)
  | macAddress

/-- The memory behind an operation. -/
def MemoryOp.run (iface : Interface) (m : Memory) : MemoryOp → Except MemoryFault Memory
  | .addDevice slot p => m.addDevice iface slot p
  | .setDeviceUniqueId id p => m.setDeviceUniqueId id p
  | .renameDevice id p => m.renameDevice id p
  | .renameDeviceByName old new => m.renameDeviceByName old new
  | .removeDevice id => m.removeDevice id
  | .removeDeviceByName p => m.removeDeviceByName p
  | .setState id state value => .ok (m.setState id state value)
  | .setStateByName p state value => do
      let id ← m.getDeviceId p
      return m.setState (UInt8.ofInt id) state value
  | .setStateRgb id state value rgb => .ok (m.setStateRgb id state value rgb)
  | .setStateRgbByName p state value rgb => do
      let id ← m.getDeviceId p
      return m.setStateRgb (UInt8.ofInt id) state value rgb
  | .command id c => m.command id c
  | .macAddress => .ok { m with heap := FauxmoLinux.macAddress iface m.heap }

/-! ### What the memory stands for -/

/-- The device a cell stands for. -/
def DeviceCell.device (h : Heap Bytes) (d : DeviceCell) : Device :=
  { name := readText ((h.load d.name).getD [])
    state := d.state
    value := d.value
    rgb := d.rgb
    uniqueid := d.uniqueid }

/-- The devices a memory stands for. -/
def Memory.store (m : Memory) : List Device := m.devices.map (DeviceCell.device m.heap)

/-- What changes the devices. -/
inductive StoreCall where
  | op (op : StoreOp)
  | command (id : UInt8) (c : Command)
  | macAddress

def StoreCall.step (iface : Interface) (devices : List Device) :
    StoreCall → Except Fault (List Device × List Event)
  | .op call => do
      let devices ← call.apply iface devices
      return (devices, [])
  | .command id c => do
      let devices ← modifyDevice devices id c.apply
      return (devices, [])
  | .macAddress => .ok (devices, [])

/-- The string behind a pointer, the empty one behind a pointer to nothing, which is not read. -/
def CharPtr.value (h : Heap Bytes) (p : CharPtr) : CString :=
  match p.read h with
  | .ok s => s
  | .error _ => readText []

/-- The operation on the devices that an operation on the memory stands for. -/
def MemoryOp.call (h : Heap Bytes) : MemoryOp → StoreCall
  | .addDevice slot p => .op (.addDevice slot (p.value h))
  | .setDeviceUniqueId id p => .op (.setDeviceUniqueId id (p.value h))
  | .renameDevice id p => .op (.renameDevice id (p.value h))
  | .renameDeviceByName old new => .op (.renameDeviceByName (old.value h) (new.value h))
  | .removeDevice id => .op (.removeDevice id)
  | .removeDeviceByName p => .op (.removeDeviceByName (p.value h))
  | .setState id state value => .op (.setState id state value)
  | .setStateByName p state value => .op (.setStateByName (p.value h) state value)
  | .setStateRgb id state value rgb => .op (.setStateRgb id state value rgb)
  | .setStateRgbByName p state value rgb =>
      .op (.setStateRgbByName (p.value h) state value rgb)
  | .command id c => .command id c
  | .macAddress => .macAddress

/-- One operation on the memory, which tells what it was on the devices. -/
def Memory.step (iface : Interface) (m : Memory) (op : MemoryOp) :
    Except MemoryFault (Memory × List StoreCall) := do
  let m' ← op.run iface m
  return (m', [op.call m.heap])

/-! ### Valid pointers -/

/-- The pointer leads to a string. -/
def CharPtr.Live (h : Heap Bytes) : CharPtr → Prop
  | .text _ => True
  | .block b => (h.load b).isSome

/-- The pointer can be duplicated behind the `free` of the name of the device `id`. -/
def CharPtr.Renames (m : Memory) (id : UInt8) (p : CharPtr) : Prop :=
  ∀ d, m.devices[id.toNat]? = some d → p.Live m.heap ∧ p ≠ .block d.name

/-- The pointer can be compared with the names of the devices. -/
def CharPtr.Compares (m : Memory) (p : CharPtr) : Prop := m.devices ≠ [] → p.Live m.heap

/-- What the caller of an operation has to see to. -/
def MemoryOp.Valid (m : Memory) : MemoryOp → Prop
  | .addDevice _ p => p.Live m.heap
  | .setDeviceUniqueId id p => id.toNat < m.devices.length ∧ p.Live m.heap
  | .renameDevice id p => p.Renames m id
  | .renameDeviceByName old new => old.Compares m ∧
      (0 ≤ FauxmoLinux.getDeviceId m.store (old.value m.heap) →
        new.Renames m (UInt8.ofInt (FauxmoLinux.getDeviceId m.store (old.value m.heap))))
  | .removeDeviceByName p => p.Compares m
  | .setStateByName p _ _ => p.Compares m
  | .setStateRgbByName p _ _ _ => p.Compares m
  | .command id _ => id.toNat < m.devices.length
  | _ => True

/-- The blocks an operation makes that nothing gives back. -/
def MemoryOp.leaks : MemoryOp → ℕ
  | .addDevice _ _ => 1
  | .command _ (.colour _) => 1
  | .macAddress => 1
  | _ => 0

/-- A pointer that leads to a string is read. -/
lemma CharPtr.read_of_live {h : Heap Bytes} {p : CharPtr} (hp : p.Live h) :
    p.read h = .ok (p.value h) := by
  cases p with
  | text s => rfl
  | block b =>
      obtain ⟨t, ht⟩ := Option.isSome_iff_exists.mp hp
      simp [value, read, ht]

/-- One that does not is not. -/
lemma CharPtr.read_of_not_live {h : Heap Bytes} {p : CharPtr} (hp : ¬ p.Live h) :
    p.read h = .error .dangling := by
  cases p with
  | text s => exact absurd trivial hp
  | block b =>
      have hnone : h.load b = none := by simpa [Live] using hp
      simp [read, hnone]

/-- What a pointer leads to is in its block. -/
lemma CharPtr.of_load {h h' : Heap Bytes} {p : CharPtr}
    (hload : ∀ b, p = .block b → h'.load b = h.load b) :
    (p.Live h' ↔ p.Live h) ∧ p.value h' = p.value h := by
  cases p with
  | text s => exact ⟨Iff.rfl, rfl⟩
  | block b =>
      have hb := hload b rfl
      exact ⟨by rw [Live, Live, hb], by simp [value, read, hb]⟩

lemma DeviceCell.device_of_load {h h' : Heap Bytes} {d : DeviceCell}
    (hload : h'.load d.name = h.load d.name) : d.device h' = d.device h := by
  rw [device, device, hload]

namespace Memory

variable {iface : Interface} {m m' : Memory} {id : UInt8} {p : CharPtr} {d : DeviceCell}

/-- Every device has a name of its own, which is there. -/
def Owned (m : Memory) : Prop := m.heap.Owns (m.devices.map DeviceCell.name)

@[simp] lemma length_store (m : Memory) : m.store.length = m.devices.length := List.length_map _

/-! ### Looking for a name -/

lemma getDeviceIdLoop_of_live {h : Heap Bytes} {devices : List DeviceCell}
    (hd : ∀ d ∈ devices, (h.load d.name).isSome) (hp : devices ≠ [] → p.Live h) (id : ℕ) :
    getDeviceIdLoop h p devices id = .ok
      (match (devices.map (DeviceCell.device h)).findIdx? (fun d => d.name = p.value h) with
      | none => -1
      | some i => id + i) := by
  induction devices generalizing id with
  | nil => rfl
  | cons d devices ih =>
      have hname : (CharPtr.block d.name).read h = .ok (d.device h).name := by
        have hlive : (CharPtr.block d.name).Live h := hd d List.mem_cons_self
        obtain ⟨t, ht⟩ := Option.isSome_iff_exists.mp hlive
        simp [CharPtr.read, DeviceCell.device, ht]
      have hread := CharPtr.read_of_live (hp (List.cons_ne_nil d devices))
      rw [getDeviceIdLoop, hname, hread, List.map_cons, List.findIdx?_cons]
      simp only [ok_bind]
      by_cases heq : (d.device h).name = p.value h
      · simp [heq, pure, Except.pure]
      · have hrest := ih (fun d hd' => hd d (List.mem_cons_of_mem _ hd'))
          (fun _ => hp (List.cons_ne_nil d devices)) (id + 1)
        push_cast at hrest
        rw [if_neg heq, hrest]
        simp only [heq, decide_false, Bool.false_eq_true, if_false]
        cases (devices.map (DeviceCell.device h)).findIdx? (fun d => d.name = p.value h) with
        | none => rfl
        | some i =>
            simp only [Option.map_some]
            push_cast
            congr 1
            ring

/-- A name is looked up as in the devices. -/
lemma Owned.getDeviceId (h : m.Owned) (hp : p.Compares m) :
    m.getDeviceId p = .ok (FauxmoLinux.getDeviceId m.store (p.value m.heap)) := by
  have hlive : ∀ d ∈ m.devices, (m.heap.load d.name).isSome := fun d hd =>
    h.isSome d.name (List.mem_map_of_mem hd)
  have hloop := getDeviceIdLoop_of_live hlive hp 0
  rw [Memory.getDeviceId, FauxmoLinux.getDeviceId, store, ← Nat.cast_zero, hloop]
  cases (m.devices.map (DeviceCell.device m.heap)).findIdx? (fun d => d.name = p.value m.heap)
  · rfl
  · simp [toInt]

lemma Owned.getDeviceId_error (h : m.Owned) (hp : ¬ p.Compares m) :
    m.getDeviceId p = .error .dangling := by
  obtain ⟨hne, hdead⟩ := Classical.not_imp.mp hp
  obtain ⟨d, devices, hd⟩ := List.exists_cons_of_ne_nil hne
  have hlive : (CharPtr.block d.name).Live m.heap := h.isSome d.name (by simp [hd])
  rw [Memory.getDeviceId, hd, getDeviceIdLoop, CharPtr.read_of_live hlive,
    CharPtr.read_of_not_live hdead]
  rfl

/-! ### Freeing a name -/

/-- The name of a device is freed, and the other devices keep theirs. -/
lemma Owned.exists_freeName (h : m.Owned) {i : ℕ} (hd : m.devices[i]? = some d) :
    ∃ pre post heap, m.devices = pre ++ d :: post ∧ pre.length = i ∧
      freeName m.heap d.name = .ok heap ∧ heap.load d.name = none ∧
      (∀ b ≠ d.name, heap.load b = m.heap.load b) ∧ heap.live + 1 = m.heap.live ∧
      heap.Owns (pre.map DeviceCell.name ++ post.map DeviceCell.name) ∧
      ∀ e ∈ pre ++ post, e.name ≠ d.name := by
  obtain ⟨hlt, hget⟩ := List.getElem?_eq_some_iff.mp hd
  have hsplit : m.devices = m.devices.take i ++ d :: m.devices.drop (i + 1) := by
    rw [← hget, ← List.drop_eq_getElem_cons hlt, List.take_append_drop]
  have howns := h
  rw [Owned, hsplit, List.map_append, List.map_cons] at howns
  obtain ⟨heap, hfree, hgone, hload, hlive, hrest⟩ := howns.exists_free
  refine ⟨_, _, heap, hsplit, by simp [hlt.le], by rw [freeName, hfree], hgone, hload, hlive,
    hrest, fun e he heq => ?_⟩
  have hnot := (List.nodup_middle.mp howns.nodup).notMem
  rw [← List.map_append] at hnot
  exact hnot (heq ▸ List.mem_map_of_mem he)

/-- Devices whose names are left alone stand for what they stood for. -/
lemma map_device_of_load {heap : Heap Bytes} {devices : List DeviceCell}
    (hload : ∀ d ∈ devices, heap.load d.name = m.heap.load d.name) :
    devices.map (DeviceCell.device heap) = devices.map (DeviceCell.device m.heap) :=
  List.map_congr_left fun d hd => DeviceCell.device_of_load (hload d hd)

/-- `renameDevice` with a pointer that outlives the old name. -/
lemma Owned.renameDevice (h : m.Owned) (hp : p.Renames m id) :
    ∃ m', m.renameDevice id p = .ok m' ∧ m'.Owned ∧
      m'.store = (FauxmoLinux.renameDevice m.store id (p.value m.heap)).1 ∧
      m'.devices.length = m.devices.length ∧ m'.heap.live = m.heap.live := by
  rw [Memory.renameDevice, FauxmoLinux.renameDevice, length_store]
  cases hd : m.devices[id.toNat]? with
  | none =>
      rw [if_neg (by simpa using hd)]
      exact ⟨m, rfl, h, rfl, rfl, rfl⟩
  | some d =>
      obtain ⟨hlive, hne⟩ := hp d hd
      obtain ⟨pre, post, heap, hsplit, hlen, hfree, -, hload, hcount, howns, hnames⟩ :=
        h.exists_freeName hd
      have hsame := @CharPtr.of_load m.heap heap p fun b hb =>
        hload b fun hbd => hne (hb.trans (congrArg _ hbd))
      have hread := CharPtr.read_of_live (hsame.1.mpr hlive)
      have hfree' : ∀ e ∈ pre ++ post, (heap.load e.name).isSome := fun e he =>
        howns.isSome e.name (by rw [← List.map_append]; exact List.mem_map_of_mem he)
      have hloads : ∀ e ∈ pre ++ post,
          (heap.alloc (p.value m.heap).1).1.load e.name = m.heap.load e.name := fun e he => by
        rw [Heap.load_alloc (hfree' e he), hload e.name (hnames e he)]
      -- the new name takes the place of the old one
      obtain ⟨d', hd'⟩ : ∃ d' : DeviceCell,
          d' = { d with name := (heap.alloc (p.value m.heap).1).2 } := ⟨_, rfl⟩
      have hname : d'.name = (heap.alloc (p.value m.heap).1).2 := by rw [hd']
      have hset : m.devices.set id.toNat d' = pre ++ d' :: post := by
        rw [hsplit, ← hlen]
        simp
      have hdev : d'.device (heap.alloc (p.value m.heap).1).1 =
          { d.device m.heap with name := p.value m.heap } := by
        simp [hd', DeviceCell.device, readText_val]
      have hlt : id.toNat < m.devices.length := by
        rw [hsplit, ← hlen]
        simp
      refine ⟨⟨(heap.alloc (p.value m.heap).1).1, m.devices.set id.toNat d'⟩, ?_, ?_, ?_, ?_, ?_⟩
      · simp only [hfree, ok_bind, strdup, hread, hsame.2, hd']
        rfl
      · rw [Owned]
        refine (howns.alloc_append (p.value m.heap).1).perm ?_
        rw [hset, List.map_append, List.map_cons, hname, List.append_assoc]
        exact (List.perm_append_singleton _ _).append_left _
      · have hpre := map_device_of_load fun e he => hloads e (List.mem_append_left _ he)
        have hpost := map_device_of_load fun e he => hloads e (List.mem_append_right _ he)
        rw [if_pos hlt, store, store, hset, hsplit, List.map_append, List.map_cons, hpre, hpost,
          hdev, List.map_append, List.map_cons, ← hlen]
        have hmod := modify_append_cons (pre.map (DeviceCell.device m.heap)) (d.device m.heap)
          (post.map (DeviceCell.device m.heap)) fun d => { d with name := p.value m.heap }
        rw [List.length_map] at hmod
        exact hmod.symm
      · simp
      · simpa using hcount

/-- `renameDevice` with a pointer to nothing, or to the name it frees first. -/
lemma Owned.renameDevice_error (h : m.Owned) (hp : ¬ p.Renames m id) :
    m.renameDevice id p = .error .dangling := by
  obtain ⟨d, hd, hbad⟩ : ∃ d, m.devices[id.toNat]? = some d ∧
      ¬ (p.Live m.heap ∧ p ≠ .block d.name) := by
    by_contra hno
    exact hp fun d hd => by_contra fun hbad => hno ⟨d, hd, hbad⟩
  obtain ⟨-, -, heap, -, -, hfree, hgone, hload, -⟩ := h.exists_freeName hd
  have hdead : ¬ p.Live heap := by
    intro hlive
    cases p with
    | text s => exact hbad ⟨trivial, by simp⟩
    | block b =>
        by_cases hb : b = d.name
        · rw [CharPtr.Live, hb, hgone] at hlive
          cases hlive
        · rw [CharPtr.Live, hload b hb] at hlive
          exact hbad ⟨hlive, by simpa using hb⟩
  simp [Memory.renameDevice, hd, hfree, strdup, CharPtr.read_of_not_live hdead]

/-- `removeDevice`, which reads no pointer of the caller. -/
lemma Owned.removeDevice (h : m.Owned) (id : UInt8) :
    ∃ m', m.removeDevice id = .ok m' ∧ m'.Owned ∧
      m'.store = (FauxmoLinux.removeDevice m.store id).1 ∧
      m'.heap.live + m.devices.length = m.heap.live + m'.devices.length := by
  rw [Memory.removeDevice, FauxmoLinux.removeDevice, length_store]
  cases hd : m.devices[id.toNat]? with
  | none =>
      rw [if_neg (by simpa using hd)]
      exact ⟨m, rfl, h, rfl, rfl⟩
  | some d =>
      obtain ⟨pre, post, heap, hsplit, hlen, hfree, -, hload, hcount, howns, hnames⟩ :=
        h.exists_freeName hd
      have herase : m.devices.eraseIdx id.toNat = pre ++ post := by
        rw [hsplit, ← hlen, List.eraseIdx_append_of_length_le le_rfl]
        simp
      have hlt : id.toNat < m.devices.length := by
        rw [hsplit, ← hlen]
        simp
      refine ⟨⟨heap, m.devices.eraseIdx id.toNat⟩, ?_, ?_, ?_, ?_⟩
      · simp [hfree, pure, Except.pure]
      · rw [Owned, herase, List.map_append]
        exact howns
      · rw [if_pos hlt, store, store, List.eraseIdx_map, herase,
          map_device_of_load fun e he => hload e.name (hnames e he)]
      · rw [herase, hsplit]
        simp only [List.length_append, List.length_cons]
        omega

/-! ### Writing to a cell -/

/-- A write that leaves the names alone. -/
lemma Owned.modify (h : m.Owned) {f : DeviceCell → DeviceCell} {g : Device → Device}
    (hname : ∀ d, (f d).name = d.name) (hdev : ∀ d, (f d).device m.heap = g (d.device m.heap))
    (i : ℕ) : (⟨m.heap, m.devices.modify i f⟩ : Memory).Owned ∧
      (⟨m.heap, m.devices.modify i f⟩ : Memory).store = m.store.modify i g := by
  refine ⟨?_, map_modify_comm hdev m.devices i⟩
  have hnames : (m.devices.modify i f).map DeviceCell.name = m.devices.map DeviceCell.name := by
    rw [map_modify_comm (g := id) hname, List.modify_id]
  rw [Owned, hnames]
  exact h

/-- A block more, which belongs to no device. -/
lemma Owned.alloc (h : m.Owned) (k : Bytes) :
    (⟨(m.heap.alloc k).1, m.devices⟩ : Memory).Owned ∧
      (⟨(m.heap.alloc k).1, m.devices⟩ : Memory).store = m.store :=
  ⟨Heap.Owns.alloc h k, map_device_of_load fun d hd =>
    Heap.load_alloc (h.isSome d.name (List.mem_map_of_mem hd)) k⟩

/-! ### One operation -/

/-- What an operation does when it completes. -/
structure Performs (iface : Interface) (m : Memory) (op : MemoryOp) (m' : Memory) : Prop where
  run : op.run iface m = .ok m'
  owned : m'.Owned
  call : (op.call m.heap).step iface m.store = .ok (m'.store, [])
  live : m'.heap.live + m.devices.length = m.heap.live + m'.devices.length + op.leaks

lemma Owned.performs_addDevice (h : m.Owned) (iface : Interface) (slot : UniqueIdArray)
    (hp : p.Live m.heap) : ∃ m', Performs iface m (.addDevice slot p) m' := by
  obtain ⟨d', hd'⟩ : ∃ d' : DeviceCell, d' =
      { name := (m.heap.alloc (p.value m.heap).1).2
        state := false
        value := 0
        rgb := ⟨255, 255, 255⟩
        uniqueid := writeCStr slot (uniqueidText iface (m.devices.length % 2 ^ 32)) } := ⟨_, rfl⟩
  have howns : (m.heap.alloc (p.value m.heap).1).1.Owns
      ((m.devices ++ [d']).map DeviceCell.name) := by
    rw [List.map_append, hd']
    exact h.alloc_append (p.value m.heap).1
  have hall : (⟨(m.heap.alloc (p.value m.heap).1).1, m.devices ++ [d']⟩ : Memory).Owned := howns
  have hmac := hall.alloc (getMacAddr iface)
  have hdev : d'.device (m.heap.alloc (p.value m.heap).1).1 =
      { name := p.value m.heap
        state := false
        value := 0
        rgb := ⟨255, 255, 255⟩
        uniqueid := writeCStr slot (uniqueidText iface (m.devices.length % 2 ^ 32)) } := by
    simp [hd', DeviceCell.device, readText_val]
  refine ⟨⟨macAddress iface (m.heap.alloc (p.value m.heap).1).1, m.devices ++ [d']⟩, ?_, hmac.1,
    ?_, ?_⟩
  · simp [MemoryOp.run, Memory.addDevice, strdup, CharPtr.read_of_live hp, hd', pure, Except.pure]
  · have hstore : (⟨macAddress iface (m.heap.alloc (p.value m.heap).1).1, m.devices ++ [d']⟩ :
        Memory).store = (FauxmoLinux.addDevice iface slot m.store (p.value m.heap)).1 := by
      refine hmac.2.trans ?_
      rw [store, List.map_append, List.map_singleton, hdev, FauxmoLinux.addDevice, length_store,
        map_device_of_load (m := m) fun d hd =>
          Heap.load_alloc (h.isSome d.name (List.mem_map_of_mem hd)) _]
      rfl
    rw [hstore]
    rfl
  · simp [macAddress, MemoryOp.leaks]
    omega

/-- An operation that changes the cells only. -/
lemma Owned.performs_modify (h : m.Owned) {op : MemoryOp} {f : DeviceCell → DeviceCell}
    {g : Device → Device} {i : ℕ} (hname : ∀ d, (f d).name = d.name)
    (hdev : ∀ d, (f d).device m.heap = g (d.device m.heap)) (hleaks : op.leaks = 0)
    (hrun : op.run iface m = .ok ⟨m.heap, m.devices.modify i f⟩)
    (hcall : (op.call m.heap).step iface m.store = .ok (m.store.modify i g, [])) :
    ∃ m', Performs iface m op m' := by
  have hmod := h.modify hname hdev i
  exact ⟨_, hrun, hmod.1, by rw [hcall, hmod.2], by simp [hleaks]⟩

/-- A command of a control request, and the colour that is made for it. -/
lemma Owned.performs_command (h : m.Owned) (iface : Interface) {c : Command}
    (hlt : id.toNat < m.devices.length) : ∃ m', Performs iface m (.command id c) m' := by
  have hname : ∀ d, (DeviceCell.command c d).name = d.name := fun d => by cases c <;> rfl
  have hdev : ∀ (heap : Heap Bytes) d, (DeviceCell.command c d).device heap =
      c.apply (d.device heap) := fun heap d => by cases c <;> rfl
  have hcall : ((MemoryOp.command id c).call m.heap).step iface m.store =
      .ok (m.store.modify id.toNat c.apply, []) := by
    have hlt' : id.toNat < m.store.length := by rwa [length_store]
    simp [MemoryOp.call, StoreCall.step, modifyDevice_of_lt _ hlt', pure, Except.pure]
  cases c with
  | colour rgb =>
      have hnew := h.alloc [rgb.r, rgb.g, rgb.b]
      have hmod := hnew.1.modify hname (hdev _) id.toNat
      refine ⟨_, if_pos hlt, hmod.1, ?_, ?_⟩
      · have hstore := hmod.2
        rw [hnew.2] at hstore
        rw [hcall, ← hstore]
        rfl
      · simp [newRgb, MemoryOp.leaks]
        omega
  | bri value => exact h.performs_modify hname (hdev _) rfl (if_pos hlt) hcall
  | off => exact h.performs_modify hname (hdev _) rfl (if_pos hlt) hcall
  | on => exact h.performs_modify hname (hdev _) rfl (if_pos hlt) hcall

/-- `setState`, by id or by name. -/
lemma Owned.performs_setState (h : m.Owned) {op : MemoryOp} {state : Bool} {value : UInt8}
    (hleaks : op.leaks = 0) (hrun : op.run iface m = .ok (m.setState id state value))
    (hcall : (op.call m.heap).step iface m.store =
      .ok ((FauxmoLinux.setState m.store id state value).1, [])) :
    ∃ m', Performs iface m op m' := by
  refine h.performs_modify (f := fun d => { d with state := state, value := value })
    (g := fun d => { d with state := state, value := value }) (i := id.toNat)
    (fun _ => rfl) (fun _ => rfl) hleaks (hrun.trans ?_) (hcall.trans ?_)
  · rw [Memory.setState]
    split
    · rfl
    · rename_i hle
      rw [List.modify_eq_self (not_lt.mp hle)]
  · rw [FauxmoLinux.setState]
    split
    · rfl
    · rename_i hle
      rw [List.modify_eq_self (not_lt.mp hle)]

/-- `setState` with a colour, by id or by name. -/
lemma Owned.performs_setStateRgb (h : m.Owned) {op : MemoryOp} {state : Bool} {value : UInt8}
    {rgb : Rgb} (hleaks : op.leaks = 0)
    (hrun : op.run iface m = .ok (m.setStateRgb id state value rgb))
    (hcall : (op.call m.heap).step iface m.store =
      .ok ((FauxmoLinux.setStateRgb m.store id state value rgb).1, [])) :
    ∃ m', Performs iface m op m' := by
  refine h.performs_modify (f := fun d => { d with state := state, value := value, rgb := rgb })
    (g := fun d => { d with state := state, value := value, rgb := rgb }) (i := id.toNat)
    (fun _ => rfl) (fun _ => rfl) hleaks (hrun.trans ?_) (hcall.trans ?_)
  · rw [Memory.setStateRgb]
    split
    · rfl
    · rename_i hle
      rw [List.modify_eq_self (not_lt.mp hle)]
  · rw [FauxmoLinux.setStateRgb]
    split
    · rename_i hle
      rw [List.modify_eq_self hle]
    · rename_i hlt
      rw [FauxmoLinux.setState, if_pos (not_le.mp hlt)]
      simp only [if_true]
      rw [List.modify_modify_eq]
      rfl

/-- **One operation** with valid pointers completes: it does to the devices what the operation on
strings does, and every name is owned behind it. -/
theorem Owned.performs (h : m.Owned) (iface : Interface) {op : MemoryOp} (hv : op.Valid m) :
    ∃ m', Performs iface m op m' := by
  cases op with
  | addDevice slot p => exact h.performs_addDevice iface slot hv
  | setDeviceUniqueId id p =>
      obtain ⟨hlt, hp⟩ := hv
      have hlt' : id.toNat < m.store.length := by rwa [length_store]
      refine h.performs_modify (f := fun d => { d with uniqueid := strncpy _ (p.value m.heap) })
        (g := fun d => { d with uniqueid := strncpy _ (p.value m.heap) }) (i := id.toNat)
        (fun _ => rfl) (fun _ => rfl) rfl ?_ ?_
      · simp [MemoryOp.run, Memory.setDeviceUniqueId, hlt, CharPtr.read_of_live hp, pure,
          Except.pure]
      · simp [MemoryOp.call, StoreCall.step, StoreOp.apply, FauxmoLinux.setDeviceUniqueId,
          modifyDevice_of_lt _ hlt', pure, Except.pure]
  | renameDevice id p =>
      obtain ⟨m', hrun, howned, hstore, hlen, hlive⟩ := h.renameDevice hv
      exact ⟨m', hrun, howned, by rw [hstore]; rfl, by rw [hlen, hlive]; rfl⟩
  | renameDeviceByName old new =>
      obtain ⟨hold, hnew⟩ := hv
      have hid := h.getDeviceId hold
      by_cases hneg : FauxmoLinux.getDeviceId m.store (old.value m.heap) < 0
      · refine ⟨m, ?_, h, ?_, rfl⟩
        · simp [MemoryOp.run, Memory.renameDeviceByName, hid, hneg, pure, Except.pure]
        · simp [MemoryOp.call, StoreCall.step, StoreOp.apply, FauxmoLinux.renameDeviceByName,
            hneg, pure, Except.pure]
      · obtain ⟨m', hrun, howned, hstore, hlen, hlive⟩ := h.renameDevice (hnew (not_lt.mp hneg))
        refine ⟨m', ?_, howned, ?_, by rw [hlen, hlive]; rfl⟩
        · simp [MemoryOp.run, Memory.renameDeviceByName, hid, hneg, hrun]
        · simp [MemoryOp.call, StoreCall.step, StoreOp.apply, FauxmoLinux.renameDeviceByName,
            hneg, hstore, pure, Except.pure]
  | removeDevice id =>
      obtain ⟨m', hrun, howned, hstore, hlive⟩ := h.removeDevice id
      exact ⟨m', hrun, howned, by rw [hstore]; rfl, hlive⟩
  | removeDeviceByName p =>
      have hid := h.getDeviceId hv
      by_cases hneg : FauxmoLinux.getDeviceId m.store (p.value m.heap) < 0
      · refine ⟨m, ?_, h, ?_, rfl⟩
        · simp [MemoryOp.run, Memory.removeDeviceByName, hid, hneg, pure, Except.pure]
        · simp [MemoryOp.call, StoreCall.step, StoreOp.apply, FauxmoLinux.removeDeviceByName,
            hneg, pure, Except.pure]
      · obtain ⟨m', hrun, howned, hstore, hlive⟩ := h.removeDevice
          (UInt8.ofInt (FauxmoLinux.getDeviceId m.store (p.value m.heap)))
        refine ⟨m', ?_, howned, ?_, hlive⟩
        · simp [MemoryOp.run, Memory.removeDeviceByName, hid, hneg, hrun]
        · simp [MemoryOp.call, StoreCall.step, StoreOp.apply, FauxmoLinux.removeDeviceByName,
            hneg, hstore, pure, Except.pure]
  | setState id state value => exact h.performs_setState rfl rfl rfl
  | setStateByName p state value =>
      exact h.performs_setState rfl (by rw [MemoryOp.run, h.getDeviceId hv]; rfl) rfl
  | setStateRgb id state value rgb => exact h.performs_setStateRgb rfl rfl rfl
  | setStateRgbByName p state value rgb =>
      exact h.performs_setStateRgb rfl (by rw [MemoryOp.run, h.getDeviceId hv]; rfl) rfl
  | command id c => exact h.performs_command iface hv
  | macAddress =>
      have hmac : (⟨macAddress iface m.heap, m.devices⟩ : Memory).Owned ∧
          (⟨macAddress iface m.heap, m.devices⟩ : Memory).store = m.store :=
        h.alloc (getMacAddr iface)
      refine ⟨_, rfl, hmac.1, by rw [hmac.2]; rfl, ?_⟩
      simp [macAddress, MemoryOp.leaks]
      omega

/-- **One operation** with another pointer fails. -/
theorem Owned.run_error (h : m.Owned) (iface : Interface) {op : MemoryOp} (hv : ¬ op.Valid m) :
    ∃ e, op.run iface m = .error e := by
  cases op with
  | addDevice slot p =>
      exact ⟨.dangling, by simp [MemoryOp.run, Memory.addDevice, strdup,
        CharPtr.read_of_not_live hv]⟩
  | setDeviceUniqueId id p =>
      rw [MemoryOp.run, Memory.setDeviceUniqueId]
      by_cases hlt : id.toNat < m.devices.length
      · have hdead : ¬ p.Live m.heap := fun hlive => hv ⟨hlt, hlive⟩
        rw [if_pos hlt, CharPtr.read_of_not_live hdead]
        exact ⟨_, rfl⟩
      · exact ⟨_, if_neg hlt⟩
  | renameDevice id p => exact ⟨_, h.renameDevice_error hv⟩
  | renameDeviceByName old new =>
      rw [MemoryOp.run, Memory.renameDeviceByName]
      by_cases hold : old.Compares m
      · obtain ⟨hpos, hnew⟩ := Classical.not_imp.mp fun hnew => hv ⟨hold, hnew⟩
        rw [h.getDeviceId hold, ok_bind, if_neg (not_lt.mpr hpos), h.renameDevice_error hnew]
        exact ⟨_, rfl⟩
      · rw [h.getDeviceId_error hold]
        exact ⟨_, rfl⟩
  | removeDeviceByName p =>
      exact ⟨_, by rw [MemoryOp.run, Memory.removeDeviceByName, h.getDeviceId_error hv]; rfl⟩
  | setStateByName p state value =>
      exact ⟨_, by rw [MemoryOp.run, h.getDeviceId_error hv]; rfl⟩
  | setStateRgbByName p state value rgb =>
      exact ⟨_, by rw [MemoryOp.run, h.getDeviceId_error hv]; rfl⟩
  | command id c => exact ⟨_, if_neg hv⟩
  | _ => exact absurd trivial hv

/-! ### Runs -/

lemma Owned.step_iff (h : m.Owned) (iface : Interface) (op : MemoryOp) :
    (∃ r, m.step iface op = .ok r) ↔ op.Valid m := by
  constructor
  · rintro ⟨r, hr⟩
    by_contra hv
    obtain ⟨e, he⟩ := h.run_error iface hv
    rw [Memory.step, he] at hr
    cases hr
  · intro hv
    obtain ⟨m', hrun, -⟩ := h.performs iface hv
    exact ⟨_, by rw [Memory.step, hrun]; rfl⟩

lemma Owned.performs_of_step (h : m.Owned) {op : MemoryOp} {calls : List StoreCall}
    (hok : m.step iface op = .ok (m', calls)) :
    Performs iface m op m' ∧ calls = [op.call m.heap] := by
  obtain ⟨m₁, hperf⟩ := h.performs iface ((h.step_iff iface op).mp ⟨_, hok⟩)
  rw [Memory.step, hperf.run] at hok
  cases hok
  exact ⟨hperf, rfl⟩

lemma owned_empty : empty.Owned := Heap.owns_nil _

/-- **Safe runs**: a run of operations reads no block that was freed, frees none twice, and
writes to no device that is not there, exactly when each operation is called with valid
pointers and indices. -/
theorem completes_iff (iface : Interface) (ops : List MemoryOp) :
    (∃ r, runs (Memory.step iface) empty ops = .ok r) ↔
      EveryInput (Memory.step iface) (fun m op => op.Valid m) empty ops :=
  exists_runs_iff_everyInput (I := Owned)
    (fun _ _ _ _ h hok => (h.performs_of_step hok).1.owned)
    (fun _ op h => h.step_iff iface op) owned_empty

/-- A state callback that renames the device to the name it was handed: `strdup` reads what
`free` has just given back. -/
example : runs (Memory.step homeEnv.iface) empty
    [.addDevice zeroSlot (.text fernseher), .renameDevice 0 (.block 0)] = .error .dangling := rfl

/-- What a run keeps: the names are owned, the devices are those the calls lead to, and the heap
holds the names and what was leaked. -/
structure Follows (iface : Interface) (ops : List MemoryOp) (m : Memory)
    (calls : List StoreCall) : Prop where
  owned : m.Owned
  store : runs (StoreCall.step iface) [] calls = .ok (m.store, [])
  live : m.heap.live = m.devices.length + (ops.map MemoryOp.leaks).sum

/-- **Names are strings**: a run that completes does to the devices what the operations on strings
do, and the destructor behind it frees every name and leaves one block for every `addDevice`,
every colour and every handler that asked for the hardware address. -/
theorem refines (iface : Interface) (ops : List MemoryOp) (m : Memory) (calls : List StoreCall)
    (h : runs (Memory.step iface) empty ops = .ok (m, calls)) :
    runs (StoreCall.step iface) [] calls = .ok (m.store, []) ∧
      ∃ m', m.destroy = .ok m' ∧ m'.devices = [] ∧
        m'.heap.live = (ops.map MemoryOp.leaks).sum := by
  have hfollows : Follows iface ops m calls := by
    refine runs_history (I := Follows iface) (fun ops m calls op m' calls' hf hok => ?_) (l := [])
      (o := []) ⟨owned_empty, rfl, rfl⟩ h
    obtain ⟨hperf, rfl⟩ := hf.owned.performs_of_step hok
    refine ⟨hperf.owned, ?_, ?_⟩
    · exact runs_append_ok.mpr ⟨m.store, [], [], hf.store,
        (runs_singleton _ _).trans hperf.call, rfl⟩
    · have hlive := hperf.live
      have hbefore := hf.live
      rw [List.map_append, List.sum_append, List.map_singleton, List.sum_singleton]
      omega
  refine ⟨hfollows.store, ?_⟩
  obtain ⟨heap, hfree, hcount⟩ := hfollows.owned.exists_freeAll
  refine ⟨⟨heap, []⟩, by rw [Memory.destroy, hfree], rfl, ?_⟩
  have hlive := hfollows.live
  rw [List.length_map] at hcount
  simp only at *
  omega

/-- A device that is added, found out about and renamed leaves two hardware addresses. -/
theorem refines_rename : ∃ m calls, runs (Memory.step homeEnv.iface) empty
      [.addDevice zeroSlot (.text fernseher), .macAddress,
        .renameDevice 0 (.text ⟨bytes "tv", by decide⟩)] = .ok (m, calls) ∧
    runs (StoreCall.step homeEnv.iface) [] calls = .ok (m.store, []) ∧
      ∃ m', m.destroy = .ok m' ∧ m'.devices = [] ∧ m'.heap.live = 2 :=
  ⟨_, _, rfl, refines homeEnv.iface [.addDevice zeroSlot (.text fernseher), .macAddress,
    .renameDevice 0 (.text ⟨bytes "tv", by decide⟩)] _ _ rfl⟩

end Memory

end FauxmoLinux
