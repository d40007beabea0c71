import FauxmoLinux.Bridge.UniqueId

/-!
The `uniqueid`s that are assigned to devices, and what is read back of them.

`addDevice` and `setDeviceUniqueId` write to the same array of `27` bytes, one with `snprintf`,
which leaves room for a terminator, and one with `strncpy`, which does not.

* `Ledger`, `Ledger.step`: a store with the string last assigned to each of its devices, and an
  operation on it;
* `readArray_writeCStr`, `readArray_strncpy_iff`: what is read behind each of the two writers;
* `Ledger.shown_iff`: on every run the strings are read back, as far as they fit, exactly when no
  string assigned by `setDeviceUniqueId` fills the array.
-/

namespace FauxmoLinux

/-! ### One array -/

/-- `%s` of an array. -/
def readArray (v : UniqueIdArray) : Except Fault Bytes :=
  if (0 : UInt8) ∈ v.toList then .ok (cstr v.toList) else .error .overrun

lemma readUniqueid_eq (d : Device) : d.readUniqueid = readArray d.uniqueid := rfl

/-- The text `addDevice` assigns, before it is cut. -/
def assignedText (iface : Interface) (deviceId : ℕ) : Bytes :=
  sprintf [.hex true, .lit (bytes ":"), .str, .lit (bytes ":"), .str]
    [.int deviceId, .cstr (getMacAddr iface), .cstr (bytes "00:00")]

lemma uniqueidText_eq_take (iface : Interface) (n : ℕ) :
    uniqueidText iface n = (assignedText iface n).take 26 := rfl

/-- `snprintf` leaves a terminator. -/
lemma readArray_writeCStr (iface : Interface) (slot : UniqueIdArray) (n : ℕ) :
    readArray (writeCStr slot (uniqueidText iface n)) = .ok ((assignedText iface n).take 26) := by
  have hlen : (uniqueidText iface n).length < FAUXMO_DEVICE_UNIQUE_ID_LENGTH := by
    rw [uniqueidText_eq_take, List.length_take, FAUXMO_DEVICE_UNIQUE_ID_LENGTH]
    omega
  have hmem : (0 : UInt8) ∈ (writeCStr slot (uniqueidText iface n)).toList := by
    rw [toList_writeCStr slot hlen]
    simp
  rw [readArray, if_pos hmem, uniqueidString_addDevice, uniqueidText_eq_take]

/-- `strncpy` leaves one behind a string that is shorter than the array. -/
lemma readArray_strncpy_iff (uniqueid : CString) :
    readArray (strncpy FAUXMO_DEVICE_UNIQUE_ID_LENGTH uniqueid) = .ok (uniqueid.1.take 26) ↔
      uniqueid.1.length ≤ 26 := by
  rw [readArray, toList_strncpy, FAUXMO_DEVICE_UNIQUE_ID_LENGTH]
  by_cases hlen : uniqueid.1.length ≤ 26
  · obtain ⟨k, hk⟩ : ∃ k, 27 - uniqueid.1.length = k + 1 := ⟨26 - uniqueid.1.length, by omega⟩
    rw [hk, List.replicate_succ, List.take_of_length_le (by omega), if_pos (by simp),
      cstr_append_zero, cstr_of_notMem uniqueid.2, List.take_of_length_le hlen]
    simp [hlen]
  · have hnot : (0 : UInt8) ∉ uniqueid.1.take 27 := fun h =>
      uniqueid.2 (List.mem_of_mem_take h)
    rw [show 27 - uniqueid.1.length = 0 by omega, List.replicate_zero, List.append_nil,
      if_neg hnot]
    simp [hlen]

/-! ### The store and its ledger -/

/-- A store, and the string last assigned to each of its devices. -/
structure Ledger where
  devices : List Device
  assigned : List Bytes

/-- A public operation on a store with its ledger. -/
def Ledger.step (iface : Interface) (l : Ledger) (op : StoreOp) :
    Except Fault (Ledger × List Event) := do
  let devices ← op.apply iface l.devices
  let assigned := op.carry l.devices
    (fun _ => assignedText iface (l.devices.length % 2 ^ 32)) (fun uniqueid => uniqueid.1)
    l.assigned
  return (⟨devices, assigned⟩, [])

/-- Every array holds a terminator, and what is read of it is the string last assigned, cut to
`26` characters. -/
structure Ledger.Shown (l : Ledger) : Prop where
  terminated : ∀ d ∈ l.devices, (0 : UInt8) ∈ d.uniqueid.toList
  read : l.devices.map Device.readUniqueid = l.assigned.map fun s => .ok (s.take 26)

/-- An array that is read holds a terminator. -/
lemma Ledger.shown_iff_read {l : Ledger} :
    l.Shown ↔ l.devices.map Device.readUniqueid = l.assigned.map fun s => .ok (s.take 26) := by
  refine ⟨Shown.read, fun h => ⟨fun d hd => ?_, h⟩⟩
  have hmem : d.readUniqueid ∈ l.devices.map Device.readUniqueid := List.mem_map_of_mem hd
  rw [h] at hmem
  obtain ⟨s, -, hs⟩ := List.mem_map.mp hmem
  by_contra h0
  rw [readUniqueid_eq, readArray, if_neg h0] at hs
  cases hs

/-- A different element at an index makes a different list. -/
lemma set_inj_iff {β : Type} {bs : List β} {i : ℕ} (hi : i < bs.length) {a b : β} :
    bs.set i a = bs.set i b ↔ a = b := by
  refine ⟨fun h => ?_, fun h => by rw [h]⟩
  have hget := congrArg (fun l => l[i]?) h
  simpa [hi] using hget

/-- The operation assigns no string that fills the array. -/
def FitsArray (_ : Ledger) (op : StoreOp) (_ : Ledger) (_ : List Event) : Prop :=
  ∀ id uniqueid, op = .setDeviceUniqueId id uniqueid → uniqueid.1.length ≤ 26

/-- The strings assigned are read back behind the operation. -/
def ShownAfter (_ : Ledger) (_ : StoreOp) (l' : Ledger) (_ : List Event) : Prop := l'.Shown

/-- **One operation**: the strings are read back behind it exactly when what it assigns does not
fill the array. -/
lemma Ledger.shown_step_iff {iface : Interface} {l l' : Ledger} {op : StoreOp}
    {events : List Event} (h : l.Shown) (hok : l.step iface op = .ok (l', events)) :
    l'.Shown ↔ FitsArray l op l' events := by
  obtain ⟨devices, hop, hret⟩ := bind_ok_iff.mp hok
  obtain rfl : _ = l' := congrArg Prod.fst (Except.ok.inj hret)
  -- both lists, as the operation makes them of what was read before
  have hread : devices.map Device.readUniqueid = op.carry l.devices
      (fun _ => .ok ((assignedText iface (l.devices.length % 2 ^ 32)).take 26))
      (fun uniqueid => readArray (strncpy FAUXMO_DEVICE_UNIQUE_ID_LENGTH uniqueid))
      (l.devices.map Device.readUniqueid) := by
    have hmap : ∀ ds : List Device,
        ds.map Device.readUniqueid = (uniqueidArrays ds).map readArray := fun ds => by
      rw [uniqueidArrays, List.map_map]
      rfl
    rw [hmap devices, uniqueidArrays_apply hop, StoreOp.map_carry, ← hmap]
    simp only [readArray_writeCStr]
  have hassigned : (op.carry l.devices
      (fun _ => assignedText iface (l.devices.length % 2 ^ 32)) (fun uniqueid => uniqueid.1)
      l.assigned).map (fun s => Except.ok (ε := Fault) (s.take 26)) = op.carry l.devices
      (fun _ => .ok ((assignedText iface (l.devices.length % 2 ^ 32)).take 26))
      (fun uniqueid => .ok (uniqueid.1.take 26)) (l.devices.map Device.readUniqueid) := by
    rw [StoreOp.map_carry, h.read]
  rw [shown_iff_read]
  dsimp only
  rw [hread, hassigned]
  cases op with
  | setDeviceUniqueId id uniqueid =>
      have hid : id.toNat < (l.devices.map Device.readUniqueid).length := by
        by_contra hle
        rw [StoreOp.apply, setDeviceUniqueId, modifyDevice_of_le _ (by simpa using hle)] at hop
        cases hop
      rw [StoreOp.carry, StoreOp.carry, set_inj_iff hid, readArray_strncpy_iff, FitsArray]
      simp
  | _ => exact iff_of_true (StoreOp.carry_of_keeps rfl) fun id uniqueid heq => by cases heq

/-- **The `uniqueid`s that are shown**: on every run from the empty store every array holds a
terminator, and the string last assigned as far as it fits, exactly when no string assigned by
`setDeviceUniqueId` has more than `26` characters. -/
theorem Ledger.shown_iff (iface : Interface) (ops : List StoreOp) :
    EveryStep (Ledger.step iface) ShownAfter ⟨[], []⟩ ops ↔
      EveryStep (Ledger.step iface) FitsArray ⟨[], []⟩ ops := by
  refine everyStep_congr (I := Ledger.Shown) (fun l op l' events _ _ h => h) ?_
    ⟨by simp, rfl⟩
  intro l op l' events h hok
  exact shown_step_iff h hok

/-- A `uniqueid` of `27` characters leaves no room for a terminator. -/
theorem Ledger.not_shown_27 :
    ¬ EveryStep (Ledger.step homeEnv.iface) ShownAfter ⟨[], []⟩
      [.addDevice zeroSlot fernseher,
        .setDeviceUniqueId 0 ⟨bytes "00:17:88:01:00:00:00:01-0b1", by decide⟩] := by
  intro h
  have hshown := (h _ _ rfl).2 _ _ rfl
  have hterm := hshown.1.terminated _ (List.mem_singleton_self _)
  revert hterm
  decide

end FauxmoLinux
