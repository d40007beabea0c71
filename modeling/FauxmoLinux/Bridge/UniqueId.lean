import FauxmoLinux.Bridge.Control

/-!
The `uniqueid`s over the life of a store.

`addDevice` makes the `uniqueid` of a device out of the store size, which `removeDevice` lets
shrink, so a size can come back while a device added at it is still in the store.

* `uniqueidText_inj`: the text tells the sizes apart, although it is cut to the array;
* `StoreOp.carry`, `uniqueidArrays_apply`: what an operation does to the arrays, and to any list
  that goes along with the devices;
* `StoreAction`, `Registry.step`: the actions that leave the `uniqueid`s to `addDevice`, on a
  store with the size it had when each of its devices was added;
* `Linked`: what is kept along every run, that the texts are those of the sizes;
* `Registry.uniqueids_distinct_iff`: on every run the `uniqueid`s are distinct exactly when no
  device is added at a size at which one of the devices of the store was.
-/

namespace FauxmoLinux

/-! ### The text -/

/-- The number, a colon, and the rest as far as it fits. -/
lemma uniqueidText_eq (iface : Interface) {n : ℕ} (hn : n < 2 ^ 32) :
    ∃ rest, uniqueidText iface n = hex02 true n ++ 58 :: rest := by
  have hlen : (hex02 true n).length ≤ 8 := length_hex02_le (by norm_num) (by norm_num; omega)
  have hfull : uniqueidText iface n = (hex02 true n ++
      58 :: (getMacAddr iface ++ bytes ":00:00")).take 26 := by
    simp [uniqueidText, snprintf, sprintf, FAUXMO_DEVICE_UNIQUE_ID_LENGTH, bytes]
  rw [hfull, List.take_append, List.take_of_length_le (by omega)]
  obtain ⟨k, hk⟩ : ∃ k, 26 - (hex02 true n).length = k + 1 :=
    ⟨25 - (hex02 true n).length, by omega⟩
  exact ⟨_, by rw [hk, List.take_succ_cons]⟩

/-- **The text tells the sizes apart**: the number in it can be read back. -/
theorem uniqueidText_inj (iface : Interface) {n m : ℕ} (hn : n < 2 ^ 32) (hm : m < 2 ^ 32)
    (h : uniqueidText iface n = uniqueidText iface m) : n = m := by
  have hread : ∀ k < 2 ^ 32, hexDigitsVal 0 (uniqueidText iface k) = k := by
    intro k hk
    obtain ⟨rest, hrest⟩ := uniqueidText_eq iface hk
    rw [hrest, hexDigitsVal_hex02]
    rfl
  rw [← hread n hn, h, hread m hm]

/-- What the array of a new device holds. -/
lemma uniqueidString_addDevice (iface : Interface) (slot : UniqueIdArray) (n : ℕ) :
    cstr (writeCStr slot (uniqueidText iface n)).toList = uniqueidText iface n := by
  refine cstr_writeCStr slot (fun h => ?_) ?_
  · refine absurd (List.mem_of_mem_take h) (zero_notMem_sprintf (by decide) fun s hs => ?_)
    rcases by simpa using hs with rfl | rfl : s = getMacAddr iface ∨ s = bytes "00:00"
    · exact notMem_getMacAddr (by decide) (by decide) iface
    · decide
  · rw [uniqueidText, snprintf, List.length_take, FAUXMO_DEVICE_UNIQUE_ID_LENGTH]
    omega

/-! ### What goes along with the devices -/

/-- The `uniqueid` arrays of a store. -/
def uniqueidArrays (devices : List Device) : List UniqueIdArray := devices.map Device.uniqueid

/-- A list that goes along with the devices: `added` stands for a new device, whose memory is
given, and `assigned` for one that is assigned a `uniqueid`. -/
def StoreOp.carry {β : Type} (devices : List Device) (added : UniqueIdArray → β)
    (assigned : CString → β) (bs : List β) : StoreOp → List β
  | .addDevice slot _ => bs ++ [added slot]
  | .setDeviceUniqueId id uniqueid => bs.set id.toNat (assigned uniqueid)
  | .removeDevice id => bs.eraseIdx id.toNat
  | .removeDeviceByName name =>
      if getDeviceId devices name < 0 then bs
      else bs.eraseIdx (UInt8.ofInt (getDeviceId devices name)).toNat
  | _ => bs

namespace StoreOp

variable {β : Type} {devices : List Device} {added : UniqueIdArray → β} {assigned : CString → β}
  {bs : List β}

lemma map_carry {γ : Type} (f : β → γ) (op : StoreOp) :
    (op.carry devices added assigned bs).map f =
      op.carry devices (fun slot => f (added slot)) (fun uniqueid => f (assigned uniqueid))
        (bs.map f) := by
  cases op with
  | addDevice slot name => simp [carry]
  | setDeviceUniqueId id uniqueid => simp [carry]
  | removeDevice id => exact (List.eraseIdx_map ..).symm
  | removeDeviceByName name =>
      rw [carry, carry]
      split
      · rfl
      · exact (List.eraseIdx_map ..).symm
  | _ => rfl

lemma forall_mem_carry {p : β → Prop} {op : StoreOp} (hadd : ∀ slot, p (added slot))
    (hset : ∀ uniqueid, p (assigned uniqueid)) (h : ∀ b ∈ bs, p b) :
    ∀ b ∈ op.carry devices added assigned bs, p b := by
  intro b hb
  cases op with
  | addDevice slot name =>
      rcases List.mem_append.mp hb with hb | hb
      · exact h b hb
      · exact List.mem_singleton.mp hb ▸ hadd slot
  | setDeviceUniqueId id uniqueid =>
      rcases List.mem_or_eq_of_mem_set hb with hb | rfl
      · exact h b hb
      · exact hset uniqueid
  | removeDevice id => exact h b (List.mem_of_mem_eraseIdx hb)
  | removeDeviceByName name =>
      rw [carry] at hb
      split at hb
      · exact h b hb
      · exact h b (List.mem_of_mem_eraseIdx hb)
  | _ => exact h b hb

end StoreOp

lemma uniqueidArrays_modify {f : Device → Device} (h : ∀ d, (f d).uniqueid = d.uniqueid)
    (devices : List Device) (i : ℕ) :
    uniqueidArrays (devices.modify i f) = uniqueidArrays devices := map_modify h devices i

lemma uniqueidArrays_renameDevice (devices : List Device) (id : UInt8) (name : CString) :
    uniqueidArrays (renameDevice devices id name).1 = uniqueidArrays devices := by
  rw [renameDevice]
  split
  · refine uniqueidArrays_modify ?_ devices _
    exact fun _ => rfl
  · rfl

lemma uniqueidArrays_setState (devices : List Device) (id : UInt8) (state : Bool)
    (value : UInt8) :
    uniqueidArrays (setState devices id state value).1 = uniqueidArrays devices := by
  rw [setState]
  split
  · refine uniqueidArrays_modify ?_ devices _
    exact fun _ => rfl
  · rfl

lemma uniqueidArrays_setStateRgb (devices : List Device) (id : UInt8) (state : Bool)
    (value : UInt8) (rgb : Rgb) :
    uniqueidArrays (setStateRgb devices id state value rgb).1 = uniqueidArrays devices := by
  have hset := uniqueidArrays_setState devices id state value
  rw [setStateRgb]
  split
  · rfl
  · simp only
    split
    · rw [← hset]
      refine uniqueidArrays_modify ?_ _ _
      exact fun _ => rfl
    · exact hset

lemma uniqueidArrays_removeDevice (devices : List Device) (id : UInt8) :
    uniqueidArrays (removeDevice devices id).1 = (uniqueidArrays devices).eraseIdx id.toNat := by
  rw [removeDevice]
  split
  · exact (List.eraseIdx_map _ _ _).symm
  · rename_i hle
    rw [List.eraseIdx_of_length_le (by rw [uniqueidArrays, List.length_map]; omega)]

lemma uniqueidArrays_set (devices : List Device) (i : ℕ) (uniqueid : UniqueIdArray) :
    uniqueidArrays (devices.modify i fun d => { d with uniqueid := uniqueid }) =
      (uniqueidArrays devices).set i uniqueid := by
  refine List.ext_getElem? fun j => ?_
  rw [uniqueidArrays, List.getElem?_map, List.getElem?_modify, List.getElem?_set,
    uniqueidArrays, List.getElem?_map]
  by_cases hij : i = j
  · subst hij
    cases hd : devices[i]? with
    | none => simpa using hd
    | some d =>
        have hlt : i < devices.length := (List.getElem?_eq_some_iff.mp hd).1
        simp [hlt]
  · simp [hij]

/-- **What an operation does to the arrays.** -/
theorem uniqueidArrays_apply {iface : Interface} {devices devices' : List Device} {op : StoreOp}
    (h : op.apply iface devices = .ok devices') : uniqueidArrays devices' =
      op.carry devices
        (fun slot => writeCStr slot (uniqueidText iface (devices.length % 2 ^ 32)))
        (strncpy FAUXMO_DEVICE_UNIQUE_ID_LENGTH) (uniqueidArrays devices) := by
  cases op with
  | addDevice slot name =>
      obtain rfl := Except.ok.inj h
      simp [StoreOp.carry, addDevice, uniqueidArrays]
  | setDeviceUniqueId id uniqueid =>
      rw [StoreOp.apply, setDeviceUniqueId, modifyDevice] at h
      split at h
      · obtain rfl := Except.ok.inj h
        exact uniqueidArrays_set devices id.toNat _
      · cases h
  | renameDevice id name =>
      obtain rfl := Except.ok.inj h
      exact uniqueidArrays_renameDevice devices id name
  | renameDeviceByName old new =>
      obtain rfl := Except.ok.inj h
      rw [renameDeviceByName]
      split
      · rfl
      · exact uniqueidArrays_renameDevice devices _ new
  | removeDevice id =>
      obtain rfl := Except.ok.inj h
      exact uniqueidArrays_removeDevice devices id
  | removeDeviceByName name =>
      obtain rfl := Except.ok.inj h
      rw [removeDeviceByName, StoreOp.carry]
      split
      · rfl
      · exact uniqueidArrays_removeDevice devices _
  | setState id state value =>
      obtain rfl := Except.ok.inj h
      exact uniqueidArrays_setState devices id state value
  | setStateByName name state value =>
      obtain rfl := Except.ok.inj h
      exact uniqueidArrays_setState devices _ state value
  | setStateRgb id state value rgb =>
      obtain rfl := Except.ok.inj h
      exact uniqueidArrays_setStateRgb devices id state value rgb
  | setStateRgbByName name state value rgb =>
      obtain rfl := Except.ok.inj h
      exact uniqueidArrays_setStateRgb devices _ state value rgb

/-! ### Actions on a store -/

/-- Whether the operation is `setDeviceUniqueId`. -/
def StoreOp.setsUniqueId : StoreOp → Bool
  | .setDeviceUniqueId _ _ => true
  | _ => false

lemma StoreOp.carry_of_keeps {β : Type} {devices : List Device} {added : UniqueIdArray → β}
    {assigned assigned' : CString → β} {bs : List β} {op : StoreOp}
    (keeps : op.setsUniqueId = false) :
    op.carry devices added assigned bs = op.carry devices added assigned' bs := by
  cases op with
  | setDeviceUniqueId id uniqueid => cases keeps
  | _ => rfl

/-- What changes a store whose `uniqueid`s are left to `addDevice`. -/
inductive StoreAction where
  | op (op : StoreOp) (keeps : op.setsUniqueId = false)
  | control (url body : Bytes)

/-- A store, and for each of its devices the size of the store, as an `unsigned int`, at which
it was added. -/
structure Registry where
  devices : List Device
  addedAt : List ℕ

/-- The sizes after an operation. -/
def StoreOp.addedAt (devices : List Device) (addedAt : List ℕ) : StoreOp → List ℕ
  | .addDevice _ _ => addedAt ++ [devices.length % 2 ^ 32]
  | .removeDevice id => addedAt.eraseIdx id.toNat
  | .removeDeviceByName name =>
      if getDeviceId devices name < 0 then addedAt
      else addedAt.eraseIdx (UInt8.ofInt (getDeviceId devices name)).toNat
  | _ => addedAt

/-- An action on a store with its sizes. -/
def Registry.step (env : Env) (callback : Bool) (r : Registry) :
    StoreAction → Except Fault (Registry × List Event)
  | .op op _ => do
      let devices ← op.apply env.iface r.devices
      return (⟨devices, op.addedAt r.devices r.addedAt⟩, [])
  | .control url body => do
      let o ← onTCPControl env callback r.devices url body
      return (⟨o.devices, r.addedAt⟩, o.events)

/-- The `uniqueid` strings of a store. -/
def uniqueids (devices : List Device) : List Bytes := devices.map Device.uniqueidString

/-! ### The invariant -/

/-- The `uniqueid`s are the texts of the sizes, which fit an `unsigned int`. -/
structure Linked (iface : Interface) (r : Registry) : Prop where
  uniqueids_eq : uniqueids r.devices = r.addedAt.map (uniqueidText iface)
  lt : ∀ n ∈ r.addedAt, n < 2 ^ 32

lemma uniqueids_modify {f : Device → Device} (h : ∀ d, (f d).uniqueid = d.uniqueid)
    (devices : List Device) (i : ℕ) : uniqueids (devices.modify i f) = uniqueids devices :=
  map_modify (fun d => by rw [Device.uniqueidString, h]; rfl) devices i

/-- The texts of the arrays an operation leaves behind. -/
lemma uniqueids_apply {iface : Interface} {devices devices' : List Device} {op : StoreOp}
    (h : op.apply iface devices = .ok devices') : uniqueids devices' =
      op.carry devices (fun _ => uniqueidText iface (devices.length % 2 ^ 32))
        (fun s => cstr (strncpy FAUXMO_DEVICE_UNIQUE_ID_LENGTH s).toList) (uniqueids devices) := by
  have hmap : ∀ ds : List Device, uniqueids ds = (uniqueidArrays ds).map fun v => cstr v.toList :=
    fun ds => by rw [uniqueidArrays, List.map_map]; rfl
  rw [hmap devices', uniqueidArrays_apply h, StoreOp.map_carry, ← hmap]
  simp only [uniqueidString_addDevice]

/-- An operation that assigns no `uniqueid` keeps texts and sizes together. -/
lemma Linked.apply {iface : Interface} {r : Registry} (h : Linked iface r) {op : StoreOp}
    (keeps : op.setsUniqueId = false) {devices : List Device}
    (hok : op.apply iface r.devices = .ok devices) :
    Linked iface ⟨devices, op.addedAt r.devices r.addedAt⟩ := by
  have hcarry : op.addedAt r.devices r.addedAt =
      op.carry r.devices (fun _ => r.devices.length % 2 ^ 32) (fun _ => 0) r.addedAt := by
    cases op with
    | setDeviceUniqueId id uniqueid => cases keeps
    | _ => rfl
  have hlt : r.devices.length % 2 ^ 32 < 2 ^ 32 := Nat.mod_lt _ (by norm_num)
  refine ⟨?_, ?_⟩
  · rw [uniqueids_apply hok, hcarry, StoreOp.map_carry, ← h.uniqueids_eq,
      StoreOp.carry_of_keeps keeps]
  · rw [hcarry]
    exact StoreOp.forall_mem_carry (fun _ => hlt) (fun _ => by norm_num) h.lt

variable {env : Env} {callback : Bool}

/-- **One action keeps texts and sizes together.** -/
theorem Linked.step {r r' : Registry} {a : StoreAction} {events : List Event}
    (h : Linked env.iface r) (hok : r.step env callback a = .ok (r', events)) :
    Linked env.iface r' := by
  cases a with
  | op op keeps =>
      obtain ⟨devices, hop, hret⟩ := bind_ok_iff.mp hok
      obtain rfl : _ = r' := congrArg Prod.fst (Except.ok.inj hret)
      exact h.apply keeps hop
  | control url body =>
      obtain ⟨o, ho, hret⟩ := bind_ok_iff.mp hok
      obtain rfl : _ = r' := congrArg Prod.fst (Except.ok.inj hret)
      rcases onTCPControl_ok_cases ho with ⟨-, rfl⟩ | ⟨-, -, rfl⟩ | ⟨id, d, c, -, -, -, rfl⟩
      · exact h
      · exact h
      · exact ⟨(uniqueids_modify c.apply_uniqueid _ _).trans h.uniqueids_eq, h.lt⟩

/-- Under the invariant distinct texts are distinct sizes. -/
lemma Linked.nodup_iff {iface : Interface} {r : Registry} (h : Linked iface r) :
    (uniqueids r.devices).Nodup ↔ r.addedAt.Nodup := by
  rw [h.uniqueids_eq]
  constructor
  · exact List.Nodup.of_map _
  · exact fun hnd => hnd.map_on fun n hn m hm hnm =>
      uniqueidText_inj iface (h.lt n hn) (h.lt m hm) hnm

/-! ### Runs -/

/-- The store an action leads to has distinct `uniqueid`s. -/
def DistinctAfter (_ : Registry) (_ : StoreAction) (r' : Registry) (_ : List Event) : Prop :=
  (uniqueids r'.devices).Nodup

instance (r : Registry) (a : StoreAction) (r' : Registry) (events : List Event) :
    Decidable (DistinctAfter r a r' events) :=
  inferInstanceAs (Decidable (List.Nodup _))

/-- A device is added only at a size at which none of the devices of the store was added. -/
def AddsAtNewSize (r : Registry) (a : StoreAction) (_ : Registry) (_ : List Event) : Prop :=
  ∀ slot name keeps, a = .op (.addDevice slot name) keeps →
    r.devices.length % 2 ^ 32 ∉ r.addedAt

/-- An action adds at the size of the store, or takes sizes away. -/
lemma addedAt_sublist {r r' : Registry} {a : StoreAction} {events : List Event}
    (hok : r.step env callback a = .ok (r', events)) :
    (∃ slot name keeps, a = .op (.addDevice slot name) keeps ∧
        r'.addedAt = r.addedAt ++ [r.devices.length % 2 ^ 32]) ∨
      ((∀ slot name keeps, a ≠ .op (.addDevice slot name) keeps) ∧
        r'.addedAt.Sublist r.addedAt) := by
  cases a with
  | control url body =>
      obtain ⟨o, -, hret⟩ := bind_ok_iff.mp hok
      obtain rfl : _ = r' := congrArg Prod.fst (Except.ok.inj hret)
      exact Or.inr ⟨by simp, List.Sublist.refl _⟩
  | op op keeps =>
      obtain ⟨devices, -, hret⟩ := bind_ok_iff.mp hok
      obtain rfl : _ = r' := congrArg Prod.fst (Except.ok.inj hret)
      cases op with
      | addDevice slot name => exact Or.inl ⟨slot, name, keeps, rfl, rfl⟩
      | removeDevice id => exact Or.inr ⟨by simp, List.eraseIdx_sublist _ _⟩
      | removeDeviceByName name =>
          refine Or.inr ⟨by simp, ?_⟩
          simp only [StoreOp.addedAt]
          split
          · exact List.Sublist.refl _
          · exact List.eraseIdx_sublist _ _
      | setDeviceUniqueId id uniqueid => cases keeps
      | _ => exact Or.inr ⟨by simp, List.Sublist.refl _⟩

/-- **Distinct `uniqueid`s**: on every run from the empty store they are distinct after every
action exactly when no device is added at the size at which another device of the store was. -/
theorem Registry.uniqueids_distinct_iff (actions : List StoreAction) :
    EveryStep (Registry.step env callback) DistinctAfter ⟨[], []⟩ actions ↔
      EveryStep (Registry.step env callback) AddsAtNewSize ⟨[], []⟩ actions := by
  refine everyStep_congr (I := fun r => Linked env.iface r ∧ r.addedAt.Nodup) ?_ ?_
    ⟨⟨rfl, by simp⟩, List.nodup_nil⟩
  · rintro r a r' events ⟨h, -⟩ hok hdist
    exact ⟨h.step hok, (h.step hok).nodup_iff.mp hdist⟩
  · rintro r a r' events ⟨h, hnd⟩ hok
    rw [DistinctAfter, (h.step hok).nodup_iff]
    rcases addedAt_sublist hok with ⟨slot, name, keeps, rfl, hadd⟩ | ⟨hne, hsub⟩
    · rw [hadd, ← List.concat_eq_append, List.nodup_concat]
      exact ⟨fun hn _ _ _ _ => hn.1, fun hn => ⟨hn slot name keeps rfl, hnd⟩⟩
    · exact iff_of_true (hnd.sublist hsub) fun slot name keeps heq => absurd heq (hne _ _ _)

/-- Two devices, the first removed, a third added: the last two share their `uniqueid`. -/
theorem Registry.uniqueids_clash :
    ¬ EveryStep (Registry.step homeEnv true) DistinctAfter ⟨[], []⟩
      [.op (.addDevice zeroSlot ⟨bytes "a", by decide⟩) rfl,
        .op (.addDevice zeroSlot ⟨bytes "b", by decide⟩) rfl,
        .op (.removeDevice 0) rfl,
        .op (.addDevice zeroSlot ⟨bytes "c", by decide⟩) rfl] := by
  intro h
  have hdist := ((((h _ _ rfl).2 _ _ rfl).2 _ _ rfl).2 _ _ rfl).1
  revert hdist
  decide

end FauxmoLinux
