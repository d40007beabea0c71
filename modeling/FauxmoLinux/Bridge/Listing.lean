import FauxmoLinux.Bridge.Guard
import FauxmoLinux.Bridge.Meaning
import FauxmoLinux.Bridge.UniqueId

/-!
The lists of lights.

* `longJson`, `shortJson`, `listText`: what is sent about one light and about all of them;
* `listLoop_of_le`, `listLoop_diverge`: the loop over the devices, which ends with every device
  once in order when there are at most `255`, and never ends when there are more;
* `MemberOp`, `readable_stored`: stores that devices are added to and removed from;
* `answersLight_iff`: which numbers in a URL are answered with the light they name.
-/

namespace FauxmoLinux

/-! ### Texts -/

/-- The `uniqueid` can be read as a string: it ends inside its array. -/
def Device.Readable (d : Device) : Prop := (0 : UInt8) ∈ d.uniqueid.toList

/-- The long description of a device. -/
def Device.longJson (d : Device) : Bytes :=
  snprintf (strlen FAUXMO_DEVICE_JSON_TEMPLATE + 64) FAUXMO_DEVICE_JSON_TEMPLATE
    [.cstr d.name.1, .cstr d.uniqueidString, .cstr (boolText d.state), .int d.value.toNat]

/-- The short description of a device, in the same buffer. -/
def Device.shortJson (d : Device) : Bytes :=
  snprintf (strlen FAUXMO_DEVICE_JSON_TEMPLATE + 64) FAUXMO_DEVICE_JSON_TEMPLATE_SHORT
    [.cstr d.name.1, .cstr d.uniqueidString]

/-- The entry of a list for the device at the index `i`. -/
def listEntry (i : ℕ) (d : Device) : Bytes :=
  bytes "\"" ++ toDec (i + 1) ++ bytes "\":" ++ d.shortJson

/-- A list of all devices. -/
def listText (devices : List Device) : Bytes :=
  bytes "\x7b" ++ (bytes ",").intercalate (devices.mapIdx listEntry) ++ bytes "\x7d"

instance (d : Device) : Decidable d.Readable := inferInstanceAs (Decidable (_ ∈ _))

/-- The long description of the light at an index, the empty object when there is none. -/
def lightJson (devices : List Device) (i : ℕ) : Except Fault Bytes :=
  match devices[i]? with
  | none => .ok (bytes "\x7b\x7d")
  | some d => if d.Readable then .ok d.longJson else .error .overrun

lemma readUniqueid_of_readable {d : Device} (h : d.Readable) :
    d.readUniqueid = .ok d.uniqueidString := if_pos h

lemma deviceJson_long (devices : List Device) (id : UInt8) :
    deviceJson devices id true = lightJson devices id.toNat := by
  rw [deviceJson, lightJson]
  cases devices[id.toNat]? with
  | none => rfl
  | some d =>
      by_cases h : d.Readable
      · simp only [readUniqueid_of_readable h, ok_bind, if_true, if_pos h]
        rfl
      · have herr : d.readUniqueid = .error .overrun := if_neg h
        simp only [herr, if_neg h]
        rfl

lemma deviceJson_short {devices : List Device} {id : UInt8} {d : Device} (h : d.Readable)
    (hd : devices[id.toNat]? = some d) : deviceJson devices id false = .ok d.shortJson := by
  rw [deviceJson, hd]
  simp only [readUniqueid_of_readable h, ok_bind, Bool.false_eq_true, if_false]
  rfl

/-! ### The loop -/

/-- What the loop has collected before the index `i`. -/
def listed (devices : List Device) (i : ℕ) : Bytes :=
  bytes "\x7b" ++ (bytes ",").intercalate ((devices.mapIdx listEntry).take i)

lemma intercalate_append_singleton (sep x : Bytes) (l : List Bytes) :
    sep.intercalate (l ++ [x]) = sep.intercalate l ++ (if l = [] then [] else sep) ++ x := by
  induction l with
  | nil => simp
  | cons a l ih =>
      cases l with
      | nil => simp [List.intercalate_cons_cons]
      | cons b l =>
          rw [List.cons_append, List.cons_append, List.intercalate_cons_cons, ← List.cons_append,
            ih, List.intercalate_cons_cons]
          simp

lemma listed_succ {devices : List Device} {i : ℕ} (h : i < devices.length) :
    listed devices (i + 1) =
      listed devices i ++ (if 0 < i then bytes "," else []) ++ listEntry i devices[i] := by
  have htake : (devices.mapIdx listEntry).take (i + 1) =
      (devices.mapIdx listEntry).take i ++ [listEntry i devices[i]] := by
    rw [List.take_add_one, List.getElem?_mapIdx, List.getElem?_eq_getElem h]
    rfl
  have hnil : (devices.mapIdx listEntry).take i = [] ↔ ¬ 0 < i := by
    rw [← List.length_eq_zero_iff, List.length_take, List.length_mapIdx]
    omega
  rw [listed, htake, intercalate_append_singleton, listed]
  by_cases hi : 0 < i
  · rw [if_pos hi, if_neg fun h => hnil.mp h hi]
    simp
  · rw [if_neg hi, if_pos (hnil.mpr hi)]
    simp

/-- **The loop ends** on a store of at most `255` devices, every device being listed once. -/
theorem listLoop_of_le {devices : List Device} (h : ∀ d ∈ devices, d.Readable)
    (hlen : devices.length ≤ 255) {rounds i : ℕ} (hi : i ≤ devices.length)
    (hrounds : devices.length - i < rounds) :
    listLoop devices rounds (UInt8.ofNat i) (listed devices i) =
      .ok (listed devices devices.length) := by
  induction rounds generalizing i with
  | zero => omega
  | succ rounds ih =>
      have hmod : (UInt8.ofNat i).toNat = i := by
        rw [UInt8.toNat_ofNat']
        omega
      rw [listLoop, hmod]
      by_cases hlt : i < devices.length
      · have hd : devices[(UInt8.ofNat i).toNat]? = some devices[i] := by
          rw [hmod, List.getElem?_eq_getElem hlt]
        have hpos : UInt8.ofNat i > 0 ↔ 0 < i := by
          rw [gt_iff_lt, UInt8.lt_iff_toNat_lt, hmod, UInt8.toNat_zero]
        have hnext : UInt8.ofNat i + 1 = UInt8.ofNat (i + 1) := by simp
        have htext : listed devices i ++ (if UInt8.ofNat i > 0 then bytes "," else []) ++
            bytes "\"" ++ toDec (i + 1) ++ bytes "\":" ++ devices[i].shortJson =
              listed devices (i + 1) := by
          rw [listed_succ hlt, listEntry]
          simp only [hpos, List.append_assoc]
        rw [if_pos hlt, deviceJson_short (h _ (List.getElem_mem hlt)) hd]
        simp only [ok_bind, hnext, htext]
        exact ih hlt (by omega)
      · rw [if_neg hlt, show i = devices.length by omega]

/-- **The loop never ends** on a store of more devices: the counter is `0` again behind `255`
and stays below the number of devices. -/
theorem listLoop_diverge {devices : List Device} (h : ∀ d ∈ devices, d.Readable)
    (hlen : 256 ≤ devices.length) (rounds : ℕ) (i : UInt8) (response : Bytes) :
    listLoop devices rounds i response = .error .diverge := by
  induction rounds generalizing i response with
  | zero => rfl
  | succ rounds ih =>
      have hlt : i.toNat < devices.length := lt_of_lt_of_le i.toNat_lt hlen
      have hd : devices[i.toNat]? = some devices[i.toNat] := List.getElem?_eq_getElem hlt
      rw [listLoop, if_pos hlt, deviceJson_short (h _ (List.getElem_mem hlt)) hd, ok_bind]
      exact ih _ _

/-- Whatever the devices are, the loop over more than `255` of them gives no list. -/
lemma listLoop_ne_ok {devices : List Device} (hlen : 256 ≤ devices.length) (rounds : ℕ)
    (i : UInt8) (response list : Bytes) : listLoop devices rounds i response ≠ .ok list := by
  induction rounds generalizing i response with
  | zero => exact fun h => nomatch h
  | succ rounds ih =>
      have hlt : i.toNat < devices.length := lt_of_lt_of_le i.toNat_lt hlen
      rw [listLoop, if_pos hlt]
      intro h
      obtain ⟨json, -, hrest⟩ := bind_ok_iff.mp h
      exact ih _ _ hrest

lemma listResponse_zero {devices : List Device} (h : ∀ d ∈ devices, d.Readable)
    (hlen : devices.length ≤ 255) : listResponse devices 0 = .ok (listText devices) := by
  have hloop := listLoop_of_le h hlen (Nat.zero_le _) (show devices.length - 0 < 256 by omega)
  have hstart : listed devices 0 = bytes "\x7b" := rfl
  have hend : listed devices devices.length =
      bytes "\x7b" ++ (bytes ",").intercalate (devices.mapIdx listEntry) := by
    rw [listed, List.take_of_length_le (by simp)]
  rw [hstart, hend] at hloop
  rw [listResponse, if_pos rfl]
  exact bind_ok_iff.mpr ⟨_, hloop, rfl⟩

/-! ### Stores that devices are added to and removed from -/

/-- The operations that change the number of devices. -/
inductive MemberOp where
  | addDevice (slot : UniqueIdArray) (deviceName : CString)
  | removeDevice (id : UInt8)
  | removeDeviceByName (deviceName : CString)

/-- The store after an operation. -/
def MemberOp.apply (iface : Interface) (devices : List Device) : MemberOp → List Device
  | .addDevice slot name => (FauxmoLinux.addDevice iface slot devices name).1
  | .removeDevice id => (FauxmoLinux.removeDevice devices id).1
  | .removeDeviceByName name => (FauxmoLinux.removeDeviceByName devices name).1

/-- The store behind a sequence of operations on the empty one. -/
def stored (iface : Interface) (ops : List MemberOp) : List Device :=
  ops.foldl (MemberOp.apply iface) []

lemma readable_addDevice (iface : Interface) (slot : UniqueIdArray) (devices : List Device)
    (name : CString) (h : ∀ d ∈ devices, d.Readable) :
    ∀ d ∈ (addDevice iface slot devices name).1, d.Readable := by
  intro d hd
  rcases List.mem_append.mp hd with hd | hd
  · exact h d hd
  · obtain rfl := List.mem_singleton.mp hd
    -- without a terminator the text would fill the array
    by_contra h0
    have hstring := uniqueidString_addDevice iface slot (devices.length % 2 ^ 32)
    rw [cstr_of_notMem h0] at hstring
    have hlong : (uniqueidText iface (devices.length % 2 ^ 32)).length ≤ 26 := by
      rw [uniqueidText, snprintf, List.length_take]
      exact Nat.min_le_left _ _
    rw [← hstring, Vector.length_toList] at hlong
    exact absurd hlong (by decide)

lemma readable_removeDevice (devices : List Device) (id : UInt8)
    (h : ∀ d ∈ devices, d.Readable) : ∀ d ∈ (removeDevice devices id).1, d.Readable := by
  intro d hd
  rw [removeDevice] at hd
  split at hd
  · exact h d (List.mem_of_mem_eraseIdx hd)
  · exact h d hd

/-- Every device that was added has a `uniqueid` that ends inside its array. -/
theorem readable_stored (iface : Interface) (ops : List MemberOp) :
    ∀ d ∈ stored iface ops, d.Readable := by
  have hstep : ∀ (devices : List Device) (op : MemberOp), (∀ d ∈ devices, d.Readable) →
      ∀ d ∈ op.apply iface devices, d.Readable := by
    intro devices op h
    cases op with
    | addDevice slot name => exact readable_addDevice iface slot devices name h
    | removeDevice id => exact readable_removeDevice devices id h
    | removeDeviceByName name =>
        rw [MemberOp.apply, removeDeviceByName]
        split
        · exact h
        · exact readable_removeDevice devices _ h
  have hrun : ∀ devices, (∀ d ∈ devices, d.Readable) →
      ∀ d ∈ ops.foldl (MemberOp.apply iface) devices, d.Readable := by
    induction ops with
    | nil => exact fun _ h => h
    | cons op ops ih => exact fun devices h => ih _ (hstep devices op h)
  exact hrun [] (by simp)

/-- A request for all lights ends, and lists every device once, in order, the device at the
index `i` under `i + 1`. -/
def ListsAll (devices : List Device) : Prop :=
  (∃ rounds list, listLoop devices rounds 0 (bytes "\x7b") = .ok list) ∧
    ∀ url pos, find (bytes "lights") url = some pos → listNumber url pos = .ok 0 →
      onTCPList devices url = .ok ⟨devices, sendTCPResponse (bytes "200 OK") (listText devices)
        (bytes "application/json"), true⟩

/-- **Requests for all lights** of a store that devices were added to and removed from are
answered with the list of them exactly when there are at most `255`. -/
theorem listsAll_stored_iff (iface : Interface) (ops : List MemberOp) :
    ListsAll (stored iface ops) ↔ (stored iface ops).length ≤ 255 := by
  have hread := readable_stored iface ops
  constructor
  · rintro ⟨⟨rounds, list, hlist⟩, -⟩
    by_contra hlen
    rw [listLoop_diverge hread (by omega)] at hlist
    cases hlist
  · intro hlen
    refine ⟨⟨256, _, listLoop_of_le hread hlen (Nat.zero_le _) (by omega)⟩, ?_⟩
    intro url pos hfind hall
    simp only [onTCPList_eq, hfind, hall, ok_bind, listResponse_zero hread hlen]
    rfl

/-- Behind `255` devices one too many: the requests for all lights are not answered. -/
theorem listsAll_stored_256 : ¬ ListsAll
    (stored homeEnv.iface (List.replicate 256 (.addDevice zeroSlot fernseher))) := by
  rintro ⟨⟨rounds, list, hlist⟩, -⟩
  have hlen : ∀ (devices : List Device) n,
      ((List.replicate n (.addDevice zeroSlot fernseher)).foldl
        (MemberOp.apply homeEnv.iface) devices).length = devices.length + n := by
    intro devices n
    induction n generalizing devices with
    | zero => rfl
    | succ n ih =>
        rw [List.replicate_succ, List.foldl_cons, ih, MemberOp.apply, addDevice,
          List.length_append, List.length_singleton]
        omega
  rw [listLoop_diverge (readable_stored _ _) (by rw [stored, hlen]; simp)] at hlist
  cases hlist

/-! ### The number in a URL -/

/-- The URL of the light `k` for the user `u`. -/
def lightUrl (u : Bytes) (k : ℕ) : Bytes := bytes "/api/" ++ u ++ bytes "/lights/" ++ toDec k

/-- On every store of `n` devices, of which the `uniqueid` of the `k`-th one is `terminated` inside
its array or not, a GET of the URL is answered with the long description of that device, and with
the empty object when there is none. -/
def AnswersLight (env : Env) (n k : ℕ) (terminated : Bool) (url : Bytes) : Prop :=
  ∀ (fauxmo : Fauxmo) (body : Bytes), fauxmo.enabled = true → fauxmo.devices.length = n →
    (∀ d, fauxmo.devices[k - 1]? = some d → (d.Readable ↔ terminated = true)) →
    ∃ light, lightJson fauxmo.devices (k - 1) = .ok light ∧
      onTCPRequest env fauxmo true url body = .ok ⟨fauxmo.devices,
        sendTCPResponse (bytes "200 OK") light (bytes "application/json"), true⟩

/-- The number that is read in the URL of the light `k`: behind a `lights` in the user segment
when there is one, and `k` as far as it fits an `int` otherwise. -/
def numberRead (u : Bytes) (k : ℕ) : ℤ :=
  match find (bytes "lights") u with
  | some p => atoi (u.drop (p + 7))
  | none => min k (2 ^ 31 - 1)

/-- A number that leads to the light `k` of `n`: its lowest eight bits are `k`, or when `k` is
too large they are so as well. -/
def NumberFits (n k : ℕ) (z : ℤ) : Prop :=
  (k ≤ n → z % 256 = k) ∧ (n < k → n < z % 256 ∨ n = 0)

lemma find_lights_lightUrl (u : Bytes) (k : ℕ) :
    find (bytes "lights") (lightUrl u k) =
      some ((find (bytes "lights") u).getD (u.length + 1) + 5) := by
  have hslash : (47 : UInt8) ∉ bytes "lights" := by decide
  have hne : bytes "lights" ≠ [] := by decide
  have hurl : lightUrl u k =
      [] ++ 47 :: (bytes "api" ++ 47 :: (u ++ 47 :: (bytes "lights" ++ 47 :: toDec k))) := by
    simp [lightUrl, bytes]
  have hapi : find (bytes "lights") (bytes "api") = none := by decide
  have hnil : find (bytes "lights") [] = none := by decide
  have hself : find (bytes "lights") (bytes "lights") = some 0 := by decide
  rw [hurl, find_append_cons hslash hne, find_append_cons hslash hne,
    find_append_cons hslash hne, find_append_cons hslash hne, hapi, hnil, hself]
  have hlen : (bytes "api").length = 3 := by decide
  cases find (bytes "lights") u with
  | some p => simp [hlen]
  | none => simp [hlen]

/-- What `atoi` gets is the number of the light, or begins in the user segment. -/
lemma listNumber_lightUrl (u : Bytes) (k : ℕ) :
    listNumber (lightUrl u k) ((find (bytes "lights") u).getD (u.length + 1) + 5) =
      .ok (UInt8.ofInt (numberRead u k)) := by
  have hread : ∀ s t : Bytes, decimal (s ++ 47 :: t) = decimal s :=
    decimal_append_cons (by decide) (by decide) (by decide) (by decide)
  have hurl : lightUrl u k =
      bytes "/api/" ++ (u ++ 47 :: (bytes "lights/" ++ toDec k)) := by
    simp [lightUrl, bytes]
  have hfive : (bytes "/api/").length = 5 := by decide
  have hseven : (bytes "lights/").length = 7 := by decide
  have hdigits : 0 < (toDec k).length := List.length_pos_of_ne_nil (toDec_ne_nil k)
  have hlen : (lightUrl u k).length = u.length + 13 + (toDec k).length := by
    rw [hurl]
    simp only [List.length_append, List.length_cons, hfive, hseven]
    omega
  have hdrop : ∀ p, (lightUrl u k).drop (p + 5 + 7) =
      (u ++ 47 :: (bytes "lights/" ++ toDec k)).drop (p + 7) := by
    intro p
    rw [hurl, show p + 5 + 7 = (bytes "/api/").length + (p + 7) by omega, List.drop_append]
    simp
  cases hf : find (bytes "lights") u with
  | some p =>
      have hp : p + 6 ≤ u.length := find_add_length_le hf
      have hval : decimal ((u ++ 47 :: (bytes "lights/" ++ toDec k)).drop (p + 7)) =
          decimal (u.drop (p + 7)) := by
        by_cases hin : p + 7 ≤ u.length
        · rw [List.drop_append_of_le_length hin, hread]
        · -- the user segment ends with the word
          have hempty : u.drop (p + 7) = [] := List.drop_of_length_le (by omega)
          have hword : (u ++ 47 :: (bytes "lights/" ++ toDec k)).drop (p + 7) =
              bytes "lights" ++ 47 :: toDec k := by
            rw [show p + 7 = u.length + 1 by omega, List.drop_append]
            simp [bytes]
          rw [hempty, hword, hread]
          decide
      rw [Option.getD_some, listNumber, if_pos (by omega), lightNumber_of_le (by omega), hdrop,
        numberRead, hf]
      simp only [atoi, hval]
  | none =>
      have hval : (u ++ 47 :: (bytes "lights/" ++ toDec k)).drop (u.length + 1 + 7) = toDec k := by
        rw [show u.length + 1 + 7 = u.length + (1 + 7) by omega, List.drop_append]
        simp [bytes]
      have hdec : decimal (toDec k) = k := by
        simpa using decimal_toDec_append (s := []) (by simp) k
      rw [Option.getD_none, listNumber, if_pos (by omega), lightNumber_of_le (by omega), hdrop,
        numberRead, hf, hval, atoi, hdec]
      congr 2
      exact (max_eq_right (by omega)).trans (min_comm _ _)

variable {env : Env}

/-- A request for a light asks for the lowest eight bits of the number read. -/
lemma onTCPRequest_lightUrl {fauxmo : Fauxmo} (hon : fauxmo.enabled = true) (u : Bytes) (k : ℕ)
    (body : Bytes) : onTCPRequest env fauxmo true (lightUrl u k) body = do
      let response ← listResponse fauxmo.devices (UInt8.ofInt (numberRead u k))
      return ⟨fauxmo.devices,
        sendTCPResponse (bytes "200 OK") response (bytes "application/json"), true⟩ := by
  have hcons : ∃ rest, lightUrl u k = bytes "/api" ++ rest :=
    ⟨47 :: (u ++ bytes "/lights/" ++ toDec k), by simp [lightUrl, bytes]⟩
  have hdesc : lightUrl u k ≠ bytes "/description.xml" := by
    obtain ⟨rest, hrest⟩ := hcons
    intro h
    have h2 := congrArg (fun s => s[1]?) (hrest.symm.trans h)
    simp [bytes] at h2
  have hapi : bytes "/api" <+: lightUrl u k := by
    obtain ⟨rest, hrest⟩ := hcons
    rw [hrest]
    exact List.prefix_append _ _
  rw [onTCPRequest, if_neg (by simp [hon]), if_neg hdesc, if_pos hapi, if_pos rfl, onTCPList_eq]
  simp only [find_lights_lightUrl, listNumber_lightUrl, ok_bind]

lemma listResponse_of_ne_zero (devices : List Device) {id : UInt8} (h : id ≠ 0) :
    listResponse devices id = lightJson devices (id.toNat - 1) := by
  rw [listResponse, if_neg h, deviceJson_long, toNat_sub_one_uint8 h]

lemma lightJson_of_le {devices : List Device} {i : ℕ} (h : devices.length ≤ i) :
    lightJson devices i = .ok (bytes "\x7b\x7d") := by
  rw [lightJson, List.getElem?_eq_none h]

lemma lightJson_of_getElem? {devices : List Device} {i : ℕ} {d : Device}
    (hd : devices[i]? = some d) :
    lightJson devices i = if d.Readable then .ok d.longJson else .error .overrun := by
  rw [lightJson, hd]

lemma lightJson_of_readable {devices : List Device} {i : ℕ} {d : Device}
    (hd : devices[i]? = some d) (h : d.Readable) : lightJson devices i = .ok d.longJson := by
  rw [lightJson_of_getElem? hd, if_pos h]

/-! ### Texts told apart by how they begin -/

/-- Texts that begin with different words of one length differ. -/
lemma eq_of_prefix_cstr {p q s t : Bytes} (hp : p <+: cstr s) (hq : q <+: cstr t)
    (hlen : p.length = q.length) (h : cstr s = cstr t) : p = q :=
  (List.prefix_of_prefix_length_le hp (h ▸ hq) hlen.le).eq_of_length hlen

/-- What is sent about a light before its name. -/
def nameLead : Bytes := bytes "\x7b\"type\": \"Extended color light\",\"name\": \""

/-- A string behind the first literal part is put in whole when it is not too long. -/
lemma prefix_snprintf_str {k : ℕ} {s w : Bytes} (hw : w.length ≤ k) (t : List Piece)
    (args : List Arg) : s ++ w <+:
      snprintf (strlen (.lit s :: .str :: t) + k) (.lit s :: .str :: t) (.cstr w :: args) := by
  have hsize : strlen (.lit s :: .str :: t) = s.length + (2 + strlen t) := by
    simp [strlen, Piece.strlen]
  rw [snprintf, List.prefix_take_iff, sprintf, sprintf, ← List.append_assoc, List.length_append]
  exact ⟨List.prefix_append _ _, by omega⟩

lemma nameLead_prefix_longJson {d : Device} (hname : d.name.1.length ≤ 64) :
    nameLead ++ d.name.1 <+: cstr d.longJson := by
  refine prefix_cstr (prefix_snprintf_str hname _ _) ?_
  rw [List.mem_append, not_or]
  exact ⟨by decide, d.name.2⟩

lemma lead_prefix_longJson (d : Device) : bytes "\x7b\"t" <+: cstr d.longJson :=
  prefix_cstr (prefix_snprintf (by decide +kernel) (by decide) _ _) (by decide)

lemma lead_prefix_listText {devices : List Device} (h : devices ≠ []) :
    bytes "\x7b\"1" <+: cstr (listText devices) := by
  obtain ⟨d, rest, rfl⟩ := List.exists_cons_of_ne_nil h
  have hentry : bytes "\"1" <+: listEntry 0 d := by
    have hdec : bytes "\"1" = bytes "\"" ++ toDec (0 + 1) := by decide
    rw [hdec, listEntry, List.append_assoc]
    exact List.prefix_append _ _
  have hfirst : ∀ es : List Bytes,
      listEntry 0 d <+: (bytes ",").intercalate (listEntry 0 d :: es) := by
    intro es
    cases es with
    | nil => simp
    | cons e es =>
        rw [List.intercalate_cons_cons, List.append_assoc]
        exact List.prefix_append _ _
  have hlead : bytes "\x7b\"1" = bytes "\x7b" ++ bytes "\"1" := by decide
  refine prefix_cstr ?_ (by decide)
  rw [listText, List.mapIdx_cons, hlead, List.append_assoc, List.prefix_append_right_inj]
  exact (hentry.trans (hfirst _)).trans (List.prefix_append _ _)

/-- A store of `n` lights of which the light at the index `i` has a name of its own. -/
def namedLamps (n i : ℕ) : List Device :=
  (List.range n).map fun j =>
    ⟨if j = i then ⟨bytes "a", by decide⟩ else ⟨bytes "b", by decide⟩, false, 0, ⟨0, 0, 0⟩,
      zeroSlot⟩

lemma getElem?_namedLamps {n i j : ℕ} (h : j < n) : ∃ d, (namedLamps n i)[j]? = some d ∧
    d.name.1 = if j = i then bytes "a" else bytes "b" := by
  refine ⟨_, by rw [namedLamps, List.getElem?_map, List.getElem?_range h]; rfl, ?_⟩
  by_cases hji : j = i <;> simp [hji]

lemma readable_namedLamps (n i : ℕ) : ∀ d ∈ namedLamps n i, d.Readable := by
  intro d hd
  obtain ⟨j, -, rfl⟩ := List.mem_map.mp hd
  exact (by decide : (0 : UInt8) ∈ zeroSlot.toList)

/-- Lights that are there have a description, and one is not that of another. -/
lemma lightJson_namedLamps {n i j : ℕ} (h : j < n) : ∃ d : Device,
    lightJson (namedLamps n i) j = .ok d.longJson ∧
      nameLead ++ (if j = i then bytes "a" else bytes "b") <+: cstr d.longJson := by
  obtain ⟨d, hd, hname⟩ := getElem?_namedLamps (i := i) h
  refine ⟨d, lightJson_of_readable hd (readable_namedLamps n i d (List.mem_of_getElem? hd)), ?_⟩
  rw [← hname]
  refine nameLead_prefix_longJson ?_
  rw [hname]
  by_cases hji : j = i <;> simp [hji, bytes]

/-- A light that is not terminated is not described, so there are none. -/
lemma AnswersLight.terminated {n k : ℕ} {terminated : Bool} {url : Bytes}
    (h : AnswersLight env n k terminated url) (hk : 1 ≤ k) (hkn : k ≤ n) : terminated = true := by
  cases terminated with
  | true => rfl
  | false =>
      let d : Device := ⟨fernseher, false, 0, ⟨0, 0, 0⟩, Vector.replicate _ 48⟩
      have hd : ¬ d.Readable := by decide
      have hget : (List.replicate n d)[k - 1]? = some d := by
        rw [List.getElem?_replicate, if_pos (by omega)]
      obtain ⟨light, hlight, -⟩ := h (mainBridge (List.replicate n d)) [] rfl
        List.length_replicate fun e he => by
          obtain rfl := Option.some.inj (hget.symm.trans he)
          exact iff_of_false hd Bool.false_ne_true
      rw [mainBridge, lightJson_of_getElem? hget, if_neg hd] at hlight
      cases hlight

/-- What an answered request compares: the text behind the number read with the one wanted. -/
lemma AnswersLight.cstr_eq {n k : ℕ} {terminated : Bool} {u : Bytes}
    (h : AnswersLight env n k terminated (lightUrl u k)) (hk : 1 ≤ k) {list light : Bytes}
    (hlist : listResponse (namedLamps n (k - 1)) (UInt8.ofInt (numberRead u k)) = .ok list)
    (hlight : lightJson (namedLamps n (k - 1)) (k - 1) = .ok light) : cstr list = cstr light := by
  have hlen : (namedLamps n (k - 1)).length = n := by simp [namedLamps]
  obtain ⟨light', hlight', hreq⟩ := h (mainBridge (namedLamps n (k - 1))) [] rfl hlen
    fun d hd => by
      obtain ⟨hlt, -⟩ := List.getElem?_eq_some_iff.mp hd
      rw [mainBridge, hlen] at hlt
      exact iff_of_true (readable_namedLamps n _ d (List.mem_of_getElem? hd))
        (h.terminated hk (by omega))
  obtain rfl : light = light' := Except.ok.inj (hlight.symm.trans hlight')
  rw [onTCPRequest_lightUrl rfl] at hreq
  simp only [mainBridge, hlist, ok_bind] at hreq
  exact cstr_eq_of_sendTCPResponse (Outcome.mk.inj (Except.ok.inj hreq)).2.1

/-- The empty object is no description. -/
lemma cstr_longJson_ne (d : Device) : cstr (bytes "\x7b\x7d") ≠ cstr d.longJson := by
  intro h
  have hlead := lead_prefix_longJson d
  rw [← h] at hlead
  exact absurd hlead (by decide)

/-- Another number than that of a light shows another text on named lamps. -/
lemma listResponse_ne_of_le {n k : ℕ} (hn : n ≤ 255) (hk : 1 ≤ k) (hkn : k ≤ n) {id : UInt8}
    (hne : id.toNat ≠ k) : ∃ list light, listResponse (namedLamps n (k - 1)) id = .ok list ∧
      lightJson (namedLamps n (k - 1)) (k - 1) = .ok light ∧ cstr list ≠ cstr light := by
  have hlen : (namedLamps n (k - 1)).length = n := by simp [namedLamps]
  obtain ⟨d, hd, hlead⟩ := lightJson_namedLamps (n := n) (i := k - 1) (j := k - 1) (by omega)
  rw [if_pos rfl] at hlead
  by_cases h0 : id = 0
  · have hnil : namedLamps n (k - 1) ≠ [] := by
      intro h
      rw [h, List.length_nil] at hlen
      omega
    subst h0
    refine ⟨_, _, listResponse_zero (readable_namedLamps _ _) (by omega), hd, fun heq => ?_⟩
    exact absurd (eq_of_prefix_cstr (lead_prefix_listText hnil) (lead_prefix_longJson d)
      (by decide) heq) (by decide)
  · have hpos : id.toNat ≠ 0 := fun h => h0 (UInt8.toNat_inj.mp h)
    rw [listResponse_of_ne_zero _ h0]
    by_cases hin : id.toNat - 1 < n
    · obtain ⟨e, he, hother⟩ := lightJson_namedLamps (i := k - 1) hin
      rw [if_neg (by omega)] at hother
      refine ⟨_, _, he, hd, fun heq => ?_⟩
      exact absurd (eq_of_prefix_cstr hother hlead (by decide) heq) (by decide)
    · exact ⟨_, _, lightJson_of_le (by omega), hd, cstr_longJson_ne d⟩

/-- The number of a light, or of all, shows something else than the empty object. -/
lemma listResponse_ne_of_lt {n k : ℕ} (hn : n ≤ 255) (hnk : n < k) (hpos : n ≠ 0) {id : UInt8}
    (hid : id.toNat ≤ n) : ∃ list light, listResponse (namedLamps n (k - 1)) id = .ok list ∧
      lightJson (namedLamps n (k - 1)) (k - 1) = .ok light ∧ cstr list ≠ cstr light := by
  have hlen : (namedLamps n (k - 1)).length = n := by simp [namedLamps]
  have hlight : lightJson (namedLamps n (k - 1)) (k - 1) = .ok (bytes "\x7b\x7d") :=
    lightJson_of_le (by omega)
  by_cases h0 : id = 0
  · have hnil : namedLamps n (k - 1) ≠ [] := by
      intro h
      rw [h, List.length_nil] at hlen
      omega
    subst h0
    refine ⟨_, _, listResponse_zero (readable_namedLamps _ _) (by omega), hlight, fun heq => ?_⟩
    have hlead := lead_prefix_listText hnil
    rw [heq] at hlead
    exact absurd hlead (by decide)
  · have hone : id.toNat ≠ 0 := fun h => h0 (UInt8.toNat_inj.mp h)
    obtain ⟨d, hd, -⟩ := lightJson_namedLamps (n := n) (i := k - 1) (j := id.toNat - 1) (by omega)
    rw [listResponse_of_ne_zero _ h0]
    exact ⟨_, _, hd, hlight, (cstr_longJson_ne d).symm⟩

/-- A number that fits shows the light, and the empty object where there is none. -/
lemma listResponse_of_fits {devices : List Device} {k : ℕ} (hn : devices.length ≤ 255)
    (hk : 1 ≤ k) {id : UInt8} (hfits : k ≤ devices.length → id.toNat = k)
    (hover : devices.length < k → devices.length < id.toNat ∨ devices.length = 0)
    (hread : ∀ d, devices[k - 1]? = some d → d.Readable) :
    ∃ light, lightJson devices (k - 1) = .ok light ∧ listResponse devices id = .ok light := by
  by_cases hkn : k ≤ devices.length
  · have hk' : id.toNat = k := hfits hkn
    have h0 : id ≠ 0 := by
      rintro rfl
      simp at hk'
      omega
    have hd : devices[k - 1]? = some devices[k - 1] := List.getElem?_eq_getElem (by omega)
    have hlight := lightJson_of_readable hd (hread _ hd)
    refine ⟨_, hlight, ?_⟩
    rw [listResponse_of_ne_zero _ h0, hk', hlight]
  · refine ⟨_, lightJson_of_le (by omega), ?_⟩
    by_cases h0 : id = 0
    · -- only the list of no lights is the empty object
      have hnil : devices = [] := by
        refine List.eq_nil_of_length_eq_zero ?_
        rcases hover (by omega) with hlt | hz
        · subst h0
          simp at hlt
        · exact hz
      rw [h0, listResponse_zero (by simp [hnil]) (by omega), hnil]
      rfl
    · rw [listResponse_of_ne_zero _ h0]
      have hpos : id.toNat ≠ 0 := fun h => h0 (UInt8.toNat_inj.mp h)
      refine lightJson_of_le ?_
      rcases hover (by omega) with hlt | hz <;> omega

/-- **The lights a GET of `/api/u/lights/k` shows**: on stores of at most `255` devices it is
the `k`-th one, and none where there is no such, exactly when the number read fits and the
`uniqueid` of that device ends inside its array. -/
theorem answersLight_iff {n k : ℕ} (hn : n ≤ 255) (hk : 1 ≤ k) (terminated : Bool) (u : Bytes) :
    AnswersLight env n k terminated (lightUrl u k) ↔
      NumberFits n k (numberRead u k) ∧ (k ≤ n → terminated = true) := by
  have hid : ((UInt8.ofInt (numberRead u k)).toNat : ℤ) = numberRead u k % 256 := by
    rw [toNat_ofInt_uint8]
    omega
  rw [NumberFits, ← hid]
  constructor
  · intro h
    refine ⟨⟨fun hkn => ?_, fun hnk => ?_⟩, h.terminated hk⟩
    · by_contra hne
      obtain ⟨list, light, hlist, hlight, hdiff⟩ :=
        listResponse_ne_of_le hn hk hkn (fun heq => hne (congrArg Nat.cast heq))
      exact hdiff (h.cstr_eq hk hlist hlight)
    · by_contra hover
      obtain ⟨hle, hpos⟩ := not_or.mp hover
      obtain ⟨list, light, hlist, hlight, hdiff⟩ := listResponse_ne_of_lt hn hnk hpos
        (show (UInt8.ofInt (numberRead u k)).toNat ≤ n by omega)
      exact hdiff (h.cstr_eq hk hlist hlight)
  · rintro ⟨⟨hfits, hover⟩, hterm⟩ fauxmo body hon rfl hread
    obtain ⟨light, hlight, hlist⟩ := @listResponse_of_fits _ k hn hk
      (UInt8.ofInt (numberRead u k)) (fun hkn => by exact_mod_cast hfits hkn) (fun hnk => by exact_mod_cast hover hnk)
      (fun d hd => (hread d hd).mpr (hterm (by
        obtain ⟨hlt, -⟩ := List.getElem?_eq_some_iff.mp hd
        omega)))
    refine ⟨light, hlight, ?_⟩
    rw [onTCPRequest_lightUrl hon, hlist]
    rfl

theorem answersLight_one : AnswersLight homeEnv 1 1 true (lightUrl (bytes "u") 1) :=
  (answersLight_iff (by decide) (by decide) true _).mpr ⟨⟨by decide, by decide⟩, fun _ => rfl⟩

/-- On a store of one light the light `256` is the list of all, and so is the light `1` of the
user `lights`; a `uniqueid` that is not terminated is shown to nobody. -/
theorem not_answersLight_wrapped :
    ¬ AnswersLight homeEnv 1 256 true (lightUrl (bytes "u") 256) ∧
      ¬ AnswersLight homeEnv 1 1 true (lightUrl (bytes "lights") 1) ∧
      ¬ AnswersLight homeEnv 1 1 false (lightUrl (bytes "u") 1) := by
  refine ⟨fun h => ?_, fun h => ?_, fun h => ?_⟩
  · obtain ⟨list, light, hlist, hlight, hdiff⟩ := listResponse_ne_of_lt (n := 1) (k := 256)
      (by decide) (by decide) (by decide)
      (show (UInt8.ofInt (numberRead (bytes "u") 256)).toNat ≤ 1 by decide)
    exact hdiff (h.cstr_eq (by decide) hlist hlight)
  · obtain ⟨list, light, hlist, hlight, hdiff⟩ := listResponse_ne_of_le (n := 1) (k := 1)
      (by decide) (by decide) (by decide)
      (show (UInt8.ofInt (numberRead (bytes "lights") 1)).toNat ≠ 1 by decide)
    exact hdiff (h.cstr_eq (by decide) hlist hlight)
  · exact Bool.false_ne_true (h.terminated le_rfl le_rfl)

end FauxmoLinux
