import FauxmoLinux.Base.Json.Texts
import FauxmoLinux.Bridge.Listing

/-!
The descriptions of lights as JSON texts.

The names are put into the templates as they are, and the text is cut to a buffer that is `64`
bytes longer than the long template.

* `longMembers`, `longText_eq`, `shortText_eq`: the templates with plain texts in them are the
  texts of objects;
* `Device.Fits`, `longJson_eq_of_fits`: the descriptions that are not cut;
* `plain_of_decode`: a text that decodes to the description of a device is not cut, and has a
  plain name and `uniqueid` in it, since no object text goes on after another one;
* `Described`, `described_iff`: the stores all of whose descriptions decode to the devices.
-/

namespace FauxmoLinux

open Json

/-! ### The templates as objects -/

/-- A member whose value is a plain string. -/
def stringMember (key gap s : Bytes) (hkey : Plain key) (hgap : ∀ c ∈ gap, isWhite c = true)
    (hs : Plain s) : Member :=
  .compact key gap (quoted s) (.string s) hkey hgap (reads_quoted hs)

/-- A member whose value is a decimal number. -/
def numberMember (key gap : Bytes) (n : ℕ) (hkey : Plain key)
    (hgap : ∀ c ∈ gap, isWhite c = true) : Member :=
  .compact key gap (toDec n) (.number (toDec n)) hkey hgap (reads_toDec n)

lemma reads_boolText (b : Bool) : Reads (boolText b) (.bool b) := by
  cases b
  · exact reads_of_readValue rfl (by simp)
  · exact reads_of_readValue rfl (by simp)

/-- A member whose value is a truth value. -/
def boolMember (key gap : Bytes) (b : Bool) (hkey : Plain key)
    (hgap : ∀ c ∈ gap, isWhite c = true) : Member :=
  .compact key gap (boolText b) (.bool b) hkey hgap (reads_boolText b)

/-- A member whose value is an object. -/
def objectMember (key gap : Bytes) (ms : List Member) (hkey : Plain key)
    (hgap : ∀ c ∈ gap, isWhite c = true) : Member :=
  .compact key gap (objectText ms) (objectValue ms) hkey hgap (reads_objectText ms)

def typeMember : Member :=
  stringMember (bytes "type") [32] (bytes "Extended color light") (by decide) (by decide)
    (by decide)

def modelMembers : List Member :=
  [stringMember (bytes "modelid") [32] (bytes "LCT015") (by decide) (by decide) (by decide),
    stringMember (bytes "manufacturername") [32] (bytes "Philips") (by decide) (by decide)
      (by decide),
    stringMember (bytes "productname") [32] (bytes "E4") (by decide) (by decide) (by decide)]

def colourMembers : List Member :=
  [.compact (bytes "xy") [32] (bytes "[0,0]") (.array [.number (bytes "0"), .number (bytes "0")])
      (by decide) (by decide) (reads_of_readValue rfl (by simp)),
    numberMember (bytes "hue") [32] 0 (by decide) (by decide),
    numberMember (bytes "sat") [32] 0 (by decide) (by decide),
    stringMember (bytes "effect") [32] (bytes "none") (by decide) (by decide) (by decide),
    stringMember (bytes "colormode") [32] (bytes "xy") (by decide) (by decide) (by decide),
    numberMember (bytes "ct") [32] 500 (by decide) (by decide),
    stringMember (bytes "mode") [32] (bytes "homeautomation") (by decide) (by decide) (by decide),
    boolMember (bytes "reachable") [32] true (by decide) (by decide)]

def capabilityMembers : List Member :=
  [boolMember (bytes "certified") [32] false (by decide) (by decide),
    objectMember (bytes "streaming") [32]
      [boolMember (bytes "renderer") [] true (by decide) (by decide),
        boolMember (bytes "proxy") [] false (by decide) (by decide)] (by decide) (by decide)]

def versionMembers : List Member :=
  [objectMember (bytes "capabilities") [32] capabilityMembers (by decide) (by decide),
    stringMember (bytes "swversion") [32] (bytes "5.105.0.21169") (by decide) (by decide)
      (by decide)]

/-- The members both descriptions have. -/
def nameMembers {name uniqueid : Bytes} (hname : Plain name) (huid : Plain uniqueid) :
    List Member :=
  [typeMember, stringMember (bytes "name") [32] name (by decide) (by decide) hname,
    stringMember (bytes "uniqueid") [32] uniqueid (by decide) (by decide) huid]

/-- The object `state`. -/
def stateMember (state : Bool) (value : ℕ) : Member :=
  objectMember (bytes "state") []
    (boolMember (bytes "on") [32] state (by decide) (by decide) ::
      numberMember (bytes "bri") [32] value (by decide) (by decide) :: colourMembers)
    (by decide) (by decide)

/-- The long description. -/
def longMembers {name uniqueid : Bytes} (hname : Plain name) (huid : Plain uniqueid)
    (state : Bool) (value : ℕ) : List Member :=
  nameMembers hname huid ++ (modelMembers ++ (stateMember state value :: versionMembers))

/-- The long template with texts in it, uncut. -/
def longText (name uniqueid : Bytes) (state : Bool) (value : ℕ) : Bytes :=
  sprintf FAUXMO_DEVICE_JSON_TEMPLATE
    [.cstr name, .cstr uniqueid, .cstr (boolText state), .int value]

/-- The short template with texts in it, uncut. -/
def shortText (name uniqueid : Bytes) : Bytes :=
  sprintf FAUXMO_DEVICE_JSON_TEMPLATE_SHORT [.cstr name, .cstr uniqueid]

/-- What the long description has between the `uniqueid` and the state. -/
def modelText : Bytes :=
  membersText modelMembers ++ 44 :: (quoted (bytes "state") ++ 58 :: 123 ::
    (quoted (bytes "on") ++ [58, 32]))

/-- What the long description has behind the value. -/
def tailText : Bytes :=
  44 :: (membersText colourMembers ++ 125 :: 44 :: (membersText versionMembers ++ [125]))

/-- The text of a description up to the name. -/
def nameText : Bytes := 123 :: (typeMember.all ++ 44 :: (quoted (bytes "name") ++ [58, 32, 34]))

lemma nameText_eq : bytes "\x7b\"type\": \"Extended color light\",\"name\": \"" = nameText := by
  decide +kernel

lemma uniqueidText_literal : bytes "\",\"uniqueid\": \"" =
    34 :: 44 :: (quoted (bytes "uniqueid") ++ [58, 32, 34]) := by
  decide +kernel

lemma modelText_eq : bytes ("\",\"modelid\": \"LCT015\",\"manufacturername\": \"Philips\"," ++
    "\"productname\": \"E4\",\"state\":\x7b\"on\": ") = 34 :: 44 :: modelText := by
  rw [bytes_append, bytes_ofList, bytes_ofList]
  decide +kernel

lemma tailText_eq : bytes (",\"xy\": [0,0],\"hue\": 0,\"sat\": 0,\"effect\": \"none\"," ++
    "\"colormode\": \"xy\",\"ct\": 500,\"mode\": \"homeautomation\",\"reachable\": true\x7d," ++
    "\"capabilities\": \x7b\"certified\": false," ++
    "\"streaming\": \x7b\"renderer\":true,\"proxy\":false\x7d\x7d," ++
    "\"swversion\": \"5.105.0.21169\"\x7d") = tailText := by
  simp only [bytes_append]
  rw [bytes_ofList, bytes_ofList, bytes_ofList, bytes_ofList, bytes_ofList]
  decide +kernel

/-- The long template with texts in it, cut where the decoder will stop. -/
lemma longText_eq_append (name uniqueid : Bytes) (state : Bool) (value : ℕ) :
    longText name uniqueid state value = nameText ++ (name ++ 34 :: 44 ::
      (quoted (bytes "uniqueid") ++ 58 :: 32 :: 34 :: (uniqueid ++ 34 :: 44 :: (modelText ++
        (boolText state ++ 44 :: (quoted (bytes "bri") ++ 58 :: 32 :: (toDec value ++
          tailText))))))) := by
  have hbri : bytes ",\"bri\": " = 44 :: (quoted (bytes "bri") ++ [58, 32]) := by
    decide +kernel
  have hdec : intDec value = toDec value := intDec_natCast value
  rw [longText, FAUXMO_DEVICE_JSON_TEMPLATE]
  simp only [sprintf, nameText_eq, uniqueidText_literal, modelText_eq, hbri, tailText_eq, hdec,
    List.append_assoc, List.cons_append, List.nil_append, List.append_nil]

lemma shortText_eq_append (name uniqueid : Bytes) :
    shortText name uniqueid = nameText ++ (name ++ 34 :: 44 ::
      (quoted (bytes "uniqueid") ++ 58 :: 32 :: 34 :: (uniqueid ++ [34, 125]))) := by
  have hend : bytes "\"\x7d" = [34, 125] := by decide
  rw [shortText, FAUXMO_DEVICE_JSON_TEMPLATE_SHORT]
  simp only [sprintf, nameText_eq, uniqueidText_literal, hend, List.append_assoc,
    List.cons_append, List.nil_append, List.append_nil]

lemma membersText_nameMembers {name uniqueid : Bytes} (hname : Plain name)
    (huid : Plain uniqueid) : membersText (nameMembers hname huid) = typeMember.all ++ 44 ::
      (quoted (bytes "name") ++ 58 :: 32 :: 34 :: (name ++ 34 :: 44 ::
        (quoted (bytes "uniqueid") ++ 58 :: 32 :: 34 :: (uniqueid ++ [34])))) := by
  rw [nameMembers, membersText_cons _ (by simp), membersText_cons _ (by simp),
    membersText_singleton]
  simp only [Member.all_compact, stringMember, quoted, List.append_assoc, List.cons_append,
    List.nil_append]

/-- **The long template with plain texts in it is the text of an object.** -/
theorem longText_eq {name uniqueid : Bytes} (hname : Plain name) (huid : Plain uniqueid)
    (state : Bool) (value : ℕ) :
    longText name uniqueid state value = objectText (longMembers hname huid state value) := by
  have hstate : (stateMember state value).all = quoted (bytes "state") ++ 58 :: 123 ::
      (quoted (bytes "on") ++ 58 :: 32 :: (boolText state ++ 44 :: (quoted (bytes "bri") ++
        58 :: 32 :: (toDec value ++ 44 :: (membersText colourMembers ++ [125]))))) := by
    simp only [stateMember, objectMember, Member.all_compact, objectText]
    rw [membersText_cons _ (by simp), membersText_cons _ (by simp [colourMembers])]
    simp only [Member.all_compact, boolMember, numberMember, List.append_assoc, List.cons_append,
      List.nil_append]
  rw [longText_eq_append, longMembers, objectText,
    membersText_append (by simp [nameMembers]) (by simp [modelMembers]),
    membersText_append (by simp [modelMembers]) (by simp),
    membersText_cons (stateMember state value) (by simp [versionMembers]), hstate,
    membersText_nameMembers, nameText, modelText, tailText]
  simp only [List.append_assoc, List.cons_append, List.nil_append]

/-- **So is the short one.** -/
theorem shortText_eq {name uniqueid : Bytes} (hname : Plain name) (huid : Plain uniqueid) :
    shortText name uniqueid = objectText (nameMembers hname huid) := by
  rw [shortText_eq_append, objectText, membersText_nameMembers, nameText]
  simp only [List.append_assoc, List.cons_append, List.nil_append]

/-! ### The buffer -/

/-- The texts put into the long description leave room for each other: `64` bytes more than the
template has, without the terminator, and the eight bytes of its four conversions. -/
def Device.Fits (d : Device) : Prop :=
  d.name.1.length + d.uniqueidString.length + (boolText d.state).length +
    (toDec d.value.toNat).length ≤ 71

instance (d : Device) : Decidable d.Fits := inferInstanceAs (Decidable (_ ≤ _))

/-- A description is not cut exactly when it fits. -/
lemma length_longText_lt_iff (name uniqueid : Bytes) (state : Bool) (value : ℕ) :
    (longText name uniqueid state value).length < strlen FAUXMO_DEVICE_JSON_TEMPLATE + 64 ↔
      name.length + uniqueid.length + (boolText state).length + (toDec value).length ≤ 71 := by
  have hgeneral : ∀ l₁ l₂ l₃ l₄ l₅ text : Bytes,
      (sprintf [.lit l₁, .str, .lit l₂, .str, .lit l₃, .str, .lit l₄, .dec, .lit l₅]
        [.cstr name, .cstr uniqueid, .cstr text, .int value]).length <
          strlen [.lit l₁, .str, .lit l₂, .str, .lit l₃, .str, .lit l₄, .dec, .lit l₅] + 64 ↔
        name.length + uniqueid.length + text.length + (toDec value).length ≤ 71 := by
    intro l₁ l₂ l₃ l₄ l₅ text
    have hdec : intDec value = toDec value := intDec_natCast value
    simp only [sprintf, strlen, Piece.strlen, hdec, List.length_append, List.length_nil,
      List.map_cons, List.map_nil, List.sum_cons, List.sum_nil]
    omega
  rw [longText, FAUXMO_DEVICE_JSON_TEMPLATE]
  exact hgeneral _ _ _ _ _ _

/-- A short description fits where a long one does. -/
lemma length_shortText_lt {name uniqueid : Bytes} (h : name.length + uniqueid.length ≤ 71) :
    (shortText name uniqueid).length < strlen FAUXMO_DEVICE_JSON_TEMPLATE + 64 := by
  have hgeneral : ∀ l₁ l₂ l₃ l₄ l₅ l₃' : Bytes, l₃'.length ≤ l₃.length →
      (sprintf [.lit l₁, .str, .lit l₂, .str, .lit l₃'] [.cstr name, .cstr uniqueid]).length <
        strlen [.lit l₁, .str, .lit l₂, .str, .lit l₃, .str, .lit l₄, .dec, .lit l₅] + 64 := by
    intro l₁ l₂ l₃ l₄ l₅ l₃' hle
    simp only [sprintf, strlen, Piece.strlen, List.length_append, List.length_nil, List.map_cons,
      List.map_nil, List.sum_cons, List.sum_nil]
    omega
  have hend : (bytes "\"\x7d").length = 2 := by decide
  rw [shortText, FAUXMO_DEVICE_JSON_TEMPLATE, FAUXMO_DEVICE_JSON_TEMPLATE_SHORT]
  refine hgeneral _ _ _ _ _ _ ?_
  rw [modelText_eq, hend]
  simp

lemma longJson_eq_of_fits {d : Device} (h : d.Fits) :
    d.longJson = longText d.name.1 d.uniqueidString d.state d.value.toNat :=
  snprintf_of_length_lt ((length_longText_lt_iff _ _ _ _).mpr h)

lemma shortJson_eq_of_fits {d : Device} (h : d.Fits) :
    d.shortJson = shortText d.name.1 d.uniqueidString := by
  refine snprintf_of_length_lt (length_shortText_lt ?_)
  rw [Device.Fits] at h
  omega

/-! ### What the texts decode to -/

/-- The value is an object with the name and the `uniqueid` of the device. -/
structure Names (d : Device) (v : Json) : Prop where
  name : v.member (bytes "name") = some (.string d.name.1)
  uniqueid : v.member (bytes "uniqueid") = some (.string d.uniqueidString)

/-- The value shows the state and the value of the device as well. -/
structure Shows (d : Device) (v : Json) : Prop extends Names d v where
  state : ∃ s, v.member (bytes "state") = some s ∧ s.member (bytes "on") = some (.bool d.state) ∧
    s.member (bytes "bri") = some (.number (toDec d.value.toNat))

/-- Where an object is read at the front of an uncut long text, it names the device only when
the name and the `uniqueid` are plain. -/
lemma plain_of_readValue {d : Device} {v : Json} {n : ℕ} {rest : Bytes}
    (hn : typeMember.text.length ≤ n + 1)
    (h : readValue (n + 4) (longText d.name.1 d.uniqueidString d.state d.value.toNat) =
      some (v, rest)) (hv : Names d v) : Plain d.name.1 ∧ Plain d.uniqueidString := by
  obtain ⟨ms, rfl⟩ := eq_object_of_member hv.name
  obtain ⟨t, ht⟩ : ∃ t, modelText = 34 :: t := by
    obtain ⟨t, ht⟩ : ∃ t, membersText modelMembers = 34 :: t := by
      obtain ⟨t, ht⟩ := membersText_head (stringMember (bytes "modelid") [32] (bytes "LCT015")
        (by decide) (by decide) (by decide)) modelMembers.tail
      exact ⟨_, ht⟩
    exact ⟨_, by rw [modelText, ht, List.cons_append]⟩
  obtain ⟨t', ht'⟩ : ∃ t', longText d.name.1 d.uniqueidString d.state d.value.toNat =
      123 :: (typeMember.all ++ 44 :: (quoted (bytes "name") ++ 58 :: ([32] ++ 34 ::
        (d.name.1 ++ 34 :: 44 :: (quoted (bytes "uniqueid") ++ 58 :: ([32] ++ 34 ::
          (d.uniqueidString ++ 34 :: 44 :: 34 :: t'))))))) := by
    refine ⟨t ++ (boolText d.state ++ 44 :: (quoted (bytes "bri") ++ 58 :: 32 ::
      (toDec d.value.toNat ++ tailText))), ?_⟩
    rw [longText_eq_append, nameText, ht]
    simp only [List.append_assoc, List.cons_append, List.nil_append]
  rw [ht', readValue, if_neg (by decide), if_pos rfl] at h
  obtain ⟨⟨ms', rest'⟩, hms, hret⟩ := Option.map_eq_some_iff.mp h
  cases hret
  -- the type, which is read as it stands
  rw [readGroup_all, readItems_core_comma typeMember (by omega), skip_quoted] at hms
  obtain ⟨⟨ms₁, rest₁⟩, hms₁, hret⟩ := Option.map_eq_some_iff.mp hms
  cases hret
  have hname := hv.name
  have huid := hv.uniqueid
  rw [member_cons_of_ne (by decide)] at hname huid
  -- the name
  obtain ⟨content, s', ms₂, hcontent, rfl, hnext⟩ := readItems_string (by decide) (by decide) hms₁
  cases eq_of_member_cons_self hname
  obtain ⟨hplain, rfl⟩ := plain_of_readString hcontent
  have hms₂ := hnext (quoted (bytes "uniqueid") ++ 58 :: ([32] ++ 34 ::
    (d.uniqueidString ++ 34 :: 44 :: 34 :: t'))) rfl
  rw [skip_quoted] at hms₂
  rw [member_cons_of_ne (by decide)] at huid
  -- the `uniqueid`
  obtain ⟨content, s', ms₃, hcontent', rfl, -⟩ := readItems_string (by decide) (by decide) hms₂
  cases eq_of_member_cons_self huid
  exact ⟨hplain, (plain_of_readString hcontent').1⟩

/-- **Only plain texts that fit decode to a device**: no object text goes on after another one,
so a text that is cut is none, and a text that is not plain is not read as it stands. -/
lemma plain_of_decode {d : Device} {v : Json} (h : Json.decode d.longJson = some v)
    (hv : Names d v) : Plain d.name.1 ∧ Plain d.uniqueidString ∧ d.Fits := by
  have hobject : ∀ m, v ≠ .number m := by
    rintro m rfl
    cases hv.name
  have hcut : d.longJson ++ (longText d.name.1 d.uniqueidString d.state d.value.toNat).drop
      (strlen FAUXMO_DEVICE_JSON_TEMPLATE + 64 - 1) =
        longText d.name.1 d.uniqueidString d.state d.value.toNat := List.take_append_drop _ _
  have hskip : skip d.longJson = d.longJson := by
    have hhead : d.longJson.head? = some 123 := head_snprintf (by decide) (by decide +kernel) _ _
    obtain ⟨t, ht⟩ := List.head?_eq_some_iff.mp hhead
    rw [ht, skip_cons rfl]
  obtain ⟨rest, hrest⟩ := readValue_of_decode h hskip hobject
    ((longText d.name.1 d.uniqueidString d.state d.value.toNat).drop
      (strlen FAUXMO_DEVICE_JSON_TEMPLATE + 64 - 1))
  rw [hcut] at hrest
  obtain ⟨hname, huid⟩ : Plain d.name.1 ∧ Plain d.uniqueidString := by
    have hlen : typeMember.text.length + 4 ≤
        (longText d.name.1 d.uniqueidString d.state d.value.toNat).length := by
      have hall : typeMember.all =
          quoted (bytes "type") ++ 58 :: ([32] ++ typeMember.text) := by
        rw [typeMember, stringMember, Member.all_compact]
        rfl
      rw [longText_eq_append, nameText, hall]
      simp only [List.length_append, List.length_cons]
      omega
    obtain ⟨n, hn⟩ := Nat.exists_eq_add_of_le' (le_trans (Nat.le_add_left 4 _) hlen)
    rw [hn] at hrest
    exact plain_of_readValue (by omega) hrest hv
  refine ⟨hname, huid, ?_⟩
  have hwhole := reads_objectText (longMembers hname huid d.state d.value.toNat) _ le_rfl []
    (by simp)
  rw [List.append_nil, ← longText_eq hname huid, hrest] at hwhole
  have hnil : (longText d.name.1 d.uniqueidString d.state d.value.toNat).drop
      (strlen FAUXMO_DEVICE_JSON_TEMPLATE + 64 - 1) = [] := by
    have hpair := Option.some.inj hwhole
    exact (List.append_eq_nil_iff.mp (Prod.mk.inj hpair).2).2
  rw [Device.Fits, ← length_longText_lt_iff]
  have hlen := List.drop_eq_nil_iff.mp hnil
  generalize strlen FAUXMO_DEVICE_JSON_TEMPLATE = size at hlen ⊢
  omega

/-- **A description that fits, of plain texts, decodes to the device.** -/
lemma decode_longJson {d : Device} (hname : Plain d.name.1) (huid : Plain d.uniqueidString)
    (hfits : d.Fits) : ∃ v, Json.decode d.longJson = some v ∧ Shows d v := by
  rw [longJson_eq_of_fits hfits, longText_eq hname huid, decode_objectText]
  refine ⟨_, rfl, ⟨rfl, rfl⟩, _, rfl, rfl, rfl⟩

/-! ### The list -/

/-- The members of a list, one for each device. -/
lemma exists_members {α : Type} {f : ℕ → α → Bytes} {g : ℕ → α → Bytes × Json} {l : List α}
    (h : ∀ i a, l[i]? = some a → ∃ m : Member, m.all = f i a ∧ (m.key, m.value) = g i a) :
    ∃ ms : List Member, ms.map Member.all = l.mapIdx f ∧
      ms.map (fun m => (m.key, m.value)) = l.mapIdx g := by
  induction l generalizing f g with
  | nil => exact ⟨[], rfl, rfl⟩
  | cons a l ih =>
      obtain ⟨m, hall, hentry⟩ := h 0 a rfl
      obtain ⟨ms, hms, hentries⟩ := @ih (fun i => f (i + 1)) (fun i => g (i + 1))
        fun i b hb => h (i + 1) b hb
      refine ⟨m :: ms, ?_, ?_⟩
      · rw [List.map_cons, List.mapIdx_cons, hall, hms]
      · rw [List.map_cons, List.mapIdx_cons, hentry, hentries]

/-- The value is an object with one member for each device, its number in the list, and that
names the device. -/
def Lists (devices : List Device) (v : Json) : Prop :=
  (∃ ms, v = .object ms ∧
    ms.map Prod.fst = (List.range devices.length).map fun i => toDec (i + 1)) ∧
  ∀ i d, devices[i]? = some d → ∃ w, v.member (toDec (i + 1)) = some w ∧ Names d w

/-- What a device is in the list. -/
def shortValue (d : Device) : Json :=
  .object [(bytes "type", .string (bytes "Extended color light")),
    (bytes "name", .string d.name.1), (bytes "uniqueid", .string d.uniqueidString)]

/-- **A list of descriptions that fit, of plain texts, decodes to the devices.** -/
lemma decode_listText {devices : List Device} (h : ∀ d ∈ devices, Plain d.name.1 ∧
    Plain d.uniqueidString ∧ d.Fits) :
    ∃ v, Json.decode (listText devices) = some v ∧ Lists devices v := by
  obtain ⟨ms, hms, hentries⟩ := exists_members (f := listEntry)
    (g := fun i d => (toDec (i + 1), shortValue d)) (l := devices) fun i d hd => by
      obtain ⟨hname, huid, hfits⟩ := h d (List.mem_of_getElem? hd)
      refine ⟨objectMember (toDec (i + 1)) [] (nameMembers hname huid) (plain_toDec _) (by simp),
        ?_, rfl⟩
      rw [listEntry, shortJson_eq_of_fits hfits, shortText_eq hname huid]
      simp [objectMember, quoted, bytes]
  have htext : listText devices = objectText ms := by
    rw [listText, ← hms]
    rfl
  have hkeys : (devices.mapIdx fun i d => (toDec (i + 1), shortValue d)).map Prod.fst =
      (List.range devices.length).map fun i => toDec (i + 1) := by
    refine List.ext_getElem (by simp) fun i h₁ h₂ => ?_
    simp
  have hnodup : ((List.range devices.length).map fun i => toDec (i + 1)).Nodup :=
    List.nodup_range.map fun i j hij => Nat.succ_injective (toDec_injective hij)
  refine ⟨_, by rw [htext, decode_objectText, objectValue, hentries], ⟨_, rfl, hkeys⟩,
    fun i d hd => ?_⟩
  refine ⟨shortValue d, member_of_nodup (hkeys ▸ hnodup) ?_, rfl, rfl⟩
  refine List.mem_iff_getElem?.mpr ⟨i, ?_⟩
  rw [List.getElem?_mapIdx, hd]
  rfl

/-! ### What is sent -/

lemma zero_notMem_uniqueidString (d : Device) : (0 : UInt8) ∉ d.uniqueidString := by
  intro h
  have hne := List.mem_takeWhile_imp h
  simp at hne

lemma zero_notMem_texts : (0 : UInt8) ∉ nameText ∧ (0 : UInt8) ∉ modelText ∧
    (0 : UInt8) ∉ tailText := by
  decide +kernel

/-- The descriptions contain no NUL, so they are sent as they are. -/
lemma cstr_longJson (d : Device) : cstr d.longJson = d.longJson := by
  obtain ⟨hname, hmodel, htail⟩ := zero_notMem_texts
  have hbool : (0 : UInt8) ∉ boolText d.state := by cases d.state <;> decide
  have huid : (0 : UInt8) ∉ quoted (bytes "uniqueid") := by decide
  have hbri : (0 : UInt8) ∉ quoted (bytes "bri") := by decide
  refine cstr_of_notMem fun h => ?_
  have hlong : (0 : UInt8) ∈ longText d.name.1 d.uniqueidString d.state d.value.toNat :=
    List.mem_of_mem_take h
  rw [longText_eq_append] at hlong
  simp [hname, hmodel, htail, hbool, huid, hbri, d.name.2, zero_notMem_uniqueidString,
    zero_notMem_toDec] at hlong

lemma cstr_listText (devices : List Device) : cstr (listText devices) = listText devices := by
  have hshort : ∀ d : Device, (0 : UInt8) ∉ d.shortJson := by
    intro d h
    have hmem : (0 : UInt8) ∈ shortText d.name.1 d.uniqueidString := List.mem_of_mem_take h
    have huid : (0 : UInt8) ∉ quoted (bytes "uniqueid") := by decide
    rw [shortText_eq_append] at hmem
    simp [zero_notMem_texts.1, huid, d.name.2, zero_notMem_uniqueidString] at hmem
  have hentry : ∀ i d, (0 : UInt8) ∉ listEntry i d := by
    intro i d
    simp [listEntry, bytes, hshort, zero_notMem_toDec]
  have hentries : ∀ l : List Bytes, (∀ e ∈ l, (0 : UInt8) ∉ e) →
      (0 : UInt8) ∉ (bytes ",").intercalate l := by
    intro l hl
    induction l with
    | nil => simp
    | cons e l ih =>
        have he := hl e List.mem_cons_self
        have hrest := ih fun e' he' => hl e' (List.mem_cons_of_mem _ he')
        cases l with
        | nil => simpa using he
        | cons e' l =>
            rw [List.intercalate_cons_cons]
            simp [bytes] at hrest ⊢
            exact ⟨he, hrest⟩
  refine cstr_of_notMem ?_
  have hall := hentries (devices.mapIdx listEntry) fun e he => by
    obtain ⟨i, hi, rfl⟩ := List.mem_mapIdx.mp he
    exact hentry _ _
  rw [listText, List.mem_append, List.mem_append, not_or, not_or]
  exact ⟨⟨by decide, hall⟩, by decide⟩

/-- The body that is sent where the number of a light is read as `id`. -/
def SendsBody (devices : List Device) (id : UInt8) (body : Bytes) : Prop :=
  ∀ url pos, find (bytes "lights") url = some pos → listNumber url pos = .ok id →
    ∃ headers, onTCPList devices url = .ok ⟨devices, [.tcp headers, .tcp body], true⟩

/-- A body is sent exactly when the request has a text, whose C string it is. -/
lemma sendsBody_iff {devices : List Device} {id : UInt8} {body : Bytes} :
    SendsBody devices id body ↔ ∃ text, listResponse devices id = .ok text ∧ body = cstr text := by
  constructor
  · intro h
    -- a URL whose number is read as `id`
    have hnumber : numberRead (bytes "u") id.toNat = id.toNat := by
      have hnone : find (bytes "lights") (bytes "u") = none := by decide
      have hlt := id.toNat_lt
      rw [numberRead, hnone]
      dsimp only
      omega
    have hid := listNumber_lightUrl (bytes "u") id.toNat
    rw [hnumber] at hid
    have hcast : UInt8.ofInt (id.toNat : ℤ) = id := by
      rw [← UInt8.toNat_inj, toNat_ofInt_uint8]
      have hlt := id.toNat_lt
      omega
    rw [hcast] at hid
    obtain ⟨headers, hsent⟩ := h _ _ (find_lights_lightUrl (bytes "u") id.toNat) hid
    simp only [onTCPList_eq, find_lights_lightUrl, hid, ok_bind] at hsent
    obtain ⟨text, htext, hret⟩ := bind_ok_iff.mp hsent
    obtain ⟨-, hevents, -⟩ := Outcome.mk.inj (Except.ok.inj hret)
    simp only [sendTCPResponse, List.cons.injEq, Event.tcp.injEq, and_true] at hevents
    exact ⟨text, htext, hevents.2.symm⟩
  · rintro ⟨text, htext, rfl⟩ url pos hfind hid
    simp only [onTCPList_eq, hfind, hid, ok_bind, htext]
    exact ⟨_, rfl⟩

/-- **Stores whose descriptions decode to the devices**: the body that is sent for every light,
and the one for all of them. -/
structure Described (devices : List Device) : Prop where
  light : ∀ (id : UInt8) d, id ≠ 0 → devices[id.toNat - 1]? = some d →
    ∃ body v, SendsBody devices id body ∧ Json.decode body = some v ∧ Shows d v
  list : ∃ body v, SendsBody devices 0 body ∧ Json.decode body = some v ∧ Lists devices v

/-- **The descriptions decode to the devices** exactly when there are at most `255`, and every
one has a name and a `uniqueid` that are plain, the `uniqueid` inside its array, and that fit
the buffer together. -/
theorem described_iff (devices : List Device) : Described devices ↔ devices.length ≤ 255 ∧
    ∀ d ∈ devices, d.Readable ∧ Plain d.name.1 ∧ Plain d.uniqueidString ∧ d.Fits := by
  constructor
  · rintro ⟨hlight, body, v, hsent, -, -⟩
    obtain ⟨text, htext, -⟩ := sendsBody_iff.mp hsent
    have hlen : devices.length ≤ 255 := by
      by_contra hlen
      rw [listResponse, if_pos rfl] at htext
      obtain ⟨list, hlist, -⟩ := bind_ok_iff.mp htext
      exact listLoop_ne_ok (by omega) _ _ _ _ hlist
    refine ⟨hlen, fun d hd => ?_⟩
    obtain ⟨i, hi⟩ := List.mem_iff_getElem?.mp hd
    have hlt : i < devices.length := (List.getElem?_eq_some_iff.mp hi).1
    have hid : (UInt8.ofNat (i + 1)).toNat = i + 1 := by
      rw [UInt8.toNat_ofNat']
      omega
    have hne : UInt8.ofNat (i + 1) ≠ 0 := fun h0 => by
      rw [h0] at hid
      simp at hid
    obtain ⟨body, v, hsent, hdecode, hshows⟩ := hlight (UInt8.ofNat (i + 1)) d hne
      (by rw [hid, Nat.add_sub_cancel, hi])
    obtain ⟨text, htext, rfl⟩ := sendsBody_iff.mp hsent
    rw [listResponse_of_ne_zero _ hne, hid, Nat.add_sub_cancel, lightJson_of_getElem? hi] at htext
    by_cases hread : d.Readable
    · rw [if_pos hread] at htext
      obtain rfl := Except.ok.inj htext
      rw [cstr_longJson] at hdecode
      exact ⟨hread, plain_of_decode hdecode hshows.toNames⟩
    · rw [if_neg hread] at htext
      cases htext
  · rintro ⟨hlen, hall⟩
    refine ⟨fun id d hne hd => ?_, ?_⟩
    · obtain ⟨hread, hname, huid, hfits⟩ := hall d (List.mem_of_getElem? hd)
      obtain ⟨v, hdecode, hshows⟩ := decode_longJson hname huid hfits
      refine ⟨d.longJson, v, sendsBody_iff.mpr ⟨d.longJson, ?_, (cstr_longJson d).symm⟩, hdecode,
        hshows⟩
      rw [listResponse_of_ne_zero _ hne, lightJson_of_readable hd hread]
    · obtain ⟨v, hdecode, hlists⟩ := decode_listText fun d hd => (hall d hd).2
      exact ⟨listText devices, v, sendsBody_iff.mpr ⟨listText devices,
        listResponse_zero (fun d hd => (hall d hd).1) hlen, (cstr_listText devices).symm⟩, hdecode,
        hlists⟩

/-- A quote in a name: its description decodes to no device of that name. -/
theorem not_described_quote : ¬ Described
    [⟨⟨bytes "\"", by decide⟩, false, 0, ⟨0, 0, 0⟩, zeroSlot⟩] := by
  rintro ⟨hlight, -⟩
  obtain ⟨body, v, hsent, hdecode, hshows⟩ := hlight 1 _ (by decide) rfl
  obtain ⟨text, htext, rfl⟩ := sendsBody_iff.mp hsent
  rw [listResponse_of_ne_zero _ (by decide), lightJson_of_readable rfl (by decide)] at htext
  obtain rfl := Except.ok.inj htext
  rw [cstr_longJson] at hdecode
  exact absurd (plain_of_decode hdecode hshows.toNames).1 (by decide)

end FauxmoLinux
