import FauxmoLinux.Bridge.Compact
import FauxmoLinux.Bridge.Description
import FauxmoLinux.Bridge.Message
import FauxmoLinux.Bridge.Stream
import FauxmoLinux.Bridge.UniqueId

/-!
The bridge as its clients know it: lights with numbers, that can be listed, looked at and set.

* `LightView`, `Order`, `Wish`, `Reply`, `talk`: the lights as a client sees them, what it can ask
  for, what it is told, and a whole conversation. No byte is spoken of;
* `Wish.Asks`: the requests over HTTP that ask for something; `readReply`: what a client takes from
  the body of a response;
* `Wish.Means`, `Wish.exists_meaning`: what a request for a wish means to the bridge;
* `Conversable`: the stores that can be talked about, `conversable_addDevices` among them;
* `Wish.answered`: one request is carried out and answered as the wish says;
* `talk_refined`: every conversation over HTTP is one about lights, as long as each request is
  handed over in one piece;
* `repliesTo`, `clients_talk_refined`: so is one of several clients that are served in turn, of
  which each reads its own replies.
-/

namespace FauxmoLinux

/-! ### Conversations -/

/-- A light as a client sees it. -/
structure LightView where
  name : Bytes
  uniqueid : Bytes
  on : Bool
  bri : ℕ
  deriving DecidableEq, Repr

/-- What a light can be told to do. -/
inductive Order where
  | turn (on : Bool)
  | set (s : Setting)
  deriving DecidableEq, Repr

/-- What a client asks for; lights have the numbers from `1` on. -/
inductive Wish where
  | register
  | lights
  | light (k : ℕ)
  | order (k : ℕ) (o : Order)
  deriving DecidableEq, Repr

/-- What a client is told: its user name, the names and unique ids of all lights, a light, or
whether the light it gave an order to is on. -/
inductive Reply where
  | username (name : Bytes)
  | lights (names : List (Bytes × Bytes))
  | light (l : Option LightView)
  | state (k : ℕ) (on : Bool)
  deriving DecidableEq, Repr

/-- A light that is turned on shines, one with a brightness is on when that is not `0`, and one
with a colour is on. -/
def LightView.obey (l : LightView) : Order → LightView
  | .turn on => { l with on := on, bri := if on = true ∧ l.bri = 0 then 255 else l.bri }
  | .set (.bri n) => { l with on := decide (0 < n), bri := n }
  | .set (.hue _ _) => { l with on := true }
  | .set (.ct _) => { l with on := true }

/-- The user name everyone gets. -/
def username : Bytes := bytes "2WLEDHardQrI3WHYTHoMcXHgEspsM8ZZRpSKtBQr"

/-- The lights when the wish is fulfilled. -/
def Wish.fulfil (lights : List LightView) : Wish → List LightView
  | .order k o => lights.modify (k - 1) fun l => l.obey o
  | _ => lights

/-- What is told about the lights when the wish is fulfilled. -/
def Wish.reply (lights : List LightView) : Wish → Reply
  | .register => .username username
  | .lights => .lights (lights.map fun l => (l.name, l.uniqueid))
  | .light k => .light lights[k - 1]?
  | .order k _ => .state k ((lights[k - 1]?.map LightView.on).getD false)

/-- A conversation: the lights at its end, and what was told. -/
def talk : List LightView → List Wish → List LightView × List Reply
  | lights, [] => (lights, [])
  | lights, w :: ws =>
      let lights := w.fulfil lights
      ((talk lights ws).1, w.reply lights :: (talk lights ws).2)

/-! ### Reading responses -/

/-- The content of a string. -/
def Json.asString : Json → Option Bytes
  | .string s => some s
  | _ => none

def Json.asBool : Json → Option Bool
  | .bool b => some b
  | _ => none

/-- A number without sign, fraction and exponent. -/
def Json.asNumber : Json → Option ℕ
  | .number s => readNumber s
  | _ => none

/-- The name and the unique id in a description. -/
def readNames (v : Json) : Option (Bytes × Bytes) := do
  let name ← (← v.member (bytes "name")).asString
  let uniqueid ← (← v.member (bytes "uniqueid")).asString
  return (name, uniqueid)

/-- The light a description shows. -/
def readLight (v : Json) : Option LightView := do
  let (name, uniqueid) ← readNames v
  let state ← v.member (bytes "state")
  let on ← (← state.member (bytes "on")).asBool
  let bri ← (← state.member (bytes "bri")).asNumber
  return ⟨name, uniqueid, on, bri⟩

/-- The lights of a list that has the keys `1`, `2`, … -/
def readLights : Json → Option (List (Bytes × Bytes))
  | .object ms =>
      if ms.map Prod.fst = (List.range ms.length).map fun i => toDec (i + 1) then
        ms.mapM fun m => readNames m.2
      else none
  | _ => none

/-- The state of the light `k` in the report of a success. -/
def readState (k : ℕ) (v : Json) : Option Reply := do
  let success ← v.member (bytes "success")
  let on ← success.member (bytes "/lights/" ++ toDec k ++ bytes "/state/on")
  return .state k (← on.asBool)

/-- What a client takes from the body of the response to a wish. -/
def readReply (w : Wish) (body : Bytes) : Option Reply := do
  match w, ← Json.decode body with
  | .register, .array [v] => do
      let success ← v.member (bytes "success")
      return .username (← (← success.member (bytes "username")).asString)
  | .lights, v => do return .lights (← readLights v)
  | .light _, .object [] => return .light none
  | .light _, v => do return .light (some (← readLight v))
  | .order k _, .array [v] => readState k v
  | _, _ => none

/-- What a client takes from the responses to its wishes, one for each. -/
def readReplies : List Wish → List HttpResponse → Option (List Reply)
  | [], [] => some []
  | w :: ws, r :: rs => do
      let reply ← readReply w r.body
      return reply :: (← readReplies ws rs)
  | _, _ => none

/-! ### Requests -/

/-- The URL of all lights for the user `u`. -/
def lightsUrl (u : Bytes) : Bytes := bytes "/api/" ++ u ++ bytes "/lights"

/-- The URL of the state of the light `k`. -/
def stateUrl (u : Bytes) (k : ℕ) : Bytes := lightUrl u k ++ bytes "/state"

/-- The body that turns a light on or off. -/
def turnBody (on : Bool) : Bytes := bytes "\x7b\"on\":" ++ boolText on ++ bytes "\x7d"

/-- The bodies that give an order. -/
def Order.Writes (body : Bytes) : Order → Prop
  | .turn on => body = turnBody on
  | .set s => ∃ b : Compact, b.setting = s ∧ body = b.text

/-- The wish that a request asks for. Users do not have the word `lights` in their names. -/
def Wish.Asks (msg : HttpMessage) : Wish → Prop
  | .register => ¬ bytes "GET" <+: msg.method.1 ∧ bytes "/api" <+: msg.url.1 ∧
      bytes "devicetype" <:+: msg.body.1
  | .lights => bytes "GET" <+: msg.method.1 ∧
      ∃ u, ¬ bytes "lights" <:+: u ∧ msg.url.1 = lightsUrl u
  | .light k => bytes "GET" <+: msg.method.1 ∧
      ∃ u, ¬ bytes "lights" <:+: u ∧ msg.url.1 = lightUrl u k
  | .order k o => ¬ bytes "GET" <+: msg.method.1 ∧
      (∃ u, ¬ bytes "lights" <:+: u ∧ msg.url.1 = stateUrl u k) ∧ o.Writes msg.body.1

/-- The numbers of the order are in range. -/
def Order.InRange : Order → Prop
  | .turn _ => True
  | .set s => s.InRange

/-- The wish makes sense for `n` lights: it is about one of them, to be set to a value in range. -/
def Wish.Sensible (n : ℕ) : Wish → Prop
  | .light k => 1 ≤ k ∧ k ≤ 255
  | .order k o => 1 ≤ k ∧ k ≤ n ∧ o.InRange
  | _ => True

variable {env : Env}

/-! ### The meaning of a request -/

/-- A request to the interface is read by its method, its URL and its body. -/
lemma meaning_wire {msg : HttpMessage} (hapi : bytes "/api" <+: msg.url.1) :
    meaning env msg.wire =
      if (⟨msg.method.1, msg.url.1, msg.body.1⟩ : Request).isGet then
        match find (bytes "lights") msg.url.1 with
        | none => .ok .nothing
        | some pos => do return .list (← listNumber msg.url.1 pos)
      else if find (bytes "devicetype") msg.body.1 ≠ none then .ok .register
      else do
        match ← target msg.url.1 msg.body.1 with
        | none => return .nothing
        | some id => return .command id (← decode env msg.body.1) := by
  have hdesc : msg.url.1 ≠ bytes "/description.xml" := fun h => by
    rw [h] at hapi
    exact absurd hapi (by decide)
  rw [meaning, msg.splitRequest_wire, ok_bind]
  exact (if_neg hdesc).trans (if_pos hapi)

lemma meaning_list {msg : HttpMessage} {pos : ℕ} {id : UInt8} (hapi : bytes "/api" <+: msg.url.1)
    (hget : bytes "GET" <+: msg.method.1) (hpos : find (bytes "lights") msg.url.1 = some pos)
    (hid : listNumber msg.url.1 pos = .ok id) : meaning env msg.wire = .ok (.list id) := by
  rw [meaning_wire hapi, HttpMessage.isGet_eq, if_pos (by simpa using hget), hpos]
  simp only [hid, ok_bind]
  rfl

lemma meaning_register {msg : HttpMessage} (hapi : bytes "/api" <+: msg.url.1)
    (hget : ¬ bytes "GET" <+: msg.method.1) (hbody : bytes "devicetype" <:+: msg.body.1) :
    meaning env msg.wire = .ok .register := by
  rw [meaning_wire hapi, HttpMessage.isGet_eq, if_neg (by simpa using hget),
    if_pos (mt find_eq_none_iff.mp (not_not_intro hbody))]

lemma meaning_command {msg : HttpMessage} {id : UInt8} {c : Command}
    (hapi : bytes "/api" <+: msg.url.1) (hget : ¬ bytes "GET" <+: msg.method.1)
    (htarget : target msg.url.1 msg.body.1 = .ok (some id))
    (hdecode : decode env msg.body.1 = .ok c) : meaning env msg.wire = .ok (.command id c) := by
  rw [meaning_wire hapi, HttpMessage.isGet_eq, if_neg (by simpa using hget),
    if_neg (not_not_intro (isStateRequest_of_target htarget).1), htarget]
  simp only [ok_bind, hdecode]
  rfl

/-- The first `lights` of a URL stands behind the user. -/
lemma find_lights {u : Bytes} (hu : ¬ bytes "lights" <:+: u) (t : Bytes) :
    find (bytes "lights") (lightsUrl u ++ t) = some (u.length + 6) := by
  have hslash : (47 : UInt8) ∉ bytes "lights" := by decide
  have hne : bytes "lights" ≠ [] := by decide
  have hurl : lightsUrl u ++ t = [] ++ 47 :: (bytes "api" ++ 47 :: (u ++ 47 ::
      (bytes "lights" ++ t))) := by simp [lightsUrl, bytes]
  have hself : find (bytes "lights") (bytes "lights" ++ t) = some 0 :=
    find_eq_some_iff.mpr ⟨by simp, by simp⟩
  have hapi : find (bytes "lights") (bytes "api") = none := by decide
  have hnil : find (bytes "lights") [] = none := by decide
  rw [hurl, find_append_cons hslash hne, find_append_cons hslash hne,
    find_append_cons hslash hne, hnil, hapi, find_eq_none_iff.mpr hu, hself]
  have hlen : (bytes "api").length = 3 := by decide
  simp [hlen]

lemma lightUrl_eq (u : Bytes) (k : ℕ) : lightUrl u k = lightsUrl u ++ 47 :: toDec k := by
  simp [lightUrl, lightsUrl, bytes]

lemma api_prefix_lightsUrl (u t : Bytes) : bytes "/api" <+: lightsUrl u ++ t :=
  ⟨47 :: (u ++ bytes "/lights" ++ t), by simp [lightsUrl, bytes]⟩

/-- All lights are asked for where nothing stands behind `lights`. -/
lemma listNumber_lightsUrl (u : Bytes) : listNumber (lightsUrl u) (u.length + 6) = .ok 0 := by
  have hlen : (lightsUrl u).length = u.length + 12 := by
    simp only [lightsUrl, List.length_append]
    have h₁ : (bytes "/api/").length = 5 := rfl
    have h₂ : (bytes "/lights").length = 7 := rfl
    omega
  rw [listNumber, if_neg (by omega)]

/-- The number of a light is read back. -/
lemma numberRead_light {u : Bytes} (hu : ¬ bytes "lights" <:+: u) {k : ℕ} (hk : k ≤ 255) :
    UInt8.ofInt (numberRead u k) = k.toUInt8 := by
  rw [numberRead, find_eq_none_iff.mpr hu]
  dsimp only
  rw [min_eq_left (by omega), ofInt_natCast_uint8]

/-- The URL of the state of a light names the light. -/
lemma namesLight_stateUrl {u : Bytes} (hu : ¬ bytes "lights" <:+: u) {k : ℕ} (hk : 1 ≤ k)
    (hk' : k ≤ 255) : NamesLight (stateUrl u k) (k - 1).toUInt8 := by
  have hurl : stateUrl u k = lightsUrl u ++ 47 :: (toDec k ++ bytes "/state") := by
    rw [stateUrl, lightUrl_eq, List.append_assoc, List.cons_append]
  have hlen : (lightsUrl u).length = u.length + 12 := by
    simp only [lightsUrl, List.length_append]
    have h₁ : (bytes "/api/").length = 5 := rfl
    have h₂ : (bytes "/lights").length = 7 := rfl
    omega
  have hdrop : (stateUrl u k).drop (u.length + 6 + 7) = toDec k ++ bytes "/state" := by
    rw [hurl, show u.length + 6 + 7 = (lightsUrl u).length + 1 by omega, List.drop_append]
    simp
  have hnumber : lightNumber (stateUrl u k) (u.length + 6) = .ok k.toUInt8 := by
    rw [lightNumber_of_le (by rw [hurl, List.length_append, List.length_cons]; omega), hdrop,
      atoi_toDec_append (by omega) (by decide), ofInt_natCast_uint8]
  have hval : k.toUInt8.toNat = k := by
    rw [show k.toUInt8.toNat = k % 256 by simp]
    omega
  refine ⟨?_, u.length + 6, k.toUInt8, hurl ▸ find_lights hu _, hnumber, ?_, ?_⟩
  · rw [ne_eq, find_eq_none_iff, not_not]
    exact ⟨lightUrl u k ++ [47], [], by simp [stateUrl, bytes]⟩
  · rw [gt_iff_lt, UInt8.lt_iff_toNat_lt, hval]
    exact hk
  · refine UInt8.toNat_inj.mp ?_
    rw [toNat_sub_one_uint8 (fun h0 => by rw [h0] at hval; simp at hval; omega), hval]
    simp
    omega

/-- A light is turned on or off by the body for it. -/
lemma decode_turnBody (env : Env) (on : Bool) :
    decode env (turnBody on) = .ok (if on then .on else .off) := by
  cases on <;> rfl

lemma find_devicetype_turnBody (on : Bool) : find (bytes "devicetype") (turnBody on) = none := by
  cases on <;> rfl

lemma length_turnBody_pos (on : Bool) : 0 < (turnBody on).length := by
  cases on <;> decide

/-- A device as a client sees it. -/
def Device.view (d : Device) : LightView :=
  ⟨d.name.1, d.uniqueidString, d.state, d.value.toNat⟩

lemma view_apply_turn (on : Bool) (d : Device) :
    ((if on then Command.on else Command.off).apply d).view = d.view.obey (.turn on) := by
  cases on with
  | false => simp [Command.apply, Device.view, LightView.obey, Device.uniqueidString]
  | true =>
      by_cases h0 : d.value = 0
      · simp [Command.apply, Device.view, LightView.obey, Device.uniqueidString, h0]
      · have hne : d.value.toNat ≠ 0 := fun h => h0 (UInt8.toNat_inj.mp h)
        simp [Command.apply, Device.view, LightView.obey, Device.uniqueidString, h0, hne]

lemma view_sets {s : Setting} (hs : s.InRange) {d d' : Device} (h : s.Sets env d d') :
    d'.view = d.view.obey (.set s) := by
  cases s with
  | bri n =>
      have hn : n ≤ 255 := hs
      have hval : n.toUInt8.toNat = n := by
        rw [show n.toUInt8.toNat = n % 256 by simp]
        omega
      rw [Setting.Sets] at h
      simp [h, Device.view, LightView.obey, Device.uniqueidString, hval]
  | hue hue sat =>
      rw [Setting.Sets] at h
      simp [h, Device.view, LightView.obey, Device.uniqueidString]
  | ct c =>
      obtain ⟨rgb, -, rfl⟩ := h
      simp [Device.view, LightView.obey, Device.uniqueidString]

/-- A body that gives an order is for the light the URL names, and stands for a command that does
to it what a client expects. -/
lemma Order.exists_command (env : Env) {o : Order} (ho : o.InRange) {url body : Bytes} {id : UInt8}
    (hbody : o.Writes body) (hurl : NamesLight url id) :
    target url body = .ok (some id) ∧
      ∃ c, decode env body = .ok c ∧ ∀ d, (c.apply d).view = d.view.obey o := by
  cases o with
  | turn on =>
      rw [Order.Writes] at hbody
      subst hbody
      exact ⟨hurl.target_eq (find_devicetype_turnBody on) (length_turnBody_pos on), _,
        decode_turnBody env on, view_apply_turn on⟩
  | set s =>
      obtain ⟨b, rfl, rfl⟩ := hbody
      have hs : b.setting.InRange := ho
      refine ⟨hurl.target_text b, ?_⟩
      rw [decode_eq_readBody, b.readBody_text hs.fitsInt, ok_bind]
      obtain ⟨c, hc, -⟩ := hs.exists_command env lamp
      refine ⟨c, hc, fun d => ?_⟩
      obtain ⟨c', hc', hsets⟩ := hs.exists_command env d
      obtain rfl : c = c' := Except.ok.inj (hc.symm.trans hc')
      exact view_sets hs hsets

/-- What a request for the wish means to the bridge. -/
def Wish.Means (m : Meaning) : Wish → Prop
  | .register => m = .register
  | .lights => m = .list 0
  | .light k => ∃ id : UInt8, id.toNat = k ∧ m = .list id
  | .order k o => ∃ (id : UInt8) (c : Command), id.toNat + 1 = k ∧ m = .command id c ∧
      ∀ d, (c.apply d).view = d.view.obey o

/-- **A request for a wish** means that. -/
theorem Wish.exists_meaning (env : Env) {w : Wish} {n : ℕ} (hn : n ≤ 255) (hw : w.Sensible n)
    {msg : HttpMessage} (hasks : w.Asks msg) : ∃ m, meaning env msg.wire = .ok m ∧ w.Means m := by
  cases w with
  | register =>
      obtain ⟨hget, hapi, hbody⟩ := hasks
      exact ⟨_, meaning_register hapi hget hbody, rfl⟩
  | lights =>
      obtain ⟨hget, u, hu, hurl⟩ := hasks
      have hpos := find_lights hu []
      have hapi := api_prefix_lightsUrl u []
      rw [List.append_nil, ← hurl] at hpos hapi
      exact ⟨_, meaning_list hapi hget hpos (hurl ▸ listNumber_lightsUrl u), rfl⟩
  | light k =>
      obtain ⟨hget, u, hu, hurl⟩ := hasks
      obtain ⟨hk, hk'⟩ := hw
      have hpos := find_lights_lightUrl u k
      rw [find_eq_none_iff.mpr hu] at hpos
      have hnumber := listNumber_lightUrl u k
      rw [find_eq_none_iff.mpr hu, numberRead_light hu hk'] at hnumber
      have hapi : bytes "/api" <+: msg.url.1 := by
        rw [hurl, lightUrl_eq]
        exact api_prefix_lightsUrl u _
      refine ⟨_, meaning_list hapi hget (hurl ▸ hpos) (hurl ▸ hnumber), k.toUInt8, ?_, rfl⟩
      rw [show k.toUInt8.toNat = k % 256 by simp]
      omega
  | order k o =>
      obtain ⟨hget, ⟨u, hu, hurl⟩, hbody⟩ := hasks
      obtain ⟨hk, hkn, ho⟩ := hw
      have hnames := namesLight_stateUrl hu hk (hkn.trans hn)
      rw [← hurl] at hnames
      obtain ⟨htarget, c, hdecode, hview⟩ := Order.exists_command env ho hbody hnames
      have hapi : bytes "/api" <+: msg.url.1 := by
        rw [hurl, stateUrl, lightUrl_eq, List.append_assoc]
        exact api_prefix_lightsUrl u _
      refine ⟨_, meaning_command hapi hget htarget hdecode, _, c, ?_, rfl, hview⟩
      rw [show (k - 1).toUInt8.toNat = (k - 1) % 256 by simp]
      omega

/-! ### Reading what is sent -/

lemma readNames_of_names {d : Device} {v : Json} (h : Names d v) :
    readNames v = some (d.name.1, d.uniqueidString) := by
  simp [readNames, h.name, h.uniqueid, Json.asString]

lemma readLight_of_shows {d : Device} {v : Json} (h : Shows d v) :
    readLight v = some d.view := by
  obtain ⟨state, hstate, hon, hbri⟩ := h.state
  simp [readLight, readNames_of_names h.toNames, hstate, hon, hbri, Json.asBool, Json.asNumber,
    readNumber_toDec, Device.view]

lemma readLights_of_lists {devices : List Device} {v : Json} (h : Lists devices v) :
    readLights v = some (devices.map fun d => (d.name.1, d.uniqueidString)) := by
  obtain ⟨⟨ms, rfl, hkeys⟩, hmembers⟩ := h
  have hlen : ms.length = devices.length := by simpa using congrArg List.length hkeys
  have hnodup : (ms.map Prod.fst).Nodup := by
    rw [hkeys]
    exact List.nodup_range.map fun i j hij => Nat.succ_injective (toDec_injective hij)
  rw [readLights, if_pos (hlen ▸ hkeys)]
  refine mapM_eq_some (by simpa using hlen) fun i m p hm hp => ?_
  rw [List.getElem?_map] at hp
  obtain ⟨d, hd, rfl⟩ := Option.map_eq_some_iff.mp hp
  obtain ⟨w, hw, hnames⟩ := hmembers i d hd
  -- the member at the place `i` has the key `i + 1`
  have hkey : m.1 = toDec (i + 1) := by
    have hget := congrArg (·[i]?) hkeys
    have hlt : i < devices.length := (List.getElem?_eq_some_iff.mp hd).1
    simpa [hm, hlt] using hget
  have hself := Json.member_of_nodup hnodup (List.mem_of_getElem? hm : (m.1, m.2) ∈ ms)
  rw [hkey, hw] at hself
  cases hself
  exact readNames_of_names hnames

lemma Json.Plain.append {s t : Bytes} (hs : Json.Plain s) (ht : Json.Plain t) :
    Json.Plain (s ++ t) := by
  refine ⟨?_, fun c hc => (List.mem_append.mp hc).elim (hs.2 c) (ht.2 c)⟩
  rw [IsUtf8, List.foldlM_append, hs.1]
  exact ht.1

/-- The report of a success is the text of an array. -/
lemma decode_stateText (id : UInt8) (on : Bool) :
    Json.decode (stateText id on) = some (.array [.object [(bytes "success",
      .object [(bytes "/lights/" ++ toDec (id.toNat + 1) ++ bytes "/state/on", .bool on)])]]) := by
  have hkey : Json.Plain (bytes "/lights/" ++ toDec (id.toNat + 1) ++ bytes "/state/on") := by
    exact ((by decide : Json.Plain (bytes "/lights/")).append (Json.plain_toDec _)).append
      (by decide)
  have htext : stateText id on = 91 :: (Json.objectText [objectMember (bytes "success") []
      [boolMember _ [] on hkey (by simp)] (by decide) (by simp)] ++ [93]) := by
    simp [stateText, Json.objectText, Json.membersText, objectMember, boolMember,
      Json.Member.compact, Json.Member.all, Json.Member.core, Json.quoted, bytes]
  rw [htext]
  exact Json.decode_bracketed (Json.reads_objectText _)

lemma readReply_state {k : ℕ} {id : UInt8} (hid : id.toNat + 1 = k) (o : Order) (on : Bool) :
    readReply (.order k o) (stateText id on) = some (.state k on) := by
  simp only [readReply, decode_stateText, Option.bind_eq_bind, Option.bind_some, hid]
  simp [readState, Json.member, Json.asBool]

/-! ### One wish -/

/-- The device can be shown whatever its state and value are. -/
structure Device.Presentable (d : Device) : Prop where
  readable : d.Readable
  name : Json.Plain d.name.1
  uniqueid : Json.Plain d.uniqueidString
  room : d.name.1.length + d.uniqueidString.length ≤ 63

/-- The store can be talked about. -/
structure Conversable (devices : List Device) : Prop where
  length : devices.length ≤ 255
  presentable : ∀ d ∈ devices, d.Presentable

lemma Device.Presentable.fits {d : Device} (h : d.Presentable) : d.Fits := by
  have hroom := h.room
  have hbool : (boolText d.state).length ≤ 5 := by cases d.state <;> decide
  have hvalue : (toDec d.value.toNat).length ≤ 3 :=
    length_toDec_le (by norm_num) (by have := d.value.toNat_lt; omega)
  rw [Device.Fits]
  omega

/-- A command changes nothing about that. -/
lemma Device.Presentable.apply {d : Device} (h : d.Presentable) (c : Command) :
    (c.apply d).Presentable := by
  have huniqueid : (c.apply d).uniqueidString = d.uniqueidString := by
    rw [Device.uniqueidString, c.apply_uniqueid, Device.uniqueidString]
  exact ⟨by rw [Device.Readable, c.apply_uniqueid]; exact h.readable,
    by rw [c.apply_name]; exact h.name, huniqueid ▸ h.uniqueid,
    by rw [c.apply_name, huniqueid]; exact h.room⟩

lemma Conversable.modify {devices : List Device} (h : Conversable devices) (i : ℕ)
    (c : Command) : Conversable (devices.modify i c.apply) := by
  refine ⟨by simpa using h.length, fun d hd => ?_⟩
  obtain ⟨j, hj⟩ := List.mem_iff_getElem?.mp hd
  rw [List.getElem?_modify] at hj
  obtain ⟨d₀, hd₀, rfl⟩ := Option.map_eq_some_iff.mp hj
  have hpres := h.presentable d₀ (List.mem_of_getElem? hd₀)
  split
  · exact hpres.apply c
  · exact hpres

/-- The text of a `uniqueid` is digits, capitals in front, and colons. -/
lemma plain_uniqueidText (iface : Interface) (n : ℕ) : Json.Plain (uniqueidText iface n) := by
  refine Json.plain_of_ascii fun c hc => ?_
  have hdigit : ∀ d < 16, ∀ a ∈ [65, 97], 32 ≤ digitChar a d ∧ digitChar a d < 128 ∧
      digitChar a d ≠ 34 ∧ digitChar a d ≠ 92 := by decide
  have hsuffix : ∀ c ∈ bytes ":00:00", 32 ≤ c ∧ c < 128 ∧ c ≠ 34 ∧ c ≠ 92 := by decide
  have hc : c ∈ hex02 true n ++ 58 :: (getMacAddr iface ++ bytes ":00:00") := by
    simpa [sprintf, bytes] using List.mem_of_mem_take hc
  rcases List.mem_append.mp hc with hc | hc
  · obtain ⟨d, hd, rfl⟩ := exists_digit_of_mem_hex02 hc
    exact hdigit d hd 65 (by simp)
  · rcases List.mem_cons.mp hc with rfl | hc
    · decide
    · rcases List.mem_append.mp hc with hc | hc
      · rcases eq_or_digit_of_mem_getMacAddr hc with rfl | ⟨d, hd, rfl⟩
        · decide
        · exact hdigit d hd 97 (by simp)
      · exact hsuffix c hc

lemma length_uniqueidText_le (iface : Interface) (n : ℕ) : (uniqueidText iface n).length ≤ 26 := by
  rw [uniqueidText, snprintf, List.length_take, FAUXMO_DEVICE_UNIQUE_ID_LENGTH]
  exact Nat.min_le_left _ _

/-- A device with a name of at most `37` bytes that need no escape can be added. -/
lemma conversable_addDevice (iface : Interface) (slot : UniqueIdArray) {devices : List Device}
    (hc : Conversable devices) (hlen : devices.length < 255) {name : CString}
    (hplain : Json.Plain name.1) (hname : name.1.length ≤ 37) :
    Conversable (addDevice iface slot devices name).1 := by
  have hread := readable_addDevice iface slot devices name fun d hd =>
    (hc.presentable d hd).readable
  refine ⟨by simpa [addDevice] using hlen, fun d hd => ?_⟩
  have hd' := hd
  rw [addDevice] at hd'
  rcases List.mem_append.mp hd' with hd' | hd'
  · exact hc.presentable d hd'
  · obtain rfl := List.mem_singleton.mp hd'
    refine ⟨hread _ hd, hplain, ?_, ?_⟩
    · rw [Device.uniqueidString, uniqueidString_addDevice]
      exact plain_uniqueidText _ _
    · have hle := length_uniqueidText_le iface (devices.length % 2 ^ 32)
      rw [Device.uniqueidString, uniqueidString_addDevice]
      dsimp only
      omega

/-- A store can be talked about when at most `255` such devices were added to it. -/
lemma conversable_addDevices (iface : Interface) {added : List (UniqueIdArray × CString)}
    (hlen : added.length ≤ 255) (h : ∀ a ∈ added, Json.Plain a.2.1 ∧ a.2.1.length ≤ 37) :
    Conversable (addDevices iface added) := by
  induction added using List.reverseRecOn with
  | nil => exact ⟨by simp [addDevices], by simp [addDevices]⟩
  | append_singleton added a ih =>
      rw [List.length_append, List.length_singleton] at hlen
      have hc := ih (by omega) fun b hb => h b (List.mem_append_left [a] hb)
      have hsize : (addDevices iface added).length = added.length := by
        simpa using congrArg List.length (addDevices_fresh iface added).1
      obtain ⟨hplain, hname⟩ := h a (by simp)
      rw [addDevices, List.foldl_append]
      exact conversable_addDevice iface a.1 hc (by omega) hplain hname

/-- The bridge answers with a response whose body tells what the wish says, about the lights as
it leaves them. -/
structure Answered (env : Env) (fauxmo : Fauxmo) (message : Bytes) (w : Wish)
    (fauxmo' : Fauxmo) (events : List Event) : Prop where
  received : onMessageReceived env fauxmo message = .ok (fauxmo', events)
  sent : ∃ mime body, (httpResponse mime body).Framed ∧
    tcpBytes events = (httpResponse mime body).text ∧
    readReply w body = some (w.reply (fauxmo'.devices.map Device.view))
  frame : fauxmo' = { fauxmo with devices := fauxmo'.devices }
  conversable : Conversable fauxmo'.devices
  length : fauxmo'.devices.length = fauxmo.devices.length
  views : fauxmo'.devices.map Device.view = w.fulfil (fauxmo.devices.map Device.view)

lemma Answered.enabled {message : Bytes} {w : Wish} {fauxmo' : Fauxmo} {events : List Event}
    (h : Answered env fauxmo message w fauxmo' events) : fauxmo'.enabled = fauxmo.enabled := by
  rw [h.frame]

lemma Answered.server {message : Bytes} {w : Wish} {fauxmo' : Fauxmo} {events : List Event}
    (h : Answered env fauxmo message w fauxmo' events) : fauxmo'.server = fauxmo.server := by
  rw [h.frame]

lemma tcpBytes_stateEvents (callback : Bool) (id : UInt8) (d : Device) :
    tcpBytes (stateEvents callback id d) =
      (httpResponse (bytes "text/xml") (stateText id d.state)).text := by
  rw [stateEvents_eq, ← tcpBytes_response]
  cases callback <;> simp [tcpBytes, response]

/-- The lights behind a command are those behind the order it carries out. -/
lemma fulfil_order {devices : List Device} {id : UInt8} {c : Command} {k : ℕ} {o : Order}
    (hid : id.toNat + 1 = k) (hview : ∀ d, (c.apply d).view = d.view.obey o) :
    Wish.fulfil (devices.map Device.view) (.order k o) =
      (devices.modify id.toNat c.apply).map Device.view := by
  rw [Wish.fulfil, ← hid, Nat.add_sub_cancel]
  exact (map_modify_comm hview _ _).symm

lemma getElem?_view_modify {devices : List Device} {id : UInt8} {d : Device} {k : ℕ}
    (hd : devices[id.toNat]? = some d) (hid : id.toNat + 1 = k) (c : Command) :
    ((devices.modify id.toNat c.apply).map Device.view)[k - 1]? = some (c.apply d).view := by
  rw [← hid, Nat.add_sub_cancel, List.getElem?_map, List.getElem?_modify_eq, hd]
  rfl

variable {fauxmo : Fauxmo} {w : Wish}

/-- A command is carried out and reported. -/
lemma answered_command {message : Bytes} {id : UInt8} {c : Command} {d : Device} {k : ℕ} {o : Order}
    (hon : fauxmo.enabled = true) (hc : Conversable fauxmo.devices)
    (hmean : meaning env message = .ok (.command id c))
    (hd : fauxmo.devices[id.toNat]? = some d) (hid : id.toNat + 1 = k)
    (hview : ∀ d, (c.apply d).view = d.view.obey o) :
    ∃ fauxmo' events, Answered env fauxmo message (.order k o) fauxmo' events := by
  refine ⟨_, _, ⟨(onMessageReceived_ok_iff hon).mpr ⟨_, hmean, Meaning.answer_command hd⟩,
    ⟨_, _, framed_httpResponse (by decide) (by decide) _, tcpBytes_stateEvents _ _ _, ?_⟩, rfl,
    hc.modify id.toNat c, by simp, (fulfil_order hid hview).symm⟩⟩
  rw [readReply_state hid, Wish.reply, getElem?_view_modify hd hid]
  rfl

/-- A document is sent, and the lights stay as they are. -/
lemma answered_json {message body : Bytes} {m : Meaning} (hon : fauxmo.enabled = true)
    (hc : Conversable fauxmo.devices) (hmean : meaning env message = .ok m)
    (hanswer : m.answer env fauxmo =
      .ok (fauxmo, sendTCPResponse (bytes "200 OK") body (bytes "application/json")))
    (hbody : cstr body = body) (hlen : body.length < 2 ^ 31)
    (hread : readReply w body = some (w.reply (fauxmo.devices.map Device.view)))
    (hfulfil : w.fulfil (fauxmo.devices.map Device.view) = fauxmo.devices.map Device.view) :
    ∃ fauxmo' events, Answered env fauxmo message w fauxmo' events := by
  refine ⟨fauxmo, _, ⟨(onMessageReceived_ok_iff hon).mpr ⟨m, hmean, hanswer⟩,
    ⟨bytes "application/json", body, framed_httpResponse (by decide) (by decide) _, ?_, hread⟩,
    rfl, hc, rfl, hfulfil.symm⟩⟩
  rw [sendTCPResponse_eq (by decide) (by rwa [hbody]), hbody, tcpBytes_response]

/-- The answer to a registration. -/
lemma readReply_register : readReply .register devicetypeResponse = some (.username username) := by
  have htext : devicetypeResponse = 91 :: (Json.objectText [objectMember (bytes "success") []
      [stringMember (bytes "username") [32] username (by decide) (by decide) (by decide)]
        (by decide) (by simp)] ++ [93]) := by
    decide +kernel
  simp only [readReply, htext, Json.decode_bracketed (Json.reads_objectText _),
    Option.bind_eq_bind, Option.bind_some]
  rfl

/-- The list of all lights. -/
lemma readReply_lights {devices : List Device} (hc : Conversable devices) :
    readReply .lights (listText devices) =
      some (.lights ((devices.map Device.view).map fun l => (l.name, l.uniqueid))) := by
  obtain ⟨v, hdecode, hlists⟩ := decode_listText fun d hd =>
    ⟨(hc.presentable d hd).name, (hc.presentable d hd).uniqueid, (hc.presentable d hd).fits⟩
  simp only [readReply, hdecode, readLights_of_lists hlists, List.map_map, Option.bind_eq_bind,
    Option.bind_some]
  rfl

/-- One light, and none. -/
lemma readReply_light {d : Device} (h : d.Presentable) (k : ℕ) :
    readReply (.light k) d.longJson = some (.light (some d.view)) := by
  obtain ⟨v, hdecode, hshows⟩ := decode_longJson h.name h.uniqueid h.fits
  obtain ⟨ms, rfl⟩ := Json.eq_object_of_member hshows.name
  cases ms with
  | nil => exact absurd hshows.name (by simp [Json.member])
  | cons m ms =>
      simp only [readReply, hdecode, readLight_of_shows hshows, Option.bind_eq_bind,
        Option.bind_some]
      rfl

lemma readReply_light_none (k : ℕ) :
    readReply (.light k) (bytes "\x7b\x7d") = some (.light none) := rfl

/-- **One wish**: a request that asks for something sensible is answered as it says. -/
theorem Wish.answered (hon : fauxmo.enabled = true) (hc : Conversable fauxmo.devices)
    {msg : HttpMessage} (hw : w.Sensible fauxmo.devices.length) (hasks : w.Asks msg) :
    ∃ fauxmo' events, Answered env fauxmo msg.wire w fauxmo' events := by
  obtain ⟨m, hmean, hm⟩ := Wish.exists_meaning env hc.length hw hasks
  have hread : ∀ d ∈ fauxmo.devices, d.Readable := fun d hd => (hc.presentable d hd).readable
  cases w with
  | register =>
      obtain rfl : m = .register := hm
      exact answered_json hon hc hmean rfl (by decide +kernel) (by decide +kernel)
        readReply_register rfl
  | lights =>
      obtain rfl : m = .list 0 := hm
      have htext := listResponse_zero hread hc.length
      exact answered_json hon hc hmean (Meaning.answer_list htext) (cstr_listText _)
        (length_listResponse_lt htext) (readReply_lights hc) rfl
  | light k =>
      obtain ⟨id, rfl, rfl⟩ := hm
      have hne : id ≠ 0 := fun h0 => absurd hw.1 (by rw [h0]; decide)
      have hlist := listResponse_of_ne_zero fauxmo.devices hne
      cases hd : fauxmo.devices[id.toNat - 1]? with
      | none =>
          rw [lightJson, hd] at hlist
          refine answered_json hon hc hmean (Meaning.answer_list hlist) rfl (by decide) ?_ rfl
          rw [readReply_light_none, Wish.reply, List.getElem?_map, hd]
          rfl
      | some d =>
          have hpres := hc.presentable d (List.mem_of_getElem? hd)
          rw [lightJson_of_readable hd hpres.readable] at hlist
          refine answered_json hon hc hmean (Meaning.answer_list hlist) (cstr_longJson d)
            (length_listResponse_lt hlist) ?_ rfl
          rw [readReply_light hpres, Wish.reply, List.getElem?_map, hd]
          rfl
  | order k o =>
      obtain ⟨id, c, hid, rfl, hview⟩ := hm
      have hlt : id.toNat < fauxmo.devices.length := by
        have hle := hw.2.1
        omega
      exact answered_command hon hc hmean (List.getElem?_eq_getElem hlt) hid hview

/-! ### Conversations over HTTP -/

lemma tcpBytes_append (as bs : List Event) :
    tcpBytes (as ++ bs) = tcpBytes as ++ tcpBytes bs := List.flatMap_append

/-- The responses of a conversation, one behind the other. -/
lemma exists_talk {asks : List (OnePiece × Wish)} (hon : fauxmo.enabled = true)
    (hc : Conversable fauxmo.devices)
    (h : ∀ a ∈ asks, a.2.Sensible fauxmo.devices.length ∧ a.2.Asks a.1.toHttpMessage) :
    ∃ fauxmo' events rs,
      runs (onMessageReceived env) fauxmo (asks.map fun a => a.1.wire) = .ok (fauxmo', events) ∧
      (∀ r ∈ rs, r.Framed) ∧ tcpBytes events = rs.flatMap HttpResponse.text ∧
      readReplies (asks.map Prod.snd) rs =
        some (talk (fauxmo.devices.map Device.view) (asks.map Prod.snd)).2 ∧
      fauxmo'.devices.map Device.view =
        (talk (fauxmo.devices.map Device.view) (asks.map Prod.snd)).1 := by
  induction asks generalizing fauxmo with
  | nil => exact ⟨fauxmo, [], [], rfl, by simp, rfl, rfl, rfl⟩
  | cons a asks ih =>
      rw [List.forall_mem_cons] at h
      obtain ⟨⟨hsensible, hasks⟩, hrest⟩ := h
      obtain ⟨fauxmo₁, o₁, hanswered⟩ := @Wish.answered env _ _ hon hc _ hsensible hasks
      have hon₁ : fauxmo₁.enabled = true := hanswered.enabled.trans hon
      rw [← hanswered.length] at hrest
      obtain ⟨fauxmo₂, o₂, rs, hrun, hframed, hbytes, hreplies, hviews⟩ :=
        ih hon₁ hanswered.conversable hrest
      obtain ⟨mime, body, hframed₁, hbytes₁, hreply⟩ := hanswered.sent
      rw [hanswered.views] at hreplies hviews hreply
      refine ⟨fauxmo₂, o₁ ++ o₂, httpResponse mime body :: rs,
        runs_cons_ok.mpr ⟨fauxmo₁, o₁, o₂, hanswered.received, hrun, rfl⟩,
        List.forall_mem_cons.mpr ⟨hframed₁, hframed⟩, ?_, ?_, hviews⟩
      · rw [tcpBytes_append, hbytes₁, hbytes, List.flatMap_cons]
      · have hbody : (httpResponse mime body).body = body := rfl
        rw [List.map_cons, readReplies, hbody, hreply, hreplies]
        rfl

/-- **Conversations**: whatever lights there are and whatever a client asks for over HTTP, one
request after the other and each handed over in one piece, the bytes it is sent are read back as one
reply for each request; the replies and the lights at the end are those of a conversation about
lights. -/
theorem talk_refined (env : Env) (fauxmo : Fauxmo) (hon : fauxmo.enabled = true)
    (hc : Conversable fauxmo.devices) (asks : List (OnePiece × Wish))
    (h : ∀ a ∈ asks, a.2.Sensible fauxmo.devices.length ∧ a.2.Asks a.1.toHttpMessage) :
    ∃ fauxmo' events,
      runs (onMessageReceived env) fauxmo (asks.map fun a => a.1.wire) = .ok (fauxmo', events) ∧
      (decodeHttp (tcpBytes events)).bind (readReplies (asks.map Prod.snd)) =
        some (talk (fauxmo.devices.map Device.view) (asks.map Prod.snd)).2 ∧
      fauxmo'.devices.map Device.view =
        (talk (fauxmo.devices.map Device.view) (asks.map Prod.snd)).1 := by
  obtain ⟨fauxmo', events, rs, hrun, hframed, hbytes, hreplies, hviews⟩ := exists_talk hon hc h
  refine ⟨fauxmo', events, hrun, ?_, hviews⟩
  rw [hbytes, decodeHttp_flatMap hframed]
  exact hreplies

/-- Two requests: the light `1` is turned on, and looked at. -/
def turnOn : OnePiece :=
  { HttpMessage.sample with
    body := ⟨turnBody true, by decide⟩
    fits := by decide }

def look : OnePiece :=
  { HttpMessage.sample with
    method := ⟨bytes "GET", by decide⟩
    url := ⟨lightUrl (bytes "u") 1, by decide⟩
    body := ⟨[], by decide⟩
    method_space := by decide
    url_space := by decide
    fits := by decide }

lemma asks_turnOn_look :
    ∀ a ∈ [(turnOn, Wish.order 1 (.turn true)), (look, .light 1)],
      a.2.Sensible 1 ∧ a.2.Asks a.1.toHttpMessage := by
  simp only [List.forall_mem_cons, List.not_mem_nil, IsEmpty.forall_iff, implies_true, and_true]
  refine ⟨⟨⟨le_rfl, le_rfl, trivial⟩, by decide, ⟨bytes "u", by decide, rfl⟩, rfl⟩, ?_⟩
  exact ⟨⟨le_rfl, by decide⟩, by decide, bytes "u", by decide, rfl⟩

/-- The television is turned on, and looked at. -/
theorem talk_refined_fernseher : ∃ fauxmo' events,
    runs (onMessageReceived homeEnv) (mainBridge (addDevices homeEnv.iface [(zeroSlot, fernseher)]))
        [turnOn.wire, look.wire] = .ok (fauxmo', events) ∧
      (decodeHttp (tcpBytes events)).bind (readReplies [.order 1 (.turn true), .light 1]) =
        some [.state 1 true, .light (some ⟨fernseher.1, bytes "00:02:00:5e:10:00:01:00:00", true,
          255⟩)] ∧
      fauxmo'.devices.map Device.view =
        [⟨fernseher.1, bytes "00:02:00:5e:10:00:01:00:00", true, 255⟩] :=
  talk_refined homeEnv (mainBridge (addDevices homeEnv.iface [(zeroSlot, fernseher)])) rfl
    (conversable_addDevices homeEnv.iface (by decide) (by decide))
    [(turnOn, .order 1 (.turn true)), (look, .light 1)] asks_turnOn_look

/-! ### Several clients -/

variable {κ : Type} [DecidableEq κ]

/-- What the client `k` is told in a conversation of several. -/
def repliesTo (k : κ) : List LightView → List (κ × Wish) → List Reply
  | _, [] => []
  | lights, a :: asks =>
      let lights := a.2.fulfil lights
      (if a.1 = k then [a.2.reply lights] else []) ++ repliesTo k lights asks

/-- What the client `k` asks for. -/
def wishesOf (k : κ) (asks : List (κ × Wish)) : List Wish := (asks.filter (·.1 = k)).map Prod.snd

lemma answersOn_cons (k : κ) (a : κ × List Event) (answers : List (κ × List Event)) :
    answersOn k (a :: answers) = (if a.1 = k then [a.2] else []) ++ answersOn k answers := by
  by_cases h : a.1 = k <;> simp [answersOn, h]

lemma wishesOf_cons (k : κ) (a : κ × Wish) (asks : List (κ × Wish)) :
    wishesOf k (a :: asks) = (if a.1 = k then [a.2] else []) ++ wishesOf k asks := by
  by_cases h : a.1 = k <;> simp [wishesOf, h]

/-- A request of a client, with its connection and its wish. -/
structure Ask (κ : Type) where
  connection : κ
  msg : OnePiece
  wish : Wish

/-- The request as it arrives. -/
def Ask.arrival (a : Ask κ) : κ × Input := (a.connection, .tcp a.msg.wire)

/-- The responses on every connection, one behind the other. -/
lemma exists_clients_talk {asks : List (Ask κ)} (hon : fauxmo.enabled = true)
    (hserver : fauxmo.server ≠ none) (hc : Conversable fauxmo.devices)
    (h : ∀ a ∈ asks, a.wish.Sensible fauxmo.devices.length ∧ a.wish.Asks a.msg.toHttpMessage) :
    ∃ fauxmo' answers,
      runs (Fauxmo.serve env) fauxmo (asks.map Ask.arrival) = .ok (fauxmo', answers) ∧
      (∀ k, ∃ rs, (∀ r ∈ rs, r.Framed) ∧
        (answersOn k answers).flatMap tcpBytes = rs.flatMap HttpResponse.text ∧
        readReplies (wishesOf k (asks.map fun a => (a.connection, a.wish))) rs =
          some (repliesTo k (fauxmo.devices.map Device.view)
            (asks.map fun a => (a.connection, a.wish)))) ∧
      fauxmo'.devices.map Device.view =
        (talk (fauxmo.devices.map Device.view) (asks.map Ask.wish)).1 := by
  induction asks generalizing fauxmo with
  | nil => exact ⟨fauxmo, [], rfl, fun k => ⟨[], by simp, rfl, rfl⟩, rfl⟩
  | cons a asks ih =>
      rw [List.forall_mem_cons] at h
      obtain ⟨⟨hsensible, hasks⟩, hrest⟩ := h
      obtain ⟨fauxmo₁, o₁, hanswered⟩ := @Wish.answered env _ _ hon hc _ hsensible hasks
      have hon₁ : fauxmo₁.enabled = true := hanswered.enabled.trans hon
      have hserver₁ : fauxmo₁.server ≠ none := by
        rw [hanswered.server]
        exact hserver
      rw [← hanswered.length] at hrest
      obtain ⟨fauxmo₂, answers, hrun, hreplies, hviews⟩ :=
        ih hon₁ hserver₁ hanswered.conversable hrest
      obtain ⟨mime, body, hframed₁, hbytes₁, hreply⟩ := hanswered.sent
      rw [hanswered.views] at hreplies hviews hreply
      have hserve : fauxmo.serve env a.arrival = .ok (fauxmo₁, [(a.connection, o₁)]) := by
        rw [Fauxmo.serve, Ask.arrival, Fauxmo.step, if_neg hserver, hanswered.received]
        rfl
      refine ⟨fauxmo₂, (a.connection, o₁) :: answers,
        runs_cons_ok.mpr ⟨fauxmo₁, _, answers, hserve, hrun, rfl⟩, fun k => ?_, hviews⟩
      obtain ⟨rs, hframed, hbytes, hread⟩ := hreplies k
      rw [List.map_cons, wishesOf_cons, answersOn_cons, repliesTo]
      by_cases hk : a.connection = k
      · refine ⟨httpResponse mime body :: rs, List.forall_mem_cons.mpr ⟨hframed₁, hframed⟩, ?_, ?_⟩
        · rw [if_pos hk, List.singleton_append, List.flatMap_cons, hbytes₁, hbytes,
            List.flatMap_cons]
        · have hbody : (httpResponse mime body).body = body := rfl
          simp only [if_pos hk, List.singleton_append, readReplies, hbody, hreply, hread]
          rfl
      · -- nothing is sent to the others
        simp only [if_neg hk, List.nil_append]
        exact ⟨rs, hframed, hbytes, hread⟩

/-- **Several clients in turn**: whatever lights there are and in whatever order the requests of any
number of clients arrive, each handed over in one piece and served before the next one, the bytes on
every connection are read back as one reply for each request on it, and these are the replies to its
client in one conversation of all about lights. -/
theorem clients_talk_refined (env : Env) (fauxmo : Fauxmo) (hon : fauxmo.enabled = true)
    (hserver : fauxmo.server ≠ none) (hc : Conversable fauxmo.devices) (asks : List (Ask κ))
    (h : ∀ a ∈ asks, a.wish.Sensible fauxmo.devices.length ∧ a.wish.Asks a.msg.toHttpMessage) :
    ∃ fauxmo' answers,
      runs (Fauxmo.serve env) fauxmo (asks.map Ask.arrival) = .ok (fauxmo', answers) ∧
      (∀ k, (decodeHttp ((answersOn k answers).flatMap tcpBytes)).bind
          (readReplies (wishesOf k (asks.map fun a => (a.connection, a.wish)))) =
        some (repliesTo k (fauxmo.devices.map Device.view)
          (asks.map fun a => (a.connection, a.wish)))) ∧
      fauxmo'.devices.map Device.view =
        (talk (fauxmo.devices.map Device.view) (asks.map Ask.wish)).1 := by
  obtain ⟨fauxmo', answers, hrun, hreplies, hviews⟩ :=
    @exists_clients_talk env fauxmo κ _ asks hon hserver hc h
  refine ⟨fauxmo', answers, hrun, fun k => ?_, hviews⟩
  obtain ⟨rs, hframed, hbytes, hread⟩ := hreplies k
  rw [hbytes, decodeHttp_flatMap hframed]
  exact hread

/-- One client turns the television on, another looks at it. -/
def twoClients : List (Ask Bool) :=
  [⟨true, turnOn, .order 1 (.turn true)⟩, ⟨false, look, .light 1⟩]

lemma asks_twoClients :
    ∀ a ∈ twoClients, a.wish.Sensible 1 ∧ a.wish.Asks a.msg.toHttpMessage := by
  rw [twoClients, List.forall_mem_cons, List.forall_mem_singleton]
  have h := asks_turnOn_look
  rwa [List.forall_mem_cons, List.forall_mem_singleton] at h

/-- The client that looks is told what the other one has ordered. -/
theorem clients_talk_refined_two : ∃ fauxmo' answers,
    runs (Fauxmo.serve homeEnv) (mainBridge (addDevices homeEnv.iface [(zeroSlot, fernseher)]))
        (twoClients.map Ask.arrival) = .ok (fauxmo', answers) ∧
      (∀ k, (decodeHttp ((answersOn k answers).flatMap tcpBytes)).bind
          (readReplies (wishesOf k (twoClients.map fun a => (a.connection, a.wish)))) =
        some (repliesTo k [⟨fernseher.1, bytes "00:02:00:5e:10:00:01:00:00", false, 0⟩]
          (twoClients.map fun a => (a.connection, a.wish)))) ∧
      fauxmo'.devices.map Device.view =
        [⟨fernseher.1, bytes "00:02:00:5e:10:00:01:00:00", true, 255⟩] :=
  clients_talk_refined homeEnv (mainBridge (addDevices homeEnv.iface [(zeroSlot, fernseher)])) rfl
    (by simp [mainBridge]) (conversable_addDevices homeEnv.iface (by decide) (by decide))
    twoClients asks_twoClients

end FauxmoLinux
