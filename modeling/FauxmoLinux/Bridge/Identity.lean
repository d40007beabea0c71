import FauxmoLinux.Bridge.DottedQuad
import FauxmoLinux.Bridge.Response

/-!
The identity of the bridge: what the answer to a discovery and `/description.xml` say about it.

* `entry`, `entry_of_heads`: what stands behind the name of a header line or of an element; it is
  found by the first two bytes of the lines or elements in front of it;
* `discoveryText_eq`, `descriptionText_eq`: the two texts in their lines and elements;
* `entries_discovery`, `entries_description`: what they say, three times the same address with the
  port and four times the hardware address;
* `hostText_eq_iff`: that address is the one of the interface, and the port is the one of the server
  when it fits into `16` bits;
* `SameIdentity`, `not_sameIdentity`: what they should say, which they never do, since the text
  without colons that `std::regex_replace` returns is not used.
-/

namespace FauxmoLinux

/-! ### Entries -/

/-- What stands behind `name` in the first part that starts with it, in a text cut at `sep`. -/
def entry (sep : UInt8) (name text : Bytes) : Option Bytes :=
  ((text.splitOn sep).find? (name.isPrefixOf ·)).map (·.drop name.length)

/-- Behind a separator the search goes on. -/
lemma entry_append_cons (sep : UInt8) (name s t : Bytes) :
    entry sep name (s ++ sep :: t) = (entry sep name s).or (entry sep name t) := by
  rw [entry, List.splitOn_append_cons_self, List.find?_append]
  cases h : (s.splitOn sep).find? (name.isPrefixOf ·) <;> simp [entry, h]

lemma entry_intercalate (sep : UInt8) (name : Bytes) {parts : List Bytes} (h : parts ≠ []) :
    entry sep name ([sep].intercalate parts) = parts.findSome? (entry sep name) := by
  induction parts with
  | nil => exact absurd rfl h
  | cons s parts ih =>
      by_cases hnil : parts = []
      · subst hnil
        rw [List.intercalate_singleton]
        cases h : entry sep name s <;> simp [h]
      · rw [List.intercalate_cons_of_ne_nil hnil, List.append_assoc, List.singleton_append,
          entry_append_cons, ih hnil, List.findSome?_cons]
        cases h : entry sep name s <;> simp

/-- The first two bytes of each part. -/
def heads (sep : UInt8) (s : Bytes) : List Bytes := (s.splitOn sep).map (·.take 2)

lemma heads_append {sep : UInt8} {front : Bytes} (hlen : 2 ≤ front.length) {rest : Bytes}
    (hfront : sep ∉ front) (hrest : sep ∉ rest) : heads sep (front ++ rest) = [front.take 2] := by
  have hsep : sep ∉ front ++ rest := by simp [hfront, hrest]
  rw [heads, List.splitOn_eq_singleton hsep, List.map_singleton,
    List.take_append_of_le_length hlen]

lemma entry_eq_none {sep : UInt8} {name s : Bytes} (hlen : 2 ≤ name.length)
    (h : name.take 2 ∉ heads sep s) : entry sep name s = none := by
  rw [entry, Option.map_eq_none_iff, List.find?_eq_none]
  intro part hpart hpre
  obtain ⟨value, rfl⟩ := List.isPrefixOf_iff_prefix.mp hpre
  refine h (List.mem_map.mpr ⟨_, hpart, ?_⟩)
  exact List.take_append_of_le_length hlen

/-- A text with one head is one part. -/
lemma entry_of_heads_singleton {sep : UInt8} {name value head : Bytes}
    (h : heads sep (name ++ value) = [head]) : entry sep name (name ++ value) = some value := by
  obtain ⟨part, hpart, -⟩ := List.map_eq_singleton_iff.mp h
  have hself : part = name ++ value := by
    have hcut : [sep].intercalate ((name ++ value).splitOn sep) = name ++ value :=
      List.intercalate_splitOn sep
    rwa [hpart, List.intercalate_singleton] at hcut
  rw [entry, hpart, hself, List.find?_singleton]
  simp

/-- **An entry is found by its head**: a part that starts with the name is the entry when no part
in front of it has a head like it. -/
lemma entry_of_heads {sep : UInt8} {name value : Bytes} {parts : List Bytes}
    {hs : List (List Bytes)} (hparts : parts.map (heads sep) = hs) (hlen : 2 ≤ name.length)
    (k : ℕ) (hk : parts[k]? = some (name ++ value)) (hself : hs[k]? = some [name.take 2])
    (hfront : ∀ h ∈ hs.take k, name.take 2 ∉ h) :
    entry sep name ([sep].intercalate parts) = some value := by
  obtain ⟨hlt, hget⟩ := List.getElem?_eq_some_iff.mp hk
  have hnone : ∀ s ∈ parts.take k, entry sep name s = none := by
    intro s hs'
    refine entry_eq_none hlen (hfront _ ?_)
    rw [← hparts, ← List.map_take]
    exact List.mem_map_of_mem hs'
  have hsome : entry sep name parts[k] = some value := by
    rw [hget]
    rw [← hparts, List.getElem?_map, hk] at hself
    exact entry_of_heads_singleton (Option.some.inj hself)
  have hcut : parts = parts.take k ++ parts[k] :: parts.drop (k + 1) := by
    rw [← List.drop_eq_getElem_cons hlt, List.take_append_drop]
  have hne : parts ≠ [] := List.ne_nil_of_length_pos (by omega)
  calc entry sep name ([sep].intercalate parts)
      = parts.findSome? (entry sep name) := entry_intercalate sep name hne
    _ = (parts[k] :: parts.drop (k + 1)).findSome? (entry sep name) := by
        conv_lhs => rw [hcut]
        rw [List.findSome?_append, List.findSome?_eq_none_iff.mpr hnone, Option.none_or]
    _ = some value := by rw [List.findSome?_cons, hsome]

/-! ### The parts of the texts -/

/-- The address and the port as the texts show them. -/
def hostText (env : Env) (fauxmo : Fauxmo) : Bytes :=
  IPAddress.toString (bridgeIp env.iface) ++ bytes ":" ++
    intDec (Int.bmod fauxmo.tcpPort.toNat (2 ^ 32))

/-- The four octets and the port, as arguments and as text. -/
lemma exists_hostArgs (env : Env) (fauxmo : Fauxmo) :
    ∃ a b c d : UInt8,
      hostArgs env fauxmo =
          [octetArg a, octetArg b, octetArg c, octetArg d, portArg fauxmo.tcpPort] ∧
        hostText env fauxmo = toDec a.toNat ++ bytes "." ++ toDec b.toNat ++ bytes "." ++
          toDec c.toNat ++ bytes "." ++ toDec d.toNat ++ bytes ":" ++
            intDec (Int.bmod fauxmo.tcpPort.toNat (2 ^ 32)) := by
  obtain ⟨a, b, c, d, hlist, htext⟩ := IPAddress.exists_octets (bridgeIp env.iface)
  refine ⟨a, b, c, d, ?_, by rw [hostText, htext]⟩
  rw [hostArgs, hlist]
  rfl

/-- What is no digit, sign, dot or colon does not occur in it. -/
lemma notMem_hostText {c : UInt8} (hdigit : isDigit c = false) (hsign : c ≠ 45) (hdot : c ≠ 46)
    (hcolon : c ≠ 58) (env : Env) (fauxmo : Fauxmo) : c ∉ hostText env fauxmo := by
  have hdec : ∀ n, c ∉ toDec n := fun n h => by simp [isDigit_of_mem_toDec h] at hdigit
  have hint : ∀ i, c ∉ intDec i := by
    intro i h
    rcases eq_or_isDigit_of_mem_intDec h with h | h
    · exact hsign h
    · simp [h] at hdigit
  have hlit : bytes "." = [46] ∧ bytes ":" = [58] := ⟨rfl, rfl⟩
  simp [hostText, IPAddress.toString, hlit, hdec, hint, hdot, hcolon]

/-- The lines of the answer to a discovery. -/
def discoveryParts (host mac : Bytes) : List Bytes :=
  [bytes "HTTP/1.1 200 OK\r\nEXT:\r\nCACHE-CONTROL: max-age=100\r",
   bytes "LOCATION: http://" ++ (host ++ bytes "/description.xml\r"),
   bytes "SERVER: FreeRTOS/6.0.5, UPnP/1.0, IpBridge/1.17.0\r",
   bytes "hue-bridgeid: " ++ (mac ++ bytes "\r"),
   bytes "ST: urn:schemas-upnp-org:device:basic:1\r",
   bytes "USN: uuid:2f402f80-da50-11e1-9b23-" ++ (mac ++ bytes "::upnp:rootdevice\r"),
   bytes "\r\n"]

/-- The elements of the description, cut where they start. -/
def descriptionParts (host mac : Bytes) : List Bytes :=
  [bytes ("<?xml version=\"1.0\" ?><root xmlns=\"urn:schemas-upnp-org:device-1-0\">" ++
     "<specVersion><major>1</major><minor>0</minor></specVersion>"),
   bytes "URLBase>http://" ++ (host ++ bytes "/"),
   bytes ("/URLBase><device>" ++ "<deviceType>urn:schemas-upnp-org:device:Basic:1</deviceType>"),
   bytes "friendlyName>Philips hue (" ++ (host ++ bytes ")"),
   bytes ("/friendlyName><manufacturer>Royal Philips Electronics</manufacturer>" ++
     "<manufacturerURL>http://www.philips.com</manufacturerURL>" ++
     "<modelDescription>Philips hue Personal Wireless Lighting</modelDescription>" ++
     "<modelName>Philips hue bridge 2012</modelName>" ++
     "<modelNumber>929000226503</modelNumber>" ++
     "<modelURL>http://www.meethue.com</modelURL>"),
   bytes "serialNumber>" ++ mac,
   bytes "/serialNumber>",
   bytes "UDN>uuid:2f402f80-da50-11e1-9b23-" ++ mac,
   bytes "/UDN><presentationURL>index.html</presentationURL></device></root>"]

lemma discoveryText_eq (env : Env) (fauxmo : Fauxmo) :
    discoveryText env fauxmo =
      [10].intercalate (discoveryParts (hostText env fauxmo) (bridgeMac env.iface)) := by
  have h₀ : bytes "" = [] := rfl
  have h₁ : bytes "HTTP/1.1 200 OK\r\nEXT:\r\nCACHE-CONTROL: max-age=100\r\n" =
      bytes "HTTP/1.1 200 OK\r\nEXT:\r\nCACHE-CONTROL: max-age=100\r" ++ 10 :: bytes "" :=
    bytes_cut '\n' rfl
  have h₂ : bytes "/description.xml\r\nSERVER: FreeRTOS/6.0.5, UPnP/1.0, IpBridge/1.17.0\r\n" =
      bytes "/description.xml\r" ++ 10 ::
        bytes "SERVER: FreeRTOS/6.0.5, UPnP/1.0, IpBridge/1.17.0\r\n" :=
    bytes_cut '\n' rfl
  have h₃ : bytes "SERVER: FreeRTOS/6.0.5, UPnP/1.0, IpBridge/1.17.0\r\n" =
      bytes "SERVER: FreeRTOS/6.0.5, UPnP/1.0, IpBridge/1.17.0\r" ++ 10 :: bytes "" :=
    bytes_cut '\n' rfl
  have h₄ : bytes "\r\nST: urn:schemas-upnp-org:device:basic:1\r\n" =
      bytes "\r" ++ 10 :: bytes "ST: urn:schemas-upnp-org:device:basic:1\r\n" :=
    bytes_cut '\n' rfl
  have h₅ : bytes "ST: urn:schemas-upnp-org:device:basic:1\r\n" =
      bytes "ST: urn:schemas-upnp-org:device:basic:1\r" ++ 10 :: bytes "" :=
    bytes_cut '\n' rfl
  have h₆ : bytes "::upnp:rootdevice\r\n\r\n" =
      bytes "::upnp:rootdevice\r" ++ 10 :: bytes "\r\n" :=
    bytes_cut '\n' rfl
  obtain ⟨a, b, c, d, hargs, hhost⟩ := exists_hostArgs env fauxmo
  simp only [discoveryText, FAUXMO_UDP_RESPONSE_TEMPLATE, hargs, octetArg, portArg,
    List.cons_append, List.nil_append, sprintf, intDec_natCast, bytes_append, h₁, h₂, h₃, h₄,
    h₅, h₆, h₀, discoveryParts, hhost, List.intercalate_cons_cons, List.intercalate_singleton,
    List.append_assoc, List.append_nil]

lemma descriptionText_eq (env : Env) (fauxmo : Fauxmo) :
    descriptionText env fauxmo =
      [60].intercalate (descriptionParts (hostText env fauxmo) (bridgeMac env.iface)) := by
  have h₀ : bytes "" = [] := rfl
  have h₁ : bytes "<specVersion><major>1</major><minor>0</minor></specVersion><URLBase>http://" =
      bytes "<specVersion><major>1</major><minor>0</minor></specVersion>" ++ 60 ::
        bytes "URLBase>http://" :=
    bytes_cut '<' rfl
  have h₂ : bytes "/</URLBase><device>" = bytes "/" ++ 60 :: bytes "/URLBase><device>" :=
    bytes_cut '<' rfl
  have h₃ : bytes "<friendlyName>Philips hue (" =
      bytes "" ++ 60 :: bytes "friendlyName>Philips hue (" :=
    bytes_cut '<' rfl
  have h₄ : bytes ")</friendlyName><manufacturer>Royal Philips Electronics</manufacturer>" =
      bytes ")" ++ 60 ::
        bytes "/friendlyName><manufacturer>Royal Philips Electronics</manufacturer>" :=
    bytes_cut '<' rfl
  have h₅ : bytes "<modelURL>http://www.meethue.com</modelURL><serialNumber>" =
      bytes "<modelURL>http://www.meethue.com</modelURL>" ++ 60 :: bytes "serialNumber>" :=
    bytes_cut '<' rfl
  have h₆ : bytes "</serialNumber><UDN>uuid:2f402f80-da50-11e1-9b23-" =
      bytes "" ++ 60 :: bytes "/serialNumber><UDN>uuid:2f402f80-da50-11e1-9b23-" :=
    bytes_cut '<' rfl
  have h₇ : bytes "/serialNumber><UDN>uuid:2f402f80-da50-11e1-9b23-" =
      bytes "/serialNumber>" ++ 60 :: bytes "UDN>uuid:2f402f80-da50-11e1-9b23-" :=
    bytes_cut '<' rfl
  have h₈ : bytes "</UDN><presentationURL>index.html</presentationURL></device></root>" =
      bytes "" ++ 60 ::
        bytes "/UDN><presentationURL>index.html</presentationURL></device></root>" :=
    bytes_cut '<' rfl
  obtain ⟨a, b, c, d, hargs, hhost⟩ := exists_hostArgs env fauxmo
  simp only [descriptionText, FAUXMO_DESCRIPTION_TEMPLATE, hargs, octetArg, portArg,
    List.cons_append, List.nil_append, sprintf, intDec_natCast, bytes_append, h₁, h₂, h₃, h₄,
    h₅, h₆, h₇, h₈, h₀, descriptionParts, hhost, List.intercalate_cons_cons,
    List.intercalate_singleton, List.append_assoc, List.append_nil]

lemma heads_discovery {host mac : Bytes} (hhost : 10 ∉ host) (hmac : 10 ∉ mac) :
    (discoveryParts host mac).map (heads 10) =
      [[bytes "HT", bytes "EX", bytes "CA"], [bytes "LO"], [bytes "SE"], [bytes "hu"],
       [bytes "ST"], [bytes "US"], [bytes "\r", bytes ""]] := by
  have hstatus : heads 10 (bytes "HTTP/1.1 200 OK\r\nEXT:\r\nCACHE-CONTROL: max-age=100\r") =
      [bytes "HT", bytes "EX", bytes "CA"] := by
    decide +kernel
  have hserver : heads 10 (bytes "SERVER: FreeRTOS/6.0.5, UPnP/1.0, IpBridge/1.17.0\r") =
      [bytes "SE"] := by
    decide +kernel
  have hst : heads 10 (bytes "ST: urn:schemas-upnp-org:device:basic:1\r") = [bytes "ST"] := by
    decide +kernel
  have hlocation : heads 10 (bytes "LOCATION: http://" ++ (host ++ bytes "/description.xml\r")) =
      [bytes "LO"] :=
    heads_append (by decide) (by decide) (by simp only [List.mem_append, hhost]; decide)
  have hid : heads 10 (bytes "hue-bridgeid: " ++ (mac ++ bytes "\r")) = [bytes "hu"] :=
    heads_append (by decide) (by decide) (by simp only [List.mem_append, hmac]; decide)
  have husn : heads 10 (bytes "USN: uuid:2f402f80-da50-11e1-9b23-" ++
      (mac ++ bytes "::upnp:rootdevice\r")) = [bytes "US"] :=
    heads_append (by decide) (by decide) (by simp only [List.mem_append, hmac]; decide)
  have hend : heads 10 (bytes "\r\n") = [bytes "\r", bytes ""] := by decide
  simp only [discoveryParts, List.map_cons, List.map_nil, hstatus, hserver, hst, hlocation, hid,
    husn, hend]

lemma heads_description {host mac : Bytes} (hhost : 60 ∉ host) (hmac : 60 ∉ mac) :
    (descriptionParts host mac).map (heads 60) =
      [[bytes "", bytes "?x", bytes "ro", bytes "sp", bytes "ma", bytes "/m", bytes "mi",
        bytes "/m", bytes "/s"], [bytes "UR"], [bytes "/U", bytes "de", bytes "de", bytes "/d"],
       [bytes "fr"], [bytes "/f", bytes "ma", bytes "/m", bytes "ma", bytes "/m", bytes "mo",
        bytes "/m", bytes "mo", bytes "/m", bytes "mo", bytes "/m", bytes "mo", bytes "/m"],
       [bytes "se"], [bytes "/s"], [bytes "UD"],
       [bytes "/U", bytes "pr", bytes "/p", bytes "/d", bytes "/r"]] := by
  have hfront : heads 60
      (bytes ("<?xml version=\"1.0\" ?><root xmlns=\"urn:schemas-upnp-org:device-1-0\">" ++
        "<specVersion><major>1</major><minor>0</minor></specVersion>")) =
      [bytes "", bytes "?x", bytes "ro", bytes "sp", bytes "ma", bytes "/m", bytes "mi",
        bytes "/m", bytes "/s"] := by
    rw [bytes_append, bytes_ofList, bytes_ofList]
    decide +kernel
  have hdevice : heads 60 (bytes ("/URLBase><device>" ++
        "<deviceType>urn:schemas-upnp-org:device:Basic:1</deviceType>")) =
      [bytes "/U", bytes "de", bytes "de", bytes "/d"] := by
    rw [bytes_append, bytes_ofList, bytes_ofList]
    decide +kernel
  have hmodel : heads 60
      (bytes ("/friendlyName><manufacturer>Royal Philips Electronics</manufacturer>" ++
        "<manufacturerURL>http://www.philips.com</manufacturerURL>" ++
        "<modelDescription>Philips hue Personal Wireless Lighting</modelDescription>" ++
        "<modelName>Philips hue bridge 2012</modelName>" ++
        "<modelNumber>929000226503</modelNumber>" ++
        "<modelURL>http://www.meethue.com</modelURL>")) =
      [bytes "/f", bytes "ma", bytes "/m", bytes "ma", bytes "/m", bytes "mo", bytes "/m",
        bytes "mo", bytes "/m", bytes "mo", bytes "/m", bytes "mo", bytes "/m"] := by
    simp only [bytes_append]
    rw [bytes_ofList, bytes_ofList, bytes_ofList, bytes_ofList, bytes_ofList, bytes_ofList]
    decide +kernel
  have hback : heads 60
      (bytes "/UDN><presentationURL>index.html</presentationURL></device></root>") =
      [bytes "/U", bytes "pr", bytes "/p", bytes "/d", bytes "/r"] := by
    decide +kernel
  have hserialEnd : heads 60 (bytes "/serialNumber>") = [bytes "/s"] := by decide
  have hurl : heads 60 (bytes "URLBase>http://" ++ (host ++ bytes "/")) = [bytes "UR"] :=
    heads_append (by decide) (by decide) (by simp only [List.mem_append, hhost]; decide)
  have hfriendly : heads 60 (bytes "friendlyName>Philips hue (" ++ (host ++ bytes ")")) =
      [bytes "fr"] :=
    heads_append (by decide) (by decide) (by simp only [List.mem_append, hhost]; decide)
  have hserial : heads 60 (bytes "serialNumber>" ++ mac) = [bytes "se"] :=
    heads_append (by decide) (by decide) hmac
  have hudn : heads 60 (bytes "UDN>uuid:2f402f80-da50-11e1-9b23-" ++ mac) = [bytes "UD"] :=
    heads_append (by decide) (by decide) hmac
  simp only [descriptionParts, List.map_cons, List.map_nil, hfront, hdevice, hmodel, hback,
    hserialEnd, hurl, hfriendly, hserial, hudn]

/-! ### What they name -/

/-- The entries of the answer to a discovery. -/
lemma entries_discovery (env : Env) (fauxmo : Fauxmo) :
    entry 10 (bytes "LOCATION: http://") (discoveryText env fauxmo) =
        some (hostText env fauxmo ++ bytes "/description.xml\r") ∧
      entry 10 (bytes "hue-bridgeid: ") (discoveryText env fauxmo) =
        some (bridgeMac env.iface ++ bytes "\r") ∧
      entry 10 (bytes "USN: uuid:2f402f80-da50-11e1-9b23-") (discoveryText env fauxmo) =
        some (bridgeMac env.iface ++ bytes "::upnp:rootdevice\r") := by
  have hheads := heads_discovery
    (notMem_hostText rfl (by decide) (by decide) (by decide) env fauxmo)
    (bridgeMac_eq env.iface ▸ notMem_getMacAddr (by decide) (by decide) env.iface)
  rw [discoveryText_eq]
  refine ⟨?_, ?_, ?_⟩
  · exact entry_of_heads hheads (by decide) 1 rfl rfl (by decide)
  · exact entry_of_heads hheads (by decide) 3 rfl rfl (by decide)
  · exact entry_of_heads hheads (by decide) 5 rfl rfl (by decide)

/-- The entries of the description. -/
lemma entries_description (env : Env) (fauxmo : Fauxmo) :
    entry 60 (bytes "URLBase>http://") (descriptionText env fauxmo) =
        some (hostText env fauxmo ++ bytes "/") ∧
      entry 60 (bytes "friendlyName>Philips hue (") (descriptionText env fauxmo) =
        some (hostText env fauxmo ++ bytes ")") ∧
      entry 60 (bytes "serialNumber>") (descriptionText env fauxmo) =
        some (bridgeMac env.iface) ∧
      entry 60 (bytes "UDN>uuid:2f402f80-da50-11e1-9b23-") (descriptionText env fauxmo) =
        some (bridgeMac env.iface) := by
  have hheads := heads_description
    (notMem_hostText rfl (by decide) (by decide) (by decide) env fauxmo)
    (bridgeMac_eq env.iface ▸ notMem_getMacAddr (by decide) (by decide) env.iface)
  rw [descriptionText_eq]
  refine ⟨?_, ?_, ?_, ?_⟩
  · exact entry_of_heads hheads (by decide) 1 rfl rfl (by decide)
  · exact entry_of_heads hheads (by decide) 3 rfl rfl (by decide)
  · exact entry_of_heads hheads (by decide) 5 rfl rfl (by decide)
  · exact entry_of_heads hheads (by decide) 7 rfl rfl (by decide)

/-- The port that is shown is the port the server has when it fits into `16` bits. -/
lemma intDec_port_iff (tcpPort : UInt32) :
    intDec (Int.bmod tcpPort.toNat (2 ^ 32)) = toDec tcpPort.toUInt16.toNat ↔
      tcpPort.toNat < 2 ^ 16 := by
  have hlt := tcpPort.toNat_lt
  have hport : tcpPort.toUInt16.toNat = tcpPort.toNat % 2 ^ 16 := UInt32.toNat_toUInt16 tcpPort
  rw [hport]
  by_cases hsmall : tcpPort.toNat < 2 ^ 31
  · have hmod : Int.bmod tcpPort.toNat (2 ^ 32) = tcpPort.toNat := by
      rw [Int.bmod_eq_of_le] <;> omega
    rw [hmod, intDec_natCast, toDec_injective.eq_iff]
    omega
  · have hneg : Int.bmod tcpPort.toNat (2 ^ 32) < 0 := by
      rw [Int.bmod]
      split <;> omega
    refine iff_of_false (fun h => ?_) (by omega)
    have hsign : (45 : UInt8) ∈ toDec (tcpPort.toNat % 2 ^ 16) := by
      rw [← h, intDec, if_pos hneg]
      exact List.mem_cons_self
    cases isDigit_of_mem_toDec hsign

/-- The digits of the hardware address. -/
def plainMac (iface : Interface) : Bytes :=
  (iface.hwaddr.toList.map fun b => hex02 false b.toNat).flatten

/-- An address and a port. -/
def hostPort (iface : Interface) (port : UInt16) : Bytes :=
  getIpAddr iface ++ bytes ":" ++ toDec port.toNat

/-- The texts show the address of the interface, with the port the server has when it fits into
`16` bits. -/
lemma hostText_eq_iff (env : Env) (fauxmo : Fauxmo) :
    hostText env fauxmo = hostPort env.iface fauxmo.tcpPort.toUInt16 ↔
      fauxmo.tcpPort.toNat < 2 ^ 16 := by
  rw [hostText, hostPort, bridgeIp_eq, getIpAddr_eq, List.append_right_inj]
  exact intDec_port_iff fauxmo.tcpPort

/-- Both texts name the address of the interface with the port of the server, and the digits of
the hardware address. -/
structure SameIdentity (iface : Interface) (port : UInt16) (udp xml : Bytes) : Prop where
  location : entry 10 (bytes "LOCATION: http://") udp =
    some (hostPort iface port ++ bytes "/description.xml\r")
  urlBase : entry 60 (bytes "URLBase>http://") xml = some (hostPort iface port ++ bytes "/")
  friendlyName : entry 60 (bytes "friendlyName>Philips hue (") xml =
    some (hostPort iface port ++ bytes ")")
  bridgeId : entry 10 (bytes "hue-bridgeid: ") udp = some (plainMac iface ++ bytes "\r")
  usn : entry 10 (bytes "USN: uuid:2f402f80-da50-11e1-9b23-") udp =
    some (plainMac iface ++ bytes "::upnp:rootdevice\r")
  serialNumber : entry 60 (bytes "serialNumber>") xml = some (plainMac iface)
  udn : entry 60 (bytes "UDN>uuid:2f402f80-da50-11e1-9b23-") xml = some (plainMac iface)

/-- The hardware address is shown with its colons. -/
lemma bridgeMac_ne_plainMac (iface : Interface) : bridgeMac iface ≠ plainMac iface := by
  have hcolon : (58 : UInt8) ∈ bridgeMac iface := by
    have hlen : iface.hwaddr.toList.length = 4 + 1 + 1 := Vector.length_toList
    obtain ⟨b₀, l, hl⟩ := List.exists_cons_of_length_eq_add_one hlen
    rw [hl] at hlen
    obtain ⟨b₁, l', hl'⟩ := List.exists_cons_of_length_eq_add_one (Nat.succ.inj hlen)
    rw [bridgeMac_eq, getMacAddr_eq, hl, hl', List.map_cons, List.map_cons,
      List.intercalate_cons_cons]
    simp
  have hdigit : ∀ d < 16, digitChar 97 d ≠ 58 := by decide
  have hplain : (58 : UInt8) ∉ plainMac iface := by
    rw [plainMac, List.mem_flatten]
    rintro ⟨s, hs, hc⟩
    obtain ⟨b, -, rfl⟩ := List.mem_map.mp hs
    obtain ⟨d, hd, h⟩ := exists_digit_of_mem_hex02 hc
    exact hdigit d hd h
  intro h
  rw [h] at hcolon
  exact hplain hcolon

/-- What is sent once the port is set and the object is enabled, to those who ask for the one and
for the other. -/
lemma exists_texts (env : Env) (tcpPort : UInt32) (ipv4 : Bytes) (port : UInt16) :
    ∃ fauxmo server headers,
      runs (Fauxmo.step env) Fauxmo.fresh [.setPort tcpPort, .enable true] = .ok (fauxmo, []) ∧
        fauxmo.server = some server ∧
        sendUDPResponse env fauxmo ipv4 port = [.udp (discoveryText env fauxmo) ipv4 port] ∧
        (onTCPDescription env fauxmo).events =
          [.tcp headers, .tcp (descriptionText env fauxmo)] := by
  have hxml : ∀ fauxmo, ∃ headers, (onTCPDescription env fauxmo).events =
      [.tcp headers, .tcp (descriptionText env fauxmo)] := by
    intro fauxmo
    rw [onTCPDescription_eq, sendTCPResponse, cstr_descriptionText]
    exact ⟨_, rfl⟩
  obtain ⟨headers, hheaders⟩ := hxml (enable { Fauxmo.fresh with tcpPort := tcpPort } true)
  exact ⟨_, ⟨tcpPort.toUInt16, 1⟩, headers, rfl, rfl, sendUDPResponse_eq env _ ipv4 port, hheaders⟩

/-- In no state of the object the texts name the digits of the hardware address. -/
lemma not_sameIdentity_texts (env : Env) (fauxmo : Fauxmo) (port : UInt16) :
    ¬ SameIdentity env.iface port (discoveryText env fauxmo) (descriptionText env fauxmo) := by
  intro h
  have hentry := (entries_description env fauxmo).2.2.1
  rw [h.serialNumber] at hentry
  exact bridgeMac_ne_plainMac env.iface (Option.some.inj hentry).symm

/-- **The two texts never agree on the identity**: whatever the addresses of the interface and the
port that is set before the object is enabled, the answer to a discovery and the description show
the hardware address otherwise than by its digits. -/
theorem not_sameIdentity (env : Env) (tcpPort : UInt32) (ipv4 : Bytes) (port : UInt16) :
    ∃ fauxmo server udp xml headers,
      runs (Fauxmo.step env) Fauxmo.fresh [.setPort tcpPort, .enable true] = .ok (fauxmo, []) ∧
        fauxmo.server = some server ∧
        sendUDPResponse env fauxmo ipv4 port = [.udp udp ipv4 port] ∧
        (onTCPDescription env fauxmo).events = [.tcp headers, .tcp xml] ∧
        ¬ SameIdentity env.iface server.port udp xml := by
  obtain ⟨fauxmo, server, headers, hrun, hserver, hudp, hxml⟩ :=
    exists_texts env tcpPort ipv4 port
  exact ⟨fauxmo, server, _, _, headers, hrun, hserver, hudp, hxml,
    not_sameIdentity_texts env fauxmo server.port⟩

/-- A bridge on port 80. -/
theorem not_sameIdentity_80 :
    ¬ ∀ fauxmo server udp xml headers,
      runs (Fauxmo.step homeEnv) Fauxmo.fresh [.setPort 80, .enable true] = .ok (fauxmo, []) →
        fauxmo.server = some server →
        sendUDPResponse homeEnv fauxmo [] 1900 = [.udp udp [] 1900] →
        (onTCPDescription homeEnv fauxmo).events = [.tcp headers, .tcp xml] →
        SameIdentity homeEnv.iface server.port udp xml := by
  intro h
  obtain ⟨fauxmo, server, headers, hrun, hserver, hudp, hxml⟩ := exists_texts homeEnv 80 [] 1900
  exact not_sameIdentity_texts homeEnv fauxmo server.port
    (h fauxmo server _ _ headers hrun hserver hudp hxml)

end FauxmoLinux
