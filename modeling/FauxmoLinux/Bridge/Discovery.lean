import FauxmoLinux.Base.Xml
import FauxmoLinux.Bridge.Identity
import FauxmoLinux.Bridge.Message
import FauxmoLinux.Bridge.Server
import FauxmoLinux.Bridge.Stream

/-!
A client that looks for the bridge: it sends a datagram, reads where the answer leads to, and asks
there for the description.

* `headerField`, `readUrl`: a header field of an answer, and a URL in its parts;
* `headerField_discovery`, `readUrl_host`: what the answer to a discovery leads to;
* `descriptionItems`, `readXml_description`: the description is a document, and its elements;
* `LeadsTo`, `leadsTo_iff`: the answer leads to the server exactly when the port that is set is the
  one the server is bound to;
* `Found`, `found_iff`: on which runs the bridge is found behind every step.
-/

namespace FauxmoLinux

/-! ### The client -/

/-- A URL: the host, the port and the path. -/
structure Location where
  host : Bytes
  port : ℕ
  path : Bytes
  deriving DecidableEq, Repr

/-- The parts of a URL with a port. -/
def readUrl (s : Bytes) : Option Location :=
  if bytes "http://" <+: s then
    let authority := (s.drop 7).takeWhile (· ≠ 47)
    (readNumber ((authority.dropWhile (· ≠ 58)).drop 1)).map fun port =>
      ⟨authority.takeWhile (· ≠ 58), port, (s.drop 7).dropWhile (· ≠ 47)⟩
  else none

/-- The value of the header field with the name, which is given in lower case. -/
def headerField (name s : Bytes) : Option Bytes := do
  let (lines, _) ← readLines s.length s
  let f ← (lines.tail.map readField).find? fun f => f.1.map lower = name
  return f.2

/-! ### The answer to a discovery -/

/-- The fields of the answer behind the first. -/
def discoveryFields (host mac : Bytes) : List (Bytes × Bytes) :=
  [(bytes "CACHE-CONTROL", bytes "max-age=100"),
   (bytes "LOCATION", bytes "http://" ++ (host ++ bytes "/description.xml")),
   (bytes "SERVER", bytes "FreeRTOS/6.0.5, UPnP/1.0, IpBridge/1.17.0"),
   (bytes "hue-bridgeid", mac),
   (bytes "ST", bytes "urn:schemas-upnp-org:device:basic:1"),
   (bytes "USN", bytes "uuid:2f402f80-da50-11e1-9b23-" ++ (mac ++ bytes "::upnp:rootdevice"))]

/-- The lines of the answer. -/
def discoveryLines (host mac : Bytes) : List Bytes :=
  bytes "HTTP/1.1 200 OK" :: bytes "EXT:" :: (discoveryFields host mac).map fieldLine

/-- A literal that is a header line up to its carriage return. -/
lemma bytes_field {l name value : List Char} (h : l = name ++ ':' :: ' ' :: (value ++ ['\r'])) :
    bytes (String.ofList l) =
      fieldLine (bytes (String.ofList name), bytes (String.ofList value)) ++ 13 :: bytes "" := by
  rw [h, bytes_ofList, bytes_ofList, bytes_ofList, fieldLine]
  simp [bytes]

lemma discoveryText_eq_lines (env : Env) (fauxmo : Fauxmo) :
    discoveryText env fauxmo =
      ((discoveryLines (hostText env fauxmo) (bridgeMac env.iface)).flatMap
        fun line => line ++ lineBreak) ++ (lineBreak ++ []) := by
  have h₀ : bytes "" = [] := rfl
  have h₁ : bytes "HTTP/1.1 200 OK\r\nEXT:\r\nCACHE-CONTROL: max-age=100\r" =
      bytes "HTTP/1.1 200 OK" ++ 13 :: bytes "\nEXT:\r\nCACHE-CONTROL: max-age=100\r" :=
    bytes_cut '\r' rfl
  have h₂ : bytes "\nEXT:\r\nCACHE-CONTROL: max-age=100\r" =
      bytes "" ++ 10 :: bytes "EXT:\r\nCACHE-CONTROL: max-age=100\r" := bytes_cut '\n' rfl
  have h₃ : bytes "EXT:\r\nCACHE-CONTROL: max-age=100\r" =
      bytes "EXT:" ++ 13 :: bytes "\nCACHE-CONTROL: max-age=100\r" := bytes_cut '\r' rfl
  have h₄ : bytes "\nCACHE-CONTROL: max-age=100\r" =
      bytes "" ++ 10 :: bytes "CACHE-CONTROL: max-age=100\r" := bytes_cut '\n' rfl
  have h₅ : bytes "/description.xml\r" = bytes "/description.xml" ++ 13 :: bytes "" :=
    bytes_cut '\r' rfl
  have h₆ : bytes "::upnp:rootdevice\r" = bytes "::upnp:rootdevice" ++ 13 :: bytes "" :=
    bytes_cut '\r' rfl
  have h₇ : bytes "\r" = [13] := rfl
  have h₈ : bytes "\r\n" = [13, 10] := rfl
  have hmax : bytes "CACHE-CONTROL: max-age=100\r" =
      fieldLine (bytes "CACHE-CONTROL", bytes "max-age=100") ++ 13 :: bytes "" := bytes_field rfl
  have hserver : bytes "SERVER: FreeRTOS/6.0.5, UPnP/1.0, IpBridge/1.17.0\r" =
      fieldLine (bytes "SERVER", bytes "FreeRTOS/6.0.5, UPnP/1.0, IpBridge/1.17.0") ++
        13 :: bytes "" := bytes_field rfl
  have hst : bytes "ST: urn:schemas-upnp-org:device:basic:1\r" =
      fieldLine (bytes "ST", bytes "urn:schemas-upnp-org:device:basic:1") ++ 13 :: bytes "" :=
    bytes_field rfl
  have hlocation : bytes "LOCATION: http://" = bytes "LOCATION" ++ 58 :: bytes " http://" :=
    bytes_cut ':' rfl
  have hhttp : bytes " http://" = bytes "" ++ 32 :: bytes "http://" := bytes_cut ' ' rfl
  have hid : bytes "hue-bridgeid: " = bytes "hue-bridgeid" ++ 58 :: bytes " " := bytes_cut ':' rfl
  have hspace : bytes " " = [32] := rfl
  have husn : bytes "USN: uuid:2f402f80-da50-11e1-9b23-" =
      bytes "USN" ++ 58 :: bytes " uuid:2f402f80-da50-11e1-9b23-" := bytes_cut ':' rfl
  have huuid : bytes " uuid:2f402f80-da50-11e1-9b23-" =
      bytes "" ++ 32 :: bytes "uuid:2f402f80-da50-11e1-9b23-" := bytes_cut ' ' rfl
  rw [discoveryText_eq, discoveryParts]
  simp only [h₀, h₁, h₂, h₃, h₄, h₅, h₆, h₇, h₈, hmax, hserver, hst, hlocation, hhttp, hid, hspace,
    husn, huuid, List.intercalate_cons_cons, List.intercalate_singleton, discoveryLines,
    discoveryFields, List.map_cons, List.map_nil, List.flatMap_cons, List.flatMap_nil, fieldLine,
    lineBreak, List.append_assoc, List.cons_append, List.nil_append, List.append_nil]

/-- The lines can be told apart. -/
lemma lines_discovery {host mac : Bytes} (hhost : 13 ∉ host) (hmac : 13 ∉ mac) :
    ∀ line ∈ discoveryLines host mac, line ≠ [] ∧ (13 : UInt8) ∉ line := by
  have h₁ : (13 : UInt8) ∉ bytes "http://" ∧ (13 : UInt8) ∉ bytes "/description.xml" := by decide
  have h₂ : (13 : UInt8) ∉ bytes "uuid:2f402f80-da50-11e1-9b23-" ∧
      (13 : UInt8) ∉ bytes "::upnp:rootdevice" := by decide
  simp only [discoveryLines, discoveryFields, fieldLine, List.map_cons, List.map_nil,
    List.forall_mem_cons, List.not_mem_nil, IsEmpty.forall_iff, implies_true, and_true]
  refine ⟨by decide, by decide, by decide, ⟨by simp, ?_⟩, by decide, ⟨by simp, ?_⟩, by decide,
    ⟨by simp, ?_⟩⟩
  · simp only [List.mem_append, List.mem_cons, not_or]
    exact ⟨by decide, by decide, by decide, h₁.1, hhost, h₁.2⟩
  · simp only [List.mem_append, List.mem_cons, not_or]
    exact ⟨by decide, by decide, by decide, hmac⟩
  · simp only [List.mem_append, List.mem_cons, not_or]
    exact ⟨by decide, by decide, by decide, h₂.1, hmac, h₂.2⟩

/-- The fields are read back. -/
lemma readField_discovery {host mac : Bytes} (hmac : mac.head? ≠ some 32) :
    (discoveryLines host mac).tail.map readField =
      (bytes "EXT", []) :: discoveryFields host mac := by
  have hext : readField (bytes "EXT:") = (bytes "EXT", []) := by decide
  have hfields : ((discoveryFields host mac).map fieldLine).map readField =
      discoveryFields host mac := by
    rw [List.map_map]
    refine (List.map_congr_left fun f hf => ?_).trans (List.map_id _)
    revert f
    simp only [discoveryFields, List.forall_mem_cons, List.not_mem_nil, IsEmpty.forall_iff,
      implies_true, and_true]
    refine ⟨?_, ?_, ?_, ?_, ?_, ?_⟩
    · exact readField_fieldLine (by decide) (by decide)
    · exact readField_fieldLine (by decide : (58 : UInt8) ∉ bytes "LOCATION") (by simp [bytes])
    · exact readField_fieldLine (by decide) (by decide)
    · exact readField_fieldLine (by decide : (58 : UInt8) ∉ bytes "hue-bridgeid") hmac
    · exact readField_fieldLine (by decide) (by decide)
    · exact readField_fieldLine (by decide : (58 : UInt8) ∉ bytes "USN") (by simp [bytes])
  rw [discoveryLines, List.tail_cons, List.map_cons, hext, hfields]

/-- What the answer says, by the names of its fields. -/
lemma headerField_discovery (env : Env) (fauxmo : Fauxmo) :
    headerField (bytes "location") (discoveryText env fauxmo) = some (bytes "http://" ++
        (hostText env fauxmo ++ bytes "/description.xml")) ∧
      headerField (bytes "usn") (discoveryText env fauxmo) =
        some (bytes "uuid:2f402f80-da50-11e1-9b23-" ++
          (bridgeMac env.iface ++ bytes "::upnp:rootdevice")) ∧
      headerField (bytes "hue-bridgeid") (discoveryText env fauxmo) =
        some (bridgeMac env.iface) := by
  have hhost := notMem_hostText (c := 13) rfl (by decide) (by decide) (by decide) env fauxmo
  have hmac : (13 : UInt8) ∉ bridgeMac env.iface :=
    bridgeMac_eq env.iface ▸ notMem_getMacAddr (by decide) (by decide) env.iface
  have hspace : (bridgeMac env.iface).head? ≠ some 32 := fun h =>
    (bridgeMac_eq env.iface ▸ notMem_getMacAddr (by decide) (by decide) env.iface :
      (32 : UInt8) ∉ bridgeMac env.iface) (List.mem_of_mem_head? h)
  have hlines := readLines_append (lines_discovery hhost hmac) (length_lines_lt _ []) []
  rw [← discoveryText_eq_lines] at hlines
  have hfield : ∀ name, headerField name (discoveryText env fauxmo) =
      (((bytes "EXT", []) :: discoveryFields (hostText env fauxmo) (bridgeMac env.iface)).find?
        fun f => f.1.map lower = name).map Prod.snd := by
    intro name
    rw [headerField, hlines]
    simp only [Option.bind_eq_bind, Option.bind_some, readField_discovery hspace]
    cases ((bytes "EXT", []) :: discoveryFields (hostText env fauxmo)
      (bridgeMac env.iface)).find? fun f => f.1.map lower = name <;> rfl
  rw [hfield, hfield, hfield]
  exact ⟨rfl, rfl, rfl⟩

/-- The port is shown as it is set when the sign bit of its `int` is not set. -/
lemma shown_of_lt {tcpPort : UInt32} (h : tcpPort.toNat < 2 ^ 31) :
    Int.bmod tcpPort.toNat (2 ^ 32) = tcpPort.toNat := by
  rw [Int.bmod_eq_of_le] <;> omega

lemma shown_neg {tcpPort : UInt32} (h : ¬ tcpPort.toNat < 2 ^ 31) :
    Int.bmod tcpPort.toNat (2 ^ 32) < 0 := by
  have hlt := tcpPort.toNat_lt
  rw [Int.bmod]
  split <;> omega

/-- A number with a sign is not read. -/
lemma readNumber_intDec (i : ℤ) : readNumber (intDec i) = if 0 ≤ i then some i.toNat else none := by
  split
  · rename_i h
    obtain ⟨n, rfl⟩ := Int.eq_ofNat_of_zero_le h
    rw [intDec_natCast]
    exact readNumber_toDec n
  · rename_i h
    have hsign : intDec i = 45 :: toDec i.natAbs := if_pos (not_le.mp h)
    rw [readNumber, hsign, if_neg]
    rintro ⟨-, hall⟩
    cases List.all_eq_true.mp hall 45 List.mem_cons_self

/-- The parts of the URL that is announced. -/
lemma readUrl_host (env : Env) (fauxmo : Fauxmo) :
    readUrl (bytes "http://" ++ (hostText env fauxmo ++ bytes "/description.xml")) =
      if fauxmo.tcpPort.toNat < 2 ^ 31 then
        some ⟨IPAddress.toString env.iface.addr, fauxmo.tcpPort.toNat, bytes "/description.xml"⟩
      else none := by
  have hslash : (47 : UInt8) ∉ hostText env fauxmo :=
    notMem_hostText rfl (by decide) (by decide) (by decide) env fauxmo
  have hcolon : (58 : UInt8) ∉ IPAddress.toString env.iface.addr := by
    have hdec : ∀ n, (58 : UInt8) ∉ toDec n := fun n h => by cases isDigit_of_mem_toDec h
    have hdot : bytes "." = [46] := rfl
    simp [IPAddress.toString, hdec, hdot]
  have hhost : hostText env fauxmo = IPAddress.toString env.iface.addr ++
      58 :: intDec (Int.bmod fauxmo.tcpPort.toNat (2 ^ 32)) := by
    have hsep : bytes ":" = [58] := rfl
    rw [hostText, bridgeIp_eq, hsep, List.append_assoc, List.singleton_append]
  have hpath : bytes "/description.xml" = 47 :: bytes "description.xml" := rfl
  have hdrop : (bytes "http://" ++ (hostText env fauxmo ++ bytes "/description.xml")).drop 7 =
      hostText env fauxmo ++ bytes "/description.xml" := List.drop_left' rfl
  rw [readUrl, if_pos (List.prefix_append _ _), hdrop, hpath]
  simp only [takeWhile_ne_append hslash, dropWhile_ne_append hslash]
  rw [hhost, takeWhile_ne_append hcolon, dropWhile_ne_append hcolon, List.drop_one, List.tail_cons,
    readNumber_intDec]
  by_cases hsmall : fauxmo.tcpPort.toNat < 2 ^ 31
  · rw [shown_of_lt hsmall, if_pos (Int.natCast_nonneg _), if_pos hsmall, Int.toNat_natCast]
    rfl
  · rw [if_neg (not_le.mpr (shown_neg hsmall)), if_neg hsmall]
    rfl

/-! ### The description -/

/-- The texts of the device. -/
def deviceTexts (host mac : Bytes) : List (Bytes × Bytes) :=
  [(bytes "deviceType", bytes "urn:schemas-upnp-org:device:Basic:1"),
   (bytes "friendlyName", bytes "Philips hue (" ++ (host ++ bytes ")")),
   (bytes "manufacturer", bytes "Royal Philips Electronics"),
   (bytes "manufacturerURL", bytes "http://www.philips.com"),
   (bytes "modelDescription", bytes "Philips hue Personal Wireless Lighting"),
   (bytes "modelName", bytes "Philips hue bridge 2012"),
   (bytes "modelNumber", bytes "929000226503"),
   (bytes "modelURL", bytes "http://www.meethue.com"),
   (bytes "serialNumber", mac),
   (bytes "UDN", bytes "uuid:2f402f80-da50-11e1-9b23-" ++ mac),
   (bytes "presentationURL", bytes "index.html")]

/-- The elements of the root. -/
def rootItems (host mac : Bytes) : List XmlItem :=
  xmlElement (bytes "specVersion") [] []
    (leaves [(bytes "major", bytes "1"), (bytes "minor", bytes "0")]) ++
  (leaves [(bytes "URLBase", bytes "http://" ++ (host ++ bytes "/"))] ++
  xmlElement (bytes "device") [] [] (leaves (deviceTexts host mac)))

/-- The description. -/
def descriptionItems (host mac : Bytes) : List XmlItem :=
  ⟨.instruction (bytes "xml version=\"1.0\" "), []⟩ ::
    xmlElement (bytes "root") [(bytes "xmlns", bytes "urn:schemas-upnp-org:device-1-0")] []
      (rootItems host mac)

/-- A literal that is an element with a text. -/
lemma bytes_leaf {l name text : List Char}
    (h : l = '<' :: (name ++ '>' :: (text ++ '<' :: '/' :: (name ++ ['>'])))) :
    bytes (String.ofList l) = List.flatMap XmlItem.wire
      (xmlElement (bytes (String.ofList name)) [] (bytes (String.ofList text)) []) := by
  rw [h, bytes_ofList, bytes_ofList, bytes_ofList]
  simp [xmlElement, XmlItem.wire, XmlItem.part, XmlTag.wire]

/-- A literal that is an instruction and the start of an element with an attribute. -/
lemma bytes_prologue {l instruction name key value : List Char}
    (h : l = '<' :: '?' :: (instruction ++ '?' :: '>' :: '<' :: (name ++ ' ' :: (key ++ '=' ::
      '"' :: (value ++ ['"', '>']))))) :
    bytes (String.ofList l) = List.flatMap XmlItem.wire
      [⟨.instruction (bytes (String.ofList instruction)), []⟩,
        ⟨.start (bytes (String.ofList name))
          [(bytes (String.ofList key), bytes (String.ofList value))], []⟩] := by
  rw [h, bytes_ofList, bytes_ofList, bytes_ofList, bytes_ofList, bytes_ofList]
  simp [XmlItem.wire, XmlItem.part, XmlTag.wire, attributeText]

lemma descriptionText_eq_items (env : Env) (fauxmo : Fauxmo) :
    descriptionText env fauxmo =
      (descriptionItems (hostText env fauxmo) (bridgeMac env.iface)).flatMap XmlItem.wire := by
  have h₁ : bytes "<?xml version=\"1.0\" ?><root xmlns=\"urn:schemas-upnp-org:device-1-0\">" =
      List.flatMap XmlItem.wire [⟨.instruction (bytes "xml version=\"1.0\" "), []⟩,
        ⟨.start (bytes "root") [(bytes "xmlns", bytes "urn:schemas-upnp-org:device-1-0")], []⟩] :=
    bytes_prologue rfl
  have hspec : bytes "<specVersion><major>1</major><minor>0</minor></specVersion>" =
      List.flatMap XmlItem.wire (xmlElement (bytes "specVersion") [] []
        (leaves [(bytes "major", bytes "1"), (bytes "minor", bytes "0")])) := rfl
  have hbase : bytes "URLBase>http://" = bytes "URLBase" ++ 62 :: bytes "http://" :=
    bytes_cut '>' rfl
  have hbase' : bytes "/URLBase><device>" = 47 :: (bytes "URLBase" ++ 62 :: 60 ::
      (bytes "device" ++ [62])) := rfl
  have htype : bytes "<deviceType>urn:schemas-upnp-org:device:Basic:1</deviceType>" =
      List.flatMap XmlItem.wire (xmlElement (bytes "deviceType") []
        (bytes "urn:schemas-upnp-org:device:Basic:1") []) := bytes_leaf rfl
  have hname : bytes "friendlyName>Philips hue (" =
      bytes "friendlyName" ++ 62 :: bytes "Philips hue (" := bytes_cut '>' rfl
  have hname' : bytes "/friendlyName><manufacturer>Royal Philips Electronics</manufacturer>" =
      bytes "/friendlyName" ++ 62 ::
        bytes "<manufacturer>Royal Philips Electronics</manufacturer>" := bytes_cut '>' rfl
  have hname'' : bytes "/friendlyName" = 47 :: bytes "friendlyName" := rfl
  have hmaker : bytes "<manufacturer>Royal Philips Electronics</manufacturer>" =
      List.flatMap XmlItem.wire (xmlElement (bytes "manufacturer") []
        (bytes "Royal Philips Electronics") []) := bytes_leaf rfl
  have hmakerUrl : bytes "<manufacturerURL>http://www.philips.com</manufacturerURL>" =
      List.flatMap XmlItem.wire (xmlElement (bytes "manufacturerURL") []
        (bytes "http://www.philips.com") []) := bytes_leaf rfl
  have hmodel :
      bytes "<modelDescription>Philips hue Personal Wireless Lighting</modelDescription>" =
        List.flatMap XmlItem.wire (xmlElement (bytes "modelDescription") []
          (bytes "Philips hue Personal Wireless Lighting") []) := bytes_leaf rfl
  have hmodelName : bytes "<modelName>Philips hue bridge 2012</modelName>" =
      List.flatMap XmlItem.wire (xmlElement (bytes "modelName") []
        (bytes "Philips hue bridge 2012") []) := bytes_leaf rfl
  have hmodelNumber : bytes "<modelNumber>929000226503</modelNumber>" =
      List.flatMap XmlItem.wire (xmlElement (bytes "modelNumber") [] (bytes "929000226503") []) :=
    bytes_leaf rfl
  have hmodelUrl : bytes "<modelURL>http://www.meethue.com</modelURL>" =
      List.flatMap XmlItem.wire (xmlElement (bytes "modelURL") []
        (bytes "http://www.meethue.com") []) := bytes_leaf rfl
  have hserial : bytes "serialNumber>" = bytes "serialNumber" ++ [62] := rfl
  have hserial' : bytes "/serialNumber>" = 47 :: (bytes "serialNumber" ++ [62]) := rfl
  have hudn : bytes "UDN>uuid:2f402f80-da50-11e1-9b23-" =
      bytes "UDN" ++ 62 :: bytes "uuid:2f402f80-da50-11e1-9b23-" := bytes_cut '>' rfl
  have hudn' : bytes "/UDN><presentationURL>index.html</presentationURL></device></root>" =
      bytes "/UDN" ++ 62 ::
        bytes "<presentationURL>index.html</presentationURL></device></root>" := bytes_cut '>' rfl
  have hudn'' : bytes "/UDN" = 47 :: bytes "UDN" := rfl
  have hpresentation : bytes "<presentationURL>index.html</presentationURL></device></root>" =
      List.flatMap XmlItem.wire
        (xmlElement (bytes "presentationURL") [] (bytes "index.html") [] ++
          [⟨.stop (bytes "device"), []⟩, ⟨.stop (bytes "root"), []⟩]) := rfl
  rw [descriptionText_eq, descriptionParts]
  simp only [bytes_append, h₁, hspec, hbase, hbase', htype, hname, hname', hname'', hmaker,
    hmakerUrl, hmodel, hmodelName, hmodelNumber, hmodelUrl, hserial, hserial', hudn, hudn', hudn'',
    hpresentation]
  simp only [descriptionItems, rootItems, deviceTexts, leaves, xmlElement, XmlItem.wire,
    XmlItem.part, XmlTag.wire, List.intercalate_cons_cons, List.intercalate_singleton,
    List.flatMap_cons, List.flatMap_nil, List.append_assoc, List.cons_append, List.nil_append,
    List.append_nil]

/-- What a client reads of the description. -/
def descriptionEntries (host mac : Bytes) : List (List Bytes × Bytes) :=
  elementEntries (bytes "root") [] (elementEntries (bytes "specVersion") []
      [([bytes "major"], bytes "1"), ([bytes "minor"], bytes "0")] ++
    ([([bytes "URLBase"], bytes "http://" ++ (host ++ bytes "/"))] ++
    elementEntries (bytes "device") [] ((deviceTexts host mac).map fun t => ([t.1], t.2))))

lemma nested_rootItems (host mac : Bytes) :
    Nested (rootItems host mac) (elementEntries (bytes "specVersion") []
        [([bytes "major"], bytes "1"), ([bytes "minor"], bytes "0")] ++
      ([([bytes "URLBase"], bytes "http://" ++ (host ++ bytes "/"))] ++
      elementEntries (bytes "device") [] ((deviceTexts host mac).map fun t => ([t.1], t.2)))) :=
  ((nested_leaves _).element _ _ _).append
    ((nested_leaves [_]).append ((nested_leaves _).element _ _ _))

/-- Neither an address nor a name of an element is taken for a tag or an entity. -/
lemma plain_rootItems {host mac : Bytes} (hhost : 38 ∉ host ∧ 60 ∉ host)
    (hmac : 38 ∉ mac ∧ 60 ∉ mac) : ∀ i ∈ rootItems host mac, i.Plain := by
  have hbase : (38 ∉ bytes "http://" ∧ 60 ∉ bytes "http://") ∧ 38 ∉ bytes "/" ∧ 60 ∉ bytes "/" := by
    decide
  have hname : (38 ∉ bytes "Philips hue (" ∧ 60 ∉ bytes "Philips hue (") ∧
      38 ∉ bytes ")" ∧ 60 ∉ bytes ")" := by
    decide
  have hudn : 38 ∉ bytes "uuid:2f402f80-da50-11e1-9b23-" ∧
      60 ∉ bytes "uuid:2f402f80-da50-11e1-9b23-" := by
    decide
  rw [rootItems, List.forall_mem_append, List.forall_mem_append]
  refine ⟨plain_element ⟨by decide, by simp⟩ (by simp) (plain_leaves (by decide)),
    plain_leaves ?_, plain_element ⟨by decide, by simp⟩ (by simp) (plain_leaves ?_)⟩
  · rw [List.forall_mem_singleton]
    refine ⟨(by decide : IsXmlName (bytes "URLBase")), ?_⟩
    simp only [List.mem_append, not_or]
    exact ⟨⟨hbase.1.1, hhost.1, hbase.2.1⟩, hbase.1.2, hhost.2, hbase.2.2⟩
  · simp only [deviceTexts, List.forall_mem_cons, List.not_mem_nil, IsEmpty.forall_iff,
      implies_true, and_true, List.mem_append, not_or]
    refine ⟨by decide, ⟨by decide, ⟨hname.1.1, hhost.1, hname.2.1⟩, hname.1.2, hhost.2, hname.2.2⟩,
      by decide, by decide, by decide, by decide, by decide, by decide, ⟨by decide, hmac⟩,
      ⟨by decide, ⟨hudn.1, hmac.1⟩, hudn.2, hmac.2⟩, by decide⟩

/-- **The description is a document**, and these are its elements. -/
theorem readXml_description (env : Env) (fauxmo : Fauxmo) :
    readXml (descriptionText env fauxmo) =
      some (descriptionEntries (hostText env fauxmo) (bridgeMac env.iface)) := by
  have hhost : ∀ c, isDigit c = false → c ≠ 45 → c ≠ 46 → c ≠ 58 → c ∉ hostText env fauxmo :=
    fun c h₁ h₂ h₃ h₄ => notMem_hostText h₁ h₂ h₃ h₄ env fauxmo
  have hmac : 38 ∉ bridgeMac env.iface ∧ 60 ∉ bridgeMac env.iface := by
    rw [bridgeMac_eq]
    exact ⟨notMem_getMacAddr (by decide) (by decide) env.iface,
      notMem_getMacAddr (by decide) (by decide) env.iface⟩
  have hroot := plain_rootItems ⟨hhost 38 rfl (by decide) (by decide) (by decide),
    hhost 60 rfl (by decide) (by decide) (by decide)⟩ hmac
  rw [descriptionText_eq_items]
  refine readXml_wire ?_ (nested_rootItems _ _) ?_
  · rw [List.forall_mem_cons]
    exact ⟨⟨by decide, by simp⟩, plain_element (by decide) (by simp) hroot⟩
  · rw [List.forall_mem_append, List.forall_mem_append, List.forall_mem_singleton]
    exact ⟨ne_nil_of_mem_elementEntries, List.cons_ne_nil _ _, ne_nil_of_mem_elementEntries⟩

/-! ### Finding the bridge -/

/-- The port a server listens on when its `bind` has succeeded, unknown where it was left to the
kernel. -/
def Server.boundPort (server : Server) : Option ℕ :=
  if server.port = 0 then none else some server.port.toNat

lemma Server.boundPort_eq_some_iff {server : Server} {n : ℕ} :
    server.boundPort = some n ↔ n = server.port.toNat ∧ 0 < n := by
  rw [boundPort]
  by_cases h : server.port = 0
  · rw [if_pos h, h, UInt16.toNat_zero]
    exact iff_of_false nofun (by omega)
  · have hpos : server.port.toNat ≠ 0 := fun h0 => h (UInt16.toNat_inj.mp h0)
    rw [if_neg h, Option.some.injEq]
    omega

/-- The answer leads a client to the path on the server. -/
def LeadsTo (iface : Interface) (server : Server) (answer path : Bytes) : Prop :=
  ∃ location, (headerField (bytes "location") answer).bind readUrl = some location ∧
    IPAddress.fromString IPAddress.zero location.host = (true, iface.addr) ∧
    server.boundPort = some location.port ∧ location.path = path

/-- **Where a client is led**: to the description on the server, exactly when the port that is set
is the one the server is bound to. -/
theorem leadsTo_iff (env : Env) (fauxmo : Fauxmo) (server : Server) (path : Bytes) :
    LeadsTo env.iface server (discoveryText env fauxmo) path ↔
      server.boundPort = some fauxmo.tcpPort.toNat ∧ path = bytes "/description.xml" := by
  have hport := server.port.toNat_lt
  rw [LeadsTo, (headerField_discovery env fauxmo).1, Option.bind_some, readUrl_host]
  by_cases hsmall : fauxmo.tcpPort.toNat < 2 ^ 31
  · rw [if_pos hsmall]
    constructor
    · rintro ⟨_, ⟨⟩, -, h, rfl⟩
      exact ⟨h, rfl⟩
    · rintro ⟨h, rfl⟩
      exact ⟨_, rfl, IPAddress.fromString_of_spells (IPAddress.spells_toString _) _, h, rfl⟩
  · rw [if_neg hsmall]
    refine iff_of_false ?_ fun h => ?_
    · rintro ⟨_, h, -⟩
      cases h
    · have hbound := (Server.boundPort_eq_some_iff.mp h.1).1
      omega

/-- The document describes the bridge that gave the answer. -/
def Describes (doc : List (List Bytes × Bytes)) (answer : Bytes) : Prop :=
  ∃ base udn id, textAt [bytes "root", bytes "URLBase"] doc = some base ∧
    textAt [bytes "root", bytes "device", bytes "UDN"] doc = some udn ∧
    textAt [bytes "root", bytes "device", bytes "serialNumber"] doc = some id ∧
    headerField (bytes "location") answer = some (base ++ bytes "description.xml") ∧
    headerField (bytes "usn") answer = some (udn ++ bytes "::upnp:rootdevice") ∧
    headerField (bytes "hue-bridgeid") answer = some id

lemma describes_description (env : Env) (fauxmo : Fauxmo) :
    Describes (descriptionEntries (hostText env fauxmo) (bridgeMac env.iface))
      (discoveryText env fauxmo) := by
  have hslash : bytes "/description.xml" = bytes "/" ++ bytes "description.xml" := rfl
  obtain ⟨hlocation, husn, hid⟩ := headerField_discovery env fauxmo
  refine ⟨_, _, _, rfl, rfl, rfl, ?_, ?_, hid⟩
  · rw [hlocation, hslash, List.append_assoc, List.append_assoc]
  · rw [husn, List.append_assoc]

/-- A client that looks for the bridge finds it: its datagram is answered, the answer leads it to a
path on the server, and what an enabled bridge sends when it is asked for that path, in one piece,
is a document that describes it as the answer does. -/
def Found (env : Env) (fauxmo : Fauxmo) (server : Server) : Prop :=
  ∀ message ipv4 port, IsDiscovery message → message.length ≤ AS_DEFAULT_BUFFER_SIZE →
    ∃ answer path,
    fauxmo.step env (.udp message ipv4 port) = .ok (fauxmo, [.udp answer ipv4 port]) ∧
    LeadsTo env.iface server answer path ∧
    (fauxmo.enabled = true → ∀ msg : OnePiece, msg.url.1 = path → ∃ events r doc,
      fauxmo.step env (.tcp msg.wire) = .ok (fauxmo, events) ∧
      decodeHttp (tcpBytes events) = some [r] ∧ readXml r.body = some doc ∧ Describes doc answer)

variable {env : Env}

/-- The description is sent to whoever asks for its path. -/
lemma step_description {fauxmo : Fauxmo} (hon : fauxmo.enabled = true)
    (hserver : fauxmo.server ≠ none) {msg : HttpMessage}
    (hurl : msg.url.1 = bytes "/description.xml") :
    fauxmo.step env (.tcp msg.wire) =
      .ok (fauxmo, response (bytes "text/xml") (descriptionText env fauxmo)) := by
  have hmean : meaning env msg.wire = .ok .description := by
    rw [meaning, msg.splitRequest_wire, ok_bind, Request.meaning, if_pos hurl]
  have hsend : (onTCPDescription env fauxmo).events =
      response (bytes "text/xml") (descriptionText env fauxmo) := by
    rw [onTCPDescription_eq, sendTCPResponse_eq (by decide), cstr_descriptionText]
    rw [cstr_descriptionText]
    exact length_descriptionText_lt env fauxmo
  rw [Fauxmo.step, if_neg hserver, ← hsend]
  exact (onMessageReceived_ok_iff hon).mpr ⟨_, hmean, rfl⟩

/-- Where datagrams are received, the bridge is found exactly when the port is the one the server is
bound to. -/
lemma found_iff_port {fauxmo : Fauxmo} {server : Server} (hserver : fauxmo.server = some server)
    (hrec : fauxmo.udpReceivers ≠ 0) :
    Found env fauxmo server ↔ server.boundPort = some fauxmo.tcpPort.toNat := by
  have hanswer : ∀ message ipv4 port, IsDiscovery message →
      fauxmo.step env (.udp message ipv4 port) =
        .ok (fauxmo, [.udp (discoveryText env fauxmo) ipv4 port]) := by
    intro message ipv4 port hd
    have hlen : message.length > 0 := List.length_pos_iff.mpr fun h0 => by
      subst h0
      exact absurd hd (by decide)
    simp only [Fauxmo.step, if_neg hrec, onUDPData, if_pos hlen, if_pos hd.1, if_pos hd.2,
      sendUDPResponse_eq]
  constructor
  · intro h
    obtain ⟨answer, path, hstep, hleads, -⟩ :=
      h (bytes "M-SEARCH ssdp:discover") [] 0 (by decide) (by decide)
    rw [hanswer _ _ _ (by decide)] at hstep
    cases hstep
    exact ((leadsTo_iff env fauxmo server path).mp hleads).1
  · intro hport message ipv4 port hd _
    refine ⟨_, _, hanswer message ipv4 port hd, (leadsTo_iff env fauxmo server _).mpr ⟨hport, rfl⟩,
      fun hon msg hurl => ?_⟩
    have hread := @decodeHttp_flatMap [httpResponse (bytes "text/xml") (descriptionText env fauxmo)]
      (List.forall_mem_singleton.mpr (framed_httpResponse (by decide) (by decide) _))
    rw [List.flatMap_singleton, ← tcpBytes_response] at hread
    exact ⟨_, _, _, step_description hon (by simp [hserver]) hurl, hread,
      readXml_description env fauxmo, describes_description env fauxmo⟩

/-- Behind the step a client that looks for the bridge finds the server there is. -/
def FoundAfter (env : Env) (_ : Fauxmo) (_ : Input) (fauxmo' : Fauxmo) (_ : List Event) : Prop :=
  ∀ server, fauxmo'.server = some server → Found env fauxmo' server

/-- A server is made on a port of `16` bits other than `0`, and no other port is set when it is
there. -/
structure PortKept (fauxmo : Fauxmo) (a : Input) (_ : Fauxmo) (_ : List Event) : Prop where
  made : fauxmo.Starts a → fauxmo.server = none →
    0 < fauxmo.tcpPort.toNat ∧ fauxmo.tcpPort.toNat < 2 ^ 16
  set : ∀ p server, a = .setPort p → fauxmo.server = some server →
    p.toNat = server.port.toNat

/-- Where there is a server, there is a receiver. -/
def Fauxmo.Receives (fauxmo : Fauxmo) : Prop := fauxmo.server ≠ none → fauxmo.udpReceivers ≠ 0

lemma Fauxmo.Receives.step {fauxmo fauxmo' : Fauxmo} {a : Input} {events : List Event}
    (h : fauxmo.Receives) (hok : fauxmo.step env a = .ok (fauxmo', events)) : fauxmo'.Receives := by
  by_cases ha : ∃ b, a = .enable b
  · obtain ⟨b, rfl⟩ := ha
    obtain rfl : enable fauxmo b = fauxmo' := congrArg Prod.fst (Except.ok.inj hok)
    rw [Receives, enable_server, enable_udpReceivers]
    split
    · rename_i hstart
      exact fun _ => Or.inr ⟨hstart.2.1, Input.enable.inj hstart.1⟩
    · exact fun hs => Or.inl (h hs)
  · obtain ⟨-, hserver, hrec⟩ := step_frame (fun b hb => ha ⟨b, hb⟩) hok
    rw [Receives, hserver, hrec]
    exact h

lemma enable_tcpPort (fauxmo : Fauxmo) (b : Bool) : (enable fauxmo b).tcpPort = fauxmo.tcpPort := by
  rw [enable]
  split
  · rfl
  · cases b with
    | false => rfl
    | true => cases fauxmo.internal <;> by_cases h0 : fauxmo.udpReceivers = 0 <;> simp [h0]

/-- Only `setPort` changes the port. -/
lemma step_tcpPort {fauxmo fauxmo' : Fauxmo} {a : Input} {events : List Event}
    (ha : ∀ p, a ≠ .setPort p) (h : fauxmo.step env a = .ok (fauxmo', events)) :
    fauxmo'.tcpPort = fauxmo.tcpPort := by
  cases a with
  | enable b => cases h; exact enable_tcpPort fauxmo b
  | setPort tcpPort => exact absurd rfl (ha tcpPort)
  | createServer internal => cases h; rfl
  | onSetState callback => cases h; rfl
  | op op =>
      obtain ⟨devices, -, hret⟩ := bind_ok_iff.mp h
      cases hret
      rfl
  | udp message ipv4 port =>
      simp only [Fauxmo.step] at h
      split at h <;> (cases h; rfl)
  | tcp data =>
      simp only [Fauxmo.step] at h
      split at h
      · cases h
        rfl
      · obtain ⟨o, -, hret⟩ := bind_ok_iff.mp h
        cases hret
        rfl

/-- The port is the one the server is bound to. -/
def Fauxmo.OnPort (fauxmo : Fauxmo) : Prop :=
  ∀ server, fauxmo.server = some server → server.boundPort = some fauxmo.tcpPort.toNat

/-- **One input** keeps the port of the server, unless a server is made on a longer one or on `0`,
or another one is set. -/
lemma Fauxmo.OnPort.step_iff {fauxmo fauxmo' : Fauxmo} {a : Input} {events : List Event}
    (h : fauxmo.OnPort) (hok : fauxmo.step env a = .ok (fauxmo', events)) :
    fauxmo'.OnPort ↔ PortKept fauxmo a fauxmo' events := by
  cases a with
  | enable b =>
      obtain rfl : enable fauxmo b = fauxmo' := congrArg Prod.fst (Except.ok.inj hok)
      rw [OnPort, enable_server, enable_tcpPort]
      by_cases hstart : fauxmo.Starts (.enable b)
      · rw [if_pos hstart]
        cases hserver : fauxmo.server with
        | none =>
            have hmod : fauxmo.tcpPort.toUInt16.toNat = fauxmo.tcpPort.toNat % 2 ^ 16 :=
              UInt32.toNat_toUInt16 _
            constructor
            · intro hport
              have hbound := Server.boundPort_eq_some_iff.mp (hport _ rfl)
              refine ⟨fun _ _ => ?_, fun p server hset => nomatch hset⟩
              simp only [Option.getD_none, hmod] at hbound
              omega
            · rintro hkept server ⟨⟩
              have hlt := hkept.made hstart hserver
              refine Server.boundPort_eq_some_iff.mpr ?_
              simp only [Option.getD_none, hmod]
              omega
        | some server =>
            refine iff_of_true ?_ ⟨fun _ hnone => (nomatch hserver.symm.trans hnone),
              fun p server hset => nomatch hset⟩
            rintro _ ⟨⟩
            exact h server hserver
      · rw [if_neg hstart]
        exact iff_of_true h ⟨fun hs => absurd hs hstart, fun p server hset => nomatch hset⟩
  | setPort p =>
      cases hok
      constructor
      · exact fun hport => ⟨fun hstart => (nomatch hstart.1), by
          rintro _ server ⟨⟩ hserver
          exact (Server.boundPort_eq_some_iff.mp (hport server hserver)).1⟩
      · intro hkept server hserver
        have hbound := Server.boundPort_eq_some_iff.mp (h server hserver)
        have hset := hkept.set p server rfl hserver
        have hpos : 0 < p.toNat := by omega
        exact Server.boundPort_eq_some_iff.mpr ⟨hset, hpos⟩
  | _ =>
      obtain ⟨-, hserver, -⟩ := step_frame (by rintro _ ⟨⟩) hok
      have hport := step_tcpPort (by rintro _ ⟨⟩) hok
      rw [OnPort, hserver, hport]
      exact iff_of_true h ⟨fun hstart => (nomatch hstart.1), fun p server hset => nomatch hset⟩

/-- **Finding the bridge**: whatever is done to the object and whatever it receives, behind every
step a client that looks for the bridge finds the server there is, its document saying what the
answer says, exactly when every server is made on a port of `16` bits other than `0` and the port is
never set to another one while there is a server. -/
theorem found_iff (env : Env) (inputs : List Input) :
    EveryStep (Fauxmo.step env) (FoundAfter env) Fauxmo.fresh inputs ↔
      EveryStep (Fauxmo.step env) PortKept Fauxmo.fresh inputs := by
  have hfound : ∀ fauxmo a fauxmo' events, fauxmo'.Receives →
      (FoundAfter env fauxmo a fauxmo' events ↔ fauxmo'.OnPort) := fun fauxmo a fauxmo' events h =>
    forall₂_congr fun server hserver => found_iff_port hserver (h (by simp [hserver]))
  refine everyStep_congr (I := fun fauxmo => fauxmo.Receives ∧ fauxmo.OnPort) ?_ ?_
    ⟨fun h => absurd rfl h, by simp [Fauxmo.OnPort, Fauxmo.fresh]⟩
  · rintro fauxmo a fauxmo' events ⟨hrec, hport⟩ hok hafter
    have hrec' := hrec.step hok
    exact ⟨hrec', (hfound fauxmo a fauxmo' events hrec').mp hafter⟩
  · rintro fauxmo a fauxmo' events ⟨hrec, hport⟩ hok
    rw [hfound fauxmo a fauxmo' events (hrec.step hok)]
    exact hport.step_iff hok

end FauxmoLinux
