import FauxmoLinux.Base.Format

/-!
The network interface (`utils.h`) and `class IPAddress` of `fauxmoLINUX.h`.

* `Interface`: what `ioctl` reports of the interface, its IPv4 and its hardware address, with
  the texts `getIpAddr`, `getMacAddr` the program makes of them;
* `IPAddress.fromString`, `IPAddress.toString`: the parser of dotted quads, which writes octets
  as it goes, and the printer;
* `bridgeMac`: the hardware address as the discovery texts show it.
-/

namespace FauxmoLinux

/-- The addresses of a network interface. -/
structure Interface where
  addr : Vector UInt8 4
  hwaddr : Vector UInt8 6
  deriving DecidableEq

/-- An octet as an argument of `%d` or `%02x`. -/
def octetArg (b : UInt8) : Arg := .int b.toNat

def dottedQuad : List Piece :=
  [.dec, .lit (bytes "."), .dec, .lit (bytes "."), .dec, .lit (bytes "."), .dec]

def macFormat : List Piece :=
  [.hex false, .lit (bytes ":"), .hex false, .lit (bytes ":"), .hex false, .lit (bytes ":"),
   .hex false, .lit (bytes ":"), .hex false, .lit (bytes ":"), .hex false]

/-- `get_ip_addr`: `inet_ntoa` of the interface address. -/
def getIpAddr (iface : Interface) : Bytes := sprintf dottedQuad (iface.addr.toList.map octetArg)

/-- `get_mac_addr`. -/
def getMacAddr (iface : Interface) : Bytes := sprintf macFormat (iface.hwaddr.toList.map octetArg)

/-- The hardware address is six pairs of digits with colons between them. -/
lemma getMacAddr_eq (iface : Interface) :
    getMacAddr iface =
      [58].intercalate (iface.hwaddr.toList.map fun b => hex02 false b.toNat) := by
  have hlist : iface.hwaddr.toList = [iface.hwaddr[0], iface.hwaddr[1], iface.hwaddr[2],
      iface.hwaddr[3], iface.hwaddr[4], iface.hwaddr[5]] := by
    refine List.ext_getElem (by simp) fun i h₁ h₂ => ?_
    have hi : i < 6 := by simpa using h₁
    interval_cases i <;> simp
  have hcolon : bytes ":" = [58] := rfl
  simp [getMacAddr, hlist, macFormat, octetArg, sprintf, hcolon, List.intercalate,
    List.intersperse]

/-- Its bytes are colons and digits, the letters among them small. -/
lemma eq_or_digit_of_mem_getMacAddr {iface : Interface} {c : UInt8} (h : c ∈ getMacAddr iface) :
    c = 58 ∨ ∃ d < 16, digitChar 97 d = c := by
  rw [getMacAddr_eq] at h
  rcases mem_intercalate h with h | ⟨s, hs, hc⟩
  · exact .inl (List.mem_singleton.mp h)
  · obtain ⟨b, -, rfl⟩ := List.mem_map.mp hs
    exact .inr (exists_digit_of_mem_hex02 hc)

/-- What is neither a colon nor a digit does not occur in it. -/
lemma notMem_getMacAddr {c : UInt8} (hcolon : c ≠ 58) (hdigit : ∀ d < 16, digitChar 97 d ≠ c)
    (iface : Interface) : c ∉ getMacAddr iface := by
  intro h
  rcases eq_or_digit_of_mem_getMacAddr h with rfl | ⟨d, hd, h⟩
  · exact hcolon rfl
  · exact hdigit d hd h

/-- Six pairs of digits and five colons. -/
lemma length_getMacAddr_le (iface : Interface) : (getMacAddr iface).length ≤ 17 := by
  have hpair : ∀ s ∈ iface.hwaddr.toList.map fun b => hex02 false b.toNat, s.length ≤ 2 := by
    intro s hs
    obtain ⟨b, -, rfl⟩ := List.mem_map.mp hs
    exact length_hex02_le le_rfl (by have := b.toNat_lt; omega)
  have hlen := length_intercalate_le 58 hpair
  rw [List.length_map, Vector.length_toList] at hlen
  rw [getMacAddr_eq]
  omega

/-- An IPv4 address. -/
abbrev IPAddress := Vector UInt8 4

namespace IPAddress

/-- `IPAddress()`. -/
def zero : IPAddress := Vector.replicate 4 0

def toString (ip : IPAddress) : Bytes :=
  toDec ip[0].toNat ++ bytes "." ++ toDec ip[1].toNat ++ bytes "." ++ toDec ip[2].toNat ++
    bytes "." ++ toDec ip[3].toNat

/-- The four octets, and the text of them. -/
lemma exists_octets (ip : IPAddress) : ∃ a b c d : UInt8, ip.toList = [a, b, c, d] ∧
    toString ip = toDec a.toNat ++ bytes "." ++ toDec b.toNat ++ bytes "." ++ toDec c.toNat ++
      bytes "." ++ toDec d.toNat := by
  refine ⟨ip[0], ip[1], ip[2], ip[3], List.ext_getElem (by simp) fun i h₁ h₂ => ?_, rfl⟩
  have hi : i < 4 := by simpa using h₁
  interval_cases i <;> simp

/-- The loop of `fromString`: `acc` is the octet read so far and `dots` the number of dots. -/
def fromStringLoop : Bytes → UInt16 → Fin 4 → IPAddress → Bool × IPAddress
  | [], acc, dots, ip => if dots ≠ 3 then (false, ip) else (true, ip.set 3 acc.toUInt8)
  | c :: address, acc, dots, ip =>
      if 48 ≤ c ∧ c ≤ 57 then
        let acc := acc * 10 + (c - 48).toUInt16
        if acc > 255 then (false, ip) else fromStringLoop address acc dots ip
      else if c = 46 then
        if dots = 3 then (false, ip)
        else fromStringLoop address 0 (dots + 1) (ip.set dots acc.toUInt8)
      else (false, ip)

/-- `fromString`: whether the text was accepted, and the octets afterwards. -/
def fromString (ip : IPAddress) (address : Bytes) : Bool × IPAddress :=
  fromStringLoop address 0 0 ip

end IPAddress

/-- `std::tolower` in the C locale. -/
def toLower (c : UInt8) : UInt8 := if 65 ≤ c ∧ c ≤ 90 then c + 32 else c

/-- The address the responses show, read back from its text. The result of `fromString` is
not looked at. -/
def bridgeIp (iface : Interface) : IPAddress :=
  (IPAddress.fromString IPAddress.zero (getIpAddr iface)).2

/-- The hardware address the responses show. `std::regex_replace` returns the text without
colons, which is dropped here, and leaves `mac` as it was. -/
def bridgeMac (iface : Interface) : Bytes := (getMacAddr iface).map toLower

/-- `std::tolower` finds no capital letters. -/
lemma bridgeMac_eq (iface : Interface) : bridgeMac iface = getMacAddr iface := by
  have hdigit : ∀ d < 16, toLower (digitChar 97 d) = digitChar 97 d := by decide
  have hlower : ∀ c ∈ getMacAddr iface, toLower c = c := by
    intro c hc
    rcases eq_or_digit_of_mem_getMacAddr hc with rfl | ⟨d, hd, rfl⟩
    · rfl
    · exact hdigit d hd
  rw [bridgeMac, List.map_congr_left hlower, List.map_id']

lemma length_bridgeMac_le (iface : Interface) : (bridgeMac iface).length ≤ 17 := by
  rw [bridgeMac_eq]
  exact length_getMacAddr_le iface

end FauxmoLinux
