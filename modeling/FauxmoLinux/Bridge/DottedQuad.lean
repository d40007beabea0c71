import Mathlib.Data.List.Forall2
import FauxmoLinux.Bridge.Address

/-!
What `IPAddress::fromString` takes, and what it leaves behind.

* `Octet`, `Spells`: the dotted quads of an address;
* `taken`, `stored`: the fields the loop takes, the empty one among them, and the octets it has
  written when it returns;
* `fromStringLoop_field`, `fromStringLoop_fields`: the loop over one field and over all of them;
* `AllOrNothing`, `allOrNothing_iff`: a text is read as a whole or not at all exactly when it spells
  an address, or is refused with nothing written that was not there before.
-/

namespace FauxmoLinux

namespace IPAddress

/-! ### Dotted quads -/

/-- A non-empty run of digits with the value of an octet. -/
structure Octet (field : Bytes) (b : UInt8) : Prop where
  ne_nil : field ≠ []
  digits : ∀ c ∈ field, isDigit c = true
  value : digitsVal 0 field = b.toNat

/-- The text is a dotted quad of the address: its fields between the dots are the octets. -/
def Spells (s : Bytes) (ip : IPAddress) : Prop :=
  List.Forall₂ Octet (s.splitOn 46) ip.toList

/-! ### The loop -/

/-- What the loop takes between two dots: digits, perhaps none, with a value up to `255`. -/
def taken (field : Bytes) : Bool := field.all isDigit && digitsVal 0 field ≤ 255

/-- The octet that is written for a field. -/
def octetOf (field : Bytes) : UInt8 := (digitsVal 0 field).toUInt8

/-- **One field**: the loop goes on behind it with its value, or refuses it. -/
lemma fromStringLoop_field {field : Bytes} (hdot : (46 : UInt8) ∉ field) {acc : UInt16}
    (hacc : acc.toNat ≤ 255) (rest : Bytes) (dots : Fin 4) (ip : IPAddress) :
    fromStringLoop (field ++ rest) acc dots ip =
      if field.all isDigit = true ∧ digitsVal acc.toNat field ≤ 255 then
        fromStringLoop rest (digitsVal acc.toNat field).toUInt16 dots ip
      else (false, ip) := by
  induction field generalizing acc with
  | nil => simp [digitsVal, hacc]
  | cons c field ih =>
      have hc : c ≠ 46 := fun h => hdot (by simp [h])
      have hdot' : (46 : UInt8) ∉ field := fun h => hdot (List.mem_cons_of_mem _ h)
      rw [List.cons_append, fromStringLoop]
      by_cases hdig : 48 ≤ c ∧ c ≤ 57
      · have hbool : isDigit c = true := by simpa [isDigit] using hdig
        have hlow := UInt8.le_iff_toNat_le.mp hdig.1
        have hhigh := UInt8.le_iff_toNat_le.mp hdig.2
        have hval : (acc * 10 + (c - 48).toUInt16).toNat = 10 * acc.toNat + (c.toNat - 48) := by
          have hsub : (c - 48).toNat = c.toNat - 48 := UInt8.toNat_sub_of_le c 48 hdig.1
          rw [UInt16.toNat_add, UInt16.toNat_mul, UInt8.toNat_toUInt16, hsub]
          simp at hlow hhigh ⊢
          omega
        rw [if_pos hdig, digitsVal, if_pos hbool, List.all_cons, hbool, Bool.true_and, ← hval]
        dsimp only
        by_cases hbig : acc * 10 + (c - 48).toUInt16 > 255
        · have hlt : 255 < (acc * 10 + (c - 48).toUInt16).toNat := UInt16.lt_iff_toNat_lt.mp hbig
          have hle := le_digitsVal (acc * 10 + (c - 48).toUInt16).toNat field
          rw [if_pos hbig, if_neg (fun h => absurd h.2 (by omega))]
        · have hle := UInt16.le_iff_toNat_le.mp (UInt16.not_lt.mp hbig)
          rw [if_neg hbig, ih hdot' hle]
      · have hbool : isDigit c = false := by
          rw [← Bool.not_eq_true]
          simpa [isDigit] using hdig
        rw [if_neg hdig, if_neg hc, if_neg]
        simp [hbool]

lemma fromStringLoop_taken {field : Bytes} (hdot : (46 : UInt8) ∉ field)
    (h : taken field = true) (rest : Bytes) (dots : Fin 4) (ip : IPAddress) :
    fromStringLoop (field ++ rest) 0 dots ip =
      fromStringLoop rest (digitsVal 0 field).toUInt16 dots ip := by
  have hcond : field.all isDigit = true ∧ digitsVal (0 : UInt16).toNat field ≤ 255 := by
    simpa [taken] using h
  rw [fromStringLoop_field hdot (by decide), if_pos hcond]
  rfl

lemma fromStringLoop_refused {field : Bytes} (hdot : (46 : UInt8) ∉ field)
    (h : taken field = false) (rest : Bytes) (dots : Fin 4) (ip : IPAddress) :
    fromStringLoop (field ++ rest) 0 dots ip = (false, ip) := by
  rw [fromStringLoop_field hdot (by decide), if_neg]
  rintro ⟨hdigits, hval⟩
  rw [taken, hdigits, Bool.true_and, decide_eq_false_iff_not] at h
  exact h hval

lemma toUInt8_toUInt16 (n : ℕ) : n.toUInt16.toUInt8 = n.toUInt8 := UInt16.toUInt8_ofNat' n

/-- Every field is taken, and there are as many as octets are left. -/
def Accepts (dots : ℕ) (fields : List Bytes) : Prop :=
  dots + fields.length = 4 ∧ ∀ field ∈ fields, taken field = true

instance (dots : ℕ) (fields : List Bytes) : Decidable (Accepts dots fields) :=
  inferInstanceAs (Decidable (_ ∧ _))

/-- The octets that are written from the place `dots` on when the fields are refused: those of the
fields with a dot behind them, up to the first that is not taken. -/
def stored (dots : ℕ) (fields : List Bytes) : List UInt8 :=
  ((fields.dropLast.take (3 - dots)).takeWhile taken).map octetOf

/-- The octets that are written from the place `dots` on. -/
def outcome (dots : ℕ) (fields : List Bytes) : List UInt8 :=
  if Accepts dots fields then fields.map octetOf else stored dots fields

lemma outcome_singleton (dots : ℕ) (field : Bytes) :
    outcome dots [field] = if Accepts dots [field] then [octetOf field] else [] := by
  simp [outcome, stored]

lemma accepts_cons_iff {field : Bytes} (h : taken field = true) (dots : ℕ)
    (fields : List Bytes) : Accepts dots (field :: fields) ↔ Accepts (dots + 1) fields := by
  rw [Accepts, Accepts, List.length_cons, List.forall_mem_cons, and_iff_right h]
  exact and_congr_left' (by omega)

/-- A field that is taken is written first. -/
lemma outcome_cons {field : Bytes} (h : taken field = true) {dots : ℕ} (hdots : dots < 3)
    {fields : List Bytes} (hne : fields ≠ []) :
    outcome dots (field :: fields) = octetOf field :: outcome (dots + 1) fields := by
  have hleft : 3 - dots = 3 - (dots + 1) + 1 := by omega
  rw [outcome, outcome]
  by_cases hacc : Accepts (dots + 1) fields
  · rw [if_pos ((accepts_cons_iff h dots fields).mpr hacc), if_pos hacc, List.map_cons]
  · rw [if_neg (fun hc => hacc ((accepts_cons_iff h dots fields).mp hc)), if_neg hacc, stored,
      List.dropLast_cons_of_ne_nil hne, hleft, List.take_succ_cons, List.takeWhile_cons_of_pos h,
      List.map_cons, stored]

/-- A field that is refused, or has a dot too many behind it, ends the loop. -/
lemma outcome_of_not {field : Bytes} {dots : ℕ} {fields : List Bytes} (hne : fields ≠ [])
    (h : taken field = false ∨ 3 ≤ dots) :
    ¬ Accepts dots (field :: fields) ∧ outcome dots (field :: fields) = [] := by
  have hlen : 1 ≤ fields.length := List.length_pos_iff.mpr hne
  have hnot : ¬ Accepts dots (field :: fields) := by
    rintro ⟨hfour, hall⟩
    rw [List.length_cons] at hfour
    rcases h with h | h
    · rw [hall field List.mem_cons_self] at h
      cases h
    · omega
  refine ⟨hnot, ?_⟩
  rw [outcome, if_neg hnot, stored, List.dropLast_cons_of_ne_nil hne]
  rcases h with h | h
  · cases 3 - dots with
    | zero => rfl
    | succ n => rw [List.take_succ_cons, List.takeWhile_cons_of_neg (by simp [h]), List.map_nil]
  · rw [show 3 - dots = 0 by omega, List.take_zero, List.takeWhile_nil, List.map_nil]

/-- What the loop makes of the fields from the place `dots` on: the octets in front of it stay, and
so do those behind the ones it writes. -/
structure Reads (dots : ℕ) (fields : List Bytes) (ip : IPAddress) (r : Bool × IPAddress) :
    Prop where
  accepts : r.1 = decide (Accepts dots fields)
  octets : r.2.toList = ip.toList.take dots ++ outcome dots fields ++
    ip.toList.drop (dots + (outcome dots fields).length)

lemma reads_refused {dots : ℕ} {fields : List Bytes} (hnot : ¬ Accepts dots fields)
    (hout : outcome dots fields = []) (ip : IPAddress) : Reads dots fields ip (false, ip) :=
  ⟨by simp [hnot], by simp [hout]⟩

/-- An octet that is written at the place `dots` joins the octets in front of it. -/
lemma Reads.cons {field : Bytes} (h : taken field = true) {dots : ℕ} (hdots : dots < 3)
    {fields : List Bytes} (hne : fields ≠ []) {ip : IPAddress} {r : Bool × IPAddress}
    (hr : Reads (dots + 1) fields (ip.set dots (octetOf field)) r) :
    Reads dots (field :: fields) ip r := by
  have hlt : dots < ip.toList.length := by
    rw [Vector.length_toList]
    omega
  have htake : (ip.toList.set dots (octetOf field)).take (dots + 1) =
      ip.toList.take dots ++ [octetOf field] := by
    rw [List.take_succ_eq_append_getElem (by simpa using hlt), List.take_set_of_le le_rfl,
      List.getElem_set_self]
  refine ⟨hr.accepts.trans (decide_eq_decide.mpr (accepts_cons_iff h dots fields).symm), ?_⟩
  calc r.2.toList
      = ip.toList.take dots ++ [octetOf field] ++ outcome (dots + 1) fields ++
          ip.toList.drop (dots + 1 + (outcome (dots + 1) fields).length) := by
        rw [hr.octets, Vector.toList_set, htake, List.drop_set_of_lt (by omega)]
    _ = ip.toList.take dots ++ outcome dots (field :: fields) ++
          ip.toList.drop (dots + (outcome dots (field :: fields)).length) := by
        rw [outcome_cons h hdots hne, List.length_cons, Nat.add_right_comm, Nat.add_assoc,
          List.append_assoc (ip.toList.take dots) [octetOf field], List.singleton_append]

/-- The last octet, with the end of the text behind it. -/
lemma reads_last {field : Bytes} (h : taken field = true) (ip : IPAddress) :
    Reads 3 [field] ip (fromStringLoop [] (digitsVal 0 field).toUInt16 3 ip) := by
  have hacc : Accepts 3 [field] := ⟨rfl, by simpa using h⟩
  rw [fromStringLoop, if_neg (by simp), toUInt8_toUInt16]
  refine ⟨by simp [hacc], ?_⟩
  have hlt : 3 < ip.toList.length := by
    rw [Vector.length_toList]
    omega
  rw [outcome_singleton, if_pos hacc, Vector.toList_set, List.set_eq_take_append_cons_drop,
    if_pos hlt, List.append_assoc]
  rfl

/-- A field with the end of the text behind it. -/
lemma reads_singleton {field : Bytes} (hdot : (46 : UInt8) ∉ field) (dots : Fin 4)
    (ip : IPAddress) : Reads dots [field] ip (fromStringLoop field 0 dots ip) := by
  have hrefused : ¬ Accepts dots [field] → Reads dots [field] ip (false, ip) := fun hnot =>
    reads_refused hnot (by rw [outcome_singleton, if_neg hnot]) ip
  rw [← List.append_nil field]
  cases htaken : taken field with
  | false =>
      rw [fromStringLoop_refused hdot htaken, List.append_nil]
      exact hrefused fun hacc => by simp [hacc.2] at htaken
  | true =>
      rw [fromStringLoop_taken hdot htaken, List.append_nil]
      rcases eq_or_ne dots 3 with rfl | hthree
      · exact reads_last htaken ip
      · rw [fromStringLoop, if_pos hthree]
        refine hrefused fun hacc => ?_
        have hfour := hacc.1
        rw [List.length_singleton] at hfour
        omega

/-- A field with a dot behind it, and a text `s` that is read as other fields. -/
lemma reads_cons {field : Bytes} (hdot : (46 : UInt8) ∉ field) {fields : List Bytes}
    (hne : fields ≠ []) {s : Bytes}
    (hs : ∀ (dots : Fin 4) (ip : IPAddress), Reads dots fields ip (fromStringLoop s 0 dots ip))
    (dots : Fin 4) (ip : IPAddress) :
    Reads dots (field :: fields) ip (fromStringLoop (field ++ 46 :: s) 0 dots ip) := by
  cases htaken : taken field with
  | false =>
      obtain ⟨hnot, hout⟩ := @outcome_of_not field dots fields hne (.inl htaken)
      rw [fromStringLoop_refused hdot htaken]
      exact reads_refused hnot hout ip
  | true =>
      rw [fromStringLoop_taken hdot htaken, fromStringLoop, if_neg (by decide), if_pos rfl,
        toUInt8_toUInt16]
      rcases eq_or_ne dots 3 with rfl | hthree
      · obtain ⟨hnot, hout⟩ := @outcome_of_not field 3 fields hne (.inr le_rfl)
        exact reads_refused hnot hout ip
      · have hlt : dots.val < 3 := by omega
        have hnext : (dots + 1).val = dots.val + 1 :=
          Fin.val_add_one_of_lt (by rw [Fin.lt_def]; exact hlt)
        have hr := hs (dots + 1) (ip.set dots (octetOf field))
        rw [hnext] at hr
        rw [if_neg hthree]
        exact hr.cons htaken hlt hne

/-- **All fields**: what the loop makes of a text, field by field. -/
lemma fromStringLoop_fields {fields : List Bytes} (hne : fields ≠ [])
    (hdot : ∀ field ∈ fields, (46 : UInt8) ∉ field) (dots : Fin 4) (ip : IPAddress) :
    Reads dots fields ip (fromStringLoop ([46].intercalate fields) 0 dots ip) := by
  induction fields generalizing dots ip with
  | nil => exact absurd rfl hne
  | cons field fields ih =>
      obtain ⟨hfield, hfields⟩ := List.forall_mem_cons.mp hdot
      rcases eq_or_ne fields [] with rfl | hnil
      · rw [List.intercalate_singleton]
        exact reads_singleton hfield dots ip
      · rw [List.intercalate_cons_of_ne_nil hnil, List.append_assoc, List.singleton_append]
        exact reads_cons hfield hnil (ih hnil hfields) dots ip

/-! ### Texts -/

/-- **Every text**: what `fromString` makes of it. -/
lemma reads_fromString (ip : IPAddress) (s : Bytes) :
    Reads 0 (s.splitOn 46) ip (fromString ip s) := by
  have hfields := fromStringLoop_fields (List.splitOn_ne_nil 46 s)
    (fun field hfield => notMem_of_mem_splitOn hfield) 0 ip
  rwa [List.intercalate_splitOn] at hfields

lemma Octet.taken {field : Bytes} {b : UInt8} (h : Octet field b) :
    IPAddress.taken field = true := by
  have hlt := b.toNat_lt
  have hval := h.value
  rw [IPAddress.taken, Bool.and_eq_true, List.all_eq_true, decide_eq_true_iff]
  exact ⟨h.digits, by omega⟩

lemma Octet.octetOf_eq {field : Bytes} {b : UInt8} (h : Octet field b) : octetOf field = b := by
  rw [octetOf, h.value]
  exact UInt8.ofNat_toNat

/-- The fields of a dotted quad are taken, and their octets are those of the address. -/
lemma taken_of_octets {fields : List Bytes} {octets : List UInt8}
    (h : List.Forall₂ Octet fields octets) :
    (∀ field ∈ fields, taken field = true) ∧ fields.map octetOf = octets := by
  induction h with
  | nil => exact ⟨by simp, rfl⟩
  | cons hoctet _ ih =>
      rw [List.forall_mem_cons, List.map_cons, hoctet.octetOf_eq, ih.2]
      exact ⟨⟨hoctet.taken, ih.1⟩, rfl⟩

lemma Spells.accepts {s : Bytes} {ip : IPAddress} (h : Spells s ip) :
    Accepts 0 (s.splitOn 46) := by
  have hlen := h.length_eq
  rw [Vector.length_toList] at hlen
  exact ⟨by omega, (taken_of_octets h).1⟩

/-- **A dotted quad is read.** -/
lemma fromString_of_spells {s : Bytes} {a : IPAddress} (h : Spells s a) (ip : IPAddress) :
    fromString ip s = (true, a) := by
  have hreads := reads_fromString ip s
  have hoctets : (fromString ip s).2.toList = a.toList := by
    rw [hreads.octets, outcome, if_pos h.accepts, (taken_of_octets h).2, Vector.length_toList,
      List.drop_of_length_le (by rw [Vector.length_toList])]
    simp
  refine Prod.ext ?_ (Vector.toList_inj.mp hoctets)
  rw [hreads.accepts]
  exact decide_eq_true h.accepts

/-- A text is read as a whole when it spells an address, and refused without a trace when not. -/
structure AllOrNothing (ip : IPAddress) (s : Bytes) : Prop where
  read : ∀ a, Spells s a → fromString ip s = (true, a)
  refused : (∀ a, ¬ Spells s a) → fromString ip s = (false, ip)

/-- **All or nothing**: on exactly the texts that spell an address, and those that are refused
when the octets of the fields in front of the fault are there already. -/
theorem allOrNothing_iff (ip : IPAddress) (s : CString) :
    AllOrNothing ip s.1 ↔ (∃ a, Spells s.1 a) ∨
      (¬ Accepts 0 (s.1.splitOn 46) ∧ stored 0 (s.1.splitOn 46) <+: ip.toList) := by
  have hreads := reads_fromString ip s.1
  constructor
  · intro h
    by_cases hspells : ∃ a, Spells s.1 a
    · exact .inl hspells
    · have hrefused := h.refused (not_exists.mp hspells)
      rw [hrefused] at hreads
      have hnot : ¬ Accepts 0 (s.1.splitOn 46) := by simpa using hreads.accepts
      have hoctets := hreads.octets
      rw [outcome, if_neg hnot, List.take_zero, List.nil_append] at hoctets
      exact .inr ⟨hnot, _, hoctets.symm⟩
  · rintro (⟨a, ha⟩ | ⟨hnot, rest, hrest⟩)
    · exact ⟨fun a' ha' => fromString_of_spells ha' ip, fun hno => absurd ha (hno a)⟩
    · refine ⟨fun a ha => absurd ha.accepts hnot, fun _ => Prod.ext ?_ ?_⟩
      · rw [hreads.accepts]
        exact decide_eq_false hnot
      · refine Vector.toList_inj.mp ?_
        calc (fromString ip s.1).2.toList
            = stored 0 (s.1.splitOn 46) ++ ip.toList.drop (stored 0 (s.1.splitOn 46)).length := by
              rw [hreads.octets, outcome, if_neg hnot]
              simp
          _ = ip.toList := by rw [← hrest, List.drop_left]

/-- An empty field is read as `0`, and what stands in front of a fault is written. -/
theorem not_allOrNothing_fields :
    ¬ AllOrNothing zero (bytes "1..2.3") ∧ ¬ AllOrNothing zero (bytes "1.2.3.x") := by
  constructor
  · intro h
    have hno : ∀ a, ¬ Spells (bytes "1..2.3") a := by
      intro a ha
      have hempty : ∀ octets, ¬ List.Forall₂ Octet [[49], [], [50], [51]] octets := by
        rintro _ (_ | ⟨-, _ | ⟨hoctet, -⟩⟩)
        exact hoctet.ne_nil rfl
      exact hempty a.toList ha
    exact absurd (h.refused hno) (by decide)
  · intro h
    have hno : ∀ a, ¬ Spells (bytes "1.2.3.x") a := fun a ha => absurd ha.accepts (by decide)
    exact absurd (h.refused hno) (by decide)

/-! ### Printing -/

/-- `toString` joins the octets with dots. -/
lemma toString_eq (ip : IPAddress) :
    toString ip = [46].intercalate (ip.toList.map fun b => toDec b.toNat) := by
  obtain ⟨a, b, c, d, hlist, htext⟩ := exists_octets ip
  have hdot : bytes "." = [46] := rfl
  rw [htext, hlist, hdot]
  simp [List.intercalate, List.intersperse]

/-- What is printed spells the address. -/
lemma spells_toString (ip : IPAddress) : Spells (toString ip) ip := by
  have hdot : ∀ field ∈ ip.toList.map fun b => toDec b.toNat, (46 : UInt8) ∉ field := by
    intro field hfield h
    obtain ⟨b, -, rfl⟩ := List.mem_map.mp hfield
    cases isDigit_of_mem_toDec h
  have hne : (ip.toList.map fun b => toDec b.toNat) ≠ [] := by
    refine List.ne_nil_of_length_pos ?_
    rw [List.length_map, Vector.length_toList]
    norm_num
  rw [Spells, toString_eq, List.splitOn_intercalate 46 hdot hne, List.forall₂_map_left_iff,
    List.forall₂_same]
  intro b _
  refine ⟨toDec_ne_nil b.toNat, fun c hc => isDigit_of_mem_toDec hc, ?_⟩
  have hval := digitsVal_toDec b.toNat []
  rwa [List.append_nil] at hval

/-- **Addresses are read back** from what is printed of them, whatever was there before, so
different addresses are printed differently. -/
theorem fromString_toString :
    (∀ a b : IPAddress, fromString b (toString a) = (true, a)) ∧
      Function.Injective IPAddress.toString := by
  have hread : ∀ a b : IPAddress, fromString b (toString a) = (true, a) := fun a b =>
    fromString_of_spells (spells_toString a) b
  refine ⟨hread, fun a a' h => ?_⟩
  have hback := hread a zero
  rw [h, hread a' zero] at hback
  exact (congrArg Prod.snd hback).symm

end IPAddress

/-- `inet_ntoa` prints as `toString` does. -/
lemma getIpAddr_eq (iface : Interface) : getIpAddr iface = IPAddress.toString iface.addr := by
  obtain ⟨a, b, c, d, hlist, htext⟩ := IPAddress.exists_octets iface.addr
  rw [getIpAddr, hlist, htext]
  simp [dottedQuad, octetArg, sprintf, intDec_natCast]

/-- The address the responses show is that of the interface. -/
lemma bridgeIp_eq (iface : Interface) : bridgeIp iface = iface.addr := by
  rw [bridgeIp, getIpAddr_eq, IPAddress.fromString_of_spells (IPAddress.spells_toString iface.addr)]

end FauxmoLinux
