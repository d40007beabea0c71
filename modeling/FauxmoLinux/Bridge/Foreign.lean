import FauxmoLinux.Bridge.Spelling

/-!
Members that are not for lights, in the body of a control request.

* `Layout.strip`, `sameOutcome_strip`: inert members change nothing, wherever they stand;
* `words_of_harmless`, `colour_eq_of_harmless`, `front_of_harmless`: bodies that show what is
  wrong with a member that is not inert;
* `sameOutcome_strip_iff`: the members that may be added to every body.
-/

namespace FauxmoLinux

open Json

variable {env : Env}

/-! ### Further members -/

/-- A member that asks nothing of a light. -/
def Json.Member.Foreign (m : Member) : Prop := m.key ∉ lightKeys

/-- The object without its other members. -/
def Json.Layout.strip (l : Layout) : Layout :=
  { l with members := l.members.filter (·.raw ∈ lightKeys) }

/-- The names are their own spelling. -/
lemma Json.Member.Foreign.raw_notMem {m : Member} (h : m.Foreign) : m.raw ∉ lightKeys := by
  intro hraw
  have hsame := (plain_of_mem_lightKeys m.raw hraw).content.symm.trans m.content
  exact h ((Prod.mk.inj (Except.ok.inj hsame)).2 ▸ hraw)

lemma dropWhile_filter {α : Type} {p q : α → Bool} (h : ∀ a, q a = false → p a = true)
    (l : List α) : (l.filter p).dropWhile q = (l.dropWhile q).filter p := by
  induction l with
  | nil => rfl
  | cons a l ih =>
      cases hq : q a with
      | false =>
          rw [List.filter_cons_of_pos (h a hq), List.dropWhile_cons_of_neg (by simp [hq]),
            List.dropWhile_cons_of_neg (by simp [hq]), List.filter_cons_of_pos (h a hq)]
      | true =>
          rw [List.dropWhile_cons_of_pos hq, ← ih]
          cases hp : p a with
          | false => rw [List.filter_cons_of_neg (by simp [hp])]
          | true => rw [List.filter_cons_of_pos hp, List.dropWhile_cons_of_pos hq]

/-- Inert members ask for nothing. -/
lemma command_filter {ms : List Member} (h : ∀ m ∈ ms, m.Clear env) :
    command env (ms.filter (·.raw ∈ lightKeys)) = command env ms := by
  have hfind : ∀ w ∈ lightKeys, ∀ ms : List Member,
      (ms.filter (·.raw ∈ lightKeys)).find? (·.raw = w) = ms.find? (·.raw = w) := by
    intro w hw ms
    rw [List.find?_filter]
    congr 1
    funext m
    by_cases hm : m.raw = w <;> simp [hm, hw]
  have hsat : satBehind (ms.filter (·.raw ∈ lightKeys)) = satBehind ms := by
    have hhue : ∀ m : Member, decide (m.raw ≠ bytes "hue") = false →
        decide (m.raw ∈ lightKeys) = true := by
      intro m hm
      have hraw : m.raw = bytes "hue" := by simpa using hm
      rw [hraw]
      decide
    rw [satBehind, satBehind, dropWhile_filter hhue, hfind _ (by decide)]
  have hfalse : (∃ m ∈ ms.filter (·.raw ∈ lightKeys), bytes "false" <:+: m.text) ↔
      ∃ m ∈ ms, bytes "false" <:+: m.text := by
    constructor
    · rintro ⟨m, hm, hin⟩
      exact ⟨m, List.mem_of_mem_filter hm, hin⟩
    · rintro ⟨m, hm, hin⟩
      rcases h m hm with ⟨hraw, -⟩ | ⟨-, hinert⟩
      · exact ⟨m, List.mem_filter.mpr ⟨hm, by simpa using hraw⟩, hin⟩
      · exact absurd ((Member.infix_all_iff (by decide) m).mpr (Or.inr hin))
          (hinert.words _ (by simp))
  rw [command, command, hfind _ (by decide), hfind _ (by decide), hfind _ (by decide), hsat]
  simp only [hfalse]

lemma own_strip {l : Layout} (h : ∀ m ∈ l.members, m.Own ∨ m.Foreign) : l.strip.Own := by
  intro m hm
  obtain ⟨hmem, hraw⟩ := List.mem_filter.mp hm
  rcases h m hmem with hown | hforeign
  · exact hown
  · exact absurd (by simpa using hraw) hforeign.raw_notMem

/-- A body has the outcome of its own members when it asks for no user name and stands for what
these ask for. -/
lemma sameOutcome_strip_iff_decode {l : Layout} (h : ∀ m ∈ l.members, m.Own ∨ m.Foreign) :
    SameOutcome env l.strip.text l.text ↔
      ¬ bytes "devicetype" <:+: l.text ∧ command env l.strip.members = decode env l.text := by
  have hclear : ∀ m ∈ l.strip.members, m.Clear env := fun m hm => Or.inl (own_strip h m hm)
  rw [sameOutcome_iff (not_infix_devicetype hclear) (text_ne_nil l.strip) (text_ne_nil l),
    decode_layout hclear]

/-- Inert members change nothing. -/
lemma sameOutcome_strip {l : Layout} (h : ∀ m ∈ l.members, m.Own ∨ m.Foreign ∧ m.Inert env) :
    SameOutcome env l.strip.text l.text := by
  have hclear : ∀ m ∈ l.members, m.Clear env := fun m hm =>
    (h m hm).imp_right fun hforeign => ⟨hforeign.1.raw_notMem, hforeign.2⟩
  refine (sameOutcome_strip_iff_decode fun m hm => (h m hm).imp_right And.left).mpr
    ⟨not_infix_devicetype hclear, ?_⟩
  rw [decode_layout hclear]
  exact command_filter hclear

/-! ### Members that change something -/

/-- Where a body stands for a plain on, none of the other branches is taken. -/
lemma not_infix_of_decode_on {body : Bytes} (h : decode env body = .ok .on) :
    ∀ w ∈ [bytes "bri", bytes "hue", bytes "ct", bytes "false"], ¬ w <:+: body := by
  rw [decode] at h
  cases hbri : find (bytes "bri") body with
  | some pos =>
      rw [hbri] at h
      obtain ⟨_, -, hret⟩ := bind_ok_iff.mp h
      cases hret
  | none =>
  rw [hbri] at h
  cases hhue : find (bytes "hue") body with
  | some pos =>
      rw [hhue] at h
      obtain ⟨_, -, h⟩ := bind_ok_iff.mp h
      obtain ⟨_, -, hret⟩ := bind_ok_iff.mp h
      cases hret
  | none =>
  rw [hhue] at h
  cases hct : find (bytes "ct") body with
  | some pos =>
      rw [hct] at h
      obtain ⟨_, -, h⟩ := bind_ok_iff.mp h
      obtain ⟨_, -, hret⟩ := bind_ok_iff.mp h
      cases hret
  | none =>
  rw [hct] at h
  cases hfalse : find (bytes "false") body with
  | some pos => simp [hfalse] at h
  | none =>
      intro w hw
      simp only [List.mem_cons, List.not_mem_nil, or_false] at hw
      rcases hw with rfl | rfl | rfl | rfl
      · exact find_eq_none_iff.mp hbri
      · exact find_eq_none_iff.mp hhue
      · exact find_eq_none_iff.mp hct
      · exact find_eq_none_iff.mp hfalse

lemma plain_hue : Plain (bytes "hue") := by decide

lemma plain_sat : Plain (bytes "sat") := by decide

def hueMember (hue : UInt16) : Member := numberMember (bytes "hue") [] hue.toNat plain_hue white_nil

def satMember (sat : UInt8) : Member := numberMember (bytes "sat") [] sat.toNat plain_sat white_nil

lemma own_hueMember (hue : UInt16) : (hueMember hue).Own :=
  Member.own_of_isScalar (show bytes "hue" ∈ lightKeys by decide) rfl

lemma own_satMember (sat : UInt8) : (satMember sat).Own :=
  Member.own_of_isScalar (show bytes "sat" ∈ lightKeys by decide) rfl

lemma atoi_toDec {n : ℕ} (hn : n < 2 ^ 31) : atoi (toDec n) = n := by
  have hdec : decimal (toDec n) = n := by
    simpa using decimal_toDec_append (s := []) (by simp) n
  rw [atoi_of_mem_range (by omega) (by omega), hdec]

lemma ofInt_number_hueMember (hue : UInt16) : UInt16.ofInt (hueMember hue).number = hue := by
  have hlt := hue.toNat_lt
  have hnumber : (hueMember hue).number = hue.toNat := atoi_toDec (by omega)
  have hmod : (((hue.toNat : ℤ) % 2 ^ 16).toNat) = hue.toNat := by omega
  rw [hnumber, UInt16.ofInt, hmod, UInt16.ofNat_toNat]

lemma ofInt_number_satMember (sat : UInt8) : UInt8.ofInt (satMember sat).number = sat := by
  have hlt := sat.toNat_lt
  have hnumber : (satMember sat).number = sat.toNat := atoi_toDec (by omega)
  have hmod : (((sat.toNat : ℤ) % 2 ^ 8).toNat) = sat.toNat := by omega
  rw [hnumber, UInt8.ofInt, hmod, UInt8.ofNat_toNat]

/-- No body of own members has another outcome with members of `F` in it as well, wherever these
stand. -/
def Harmless (env : Env) (F : Set Member) : Prop :=
  ∀ l : Layout, (∀ m ∈ l.members, m.Own ∨ m.Foreign ∧ m ∈ F) →
    SameOutcome env l.strip.text l.text

section Necessity

variable {F : Set Member} {m : Member}

/-- A body of own members and one of `F` stands for what its own members ask for. -/
lemma decode_of_harmless (h : Harmless env F) (hm : m ∈ F) (hforeign : m.Foreign) {l : Layout}
    (hmem : ∀ x ∈ l.members, x.Own ∨ x = m) :
    ¬ bytes "devicetype" <:+: l.text ∧ command env l.strip.members = decode env l.text := by
  have hsame := h l fun x hx => (hmem x hx).imp_right (by rintro rfl; exact ⟨hforeign, hm⟩)
  exact (sameOutcome_strip_iff_decode fun x hx =>
    (hmem x hx).imp_right (by rintro rfl; exact hforeign)).mp hsame

/-- The body `{"on":true}` shows the words that take another branch. -/
lemma words_of_harmless (h : Harmless env F) (hm : m ∈ F) (hforeign : m.Foreign) :
    ∀ w ∈ [bytes "devicetype", bytes "bri", bytes "hue", bytes "ct", bytes "false"],
      ¬ w <:+: m.all := by
  let l : Layout := ⟨[], [], [onMember, m], [], by simp⟩
  have hmem : ∀ x ∈ l.members, x.Own ∨ x = m := by
    simp [l, own_onMember]
  have hstrip : l.strip.members = [onMember] := by
    simp [l, Layout.strip, own_onMember.1, hforeign.raw_notMem]
  obtain ⟨hdt, hdecode⟩ := decode_of_harmless h hm hforeign hmem
  have hon : decode env l.text = .ok .on := by
    rw [← hdecode, hstrip]
    rfl
  have hin : ∀ w, IsWord w → w <:+: m.all → w <:+: l.text := fun w hw hall =>
    (Layout.infix_text_iff hw l).mpr ⟨m, by simp [l], hall⟩
  intro w hw hall
  rcases List.mem_cons.mp hw with rfl | hw
  · exact hdt (hin _ (by decide) hall)
  · have hword : ∀ w ∈ [bytes "bri", bytes "hue", bytes "ct", bytes "false"], IsWord w := by
      decide
    exact not_infix_of_decode_on hon w hw (hin w (hword w hw) hall)

/-- Where a saturation is found in a member behind the hue, the number that is read does not
depend on the member behind. -/
lemma exists_atoi_drop_satMember {r : Bytes} (hr : 4 ≤ r.length) :
    ∃ v, ∀ sat, atoi ((r ++ closing [] [satMember sat]).drop 5) = v := by
  have hclosing : ∀ sat, ∃ t, closing [] [satMember sat] = 44 :: 34 :: t := fun sat => ⟨_, rfl⟩
  by_cases hlen : r.length = 4
  · refine ⟨0, fun sat => ?_⟩
    obtain ⟨t, ht⟩ := hclosing sat
    have hdrop : (r ++ 44 :: 34 :: t).drop 5 = 34 :: t := by
      rw [List.drop_append, List.drop_eq_nil_of_le (by omega), hlen]
      rfl
    rw [ht, hdrop, atoi, decimal_cons_of_not (by decide) (by decide) (by decide) (by decide)]
    rfl
  · refine ⟨atoi (r.drop 5), fun sat => atoi_eq_of_decimal ?_⟩
    obtain ⟨t, ht⟩ := hclosing sat
    rw [ht, List.drop_append_of_le_length (by omega),
      decimal_append_cons (by decide) (by decide) (by decide) (by decide)]

lemma not_infix_bri_hueMember (hue : UInt16) : ¬ bytes "bri" <:+: (hueMember hue).all :=
  fun hin => absurd (((own_hueMember hue).infix_iff (by decide)).mp hin)
    (show bytes "hue" ≠ bytes "bri" by decide)

/-- What a body with a hue stands for, given the saturation that is read. -/
lemma decode_hueMember {l : Layout} {pre post : List Member} {hue : UInt16} {sat : ℤ}
    (hl : l.members = pre ++ hueMember hue :: post)
    (hwords : ∀ x ∈ l.members, ¬ bytes "bri" <:+: x.all)
    (hpre : ∀ x ∈ pre, ¬ bytes "hue" <:+: x.all)
    (hsat : SatRead l.text
      (bytes "hue" ++ 34 :: ((hueMember hue).behind ++ closing l.trail post)) sat) :
    decode env l.text = .ok (.colour (env.hs2rgb hue (UInt8.ofInt sat))) := by
  have hword : IsWord (bytes "hue") := by decide
  have hbri : ¬ bytes "bri" <:+: l.text := by
    rw [Layout.infix_text_iff (by decide)]
    rintro ⟨x, hx, hin⟩
    exact hwords x hx hin
  have hname : seek (bytes "hue") (hueMember hue).all =
      some (bytes "hue" ++ 34 :: (hueMember hue).behind) := Member.seek_all hword
  have hseek := @seek_closing_append l.trail _ hword pre post _ _ hpre hname
  rw [← hl, ← Layout.seek_text hword, List.append_assoc, List.cons_append] at hseek
  have hread : atoi ((bytes "hue" ++ 34 :: ((hueMember hue).behind ++ closing l.trail post)).drop 5)
      = (hueMember hue).number := (hueMember hue).atoi_drop_behind (bytes "hue") l.trail post
  have hlen := (hueMember hue).add_two_le_length_takeWhile hword l.trail post
  calc decode env l.text
      = .ok (.colour (env.hs2rgb (UInt16.ofInt (atoi ((bytes "hue" ++
          34 :: ((hueMember hue).behind ++ closing l.trail post)).drop 5)))
          (UInt8.ofInt sat))) := decode_hue hbri hseek hlen hsat
    _ = .ok (.colour (env.hs2rgb hue (UInt8.ofInt sat))) := by
        rw [hread, ofInt_number_hueMember]

/-- The bodies `{"hue":_,"sat":_}`, with the member between the two, show a `sat`. -/
lemma colour_eq_of_harmless (h : Harmless env F) (hm : m ∈ F) (hforeign : m.Foreign)
    (hsat : bytes "sat" <:+: m.all) (hue : UInt16) (s s' : UInt8) :
    env.hs2rgb hue s = env.hs2rgb hue s' := by
  have hwords := words_of_harmless h hm hforeign
  obtain ⟨r, hr⟩ : ∃ r, seek (bytes "sat") m.all = some r :=
    Option.ne_none_iff_exists'.mp fun hnone => seek_eq_none_iff.mp hnone hsat
  obtain ⟨v, hv⟩ := exists_atoi_drop_satMember (four_le_of_seek_sat hr)
  -- whatever saturation is written, the same one is read
  have hread : ∀ sat, env.hs2rgb hue sat = env.hs2rgb hue (UInt8.ofInt v) := by
    intro sat
    let l : Layout := ⟨[], [], [hueMember hue, m, satMember sat], [], by simp⟩
    have hmem : ∀ x ∈ l.members, x.Own ∨ x = m := by
      simp [l, own_hueMember, own_satMember]
    have hstrip : l.strip.members = [hueMember hue, satMember sat] := by
      simp [l, Layout.strip, (own_hueMember hue).1, (own_satMember sat).1, hforeign.raw_notMem]
    obtain ⟨-, hdecode⟩ := decode_of_harmless h hm hforeign hmem
    have hcommand : command env l.strip.members = .ok (.colour (env.hs2rgb
        (UInt16.ofInt (hueMember hue).number) (UInt8.ofInt (satMember sat).number))) := by
      rw [hstrip]
      rfl
    have hbri : ∀ x ∈ l.members, ¬ bytes "bri" <:+: x.all := by
      intro x hx
      simp only [l, List.mem_cons, List.not_mem_nil, or_false] at hx
      rcases hx with rfl | rfl | rfl
      · exact not_infix_bri_hueMember hue
      · exact hwords _ (by simp)
      · exact fun hin => absurd (((own_satMember sat).infix_iff (by decide)).mp hin)
          (show bytes "sat" ≠ bytes "bri" by decide)
    have hfound : SatRead l.text (bytes "hue" ++ 34 ::
        ((hueMember hue).behind ++ closing [] [m, satMember sat])) v := by
      have hseek := seek_sat_dropWhile (own_hueMember hue) rfl (List.forall_mem_nil _)
        [m, satMember sat]
      rw [seek_closing_cons (by decide), hr] at hseek
      rw [SatRead, hseek]
      refine ⟨?_, (hv sat).symm⟩
      have hlen := four_le_of_seek_sat hr
      obtain ⟨c, t, hct, -⟩ := closing_head [] [satMember sat]
      rw [hct, List.length_append, List.length_cons]
      omega
    have hl : l.members = [] ++ hueMember hue :: [m, satMember sat] := rfl
    rw [hcommand, decode_hueMember hl hbri (List.forall_mem_nil _) hfound,
      ofInt_number_hueMember, ofInt_number_satMember, Except.ok.injEq,
      Command.colour.injEq] at hdecode
    exact hdecode
  rw [hread s, hread s']

/-- The bodies with the member in front of a hue show a number at its first places, each behind
its own white space. -/
lemma front_of_harmless (h : Harmless env F) (hm : m ∈ F) (hforeign : m.Foreign) :
    NoSaturation env 3 m.all := by
  have hwords := words_of_harmless h hm hforeign
  intro j hj hue
  let l : Layout := ⟨List.replicate (3 - j) 32, [], [m, hueMember hue], [], by
    intro c hc
    simp only [List.append_nil, List.mem_replicate] at hc
    rw [hc.2]
    rfl⟩
  have hmem : ∀ x ∈ l.members, x.Own ∨ x = m := by
    simp [l, own_hueMember]
  have hstrip : l.strip.members = [hueMember hue] := by
    simp [l, Layout.strip, (own_hueMember hue).1, hforeign.raw_notMem]
  obtain ⟨-, hdecode⟩ := decode_of_harmless h hm hforeign hmem
  have hcommand : command env l.strip.members = .ok (.colour (env.hs2rgb
      (UInt16.ofInt (hueMember hue).number) 0)) := by
    rw [hstrip]
    rfl
  have hbri : ∀ x ∈ l.members, ¬ bytes "bri" <:+: x.all := by
    intro x hx
    rcases List.mem_pair.mp hx with rfl | rfl
    · exact hwords _ (by simp)
    · exact not_infix_bri_hueMember hue
  have hhue : ∀ x ∈ [m], ¬ bytes "hue" <:+: x.all := by
    simpa using hwords (bytes "hue") (by simp)
  have hfound : SatRead l.text (bytes "hue" ++ 34 :: ((hueMember hue).behind ++ closing [] []))
      (atoi (l.text.drop 4)) := by
    have hseek := seek_sat_dropWhile (own_hueMember hue) rfl (List.forall_mem_nil _) []
    have hnone : seek (bytes "sat") (closing [] []) = none := rfl
    rw [SatRead, hseek, hnone]
  -- the fifth place of the text is the one behind `j` bytes of the member
  have hplace : atoi (l.text.drop 4) = atoi (m.all.drop j) := by
    have htext : l.text = List.replicate (3 - j) 32 ++ 123 ::
        (m.all ++ closing [] [hueMember hue]) := by
      rw [← membersText_append_closing]
      rfl
    obtain ⟨t, ht⟩ : ∃ t, closing [] [hueMember hue] = 44 :: t := ⟨_, rfl⟩
    have hlen := m.three_lt_length_all
    have hdrop : l.text.drop 4 = m.all.drop j ++ 44 :: t := by
      rw [htext, List.drop_append, List.drop_eq_nil_of_le (by simp; omega), List.length_replicate,
        show 4 - (3 - j) = j + 1 by omega, List.nil_append, List.drop_succ_cons, ht,
        List.drop_append_of_le_length (by omega)]
    rw [hdrop]
    exact atoi_eq_of_decimal
      (decimal_append_cons (by decide) (by decide) (by decide) (by decide) _ _)
  have hl : l.members = [m] ++ hueMember hue :: [] := rfl
  rw [hcommand, decode_hueMember hl hbri hhue hfound, ofInt_number_hueMember, hplace,
    Except.ok.injEq, Command.colour.injEq] at hdecode
  exact hdecode.symm

end Necessity

/-- **Further members**: those of `F` may stand anywhere in every body of own members without a
difference exactly when they are all inert. -/
theorem sameOutcome_strip_iff (env : Env) (F : Set Member) :
    Harmless env F ↔ ∀ m ∈ F, m.Foreign → m.Inert env := by
  constructor
  · intro h m hm hforeign
    exact ⟨words_of_harmless h hm hforeign, fun hsat => colour_eq_of_harmless h hm hforeign hsat,
      front_of_harmless h hm hforeign⟩
  · intro h l hl
    exact sameOutcome_strip fun m hm =>
      (hl m hm).imp_right fun hforeign => ⟨hforeign.1, h m hforeign.2 hforeign.1⟩

/-- An effect, whose name contains `ct`, and a switch of another kind, whose value is `false`. -/
theorem not_sameOutcome_effect :
    (Json.decode (bytes "\x7b\"on\":true,\"effect\":\"none\"\x7d") = some (.object
        [(bytes "on", .bool true), (bytes "effect", .string (bytes "none"))]) ∧
      ¬ SameOutcome homeEnv (bytes "\x7b\"on\":true\x7d")
        (bytes "\x7b\"on\":true,\"effect\":\"none\"\x7d")) ∧
      Json.decode (bytes "\x7b\"on\":true,\"loop\":false\x7d") = some (.object
        [(bytes "on", .bool true), (bytes "loop", .bool false)]) ∧
      ¬ SameOutcome homeEnv (bytes "\x7b\"on\":true\x7d")
        (bytes "\x7b\"on\":true,\"loop\":false\x7d") := by
  have hdt : ¬ bytes "devicetype" <:+: bytes "\x7b\"on\":true\x7d" := by decide
  have hon : decode homeEnv (bytes "\x7b\"on\":true\x7d") = .ok .on := rfl
  refine ⟨⟨rfl, fun h => ?_⟩, rfl, fun h => ?_⟩
  · have heq := ((sameOutcome_iff hdt (by decide) (by decide)).mp h).2
    exact not_infix_of_decode_on (heq.symm.trans hon) (bytes "ct") (by simp) (by decide)
  · have heq := ((sameOutcome_iff hdt (by decide) (by decide)).mp h).2
    exact not_infix_of_decode_on (heq.symm.trans hon) (bytes "false") (by simp) (by decide)

end FauxmoLinux
