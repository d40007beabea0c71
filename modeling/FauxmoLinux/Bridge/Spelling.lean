import FauxmoLinux.Bridge.Body
import FauxmoLinux.Bridge.Description
import FauxmoLinux.Bridge.Effect

/-!
What a body asks for, and what does not depend on how it is written.

* `Member.Own`, `Member.Inert`, `command`, `decode_layout`: what a body asks for, member by
  member, when the names of the members that ask something stand in no others;
* `SameOutcome`, `sameOutcome_iff`: two bodies that no request tells apart;
* `Rearranged`, `Agree`, `sameOutcome_rearranged_iff`: members in another order and with other
  white space, and what of it decides.
-/

namespace FauxmoLinux

open Json

variable {env : Env}

/-! ### Members that are not confused with others -/

/-- The names of the members that ask something of a light. -/
def lightKeys : List Bytes :=
  [bytes "on", bytes "bri", bytes "hue", bytes "sat", bytes "ct"]

lemma plain_of_mem_lightKeys : ∀ k ∈ lightKeys, Plain k := by decide

namespace Json.Member

/-- A member that asks something of a light, under its name as it is, and whose value contains
none of the words. -/
def Own (m : Member) : Prop := m.raw ∈ lightKeys ∧ ∀ w ∈ keywords, ¬ w <:+: m.text

instance (m : Member) : Decidable m.Own := inferInstanceAs (Decidable (_ ∧ _))

/-- A number, a truth value and `null` contain none of the words. -/
lemma own_of_isScalar {m : Member} (hraw : m.raw ∈ lightKeys)
    (hvalue : m.value.isScalar = true) : m.Own := by
  refine ⟨hraw, fun w hw hin => ?_⟩
  have hwords : ∀ w ∈ keywords, ¬ w <:+: bytes "true" ∧ ¬ w <:+: bytes "false" ∧
      ¬ w <:+: bytes "null" ∧ ∃ c ∈ w, isNumeral c = false := by decide
  obtain ⟨htrue, hfalse, hnull, c, hc, hnot⟩ := hwords w hw
  rcases m.reads.scalar hvalue with heq | heq | heq | hnum
  · exact htrue (heq ▸ hin)
  · exact hfalse (heq ▸ hin)
  · exact hnull (heq ▸ hin)
  · rw [hnum c (hin.subset hc)] at hnot
    cases hnot

/-- A word stands in an own member only as its name. -/
lemma Own.infix_iff {m : Member} (h : m.Own) {w : Bytes} (hw : w ∈ keywords) :
    w <:+: m.all ↔ m.raw = w := by
  have hnames : ∀ w ∈ keywords, ∀ k ∈ lightKeys, w <:+: k → k = w := by decide
  rw [infix_all_iff (isWord_of_mem_keywords w hw)]
  constructor
  · rintro (hraw | htext)
    · exact hnames w hw m.raw h.1 hraw
    · exact absurd htext (h.2 w hw)
  · rintro rfl
    exact Or.inl (List.infix_refl _)

end Json.Member

/-- Whatever number is read at one of the first places of a text makes the colour that the
saturation `0` makes. -/
def NoSaturation (env : Env) (n : ℕ) (s : Bytes) : Prop :=
  ∀ j ≤ n, ∀ hue, env.hs2rgb hue (UInt8.ofInt (atoi (s.drop j))) = env.hs2rgb hue 0

namespace Json.Member

/-- A member that no branch sees: its text contains none of the words the branches look for, or
only `sat` where no saturation makes a difference, and shows no saturation at its first
places. -/
structure Inert (env : Env) (m : Member) : Prop where
  words : ∀ w ∈ [bytes "devicetype", bytes "bri", bytes "hue", bytes "ct", bytes "false"],
    ¬ w <:+: m.all
  sat : bytes "sat" <:+: m.all → ∀ hue s s', env.hs2rgb hue s = env.hs2rgb hue s'
  front : NoSaturation env 3 m.all

end Json.Member

/-- The number of the saturation, `0` when it does not stand behind the hue. -/
def satBehind (ms : List Member) : ℤ :=
  match (ms.dropWhile (·.raw ≠ bytes "hue")).find? (·.raw = bytes "sat") with
  | some m => m.number
  | none => 0

/-- What a body asks for, member by member. -/
def command (env : Env) (ms : List Member) : Except Fault Command :=
  match ms.find? (·.raw = bytes "bri") with
  | some m => .ok (.bri (UInt8.ofInt m.number))
  | none =>
  match ms.find? (·.raw = bytes "hue") with
  | some m => .ok (.colour (env.hs2rgb (UInt16.ofInt m.number) (UInt8.ofInt (satBehind ms))))
  | none =>
  match ms.find? (·.raw = bytes "ct") with
  | some m => (ct2rgb env (UInt16.ofInt m.number)).map .colour
  | none => .ok (if ∃ m ∈ ms, bytes "false" <:+: m.text then .off else .on)

/-! ### Numbers at the first places -/

lemma noSaturation_append {n : ℕ} {u : Bytes} (hn : n < u.length)
    (hu : ∀ c ∈ u, isSpace c = false ∧ isDigit c = false ∧ c ≠ 45 ∧ c ≠ 43) (t : Bytes) :
    NoSaturation env n (u ++ t) := by
  intro j hj hue
  obtain ⟨c, u', hdrop⟩ : ∃ c u', u.drop j = c :: u' :=
    List.exists_cons_of_ne_nil fun hnil => by
      have hlen := List.drop_eq_nil_iff.mp hnil
      omega
  obtain ⟨hspace, hdigit, hminus, hplus⟩ :=
    hu c (List.mem_of_mem_drop (hdrop ▸ List.mem_cons_self))
  rw [List.drop_append_of_le_length (by omega), hdrop, List.cons_append, atoi,
    decimal_cons_of_not hspace hdigit hminus hplus]
  rfl

namespace NoSaturation

variable {n : ℕ} {s : Bytes}

/-- White space only moves the places. -/
lemma white (h : NoSaturation env n s) {gap : Bytes} (hgap : ∀ c ∈ gap, isWhite c = true) :
    NoSaturation env n (gap ++ s) := by
  induction gap with
  | nil => exact h
  | cons c gap ih =>
      have htail := ih fun d hd => hgap d (List.mem_cons_of_mem _ hd)
      intro j hj hue
      cases j with
      | zero =>
          have hspace : ∀ d ∈ [c], isSpace d = true := by
            simpa using isSpace_of_isWhite (hgap c List.mem_cons_self)
          have hskip : atoi (c :: (gap ++ s)) = atoi (gap ++ s) :=
            atoi_eq_of_decimal (decimal_append_of_space hspace (gap ++ s))
          rw [List.drop_zero, List.cons_append, hskip]
          exact htail 0 (Nat.zero_le n) hue
      | succ j => exact htail j (by omega) hue

/-- A brace shows no number, and the places behind it are one further on. -/
lemma brace (h : NoSaturation env n s) : NoSaturation env (n + 1) (123 :: s) := by
  intro j hj hue
  cases j with
  | zero =>
      rw [List.drop_zero, atoi,
        decimal_cons_of_not (by decide) (by decide) (by decide) (by decide)]
      rfl
  | succ j => exact h j (by omega) hue

/-- What follows a comma or a brace is not read. -/
lemma append_cons (h : NoSaturation env n s) (hn : n < s.length) {c : UInt8}
    (hc : c = 44 ∨ c = 125) (t : Bytes) : NoSaturation env n (s ++ c :: t) := by
  intro j hj hue
  have hread : atoi (s.drop j ++ c :: t) = atoi (s.drop j) := atoi_eq_of_decimal (by
    rcases hc with rfl | rfl <;>
      exact decimal_append_cons (by decide) (by decide) (by decide) (by decide) _ _)
  rw [List.drop_append_of_le_length (by omega), hread]
  exact h j hj hue

end NoSaturation

namespace Json.Member

lemma three_lt_length_all (m : Member) : 3 < m.all.length := by
  obtain ⟨b, t, htext, -⟩ := m.reads.head
  rw [all_eq, behind, htext]
  simp
  omega

/-- A member that is own or inert. -/
def Clear (env : Env) (m : Member) : Prop := m.Own ∨ m.raw ∉ lightKeys ∧ m.Inert env

namespace Clear

variable {m : Member}

lemma front (h : m.Clear env) : NoSaturation env 3 m.all := by
  rcases h with ⟨hraw, -⟩ | ⟨-, h⟩
  · -- the name, its quotes included, is long enough
    have hname : ∀ k ∈ lightKeys, 3 < (34 :: (k ++ [34])).length ∧
        ∀ c ∈ 34 :: (k ++ [34]), isSpace c = false ∧ isDigit c = false ∧ c ≠ 45 ∧ c ≠ 43 := by
      decide
    obtain ⟨hlen, hchars⟩ := hname m.raw hraw
    have hall : m.all = m.before ++ (34 :: (m.raw ++ [34]) ++ m.behind) := by
      rw [all_eq]
      simp
    rw [hall]
    exact (noSaturation_append hlen hchars m.behind).white m.white_before
  · exact h.front

/-- The words that choose the branch are names of own members and stand nowhere else. -/
lemma infix_iff (h : m.Clear env) {w : Bytes}
    (hw : w ∈ [bytes "devicetype", bytes "bri", bytes "hue", bytes "ct"]) :
    w <:+: m.all ↔ m.raw = w := by
  have hkey := mem_keywords_of_ne_sat hw
  rcases h with h | ⟨-, h⟩
  · exact h.infix_iff hkey
  · have hnot : ¬ w <:+: m.all := h.words w (by
      simp only [List.mem_cons, List.not_mem_nil, or_false] at hw ⊢
      tauto)
    refine ⟨fun hin => absurd hin hnot, ?_⟩
    rintro rfl
    exact (infix_all_iff (isWord_of_mem_keywords _ hkey) m).mpr (Or.inl (List.infix_refl _))

/-- So is `sat`, where saturations make a difference. -/
lemma infix_sat_iff (h : m.Clear env)
    (hsat : ¬ ∀ hue s s', env.hs2rgb hue s = env.hs2rgb hue s') :
    bytes "sat" <:+: m.all ↔ m.raw = bytes "sat" := by
  have hkey : bytes "sat" ∈ keywords := by decide
  rcases h with h | ⟨-, h⟩
  · exact h.infix_iff hkey
  · refine ⟨fun hin => absurd (h.sat hin) hsat, fun hraw => ?_⟩
    exact (infix_all_iff (isWord_of_mem_keywords _ hkey) m).mpr (Or.inl ⟨[], [], by simp [hraw]⟩)

lemma infix_false_iff (h : m.Clear env) :
    bytes "false" <:+: m.all ↔ bytes "false" <:+: m.text := by
  have hnames : ∀ k ∈ lightKeys, ¬ bytes "false" <:+: k := by decide
  rw [infix_all_iff (by decide)]
  refine or_iff_right_of_imp fun hraw => ?_
  rcases h with ⟨hkey, -⟩ | ⟨-, h⟩
  · exact absurd hraw (hnames m.raw hkey)
  · exact absurd ((infix_all_iff (by decide) m).mpr (Or.inl hraw))
      (h.words (bytes "false") (by simp))

end Clear

end Json.Member

/-- Where the first member is own or inert, what is read at the fifth place of the text is no
saturation. -/
lemma noSaturation_text {l : Layout} {m : Member} {ms : List Member} (hl : l.members = m :: ms)
    (hm : m.Clear env) : NoSaturation env 4 l.text := by
  obtain ⟨c, t, hct, hc⟩ := closing_head l.trail ms
  have hfront := hm.front.append_cons m.three_lt_length_all hc t
  rw [Layout.text, hl, membersText_append_closing, hct]
  exact (hfront.white l.white_inner).brace.white l.white_lead

/-! ### What a body asks for -/

lemma satBehind_append {pre post : List Member} {m : Member}
    (hpre : ∀ x ∈ pre, x.raw ≠ bytes "hue") (hm : m.raw = bytes "hue") :
    satBehind (pre ++ m :: post) =
      match post.find? (·.raw = bytes "sat") with
      | some x => x.number
      | none => 0 := by
  have hdrop : (pre ++ m :: post).dropWhile (·.raw ≠ bytes "hue") = m :: post := by
    rw [List.dropWhile_append_of_pos fun x hx => by simpa using hpre x hx,
      List.dropWhile_cons_of_neg (by simp [hm])]
  have hne : bytes "hue" ≠ bytes "sat" := by decide
  rw [satBehind, hdrop, List.find?_cons_of_neg (by simpa [hm] using hne)]

/-- Behind a `sat` that is found in a member there is more of that member. -/
lemma four_le_of_seek_sat {m : Member} {r : Bytes} (h : seek (bytes "sat") m.all = some r) :
    4 ≤ r.length := by
  obtain ⟨⟨t, rfl⟩, hsuffix⟩ := seek_eq_some h
  cases t with
  | nil =>
      rw [List.append_nil] at hsuffix
      have hend : ¬ IsEnd 116 := by simp [IsEnd, isNumeral, isDigit]
      exact absurd hsuffix (@Member.not_suffix_all (bytes "sa") 116 hend rfl m)
  | cons c t =>
      have hlen : (bytes "sat").length = 3 := rfl
      rw [List.length_append, hlen, List.length_cons]
      omega

/-- Behind a hue the saturation is looked for in the members that follow. -/
lemma seek_sat_dropWhile {m : Member} (hown : m.Own) (hm : m.raw = bytes "hue") {trail : Bytes}
    (htrail : ∀ c ∈ trail, isWhite c = true) (ms : List Member) :
    seek (bytes "sat") ((bytes "hue" ++ 34 :: (m.behind ++ closing trail ms)).dropWhile (· ≠ 44)) =
      seek (bytes "sat") (closing trail ms) := by
  have hall : ¬ bytes "sat" <:+: m.all := fun hin =>
    absurd (hm.symm.trans ((hown.infix_iff (by decide)).mp hin)) (by decide)
  have hnot : ¬ bytes "sat" <:+: bytes "hue" ++ 34 :: m.behind := by
    refine fun hin => hall (hin.trans ?_)
    rw [Member.all_eq, hm]
    exact (List.suffix_cons 34 _).isInfix.trans (List.suffix_append m.before _).isInfix
  have hseek := seek_dropWhile_closing (by decide : IsWord (bytes "sat")) htrail hnot ms
  rwa [List.append_assoc, List.cons_append] at hseek

/-- The saturation the branch on `hue` reads makes the colour of that behind the hue. -/
lemma exists_satRead {l : Layout} (h : ∀ m ∈ l.members, m.Clear env) {pre post : List Member}
    {m : Member} (hl : l.members = pre ++ m :: post) (hpre : ∀ x ∈ pre, x.raw ≠ bytes "hue")
    (hm : m.raw = bytes "hue") :
    ∃ sat, SatRead l.text (bytes "hue" ++ 34 :: (m.behind ++ closing l.trail post)) sat ∧
      ∀ hue, env.hs2rgb hue (UInt8.ofInt sat) =
        env.hs2rgb hue (UInt8.ofInt (satBehind l.members)) := by
  have hword : IsWord (bytes "sat") := by decide
  have hpost : ∀ x ∈ post, x.Clear env := fun x hx => h x (by simp [hl, hx])
  have hown : m.Own := by
    rcases h m (by simp [hl]) with hown | ⟨hraw, -⟩
    · exact hown
    · exact absurd (hm ▸ by decide) hraw
  have hseek := seek_sat_dropWhile hown hm l.white_trail post
  rw [hl, satBehind_append hpre hm]
  cases hs : seek (bytes "sat") (closing l.trail post) with
  | none =>
      -- what stands at the fifth place is read instead
      have hall := (seek_closing_eq_none_iff hword l.white_trail).mp hs
      have hfind : post.find? (·.raw = bytes "sat") = none :=
        List.find?_eq_none.mpr fun x hx hraw => by
          have hraw' : x.raw = bytes "sat" := by simpa using hraw
          exact hall x hx ((Member.infix_all_iff hword x).mpr (Or.inl ⟨[], [], by simp [hraw']⟩))
      refine ⟨atoi (l.text.drop 4), by rw [SatRead, hseek, hs], fun hue => ?_⟩
      rw [hfind]
      obtain ⟨x, ms, hx⟩ := List.exists_cons_of_ne_nil (show l.members ≠ [] by simp [hl])
      exact noSaturation_text hx (h x (by simp [hx])) 4 le_rfl hue
  | some q =>
      obtain ⟨x, hx, r, post', hr, hq⟩ := seek_closing_eq_some hword l.white_trail hs
      have hlen : 5 ≤ q.length := by
        obtain ⟨c, t, hct, -⟩ := closing_head l.trail post'
        have hfour := four_le_of_seek_sat hr
        rw [hq, hct, List.length_append, List.length_cons]
        omega
      refine ⟨atoi (q.drop 5), by rw [SatRead, hseek, hs]; exact ⟨hlen, rfl⟩, fun hue => ?_⟩
      by_cases hsat : ∀ hue s s', env.hs2rgb hue s = env.hs2rgb hue s'
      · exact hsat _ _ _
      have hiff : ∀ x ∈ post, bytes "sat" <:+: x.all ↔ x.raw = bytes "sat" := fun x hx =>
        (hpost x hx).infix_sat_iff hsat
      cases hfind : post.find? (·.raw = bytes "sat") with
      | none =>
          rw [seek_closing_of_find_none hword l.white_trail hiff hfind] at hs
          cases hs
      | some y =>
          obtain ⟨_, post₂, -, -, -, hy⟩ := seek_closing_of_find hword hiff hfind
          obtain rfl := Option.some.inj (hs.symm.trans hy)
          have hread : atoi ((bytes "sat" ++ 34 :: (y.behind ++ closing l.trail post₂)).drop 5) =
              y.number := y.atoi_drop_behind (bytes "sat") l.trail post₂
          rw [hread]

/-- The branches find the member of the name they look for. -/
lemma seek_of_find {l : Layout} (h : ∀ m ∈ l.members, m.Clear env) {w : Bytes}
    (hw : w ∈ [bytes "devicetype", bytes "bri", bytes "hue", bytes "ct"]) {m : Member}
    (hm : l.members.find? (·.raw = w) = some m) :
    ∃ pre post, l.members = pre ++ m :: post ∧ (∀ x ∈ pre, x.raw ≠ w) ∧ m.raw = w ∧
      seek w l.text = some (w ++ 34 :: (m.behind ++ closing l.trail post)) := by
  have hword := isWord_of_mem_keywords w (mem_keywords_of_ne_sat hw)
  rw [Layout.seek_text hword]
  exact seek_closing_of_find hword (fun x hx => (h x hx).infix_iff hw) hm

lemma not_infix_of_find_none {l : Layout} (h : ∀ m ∈ l.members, m.Clear env) {w : Bytes}
    (hw : w ∈ [bytes "devicetype", bytes "bri", bytes "hue", bytes "ct"])
    (hm : l.members.find? (·.raw = w) = none) : ¬ w <:+: l.text := by
  have hword := isWord_of_mem_keywords w (mem_keywords_of_ne_sat hw)
  rw [← seek_eq_none_iff, Layout.seek_text hword]
  exact seek_closing_of_find_none hword l.white_trail (fun x hx => (h x hx).infix_iff hw) hm

/-- **What a body asks for**: where every member is own or inert, the branches read the members
they look for, whatever the order and the white space. -/
theorem decode_layout {l : Layout} (h : ∀ m ∈ l.members, m.Clear env) :
    decode env l.text = command env l.members := by
  rw [command]
  cases hbri : l.members.find? (·.raw = bytes "bri") with
  | some m =>
      obtain ⟨pre, post, -, -, -, hseek⟩ := seek_of_find h (by simp) hbri
      have hread : atoi ((bytes "bri" ++ 34 :: (m.behind ++ closing l.trail post)).drop 5) =
          m.number := m.atoi_drop_behind (bytes "bri") l.trail post
      rw [decode_bri hseek (m.add_two_le_length (bytes "bri") l.trail post), hread]
  | none =>
  have hbri' := not_infix_of_find_none h (by simp) hbri
  cases hhue : l.members.find? (·.raw = bytes "hue") with
  | some m =>
      obtain ⟨pre, post, hl, hpre, hm, hseek⟩ := seek_of_find h (by simp) hhue
      obtain ⟨sat, hsat, hcolour⟩ := exists_satRead h hl hpre hm
      have hread : atoi ((bytes "hue" ++ 34 :: (m.behind ++ closing l.trail post)).drop 5) =
          m.number := m.atoi_drop_behind (bytes "hue") l.trail post
      have hlen := m.add_two_le_length_takeWhile (by decide : IsWord (bytes "hue")) l.trail post
      calc decode env l.text
          = .ok (.colour (env.hs2rgb (UInt16.ofInt (atoi ((bytes "hue" ++
              34 :: (m.behind ++ closing l.trail post)).drop 5))) (UInt8.ofInt sat))) :=
            decode_hue hbri' hseek hlen hsat
        _ = .ok (.colour (env.hs2rgb (UInt16.ofInt m.number) (UInt8.ofInt sat))) := by
            rw [hread]
        _ = .ok (.colour (env.hs2rgb (UInt16.ofInt m.number)
              (UInt8.ofInt (satBehind l.members)))) := by
            rw [hcolour]
  | none =>
  have hhue' := not_infix_of_find_none h (by simp) hhue
  cases hct : l.members.find? (·.raw = bytes "ct") with
  | some m =>
      obtain ⟨pre, post, -, -, -, hseek⟩ := seek_of_find h (by simp) hct
      have hread : atoi ((bytes "ct" ++ 34 :: (m.behind ++ closing l.trail post)).drop 4) =
          m.number := m.atoi_drop_behind (bytes "ct") l.trail post
      rw [decode_ct hbri' hhue' hseek (m.add_two_le_length (bytes "ct") l.trail post), hread]
  | none =>
      have hct' := not_infix_of_find_none h (by simp) hct
      have hfalse : bytes "false" <:+: l.text ↔ ∃ m ∈ l.members, bytes "false" <:+: m.text := by
        rw [Layout.infix_text_iff (by decide)]
        exact exists_congr fun m => and_congr_right fun hm => (h m hm).infix_false_iff
      rw [decode_rest hbri' hhue' hct']
      simp only [hfalse]

/-! ### The same outcome -/

/-- On every store, a request for one of its lights does with the one body what it does with the
other: the devices, the responses and the callbacks are the same, or the fault is. -/
def SameOutcome (env : Env) (body body' : Bytes) : Prop :=
  ∀ callback devices url, AddressesLight devices url body →
    onTCPControl env callback devices url body = onTCPControl env callback devices url body'

/-- The target depends on the body only in that it is a state request. -/
lemma target_congr {url body body' : Bytes} (h : IsStateRequest url body)
    (h' : IsStateRequest url body') : target url body = target url body' := by
  rw [target, if_pos h, target, if_pos h']

/-- **Bodies have the same outcome when they stand for the same command.** -/
lemma sameOutcome_iff {body body' : Bytes} (hdt : ¬ bytes "devicetype" <:+: body)
    (hne : body ≠ []) (hne' : body' ≠ []) :
    SameOutcome env body body' ↔
      ¬ bytes "devicetype" <:+: body' ∧ decode env body = decode env body' := by
  have hnone := find_eq_none_iff.mpr hdt
  have hpos : body.length > 0 := List.length_pos_iff.mpr hne
  have hpos' : body'.length > 0 := List.length_pos_iff.mpr hne'
  constructor
  · intro h
    have hs : IsStateRequest (bytes "/api/u/lights/1/state") body := ⟨hnone, by decide, hpos⟩
    have ht : target (bytes "/api/u/lights/1/state") body = .ok (some 0) := by
      rw [target, if_pos hs]
      rfl
    have hget : ∀ d : Device, [d][(0 : UInt8).toNat]? = some d := fun d => rfl
    have hrun : ∀ d : Device, onTCPControl env true [d] (bytes "/api/u/lights/1/state") body =
        onTCPControl env true [d] (bytes "/api/u/lights/1/state") body' := fun d =>
      h true [d] _ ⟨0, d, ht, hget d⟩
    have hdt' : find (bytes "devicetype") body' = none := by
      -- an answer to a device type calls nobody back
      by_contra hfind
      have hlamp := hrun lamp
      rw [onTCPControl_of_target ht (hget lamp), onTCPControl, if_pos hfind] at hlamp
      cases hc : decode env body with
      | error e =>
          rw [hc] at hlamp
          cases hlamp
      | ok c =>
          rw [hc] at hlamp
          have hevents := congrArg (fun o => o.events.length) (Except.ok.inj hlamp)
          simp [stateEvents, sendTCPResponse] at hevents
    refine ⟨find_eq_none_iff.mp hdt', ?_⟩
    have hs' : IsStateRequest (bytes "/api/u/lights/1/state") body' := ⟨hdt', by decide, hpos'⟩
    have : Nonempty Device := ⟨lamp⟩
    refine eq_of_map_eq (f := fun d c => (⟨[d].modify 0 (Command.apply c),
      stateEvents true 0 (c.apply d), true⟩ : Outcome)) (fun c c' h => ?_) fun d => ?_
    · refine Command.eq_of_apply fun d => ?_
      exact (List.cons.inj (congrArg Outcome.devices (h d))).1
    · have hd := hrun d
      rwa [onTCPControl_of_target ht (hget d),
        onTCPControl_of_target ((target_congr hs hs') ▸ ht) (hget d)] at hd
  · rintro ⟨hdt', hdecode⟩ callback devices url ⟨id, d, ht, hd⟩
    have hs := isStateRequest_of_target ht
    have hs' : IsStateRequest url body' := ⟨find_eq_none_iff.mpr hdt', hs.2.1, hpos'⟩
    rw [onTCPControl_of_target ht hd, hdecode,
      onTCPControl_of_target ((target_congr hs hs') ▸ ht) hd]

/-! ### Order and white space -/

/-- Two ways to write the members of an object: their names and the texts of their values are the
same, and their order and the white space around them are free. -/
def Rearranged (ms ms' : List Member) : Prop :=
  (ms.map fun m => (m.raw, m.text)).Perm (ms'.map fun m => (m.raw, m.text))

namespace Rearranged

variable {ms ms' : List Member}

lemma symm (h : Rearranged ms ms') : Rearranged ms' ms := List.Perm.symm h

lemma raw (h : Rearranged ms ms') : (ms.map Member.raw).Perm (ms'.map Member.raw) := by
  simpa [List.map_map, Function.comp_def] using h.map Prod.fst

/-- The members of rearranged objects are the same. -/
lemma members (h : Rearranged ms ms') :
    (ms.map fun m => (m.key, m.value)).Perm (ms'.map fun m => (m.key, m.value)) := by
  classical
  -- the texts determine what they stand for
  have hunique : ∀ m m' : Member, (m.raw, m.text) = (m'.raw, m'.text) →
      (m.key, m.value) = (m'.key, m'.value) := by
    intro m m' heq
    obtain ⟨hraw, htext⟩ := Prod.mk.inj heq
    have hkey : m.key = m'.key := by
      have hcontent := m.content
      rw [hraw] at hcontent
      exact (Prod.mk.inj (Except.ok.inj (hcontent.symm.trans m'.content))).2
    have hvalue : m.value = m'.value := by
      have hm := m.reads m.text.length le_rfl [] (by simp)
      have hm' := m'.reads m'.text.length le_rfl [] (by simp)
      rw [htext] at hm
      exact (Prod.mk.inj (Option.some.inj (hm.symm.trans hm'))).1
    rw [hkey, hvalue]
  let entry : Bytes × Bytes → Bytes × Json := fun p =>
    if hp : ∃ m : Member, (m.raw, m.text) = p then (hp.choose.key, hp.choose.value)
    else (p.1, .null)
  have hentry : ∀ m : Member, entry (m.raw, m.text) = (m.key, m.value) := by
    intro m
    have hp : ∃ m' : Member, (m'.raw, m'.text) = (m.raw, m.text) := ⟨m, rfl⟩
    exact (dif_pos hp).trans (hunique _ _ hp.choose_spec)
  simpa [List.map_map, Function.comp_def, hentry] using h.map entry

/-- A member has a counterpart of its name, with the same text. -/
lemma find (h : Rearranged ms ms') (hnodup : (ms.map Member.raw).Nodup) {w : Bytes} {m : Member}
    (hm : ms.find? (·.raw = w) = some m) :
    ∃ m', ms'.find? (·.raw = w) = some m' ∧ m'.text = m.text := by
  have hnodup' : (ms'.map Member.raw).Nodup := h.raw.nodup_iff.mp hnodup
  have hraw : m.raw = w := by simpa using List.find?_some hm
  have hpair : (m.raw, m.text) ∈ ms'.map fun m => (m.raw, m.text) :=
    h.subset (List.mem_map_of_mem (List.mem_of_find?_eq_some hm))
  obtain ⟨x, hx, heq⟩ := List.mem_map.mp hpair
  obtain ⟨hxraw, hxtext⟩ := Prod.mk.inj heq
  cases hm' : ms'.find? (·.raw = w) with
  | none =>
      have hne := List.find?_eq_none.mp hm' x hx
      exact absurd (by simpa using hxraw.trans hraw) hne
  | some m' =>
      have hraw' : m'.raw = w := by simpa using List.find?_some hm'
      have hsame : m' = x := List.inj_on_of_nodup_map hnodup' (List.mem_of_find?_eq_some hm') hx
        (hraw'.trans (hxraw.trans hraw).symm)
      exact ⟨m', rfl, hsame ▸ hxtext⟩

lemma find_none (h : Rearranged ms ms') (hnodup : (ms.map Member.raw).Nodup) {w : Bytes}
    (hm : ms.find? (·.raw = w) = none) : ms'.find? (·.raw = w) = none := by
  cases hm' : ms'.find? (·.raw = w) with
  | none => rfl
  | some m' =>
      obtain ⟨m, hsome, -⟩ := h.symm.find (h.raw.nodup_iff.mp hnodup) hm'
      rw [hsome] at hm
      cases hm

/-- Where one of the values has a text in it, one of the others has. -/
lemma exists_infix_iff (h : Rearranged ms ms') (w : Bytes) :
    (∃ m ∈ ms, w <:+: m.text) ↔ ∃ m ∈ ms', w <:+: m.text := by
  have htexts : (ms.map Member.text).Perm (ms'.map Member.text) := by
    simpa [List.map_map, Function.comp_def] using List.Perm.map Prod.snd h
  have hmap : ∀ ms : List Member, (∃ m ∈ ms, w <:+: m.text) ↔
      ∃ t ∈ ms.map Member.text, w <:+: t := by simp
  rw [hmap, hmap]
  simp only [htexts.mem_iff]

end Rearranged

/-- The numbers of two members with the same text are the same where both colons follow the names
at once, or neither does, or where the number itself counts as `0`. -/
lemma number_congr_iff {β : Type} {f : ℤ → β} {k : ℤ} (hf : ∀ n, f n = f 0 ↔ k ∣ n)
    {m m' : Member} (htext : m'.text = m.text) :
    f m.number = f m'.number ↔ ((m.colon = [] ↔ m'.colon = []) ∨ k ∣ atoi m.text) := by
  rw [Member.number, Member.number, htext]
  by_cases hm : m.colon = []
  · by_cases hm' : m'.colon = []
    · simp [hm, hm']
    · simp [hm, hm', hf]
  · by_cases hm' : m'.colon = []
    · rw [if_neg hm, if_pos hm', eq_comm, hf]
      simp [hm, hm']
    · simp [hm, hm']

lemma ct2rgb_ofInt_eq_iff (n : ℤ) : (ct2rgb env (UInt16.ofInt n)).map Command.colour =
    (ct2rgb env (UInt16.ofInt 0)).map Command.colour ↔ (65536 : ℤ) ∣ n := by
  have hzero : ct2rgb env (UInt16.ofInt 0) = .error .divByZero := if_pos rfl
  rw [hzero, ← ofInt_uint16_eq_zero_iff]
  by_cases hn : UInt16.ofInt n = 0
  · simp [ct2rgb, hn, Except.map]
  · simp [ct2rgb, hn, Except.map]

/-- Two ways to write the members of a body agree in what decides: the white space in front of
the colon of the number that is read, unless that number counts as `0`; and for a hue, what
colour is made of the numbers that are read, which depends on the place of the saturation as
well. -/
structure Agree (env : Env) (ms ms' : List Member) : Prop where
  bri : ∀ m ∈ ms, ∀ m' ∈ ms', m.raw = bytes "bri" → m'.raw = bytes "bri" →
    (m.colon = [] ↔ m'.colon = []) ∨ (256 : ℤ) ∣ atoi m.text
  hue : bytes "bri" ∉ ms.map Member.raw →
    ∀ m ∈ ms, ∀ m' ∈ ms', m.raw = bytes "hue" → m'.raw = bytes "hue" →
      env.hs2rgb (UInt16.ofInt m.number) (UInt8.ofInt (satBehind ms)) =
        env.hs2rgb (UInt16.ofInt m'.number) (UInt8.ofInt (satBehind ms'))
  ct : bytes "bri" ∉ ms.map Member.raw → bytes "hue" ∉ ms.map Member.raw →
    ∀ m ∈ ms, ∀ m' ∈ ms', m.raw = bytes "ct" → m'.raw = bytes "ct" →
      (m.colon = [] ↔ m'.colon = []) ∨ (65536 : ℤ) ∣ atoi m.text

lemma mem_of_find_some {ms : List Member} {w : Bytes} {m : Member}
    (h : ms.find? (·.raw = w) = some m) : w ∈ ms.map Member.raw := by
  have hraw : m.raw = w := by simpa using List.find?_some h
  exact hraw ▸ List.mem_map_of_mem (List.mem_of_find?_eq_some h)

lemma notMem_of_find_none {ms : List Member} {w : Bytes}
    (h : ms.find? (·.raw = w) = none) : w ∉ ms.map Member.raw := by
  intro hmem
  obtain ⟨m, hm, rfl⟩ := List.mem_map.mp hmem
  have hne := List.find?_eq_none.mp h m hm
  simp at hne

/-- Of members with different names the one that is found is the only one of its name. -/
lemma forall_named_iff {ms ms' : List Member} (hnodup : (ms.map Member.raw).Nodup)
    (hnodup' : (ms'.map Member.raw).Nodup) {w : Bytes} {m m' : Member}
    (hm : ms.find? (·.raw = w) = some m) (hm' : ms'.find? (·.raw = w) = some m')
    {P : Member → Member → Prop} :
    (∀ x ∈ ms, ∀ x' ∈ ms', x.raw = w → x'.raw = w → P x x') ↔ P m m' := by
  have hmem := List.mem_of_find?_eq_some hm
  have hmem' := List.mem_of_find?_eq_some hm'
  have hraw : m.raw = w := by simpa using List.find?_some hm
  have hraw' : m'.raw = w := by simpa using List.find?_some hm'
  constructor
  · exact fun h => h m hmem m' hmem' hraw hraw'
  · intro h x hx x' hx' hxraw hxraw'
    rw [List.inj_on_of_nodup_map hnodup hx hmem (hxraw.trans hraw.symm),
      List.inj_on_of_nodup_map hnodup' hx' hmem' (hxraw'.trans hraw'.symm)]
    exact h

/-- **Rearranged members ask for the same exactly when they agree.** -/
lemma command_eq_iff {ms ms' : List Member} (h : Rearranged ms ms')
    (hnodup : (ms.map Member.raw).Nodup) :
    command env ms = command env ms' ↔ Agree env ms ms' := by
  have hnodup' : (ms'.map Member.raw).Nodup := h.raw.nodup_iff.mp hnodup
  have hvacuous : ∀ {w} {P : Member → Member → Prop}, w ∉ ms.map Member.raw →
      ∀ x ∈ ms, ∀ x' ∈ ms', x.raw = w → x'.raw = w → P x x' :=
    fun hno x hx _ _ hraw _ => absurd (hraw ▸ List.mem_map_of_mem hx) hno
  rw [command, command]
  cases hbri : ms.find? (·.raw = bytes "bri") with
  | some m =>
      obtain ⟨m', hbri', htext⟩ := h.find hnodup hbri
      rw [hbri', Except.ok.injEq, Command.bri.injEq,
        number_congr_iff (fun _ => ofInt_uint8_eq_zero_iff) htext]
      exact ⟨fun hm => ⟨(forall_named_iff hnodup hnodup' hbri hbri').mpr hm,
        fun hno => absurd (mem_of_find_some hbri) hno, fun hno => absurd (mem_of_find_some hbri) hno⟩,
        fun hagree => (forall_named_iff hnodup hnodup' hbri hbri').mp hagree.bri⟩
  | none =>
  have hnobri := notMem_of_find_none hbri
  rw [h.find_none hnodup hbri]
  cases hhue : ms.find? (·.raw = bytes "hue") with
  | some m =>
      obtain ⟨m', hhue', htext⟩ := h.find hnodup hhue
      rw [hhue', Except.ok.injEq, Command.colour.injEq]
      exact ⟨fun hm => ⟨hvacuous hnobri,
        fun _ => (forall_named_iff hnodup hnodup' hhue hhue').mpr hm,
        fun _ hno => absurd (mem_of_find_some hhue) hno⟩,
        fun hagree => (forall_named_iff hnodup hnodup' hhue hhue').mp (hagree.hue hnobri)⟩
  | none =>
  have hnohue := notMem_of_find_none hhue
  rw [h.find_none hnodup hhue]
  cases hct : ms.find? (·.raw = bytes "ct") with
  | some m =>
      obtain ⟨m', hct', htext⟩ := h.find hnodup hct
      have hnumber := number_congr_iff (@ct2rgb_ofInt_eq_iff env) htext
      rw [hct', hnumber]
      exact ⟨fun hm => ⟨hvacuous hnobri, fun _ => hvacuous hnohue,
        fun _ _ => (forall_named_iff hnodup hnodup' hct hct').mpr hm⟩,
        fun hagree => (forall_named_iff hnodup hnodup' hct hct').mp (hagree.ct hnobri hnohue)⟩
  | none =>
      have hnoct := notMem_of_find_none hct
      rw [h.find_none hnodup hct]
      simp only [h.exists_infix_iff, true_iff]
      exact ⟨hvacuous hnobri, fun _ => hvacuous hnohue, fun _ _ => hvacuous hnoct⟩

/-! ### The bodies of a request -/

/-- The members are all own. -/
def Json.Layout.Own (l : Layout) : Prop := ∀ m ∈ l.members, m.Own

lemma text_ne_nil (l : Layout) : l.text ≠ [] := by simp [Layout.text]

/-- Members that are own or inert ask for no user name. -/
lemma not_infix_devicetype {l : Layout} (h : ∀ m ∈ l.members, m.Clear env) :
    ¬ bytes "devicetype" <:+: l.text := by
  rw [Layout.infix_text_iff (by decide)]
  rintro ⟨m, hm, hin⟩
  have hraw := ((h m hm).infix_iff (by simp)).mp hin
  rcases h m hm with ⟨hkey, -⟩ | ⟨-, hinert⟩
  · exact absurd (hraw ▸ hkey) (by decide)
  · exact hinert.words _ (by simp) hin

/-- **Order and white space**: a request has the same outcome with two ways to write an object of
own members exactly when they agree in the white space in front of the colon of the number that
is read, and in whether the saturation stands behind the hue, as far as these decide. -/
theorem sameOutcome_rearranged_iff {l l' : Layout} (hl : l.Own) (hl' : l'.Own)
    (h : Rearranged l.members l'.members) (hnodup : (l.members.map Member.raw).Nodup) :
    SameOutcome env l.text l'.text ↔ Agree env l.members l'.members := by
  have hclear : ∀ m ∈ l.members, m.Clear env := fun m hm => Or.inl (hl m hm)
  have hclear' : ∀ m ∈ l'.members, m.Clear env := fun m hm => Or.inl (hl' m hm)
  rw [sameOutcome_iff (not_infix_devicetype hclear) (text_ne_nil l) (text_ne_nil l'),
    decode_layout hclear, decode_layout hclear', command_eq_iff h hnodup]
  exact and_iff_right (not_infix_devicetype hclear')

lemma plain_on : Plain (bytes "on") := by decide

lemma plain_bri : Plain (bytes "bri") := by decide

def onMember : Member := boolMember (bytes "on") [] true plain_on white_nil

def briMember (bri : UInt8) : Member := numberMember (bytes "bri") [] bri.toNat plain_bri white_nil

lemma own_onMember : onMember.Own := Member.own_of_isScalar (by decide) rfl

lemma own_briMember (bri : UInt8) : (briMember bri).Own :=
  Member.own_of_isScalar (show bytes "bri" ∈ lightKeys by decide) rfl

/-- A switch and a brightness, in two spellings. -/
def briLast : Layout := ⟨[], [], [onMember, briMember 128], [], by decide⟩

def briFirst : Layout :=
  ⟨[32], [32], [{ briMember 128 with before := [9], gap := [32], white := by decide }, onMember],
    [10], by decide⟩

/-- The two spellings have the same outcome. -/
theorem sameOutcome_rearranged_bri : SameOutcome homeEnv briLast.text briFirst.text := by
  have hlast : briLast.Own := by
    intro m hm
    rcases List.mem_pair.mp hm with rfl | rfl
    · exact own_onMember
    · exact own_briMember 128
  have hfirst : briFirst.Own := by
    intro m hm
    rcases List.mem_pair.mp hm with rfl | rfl
    · exact own_briMember 128
    · exact own_onMember
  refine (@sameOutcome_rearranged_iff homeEnv briLast briFirst hlast hfirst
    (List.Perm.swap _ _ _) (by decide)).mpr
      ⟨?_, fun hno => absurd (by decide) hno, fun hno => absurd (by decide) hno⟩
  intro m hm m' hm' _ _
  rcases List.mem_pair.mp hm with rfl | rfl <;> rcases List.mem_pair.mp hm' with rfl | rfl <;>
    exact Or.inl (iff_of_true rfl rfl)

/-- An environment with the colours of the hue `0`. -/
def redEnv : Env := { homeEnv with hs2rgb := fun _ sat => ⟨255, 255 - sat, 255 - sat⟩ }

/-- A blank in front of a colon, a saturation in front of its hue, and a word in a value: bodies
of the same members that have different outcomes. -/
theorem not_sameOutcome_rearranged :
    (∃ v, Json.decode (bytes "\x7b\"bri\":128\x7d") = some v ∧
        Json.decode (bytes "\x7b\"bri\" :128\x7d") = some v ∧
        ¬ SameOutcome homeEnv (bytes "\x7b\"bri\":128\x7d") (bytes "\x7b\"bri\" :128\x7d")) ∧
      (∃ m m', Json.decode (bytes "\x7b\"hue\":0,\"sat\":255\x7d") = some (.object [m, m']) ∧
        Json.decode (bytes "\x7b\"sat\":255,\"hue\":0\x7d") = some (.object [m', m]) ∧
        ¬ SameOutcome redEnv (bytes "\x7b\"hue\":0,\"sat\":255\x7d")
          (bytes "\x7b\"sat\":255,\"hue\":0\x7d")) ∧
      ∃ m m', Json.decode (bytes "\x7b\"on\":\"bri\",\"bri\":5\x7d") = some (.object [m, m']) ∧
        Json.decode (bytes "\x7b\"bri\":5,\"on\":\"bri\"\x7d") = some (.object [m', m]) ∧
        ¬ SameOutcome homeEnv (bytes "\x7b\"on\":\"bri\",\"bri\":5\x7d")
          (bytes "\x7b\"bri\":5,\"on\":\"bri\"\x7d") := by
  have hdiffer : ∀ (env : Env) {body body' : Bytes} (c c' : Command),
      ¬ bytes "devicetype" <:+: body → decode env body = .ok c → decode env body' = .ok c' →
        body ≠ [] → body' ≠ [] → c ≠ c' → ¬ SameOutcome env body body' := by
    intro env body body' c c' hdt hc hc' hne hne' hcc h
    have heq := ((sameOutcome_iff hdt hne hne').mp h).2
    rw [hc, hc', Except.ok.injEq] at heq
    exact hcc heq
  refine ⟨⟨_, rfl, rfl, ?_⟩, ⟨_, _, rfl, rfl, ?_⟩, _, _, rfl, rfl, ?_⟩
  · exact hdiffer homeEnv (.bri 128) (.bri 0) (by decide) rfl rfl (by decide)
      (by decide) (by decide)
  · exact hdiffer redEnv (.colour ⟨255, 0, 0⟩) (.colour ⟨255, 255, 255⟩) (by decide)
      rfl rfl (by decide) (by decide) (by decide)
  · exact hdiffer homeEnv (.bri 0) (.bri 5) (by decide) rfl rfl (by decide)
      (by decide) (by decide)

end FauxmoLinux
