import FauxmoLinux.Bridge.Control
import FauxmoLinux.Base.Json.Texts

/-!
Bodies of control requests that are JSON objects.

* `Member.infix_all_iff`, `Layout.seek_text`: where the words stand that the branches search for;
* `Reading`, `readBody`: the numbers the branches read, before a colour is made of them;
* `decode_bri`, `decode_hue`, `decode_ct`, `decode_rest`: the branches without positions;
* `Member.number`, `Member.atoi_drop_behind`: the number that is read of a member.
-/

namespace FauxmoLinux

open Json

variable {env : Env}

/-! ### Words in the text of an object -/

/-- A word of small letters. -/
def IsWord (w : Bytes) : Prop := w ≠ [] ∧ ∀ c ∈ w, 97 ≤ c ∧ c ≤ 122

instance (w : Bytes) : Decidable (IsWord w) := inferInstanceAs (Decidable (_ ∧ _))

lemma IsWord.notMem {w : Bytes} (hw : IsWord w) {c : UInt8} (hc : ¬ (97 ≤ c ∧ c ≤ 122)) :
    c ∉ w := fun hmem => hc (hw.2 c hmem)

/-- The words that choose the branch or the place of a number. -/
def keywords : List Bytes :=
  [bytes "devicetype", bytes "bri", bytes "hue", bytes "sat", bytes "ct"]

lemma isWord_of_mem_keywords : ∀ w ∈ keywords, IsWord w := by decide

/-- Those that choose the branch are all but `sat`. -/
lemma mem_keywords_of_ne_sat {w : Bytes}
    (hw : w ∈ [bytes "devicetype", bytes "bri", bytes "hue", bytes "ct"]) : w ∈ keywords := by
  simp only [keywords, List.mem_cons, List.not_mem_nil, or_false] at hw ⊢
  tauto

lemma IsWord.disjoint_white {w : Bytes} (hw : IsWord w) {gap : Bytes}
    (hgap : ∀ c ∈ gap, isWhite c = true) : ∀ c ∈ gap, c ∉ w := by
  intro c hc
  have hwhite := hgap c hc
  simp only [isWhite, Bool.or_eq_true, beq_iff_eq] at hwhite
  rcases hwhite with ((rfl | rfl) | rfl) | rfl <;> exact hw.notMem (by decide)

namespace Json.Member

/-- What stands behind the name of a member. -/
def behind (m : Member) : Bytes := m.colon ++ 58 :: (m.gap ++ (m.text ++ m.after))

lemma all_eq (m : Member) : m.all = m.before ++ 34 :: (m.raw ++ 34 :: m.behind) := by
  simp [all, core, quoted, behind]

/-- A word stands in the name of a member or in its value. -/
lemma infix_all_iff {w : Bytes} (hw : IsWord w) (m : Member) :
    w <:+: m.all ↔ w <:+: m.raw ∨ w <:+: m.text := by
  have hwhite : ∀ gap : Bytes, (∀ c ∈ gap, isWhite c = true) → ¬ w <:+: gap := fun gap hgap =>
    not_infix_of_disjoint (hw.disjoint_white hgap) hw.1
  have hbehind : w <:+: m.behind ↔ w <:+: m.text := by
    have hgap : w <:+: m.gap ++ (m.text ++ m.after) ↔ w <:+: m.text ++ m.after := by
      rw [← not_iff_not, ← seek_eq_none_iff, ← seek_eq_none_iff,
        seek_append_of_disjoint (hw.disjoint_white m.white_gap) hw.1]
    rw [behind, infix_append_cons_iff (hw.notMem (by decide)) hw.1, hgap,
      infix_append_iff_of_disjoint (hw.disjoint_white m.white_after) hw.1]
    exact or_iff_right (hwhite _ m.white_colon)
  rw [all_eq, infix_append_cons_iff (hw.notMem (by decide)) hw.1,
    infix_append_cons_iff (hw.notMem (by decide)) hw.1, hbehind]
  exact or_iff_right (hwhite _ m.white_before)

/-- A word that is the name of a member is found there. -/
lemma seek_all {m : Member} (hw : IsWord m.raw) :
    seek m.raw m.all = some (m.raw ++ 34 :: m.behind) := by
  rw [all_eq, seek_append_of_disjoint (hw.disjoint_white m.white_before) hw.1,
    seek_cons (hw.notMem (by decide)) hw.1, seek_append_cons (hw.notMem (by decide)) hw.1,
    seek_self]
  rfl

/-- No member ends in a word that ends in another letter than `e` and `l`. -/
lemma not_suffix_all {w : Bytes} {c : UInt8} (hc : ¬ IsEnd c) (hwhite : isWhite c = false)
    (m : Member) : ¬ w ++ [c] <:+ m.all := by
  intro h
  have hself := m.reads m.text.length le_rfl [] (by simp)
  rw [List.append_nil] at hself
  obtain ⟨b, hb, t, ht⟩ := readValue_close hself
  -- the last byte of the member
  have hlast : m.all.getLast? = some c := by
    obtain ⟨s, hs⟩ := h
    rw [← hs, ← List.append_assoc, List.getLast?_concat]
  have hall : m.all = (m.before ++ 34 :: (m.raw ++ 34 :: (m.colon ++ 58 :: (m.gap ++ t)))) ++
      (b :: m.after) := by
    rw [all_eq, behind, ← ht]
    simp
  rw [hall, List.getLast?_append_of_ne_nil _ (List.cons_ne_nil _ _)] at hlast
  rcases List.eq_nil_or_concat' m.after with hnil | ⟨after, d, hd⟩
  · rw [hnil] at hlast
    obtain rfl : b = c := by simpa using hlast
    exact hc hb
  · rw [hd, ← List.cons_append, List.getLast?_concat] at hlast
    obtain rfl := Option.some.inj hlast
    rw [m.white_after d (by simp [hd])] at hwhite
    cases hwhite

end Json.Member

/-- Members behind others, each behind its comma, up to the end of the text. -/
def closing (trail : Bytes) : List Member → Bytes
  | [] => 125 :: trail
  | m :: ms => 44 :: (m.all ++ closing trail ms)

section Closing

variable {trail : Bytes}

lemma closing_head (trail : Bytes) (ms : List Member) :
    ∃ c t, closing trail ms = c :: t ∧ (c = 44 ∨ c = 125) := by
  cases ms with
  | nil => exact ⟨125, trail, rfl, Or.inr rfl⟩
  | cons m ms => exact ⟨44, _, rfl, Or.inl rfl⟩

lemma membersText_append_closing (m : Member) (ms : List Member) (trail : Bytes) :
    membersText (m :: ms) ++ 125 :: trail = m.all ++ closing trail ms := by
  induction ms generalizing m with
  | nil => rw [membersText_singleton, closing]
  | cons m' ms ih =>
      rw [membersText_cons m (List.cons_ne_nil _ _), List.append_assoc, List.cons_append, ih,
        closing]

variable {w : Bytes}

lemma seek_closing_cons (hw : IsWord w) (m : Member) (ms : List Member) :
    seek w (closing trail (m :: ms)) =
      ((seek w m.all).map (· ++ closing trail ms)).or (seek w (closing trail ms)) := by
  obtain ⟨c, t, hct, hc⟩ := closing_head trail ms
  have hnot : c ∉ w := by rcases hc with rfl | rfl <;> exact hw.notMem (by decide)
  rw [closing, seek_cons (hw.notMem (by decide)) hw.1, hct, seek_append_cons hnot hw.1,
    seek_cons hnot hw.1]

/-- A word is not found exactly when no member contains it. -/
lemma seek_closing_eq_none_iff (hw : IsWord w) (htrail : ∀ c ∈ trail, isWhite c = true)
    {ms : List Member} : seek w (closing trail ms) = none ↔ ∀ m ∈ ms, ¬ w <:+: m.all := by
  induction ms with
  | nil =>
      have hnot := not_infix_of_disjoint (hw.disjoint_white htrail) hw.1
      rw [closing, seek_cons (hw.notMem (by decide)) hw.1, seek_eq_none_iff]
      simp [hnot]
  | cons m ms ih =>
      rw [seek_closing_cons hw, Option.or_eq_none_iff, Option.map_eq_none_iff, seek_eq_none_iff,
        ih, List.forall_mem_cons]

/-- A word is found in the first member that contains it. -/
lemma seek_closing_append (hw : IsWord w) {pre post : List Member} {m : Member} {r : Bytes}
    (hpre : ∀ x ∈ pre, ¬ w <:+: x.all) (hm : seek w m.all = some r) :
    seek w (closing trail (pre ++ m :: post)) = some (r ++ closing trail post) := by
  induction pre with
  | nil =>
      rw [List.nil_append, seek_closing_cons hw, hm]
      rfl
  | cons x pre ih =>
      have hx := seek_eq_none_iff.mpr (hpre x List.mem_cons_self)
      rw [List.cons_append, seek_closing_cons hw, hx,
        ih fun y hy => hpre y (List.mem_cons_of_mem _ hy)]
      rfl

/-- Words are searched for in the members alone. -/
lemma Json.Layout.seek_text (hw : IsWord w) (l : Layout) :
    seek w l.text = seek w (closing l.trail l.members) := by
  rw [Layout.text, seek_append_of_disjoint (hw.disjoint_white l.white_lead) hw.1,
    seek_cons (hw.notMem (by decide)) hw.1,
    seek_append_of_disjoint (hw.disjoint_white l.white_inner) hw.1]
  cases l.members with
  | nil => rw [membersText_nil, List.nil_append, closing]
  | cons m ms =>
      rw [membersText_append_closing, closing, seek_cons (hw.notMem (by decide)) hw.1]

/-- Where the word is the name of some members and stands in no others, it is found in the first
of these. -/
lemma seek_closing_of_find (hw : IsWord w) {ms : List Member} {m : Member}
    (hiff : ∀ x ∈ ms, w <:+: x.all ↔ x.raw = w) (h : ms.find? (·.raw = w) = some m) :
    ∃ pre post, ms = pre ++ m :: post ∧ (∀ x ∈ pre, x.raw ≠ w) ∧ m.raw = w ∧
      seek w (closing trail ms) = some (w ++ 34 :: (m.behind ++ closing trail post)) := by
  obtain ⟨hm, pre, post, rfl, hpre⟩ := List.find?_eq_some_iff_append.mp h
  obtain rfl : m.raw = w := by simpa using hm
  have hne : ∀ x ∈ pre, x.raw ≠ m.raw := fun x hx => by simpa using hpre x hx
  refine ⟨pre, post, rfl, hne, rfl, ?_⟩
  have hnot : ∀ x ∈ pre, ¬ m.raw <:+: x.all := fun x hx hin =>
    hne x hx ((hiff x (List.mem_append_left _ hx)).mp hin)
  rw [seek_closing_append hw hnot (Member.seek_all hw), List.append_assoc, List.cons_append]

lemma seek_closing_of_find_none (hw : IsWord w) (htrail : ∀ c ∈ trail, isWhite c = true)
    {ms : List Member} (hiff : ∀ x ∈ ms, w <:+: x.all ↔ x.raw = w)
    (h : ms.find? (·.raw = w) = none) : seek w (closing trail ms) = none := by
  refine (seek_closing_eq_none_iff hw htrail).mpr fun x hx hin => ?_
  have hne := List.find?_eq_none.mp h x hx
  exact hne (by simpa using (hiff x hx).mp hin)

/-- What is found lies in one member, and goes on behind it. -/
lemma seek_closing_eq_some (hw : IsWord w) (htrail : ∀ c ∈ trail, isWhite c = true)
    {ms : List Member} {q : Bytes} (h : seek w (closing trail ms) = some q) :
    ∃ m ∈ ms, ∃ r post, seek w m.all = some r ∧ q = r ++ closing trail post := by
  induction ms with
  | nil =>
      rw [(seek_closing_eq_none_iff hw htrail).mpr (by simp)] at h
      cases h
  | cons m ms ih =>
      rw [seek_closing_cons hw] at h
      cases hm : seek w m.all with
      | some r =>
          rw [hm] at h
          exact ⟨m, List.mem_cons_self, r, ms, hm, (Option.some.inj h).symm⟩
      | none =>
          rw [hm] at h
          obtain ⟨x, hx, r, post, hr, hq⟩ := ih h
          exact ⟨x, List.mem_cons_of_mem _ hx, r, post, hr, hq⟩

/-- A word that is not in front of the members is found behind the first comma as well. -/
lemma seek_dropWhile_closing (hw : IsWord w) (htrail : ∀ c ∈ trail, isWhite c = true)
    {s : Bytes} (hs : ¬ w <:+: s) (ms : List Member) :
    seek w ((s ++ closing trail ms).dropWhile (· ≠ 44)) = seek w (closing trail ms) := by
  have hcomma : (44 : UInt8) ∉ w := hw.notMem (by decide)
  induction s with
  | nil =>
      cases ms with
      | cons m ms => rfl
      | nil =>
          have hnone : ∀ c ∈ 125 :: trail, decide (c ≠ 44) = true := by
            intro c hc
            rcases List.mem_cons.mp hc with rfl | hc
            · decide
            · have hwhite := htrail c hc
              simp only [isWhite, Bool.or_eq_true, beq_iff_eq] at hwhite
              rcases hwhite with ((rfl | rfl) | rfl) | rfl <;> decide
          rw [List.nil_append, (seek_closing_eq_none_iff hw htrail).mpr (by simp), closing,
            List.dropWhile_eq_nil_iff.mpr hnone, seek_eq_none_iff]
          simpa using hw.1
  | cons c s ih =>
      have hrest : ¬ w <:+: s := fun hin => hs (hin.trans (List.suffix_cons c s).isInfix)
      by_cases hc : c = 44
      · obtain ⟨d, t, hd, hd'⟩ := closing_head trail ms
        have hnot : d ∉ w := by rcases hd' with rfl | rfl <;> exact hw.notMem (by decide)
        rw [hc, List.cons_append, List.dropWhile_cons_of_neg (by decide), seek_cons hcomma hw.1,
          hd, seek_append_cons hnot hw.1, seek_eq_none_iff.mpr hrest, seek_cons hnot hw.1]
        rfl
      · rw [List.cons_append, List.dropWhile_cons_of_pos (by simpa using hc), ih hrest]

lemma Json.Layout.infix_text_iff (hw : IsWord w) (l : Layout) :
    w <:+: l.text ↔ ∃ m ∈ l.members, w <:+: m.all := by
  rw [← not_iff_not, ← seek_eq_none_iff, Layout.seek_text hw,
    seek_closing_eq_none_iff hw l.white_trail]
  simp

end Closing

/-! ### Readings -/

/-- What the branches read of a body, before a colour is made of it. -/
inductive Reading where
  | bri (value : UInt8)
  | hueSat (hue : UInt16) (sat : UInt8)
  | ct (ct : UInt16)
  | on (on : Bool)
  deriving DecidableEq, Repr

/-- The command of a reading; the colour functions are given the numbers that were read. -/
def Reading.command (env : Env) : Reading → Except Fault Command
  | .bri value => .ok (.bri value)
  | .hueSat hue sat => .ok (.colour (env.hs2rgb hue sat))
  | .ct c => (ct2rgb env c).map .colour
  | .on b => .ok (if b then .on else .off)

/-- The numbers in a body, narrowed to the variables they are stored in. -/
def readBody (body : Bytes) : Except Fault Reading :=
  match find (bytes "bri") body with
  | some pos => do return .bri (UInt8.ofInt (atoi (← substr body (pos + 5) none)))
  | none =>
  match find (bytes "hue") body with
  | some pos => do
      let posComma := findFrom (bytes ",") body (some pos)
      let hue := UInt16.ofInt (atoi (← substr body (pos + 5) posComma))
      let pos := toInt (findFrom (bytes "sat") body posComma)
      let sat := UInt8.ofInt (atoi (← substr body (pos + 5) none))
      return .hueSat hue sat
  | none =>
  match find (bytes "ct") body with
  | some pos => do return .ct (UInt16.ofInt (atoi (← substr body (pos + 4) none)))
  | none => .ok (.on (find (bytes "false") body = none))

/-- **Decoding reads first**, and then makes the colour. -/
theorem decode_eq_readBody (body : Bytes) :
    decode env body = readBody body >>= Reading.command env := by
  rw [decode, readBody]
  cases find (bytes "bri") body with
  | some pos =>
      dsimp only
      cases substr body (pos + 5) none <;> rfl
  | none =>
  cases find (bytes "hue") body with
  | some pos =>
      dsimp only
      cases substr body (pos + 5) (findFrom (bytes ",") body (some pos)) with
      | error e => rfl
      | ok s =>
          simp only [ok_bind]
          cases substr body (toInt (findFrom (bytes "sat") body
              (findFrom (bytes ",") body (some pos))) + 5) none <;> rfl
  | none =>
  cases find (bytes "ct") body with
  | some pos =>
      dsimp only
      cases substr body (pos + 4) none with
      | error e => rfl
      | ok s =>
          simp only [ok_bind]
          show _ = (ct2rgb env (UInt16.ofInt (atoi s))).map Command.colour
          cases ct2rgb env (UInt16.ofInt (atoi s)) <;> rfl
  | none =>
      by_cases hf : find (bytes "false") body = none <;> simp [Reading.command, hf]

lemma readBody_bri {body r : Bytes} (h : seek (bytes "bri") body = some r)
    (hr : 5 ≤ r.length) :
    readBody body = .ok (.bri (UInt8.ofInt (atoi (r.drop 5)))) := by
  obtain ⟨pos, hpos, rfl⟩ := Option.map_eq_some_iff.mp h
  have hle : pos + 5 ≤ body.length := by
    rw [List.length_drop] at hr
    omega
  have hs : substr body ((pos : ℤ) + 5) none = .ok (body.drop (pos + 5)) := substr_none hle
  rw [readBody, hpos, List.drop_drop]
  simp only [hs, ok_bind]
  rfl

/-- What the branch on `hue` reads as saturation: the number behind the first `sat` behind the
comma, or what stands at the fifth place of the body. -/
def SatRead (body behindHue : Bytes) (sat : ℤ) : Prop :=
  match seek (bytes "sat") (behindHue.dropWhile (· ≠ 44)) with
  | some q => 5 ≤ q.length ∧ sat = atoi (q.drop 5)
  | none => sat = atoi (body.drop 4)

/-- Up to a comma the same number is read, when the cut is behind it. -/
lemma atoi_take_drop {s : Bytes} {k n : ℕ} (hcomma : 44 ∈ s)
    (hk : k ≤ (s.takeWhile (· ≠ 44)).length) (hn : (s.takeWhile (· ≠ 44)).length ≤ n) :
    atoi ((s.drop k).take n) = atoi (s.drop k) := by
  obtain ⟨t, ht⟩ : ∃ t, s.dropWhile (· ≠ 44) = 44 :: t := by
    cases hs : s.dropWhile (· ≠ 44) with
    | nil =>
        have hne := List.dropWhile_eq_nil_iff.mp hs 44 hcomma
        simp at hne
    | cons c t =>
        have hc := List.head?_dropWhile_not (fun c : UInt8 => decide (c ≠ 44)) s
        rw [hs] at hc
        obtain rfl : c = 44 := by simpa using hc
        exact ⟨t, rfl⟩
  have hsplit : s = s.takeWhile (· ≠ 44) ++ 44 :: t := by
    rw [← ht, List.takeWhile_append_dropWhile]
  generalize s.takeWhile (· ≠ 44) = u at hsplit hk hn
  rw [hsplit, List.drop_append_of_le_length hk]
  exact atoi_take_append_cons (by decide) (by decide) (by decide) (by decide)
    (by rw [List.length_drop]; omega) t

/-- The first comma behind a position. -/
lemma findFrom_comma {body : Bytes} {pos : ℕ} (hpos : pos ≤ body.length) :
    findFrom (bytes ",") body (some pos) = if (44 : UInt8) ∈ body.drop pos then
      some (pos + ((body.drop pos).takeWhile (· ≠ 44)).length) else none := by
  have hcomma : bytes "," = [44] := rfl
  rw [hcomma, findFrom, if_pos hpos, find_singleton]
  split <;> rfl

/-- The number of the hue is read up to the comma or to the end, which is all the same. -/
lemma exists_substr_hue {body : Bytes} {pos : ℕ} (hpos : pos ≤ body.length)
    (hlong : 5 ≤ ((body.drop pos).takeWhile (· ≠ 44)).length) :
    ∃ t, substr body ((pos : ℤ) + 5) (findFrom (bytes ",") body (some pos)) = .ok t ∧
      atoi t = atoi (body.drop (pos + 5)) := by
  have hlen : ((body.drop pos).takeWhile (· ≠ 44)).length ≤ body.length - pos := by
    rw [← List.length_drop]
    exact (List.takeWhile_prefix _).length_le
  rw [findFrom_comma hpos]
  by_cases hmem : (44 : UInt8) ∈ body.drop pos
  · rw [if_pos hmem]
    refine ⟨_, if_pos ⟨by omega, by omega⟩, ?_⟩
    have hsame := atoi_take_drop hmem hlong (Nat.le_add_left _ pos)
    rw [List.drop_drop] at hsame
    exact hsame
  · rw [if_neg hmem]
    exact ⟨_, @substr_none body (pos + 5) (by omega), rfl⟩

/-- The saturation is looked for behind the comma, and read where it is found or at the fifth
place of the body. -/
lemma exists_substr_sat {body : Bytes} {pos : ℕ} {sat : ℤ} (hpos : pos ≤ body.length)
    (hlen : pos + 4 ≤ body.length) (hsat : SatRead body (body.drop pos) sat) :
    ∃ u, substr body (toInt (findFrom (bytes "sat") body
        (findFrom (bytes ",") body (some pos))) + 5) none = .ok u ∧ atoi u = sat := by
  have hfour : substr body (toInt none + 5) none = .ok (body.drop 4) :=
    @substr_none body 4 (by omega)
  rw [findFrom_comma hpos]
  by_cases hmem : (44 : UInt8) ∈ body.drop pos
  · have hle : ((body.drop pos).takeWhile (· ≠ 44)).length ≤ body.length - pos := by
      rw [← List.length_drop]
      exact (List.takeWhile_prefix _).length_le
    have hrest : (body.drop pos).dropWhile (· ≠ 44) =
        body.drop (pos + ((body.drop pos).takeWhile (· ≠ 44)).length) := by
      have hsplit := @List.takeWhile_append_dropWhile _ (fun c : UInt8 => decide (c ≠ 44))
        (body.drop pos)
      have hleft := congrArg
        (List.drop ((body.drop pos).takeWhile (· ≠ 44)).length) hsplit
      rwa [List.drop_left, List.drop_drop] at hleft
    rw [SatRead, hrest, seek] at hsat
    rw [if_pos hmem, findFrom, if_pos (by omega)]
    cases hfind : find (bytes "sat")
        (body.drop (pos + ((body.drop pos).takeWhile (· ≠ 44)).length)) with
    | none =>
        rw [hfind] at hsat
        exact ⟨_, hfour, hsat.symm⟩
    | some i =>
        rw [hfind] at hsat
        obtain ⟨hlong, rfl⟩ := hsat
        have hin := (find_eq_some_iff.mp hfind).1
        rw [List.length_drop] at hin hlong
        rw [List.length_drop] at hlong
        refine ⟨_, @substr_none body
          (pos + ((body.drop pos).takeWhile (· ≠ 44)).length + i + 5) (by omega), ?_⟩
        rw [List.drop_drop, List.drop_drop]
        congr 2
  · have hnil : (body.drop pos).dropWhile (· ≠ 44) = [] :=
      List.dropWhile_eq_nil_iff.mpr fun c hc => by
        have hne : c ≠ 44 := fun hc44 => hmem (hc44 ▸ hc)
        simpa using hne
    have hnone : seek (bytes "sat") [] = none := rfl
    rw [SatRead, hnil, hnone] at hsat
    rw [if_neg hmem]
    exact ⟨_, hfour, hsat.symm⟩

lemma readBody_hue {body r : Bytes} {sat : ℤ} (hbri : ¬ bytes "bri" <:+: body)
    (h : seek (bytes "hue") body = some r) (hr : 5 ≤ (r.takeWhile (· ≠ 44)).length)
    (hsat : SatRead body r sat) :
    readBody body = .ok (.hueSat (UInt16.ofInt (atoi (r.drop 5))) (UInt8.ofInt sat)) := by
  obtain ⟨pos, hpos, rfl⟩ := Option.map_eq_some_iff.mp h
  have hposle : pos ≤ body.length := (find_eq_some_iff.mp hpos).1
  have hlen : pos + 5 ≤ body.length := by
    have hle := hr.trans (List.takeWhile_prefix _).length_le
    rw [List.length_drop] at hle
    omega
  obtain ⟨t, ht, htr⟩ := exists_substr_hue hposle hr
  obtain ⟨u, hu, hur⟩ := exists_substr_sat hposle (by omega) hsat
  have hfind := find_eq_none_iff.mpr hbri
  rw [readBody, hfind, hpos, List.drop_drop]
  simp only [ht, hu, ok_bind, htr, hur]
  rfl

lemma readBody_ct {body r : Bytes} (hbri : ¬ bytes "bri" <:+: body)
    (hhue : ¬ bytes "hue" <:+: body) (h : seek (bytes "ct") body = some r)
    (hr : 4 ≤ r.length) :
    readBody body = .ok (.ct (UInt16.ofInt (atoi (r.drop 4)))) := by
  obtain ⟨pos, hpos, rfl⟩ := Option.map_eq_some_iff.mp h
  have hle : pos + 4 ≤ body.length := by
    rw [List.length_drop] at hr
    omega
  have hs : substr body ((pos : ℤ) + 4) none = .ok (body.drop (pos + 4)) := substr_none hle
  have hfind := find_eq_none_iff.mpr hbri
  have hfind' := find_eq_none_iff.mpr hhue
  rw [readBody, hfind, hfind', hpos, List.drop_drop]
  simp only [hs, ok_bind]
  rfl

lemma readBody_rest {body : Bytes} (hbri : ¬ bytes "bri" <:+: body)
    (hhue : ¬ bytes "hue" <:+: body) (hct : ¬ bytes "ct" <:+: body) :
    readBody body = .ok (.on (¬ bytes "false" <:+: body)) := by
  have hbri := find_eq_none_iff.mpr hbri
  have hhue := find_eq_none_iff.mpr hhue
  have hct := find_eq_none_iff.mpr hct
  rw [readBody, hbri, hhue, hct]
  simp only [find_eq_none_iff]

/-! ### The branches without positions -/

lemma decode_bri {body r : Bytes} (h : seek (bytes "bri") body = some r) (hr : 5 ≤ r.length) :
    decode env body = .ok (.bri (UInt8.ofInt (atoi (r.drop 5)))) := by
  rw [decode_eq_readBody, readBody_bri h hr]
  rfl

lemma decode_hue {body r : Bytes} {sat : ℤ} (hbri : ¬ bytes "bri" <:+: body)
    (h : seek (bytes "hue") body = some r) (hr : 5 ≤ (r.takeWhile (· ≠ 44)).length)
    (hsat : SatRead body r sat) :
    decode env body =
      .ok (.colour (env.hs2rgb (UInt16.ofInt (atoi (r.drop 5))) (UInt8.ofInt sat))) := by
  rw [decode_eq_readBody, readBody_hue hbri h hr hsat]
  rfl

lemma decode_ct {body r : Bytes} (hbri : ¬ bytes "bri" <:+: body)
    (hhue : ¬ bytes "hue" <:+: body) (h : seek (bytes "ct") body = some r)
    (hr : 4 ≤ r.length) :
    decode env body = (ct2rgb env (UInt16.ofInt (atoi (r.drop 4)))).map .colour := by
  rw [decode_eq_readBody, readBody_ct hbri hhue h hr]
  rfl

lemma decode_rest {body : Bytes} (hbri : ¬ bytes "bri" <:+: body)
    (hhue : ¬ bytes "hue" <:+: body) (hct : ¬ bytes "ct" <:+: body) :
    decode env body = .ok (if bytes "false" <:+: body then .off else .on) := by
  rw [decode_eq_readBody, readBody_rest hbri hhue hct]
  by_cases hf : bytes "false" <:+: body <;> simp [Reading.command, hf]

/-! ### Numbers -/

namespace Json.Member

/-- The number that is read of a member: it is looked for one byte behind the name, so that white
space in front of the colon leaves nothing to read. -/
def number (m : Member) : ℤ := if m.colon = [] then atoi m.text else 0

lemma atoi_behind (m : Member) {c : UInt8} (hc : c = 44 ∨ c = 125) (t : Bytes) :
    atoi ((m.behind ++ c :: t).drop 1) = m.number := by
  have hspace : ∀ gap : Bytes, (∀ b ∈ gap, isWhite b = true) → ∀ b ∈ gap, isSpace b = true :=
    fun gap hgap b hb => isSpace_of_isWhite (hgap b hb)
  rw [number, behind]
  cases hcolon : m.colon with
  | nil =>
      -- the number ends where the value does
      obtain ⟨b, s, htext, hb⟩ := m.reads.head
      obtain ⟨d, u, hd, hdigit⟩ : ∃ d u, m.after ++ c :: t = d :: u ∧ isDigit d = false := by
        cases hafter : m.after with
        | nil => exact ⟨c, t, rfl, by rcases hc with rfl | rfl <;> rfl⟩
        | cons e after =>
            refine ⟨e, _, rfl, ?_⟩
            have hwhite := m.white_after e (hafter ▸ List.mem_cons_self)
            simp only [isWhite, Bool.or_eq_true, beq_iff_eq] at hwhite
            rcases hwhite with ((rfl | rfl) | rfl) | rfl <;> rfl
      have hdrop : ([] ++ 58 :: (m.gap ++ (m.text ++ m.after)) ++ c :: t).drop 1 =
          m.gap ++ (b :: s ++ d :: u) := by
        rw [← hd, htext]
        simp
      rw [hdrop, if_pos rfl, htext]
      refine atoi_eq_of_decimal ?_
      rw [decimal_append_of_space (hspace _ m.white_gap), decimal_cons_append_cons hb hdigit]
  | cons b colon =>
      have hgap : ∀ c ∈ colon, isWhite c = true := fun c hc =>
        m.white_colon c (hcolon ▸ List.mem_cons_of_mem b hc)
      rw [if_neg (List.cons_ne_nil b colon), List.append_assoc, List.cons_append,
        List.drop_succ_cons, List.drop_zero, atoi,
        decimal_append_of_space (hspace colon hgap), List.cons_append,
        decimal_cons_of_not (by decide) (by decide) (by decide) (by decide)]
      rfl

/-- The number behind the name of a member that is found in the text of an object. -/
lemma atoi_drop_behind (m : Member) (w trail : Bytes) (ms : List Member) :
    atoi ((w ++ 34 :: (m.behind ++ closing trail ms)).drop (w.length + 2)) = m.number := by
  obtain ⟨c, t, hct, hc⟩ := closing_head trail ms
  rw [List.drop_append, List.drop_eq_nil_of_le (by omega), Nat.add_sub_cancel_left,
    List.nil_append, List.drop_succ_cons, hct, m.atoi_behind hc]

/-- Behind a name there are its quote and the colon at least. -/
lemma add_two_le_length (m : Member) (w trail : Bytes) (ms : List Member) :
    w.length + 2 ≤ (w ++ 34 :: (m.behind ++ closing trail ms)).length := by
  simp only [behind, List.length_append, List.length_cons]
  omega

/-- No comma stands that close behind a name. -/
lemma add_two_le_length_takeWhile (m : Member) {w : Bytes} (hw : IsWord w) (trail : Bytes)
    (ms : List Member) :
    w.length + 2 ≤ ((w ++ 34 :: (m.behind ++ closing trail ms)).takeWhile (· ≠ 44)).length := by
  obtain ⟨b, t, hbehind, hb⟩ : ∃ b t, m.behind = b :: t ∧ b ≠ 44 := by
    rw [behind]
    cases hcolon : m.colon with
    | nil => exact ⟨58, _, rfl, by decide⟩
    | cons b colon =>
        refine ⟨b, _, rfl, ?_⟩
        rintro rfl
        exact absurd (m.white_colon 44 (hcolon ▸ List.mem_cons_self)) (by decide)
  have hsplit : w ++ 34 :: (m.behind ++ closing trail ms) =
      (w ++ [34, b]) ++ (t ++ closing trail ms) := by
    simp [hbehind]
  have hcomma : ∀ c ∈ w ++ [34, b], decide (c ≠ 44) = true := by
    intro c hc
    simp only [List.mem_append, List.mem_cons, List.not_mem_nil, or_false] at hc
    rcases hc with hc | rfl | rfl
    · have hne : c ≠ 44 := fun h44 => hw.notMem (by decide) (h44 ▸ hc)
      simpa using hne
    · decide
    · simpa using hb
  rw [hsplit, List.takeWhile_append_of_pos hcomma, List.length_append]
  simp

end Json.Member

end FauxmoLinux
