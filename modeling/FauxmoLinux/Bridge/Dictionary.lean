import FauxmoLinux.Base.Keyed
import FauxmoLinux.Base.Simulation
import FauxmoLinux.Bridge.Names

/-!
The store for those who use it through names only.

* `LightBook`: a finite map from names to lights, and what the operations mean to it;
* `NameOp`: the operations on names, on the store (`NameOp.onStore`) and on the book
  (`NameOp.onBook`);
* `LightBook.Allows`: a name is given to one light only, and there are at most `255`;
* `exists_step_book`: the store stays a table of the book as long as its operations are allowed;
* `dictionary_iff`: the store cannot be told from the book on exactly the runs on which they are.
-/

namespace FauxmoLinux

/-! ### The book of lights -/

/-- What a device holds beside its names. -/
structure LightState where
  state : Bool
  value : UInt8
  rgb : Rgb
  deriving DecidableEq, Repr

def Device.light (d : Device) : LightState := ⟨d.state, d.value, d.rgb⟩

/-- The lights by their names. -/
abbrev LightBook := Finmap fun _ : CString => LightState

/-- A change of the light with the name, and whether there is one. -/
def LightBook.change (book : LightBook) (name : CString) (c : Change) : LightBook × Bool :=
  match book.lookup name with
  | none => (book, false)
  | some light =>
      match c with
      | .rename new => ((book.erase name).insert new light, true)
      | .remove => (book.erase name, true)
      | .setState state value =>
          (book.insert name { light with state := state, value := value }, true)
      | .setStateRgb state value rgb => (book.insert name ⟨state, value, rgb⟩, true)

/-- An operation on names. -/
inductive NameOp where
  | addDevice (slot : UniqueIdArray) (deviceName : CString)
  | change (deviceName : CString) (c : Change)
  | look (deviceName : CString)

/-- What an operation on names tells. -/
inductive NameAnswer where
  | added
  | flag (success : Bool)
  | light (light : Option LightState)
  deriving DecidableEq

/-- What the device holds whose id `getDeviceId` returns. -/
def lookAt (devices : List Device) (deviceName : CString) : Option LightState :=
  let id := getDeviceId devices deviceName
  if id < 0 then none else (devices[id.toNat]?).map Device.light

namespace NameOp

/-- The operation on the store. -/
def onStore (iface : Interface) (devices : List Device) :
    NameOp → Except Fault (List Device × List NameAnswer)
  | addDevice slot name => .ok ((FauxmoLinux.addDevice iface slot devices name).1, [.added])
  | change name c => .ok ((c.byName devices name).1, [.flag (c.byName devices name).2])
  | look name => .ok (devices, [.light (lookAt devices name)])

/-- The operation on the book. -/
def onBook (book : LightBook) : NameOp → Except Fault (LightBook × List NameAnswer)
  | addDevice _ name => .ok (book.insert name ⟨false, 0, ⟨255, 255, 255⟩⟩, [.added])
  | change name c => .ok ((book.change name c).1, [.flag (book.change name c).2])
  | look name => .ok (book, [.light (book.lookup name)])

/-- The operation gives no name to a light. -/
def IsQuery : NameOp → Prop
  | addDevice _ _ => False
  | change _ (.rename _) => False
  | _ => True

end NameOp

/-- The operation gives no light the name of another one, and makes no more than `255`. -/
def LightBook.Allows (book : LightBook) : NameOp → Prop
  | .addDevice _ name => name ∉ book ∧ book.keys.card < 255
  | .change name (.rename new) => name ∈ book → new = name ∨ new ∉ book
  | _ => True

variable {devices : List Device} {book : LightBook}

/-! ### Allowed operations -/

/-- The store is a table of the book that can be addressed. -/
structure Tables (devices : List Device) (book : LightBook) : Prop where
  table : Tabulates Device.name Device.light devices book
  length : devices.length ≤ 255

lemma tables_nil : Tables [] ∅ := ⟨.nil, by simp⟩

/-- No device has a name that is not in the book. -/
lemma Tables.ne_of_notMem (h : Tables devices book) {name : CString} (hname : name ∉ book) :
    ∀ d ∈ devices, d.name ≠ name := fun _ hd heq =>
  hname (h.table.mem_iff.mpr (List.mem_map.mpr ⟨_, hd, heq⟩))

/-- The device whose name is in the book. -/
lemma Tables.exists_device (h : Tables devices book) {name : CString} (hname : name ∈ book) :
    ∃ pre d post, devices = pre ++ d :: post ∧ d.name = name ∧ ∀ e ∈ pre, e.name ≠ d.name := by
  obtain ⟨pre, d, post, rfl, rfl⟩ := h.table.exists_middle hname
  exact ⟨pre, d, post, rfl, rfl, fun e he heq =>
    h.table.notMem_middle.1 (List.mem_map.mpr ⟨e, he, heq⟩)⟩

/-- A light that is looked at is the one of the book. -/
lemma Tables.lookAt_eq (h : Tables devices book) (name : CString) :
    lookAt devices name = book.lookup name := by
  by_cases hname : name ∈ book
  · obtain ⟨pre, d, post, rfl, rfl, hpre⟩ := h.exists_device hname
    rw [h.table.lookup_middle, lookAt, getDeviceId_append_cons hpre]
    simp
  · rw [Finmap.lookup_eq_none.mpr hname, lookAt, getDeviceId_of_unknown (h.ne_of_notMem hname)]
    rfl

/-- A change of a light that is in the book. -/
lemma Tables.change_middle {pre post : List Device} {d : Device}
    (h : Tables (pre ++ d :: post) book) {c : Change}
    (hallow : book.Allows (.change d.name c)) :
    Tables (pre ++ c.effect d ++ post) (book.change d.name c).1 ∧
      (book.change d.name c).2 = true := by
  have hmem : d.name ∈ book := h.table.mem_iff.mpr (by simp)
  have hlen := h.length
  rw [List.length_append, List.length_cons] at hlen
  rw [LightBook.change, h.table.lookup_middle]
  cases c with
  | rename new =>
      have hnew : new ∉ book.erase d.name := by
        rw [Finmap.mem_erase]
        rintro ⟨hne, hin⟩
        exact (hallow hmem).elim hne (fun hno => hno hin)
      refine ⟨⟨?_, by simpa [Change.effect] using hlen⟩, rfl⟩
      rw [Change.effect, List.append_assoc, List.singleton_append]
      exact h.table.erase.insert (a := { d with name := new }) hnew
  | remove =>
      refine ⟨⟨?_, by simp [Change.effect]; omega⟩, rfl⟩
      rw [Change.effect, List.append_nil]
      exact h.table.erase
  | setState state value =>
      refine ⟨⟨?_, by simpa [Change.effect] using hlen⟩, rfl⟩
      rw [Change.effect, List.append_assoc, List.singleton_append]
      exact h.table.replace (rfl : Device.name { d with state := state, value := value } = d.name)
  | setStateRgb state value rgb =>
      refine ⟨⟨?_, by simpa [Change.effect] using hlen⟩, rfl⟩
      rw [Change.effect, List.append_assoc, List.singleton_append]
      exact h.table.replace
        (rfl : Device.name { d with state := state, value := value, rgb := rgb } = d.name)

lemma exists_added (iface : Interface) (slot : UniqueIdArray) (devices : List Device)
    (name : CString) : ∃ d, (addDevice iface slot devices name).1 = devices ++ [d] ∧
      d.name = name ∧ d.light = ⟨false, 0, ⟨255, 255, 255⟩⟩ := ⟨_, rfl, rfl, rfl⟩

/-- **One operation** that is allowed tells the same on the store and on the book. -/
lemma exists_step_book (iface : Interface) (h : Tables devices book) {op : NameOp}
    (hallow : book.Allows op) : ∃ devices' book' answers,
      op.onStore iface devices = .ok (devices', answers) ∧
      op.onBook book = .ok (book', answers) ∧ Tables devices' book' := by
  cases op with
  | addDevice slot name =>
      obtain ⟨d, hadd, rfl, hlight⟩ := exists_added iface slot devices name
      have htable := h.table
      rw [← List.append_nil devices] at htable
      refine ⟨_, _, _, rfl, rfl, ?_⟩
      rw [hadd, ← hlight]
      refine ⟨htable.insert hallow.1, ?_⟩
      have hcard := hallow.2
      rw [h.table.card_keys] at hcard
      rw [List.length_append, List.length_singleton]
      omega
  | change name c =>
      by_cases hname : name ∈ book
      · obtain ⟨pre, d, post, rfl, rfl, hpre⟩ := h.exists_device hname
        have hby := (namesAgree_of_le h.length).known pre d post rfl hpre c
        obtain ⟨htables, hflag⟩ := h.change_middle hallow
        refine ⟨_, _, _, rfl, ?_, by rwa [hby]⟩
        rw [NameOp.onBook, hby, hflag]
      · have hby := (namesAgree_of_le h.length).unknown name (h.ne_of_notMem hname) c
        have hbook : book.change name c = (book, false) := by
          rw [LightBook.change, Finmap.lookup_eq_none.mpr hname]
        refine ⟨_, _, _, rfl, ?_, by rwa [hby]⟩
        rw [NameOp.onBook, hby, hbook]
  | look name => exact ⟨_, _, _, rfl, by rw [NameOp.onBook, h.lookAt_eq], h⟩

/-! ### Operations that are not allowed -/

/-- A change on a name that some device has reaches the first one. -/
lemma Change.byName_of_mem {name : CString} (hlen : devices.length ≤ 256)
    (h : name ∈ devices.map Device.name) (c : Change) : ∃ pre d post,
      devices = pre ++ d :: post ∧ d.name = name ∧
        c.byName devices name = (pre ++ c.effect d ++ post, true) := by
  obtain ⟨names, names', hsplit, hfirst⟩ := List.eq_append_cons_of_mem h
  obtain ⟨pre, rest, rfl, rfl, hrest⟩ := List.map_eq_append_iff.mp hsplit
  obtain ⟨d, post, rfl, rfl, rfl⟩ := List.map_eq_cons_iff.mp hrest
  have hpre : ∀ e ∈ pre, e.name ≠ d.name := fun e he heq =>
    hfirst (List.mem_map.mpr ⟨e, he, heq⟩)
  have hid : (UInt8.ofInt (pre.length : ℤ)).toNat = pre.length := by
    rw [toNat_ofInt_uint8]
    rw [List.length_append, List.length_cons] at hlen
    omega
  exact ⟨pre, d, post, rfl, rfl, by
    rw [Change.byName_of_nonneg (getDeviceId_append_cons hpre post), Change.byId_of_eq hid]⟩

/-- A light is removed from the book once. -/
lemma LightBook.remove_twice (book : LightBook) (name : CString) :
    ((book.change name .remove).1.change name .remove).2 = false := by
  have hnone : ((book.change name .remove).1).lookup name = none := by
    rw [LightBook.change]
    cases hlook : book.lookup name with
    | none => exact hlook
    | some light => exact Finmap.lookup_erase name book
  rw [LightBook.change.eq_1 (book.change name .remove).1, hnone]

/-- **Two devices of one name** can be removed one after the other, which no book allows. -/
lemma not_sameAnswers_of_two (iface : Interface) {name : CString} (hlen : devices.length ≤ 256)
    (htwo : 2 ≤ (devices.map Device.name).count name) (book : LightBook) :
    ¬ SameAnswers (NameOp.onStore iface) NameOp.onBook devices book
      [.change name .remove, .change name .remove] := by
  intro h
  obtain ⟨pre, d, post, rfl, rfl, hfirst⟩ := Change.byName_of_mem hlen
    (List.count_pos_iff.mp (Nat.zero_lt_two.trans_le htwo)) .remove
  have hstill : d.name ∈ (pre ++ Change.effect d .remove ++ post).map Device.name := by
    rw [List.map_append, List.map_cons, List.count_append, List.count_cons_self] at htwo
    rw [← List.count_pos_iff, Change.effect, List.append_nil, List.map_append, List.count_append]
    omega
  have hlen' : (pre ++ Change.effect d .remove ++ post).length ≤ 256 := by
    rw [List.length_append, List.length_cons] at hlen
    simp only [Change.effect, List.append_nil, List.length_append]
    omega
  obtain ⟨pre', d', post', -, -, hsecond⟩ := Change.byName_of_mem hlen' hstill .remove
  have hflags := Except.ok.inj h
  rw [List.append_assoc] at hsecond
  simp [hfirst, hsecond, LightBook.remove_twice] at hflags

/-- An operation that leaves two devices of one name can be told. -/
lemma exists_queries_of_two {iface : Interface} {op : NameOp} {devices' : List Device}
    {book' : LightBook} {answers : List NameAnswer} {name : CString}
    (hstore : op.onStore iface devices = .ok (devices', answers))
    (hbook : op.onBook book = .ok (book', answers)) (hlen : devices'.length ≤ 256)
    (htwo : 2 ≤ (devices'.map Device.name).count name) : ∃ queries : List NameOp,
      (∀ q ∈ queries, q.IsQuery) ∧
      ¬ SameAnswers (NameOp.onStore iface) NameOp.onBook devices book (op :: queries) := by
  refine ⟨[.change name .remove, .change name .remove], by simp [NameOp.IsQuery], ?_⟩
  rw [sameAnswers_cons hstore hbook]
  exact not_sameAnswers_of_two iface hlen htwo book'

/-- So can the `addDevice` of the device at the index `255`, which is found under every unknown
name. -/
lemma exists_queries_of_full (iface : Interface) (h : Tables devices book)
    (hfull : devices.length = 255) (slot : UniqueIdArray) (name : CString) :
    ∃ queries : List NameOp, (∀ q ∈ queries, q.IsQuery) ∧
      ¬ SameAnswers (NameOp.onStore iface) NameOp.onBook devices book
        (.addDevice slot name :: queries) := by
  obtain ⟨d, hadd, rfl, -⟩ := exists_added iface slot devices name
  obtain ⟨unknown, hunknown⟩ := exists_unknown (devices ++ [d])
  refine ⟨[.change unknown (.setState false 0)], by simp [NameOp.IsQuery], ?_⟩
  rw [sameAnswers_cons (by rw [NameOp.onStore, hadd]) rfl]
  intro hsame
  have hlt : (UInt8.ofInt (-1)).toNat < (devices ++ [d]).length := by
    rw [List.length_append, List.length_singleton, hfull]
    decide
  have hstore : (Change.byName (devices ++ [d]) unknown (.setState false 0)).2 = true := by
    rw [Change.byName, setStateByName, getDeviceId_of_unknown hunknown, setState, if_pos hlt]
  have hnone : (book.insert d.name ⟨false, 0, ⟨255, 255, 255⟩⟩).lookup unknown = none := by
    rw [Finmap.lookup_insert_of_ne _ (hunknown d (by simp)).symm, Finmap.lookup_eq_none,
      h.table.mem_iff]
    intro hmem
    obtain ⟨e, he, heq⟩ := List.mem_map.mp hmem
    exact hunknown e (List.mem_append_left _ he) heq
  have hflags := Except.ok.inj hsame
  simp [hstore, LightBook.change, hnone] at hflags

/-- **An operation that is not allowed** can be told by queries behind it. -/
lemma exists_queries (iface : Interface) (h : Tables devices book) {op : NameOp}
    (hno : ¬ book.Allows op) : ∃ queries : List NameOp, (∀ q ∈ queries, q.IsQuery) ∧
      ¬ SameAnswers (NameOp.onStore iface) NameOp.onBook devices book (op :: queries) := by
  have hlen := h.length
  cases op with
  | addDevice slot name =>
      by_cases hname : name ∈ book
      · obtain ⟨d, hadd, rfl, -⟩ := exists_added iface slot devices name
        have htwo : 2 ≤ ((devices ++ [d]).map Device.name).count d.name := by
          have hpos := List.count_pos_iff.mpr (h.table.mem_iff.mp hname)
          rw [List.map_append, List.map_singleton, List.count_append, List.count_singleton_self]
          omega
        exact exists_queries_of_two (by rw [NameOp.onStore, hadd]) rfl (by simp; omega) htwo
      · refine exists_queries_of_full iface h ?_ slot name
        have hcard : ¬ book.keys.card < 255 := fun hlt => hno ⟨hname, hlt⟩
        rw [h.table.card_keys] at hcard
        omega
  | change name c =>
      cases c with
      | rename new =>
          simp only [LightBook.Allows, not_forall, not_or, not_not] at hno
          obtain ⟨hname, hne, hnew⟩ := hno
          obtain ⟨pre, d, post, rfl, rfl, hpre⟩ := h.exists_device hname
          have hby := (namesAgree_of_le h.length).known pre d post rfl hpre (.rename new)
          have hflag : (book.change d.name (.rename new)).2 = true := by
            rw [LightBook.change, h.table.lookup_middle]
          refine exists_queries_of_two (by rw [NameOp.onStore, hby])
            (by rw [NameOp.onBook, hflag]) ?_ (?_ : 2 ≤ List.count new _)
          · simp only [Change.effect, List.length_append, List.length_cons, List.length_nil] at *
            omega
          · -- the device that had the name, and the one that is given it
            have hpos := List.count_pos_iff.mpr (h.table.mem_iff.mp hnew)
            rw [List.map_append, List.map_cons, List.count_append,
              List.count_cons_of_ne (Ne.symm hne)] at hpos
            simp only [Change.effect, List.map_append, List.map_cons, List.map_nil,
              List.count_append, List.count_cons_self, List.count_nil]
            omega
      | _ => exact absurd trivial hno
  | look name => exact absurd trivial hno

/-- **The store is a book of lights**: those who use it through names only cannot tell it from a
finite map from names to lights, at any moment of a run and by whatever they ask then, exactly on
the runs that give no light the name of another one and make no more than `255`. -/
theorem dictionary_iff (iface : Interface) (ops : List NameOp) :
    Indistinguishable (NameOp.onStore iface) NameOp.onBook NameOp.IsQuery [] ∅ ops ↔
      EveryInput NameOp.onBook LightBook.Allows ∅ ops := by
  have hstep : ∀ devices book op, Tables devices book → book.Allows op → ∃ devices' book' answers,
      op.onStore iface devices = .ok (devices', answers) ∧
      op.onBook book = .ok (book', answers) ∧ Tables devices' book' :=
    fun _ _ _ h hallow => exists_step_book iface h hallow
  refine indistinguishable_iff hstep (fun book op hq => ?_)
    (fun _ _ _ h hno => exists_queries iface h hno) tables_nil
  cases op with
  | addDevice slot name => exact hq.elim
  | change name c =>
      cases c with
      | rename new => exact hq.elim
      | _ => trivial
  | look name => trivial

end FauxmoLinux
