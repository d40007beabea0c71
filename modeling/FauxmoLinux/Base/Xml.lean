import FauxmoLinux.Base.Numeral
import FauxmoLinux.Base.Reader

/-!
Documents of elements, as a client reads them.

* `XmlTag`, `XmlItem`: a tag, and a tag with the text behind it; `XmlItem.wire`: their bytes;
* `readXml`: the reader: the text is cut where tags begin, every end is that of the element begun
  last, and there is one element around all others. What is read are the paths of the elements, and
  their texts;
* `XmlItem.Plain`, `readItems_wire`: items without entities are read back;
* `Nested`: items that end what they begin; `Nested.append`, `Nested.element`, `nested_leaves`: how
  they are put together; `readXml_wire`: so put together, they are read as their paths and texts.
-/

namespace FauxmoLinux

/-- A tag: an instruction, the start of an element with its attributes, and its end. -/
inductive XmlTag where
  | instruction (text : Bytes)
  | start (name : Bytes) (attributes : List (Bytes × Bytes))
  | stop (name : Bytes)
  deriving DecidableEq, Repr

/-- A tag and the text up to the next one. -/
structure XmlItem where
  tag : XmlTag
  text : Bytes
  deriving DecidableEq, Repr

/-- An attribute as it is written. -/
def attributeText (a : Bytes × Bytes) : Bytes := 32 :: (a.1 ++ 61 :: 34 :: (a.2 ++ [34]))

/-- A tag as it is written, without its brackets. -/
def XmlTag.wire : XmlTag → Bytes
  | .instruction text => 63 :: (text ++ [63])
  | .start name attributes => name ++ attributes.flatMap attributeText
  | .stop name => 47 :: name

/-- The bytes of an item behind the opening bracket. -/
def XmlItem.part (i : XmlItem) : Bytes := i.tag.wire ++ 62 :: i.text

/-- The bytes of an item. -/
def XmlItem.wire (i : XmlItem) : Bytes := 60 :: i.part

/-! ### The reader -/

/-- A byte of a name. -/
def isNameByte (c : UInt8) : Bool :=
  isDigit c || (65 ≤ c && c ≤ 90) || (97 ≤ c && c ≤ 122) || c = 45 || c = 46 || c = 58 || c = 95

/-- A name. -/
def IsXmlName (s : Bytes) : Prop := s ≠ [] ∧ s.all isNameByte = true

instance (s : Bytes) : Decidable (IsXmlName s) := inferInstanceAs (Decidable (_ ∧ _))

/-- The attributes, from the text cut at the quotes. -/
def readAttributes : List Bytes → Option (List (Bytes × Bytes))
  | [last] => if last = [] then some [] else none
  | (32 :: key) :: value :: rest =>
      if key.getLast? = some 61 ∧ IsXmlName key.dropLast ∧ 38 ∉ value then
        (readAttributes rest).map ((key.dropLast, value) :: ·)
      else none
  | _ => none

/-- A tag, from the text between its brackets. -/
def readTag (s : Bytes) : Option XmlTag :=
  if s.head? = some 47 then
    if IsXmlName s.tail then some (.stop s.tail) else none
  else if s.head? = some 63 then
    if s.tail.getLast? = some 63 then some (.instruction s.tail.dropLast) else none
  else
    let name := s.takeWhile (· ≠ 32)
    if IsXmlName name then
      (readAttributes ((s.dropWhile (· ≠ 32)).splitOn 34)).map (.start name)
    else none

/-- An item, from the text behind its opening bracket. Entities are not read. -/
def readItem (part : Bytes) : Option XmlItem := do
  match part.dropWhile (· ≠ 62) with
  | [] => none
  | _ :: text =>
      let tag ← readTag (part.takeWhile (· ≠ 62))
      if 38 ∈ text then none else some ⟨tag, text⟩

/-- The items of a text that begins with one. -/
def readItems (s : Bytes) : Option (List XmlItem) :=
  match s.splitOn 60 with
  | [] :: parts => parts.mapM readItem
  | _ => none

/-- The paths and texts of the elements, inside the elements `path`, the innermost in front. -/
def walk : List Bytes → List XmlItem → Option (List (List Bytes × Bytes))
  | [], [] => some []
  | _ :: _, [] => none
  | path, ⟨.start name _, text⟩ :: items =>
      (walk (name :: path) items).map (((name :: path).reverse, text) :: ·)
  | name' :: path, ⟨.stop name, text⟩ :: items =>
      if name = name' ∧ text = [] then walk path items else none
  | [], ⟨.stop _, _⟩ :: _ => none
  | [], ⟨.instruction _, text⟩ :: items => if text = [] then walk [] items else none
  | _ :: _, ⟨.instruction _, _⟩ :: _ => none

/-- The elements of a document, with their paths. One of them is around all others. -/
def readXml (s : Bytes) : Option (List (List Bytes × Bytes)) := do
  let entries ← walk [] (← readItems s)
  if entries.countP (·.1.length = 1) = 1 then some entries else none

/-- The text of the element with the path. -/
def textAt (path : List Bytes) (entries : List (List Bytes × Bytes)) : Option Bytes :=
  (entries.find? (·.1 = path)).map Prod.snd

/-! ### What is read back -/

/-- The name does not contain what ends it. -/
lemma IsXmlName.notMem {s : Bytes} (h : IsXmlName s) {c : UInt8} (hc : isNameByte c = false) :
    c ∉ s := fun hmem => by
  have hname := List.all_eq_true.mp h.2 c hmem
  rw [hc] at hname
  cases hname

/-- A tag that is read back. -/
def XmlTag.Plain : XmlTag → Prop
  | .instruction text => 60 ∉ text ∧ 62 ∉ text
  | .start name attributes => IsXmlName name ∧
      ∀ a ∈ attributes, IsXmlName a.1 ∧ 34 ∉ a.2 ∧ 38 ∉ a.2 ∧ 60 ∉ a.2 ∧ 62 ∉ a.2
  | .stop name => IsXmlName name

/-- An item that is read back. -/
structure XmlItem.Plain (i : XmlItem) : Prop where
  tag : i.tag.Plain
  text : 38 ∉ i.text ∧ 60 ∉ i.text

instance : (t : XmlTag) → Decidable t.Plain
  | .instruction _ => inferInstanceAs (Decidable (_ ∧ _))
  | .start _ _ => inferInstanceAs (Decidable (_ ∧ _))
  | .stop _ => inferInstanceAs (Decidable (IsXmlName _))

lemma readAttributes_flatMap {attributes : List (Bytes × Bytes)}
    (h : ∀ a ∈ attributes, IsXmlName a.1 ∧ 34 ∉ a.2 ∧ 38 ∉ a.2 ∧ 60 ∉ a.2 ∧ 62 ∉ a.2) :
    readAttributes ((attributes.flatMap attributeText).splitOn 34) = some attributes := by
  induction attributes with
  | nil => rfl
  | cons a attributes ih =>
      rw [List.forall_mem_cons] at h
      obtain ⟨⟨hname, hquote, hamp, -⟩, hrest⟩ := h
      have hkey : (34 : UInt8) ∉ 32 :: (a.1 ++ [61]) := by
        simp [hname.notMem (by decide : isNameByte 34 = false)]
      have htext : (a :: attributes).flatMap attributeText =
          (32 :: (a.1 ++ [61])) ++ 34 :: (a.2 ++ 34 :: attributes.flatMap attributeText) := by
        simp [attributeText]
      rw [htext, List.splitOn_append_cons_self_of_not_mem hkey,
        List.splitOn_append_cons_self_of_not_mem hquote, readAttributes, List.dropLast_concat,
        if_pos ⟨by simp, hname, hamp⟩, ih hrest]
      rfl

/-- A tag is read back. -/
lemma readTag_wire {t : XmlTag} (h : t.Plain) : readTag t.wire = some t := by
  cases t with
  | instruction text => simp [XmlTag.wire, readTag]
  | stop name => exact if_pos h
  | start name attributes =>
      obtain ⟨hname, hattr⟩ := h
      have hspace : ∀ c ∈ name, decide (c ≠ 32) = true := fun c hc => decide_eq_true fun h32 =>
        hname.notMem (by decide : isNameByte 32 = false) (h32 ▸ hc)
      have htake : (name ++ attributes.flatMap attributeText).takeWhile (· ≠ 32) = name := by
        rw [List.takeWhile_append_of_pos hspace]
        cases attributes <;> simp [attributeText]
      have hdrop : (name ++ attributes.flatMap attributeText).dropWhile (· ≠ 32) =
          attributes.flatMap attributeText := by
        rw [List.dropWhile_append_of_pos hspace]
        cases attributes <;> simp [attributeText]
      -- the first byte of a name begins neither an end nor an instruction
      have hhead : ∀ c, isNameByte c = false →
          (name ++ attributes.flatMap attributeText).head? ≠ some c := by
        intro c hc
        obtain ⟨b, name', rfl⟩ := List.exists_cons_of_ne_nil hname.1
        rintro ⟨⟩
        exact hname.notMem hc List.mem_cons_self
      rw [XmlTag.wire, readTag, if_neg (hhead 47 (by decide)), if_neg (hhead 63 (by decide))]
      simp only [htake, hdrop, if_pos hname, readAttributes_flatMap hattr]
      rfl

/-- Between its brackets a tag has none. -/
lemma bracket_notMem_wire {t : XmlTag} (h : t.Plain) : 60 ∉ t.wire ∧ 62 ∉ t.wire := by
  have h60 : isNameByte 60 = false := by decide
  have h62 : isNameByte 62 = false := by decide
  cases t with
  | instruction text => simp [XmlTag.wire, h.1, h.2]
  | stop name =>
      have hname : IsXmlName name := h
      simp [XmlTag.wire, hname.notMem h60, hname.notMem h62]
  | start name attributes =>
      obtain ⟨hname, hattr⟩ := h
      have hnot : ∀ c, c = 60 ∨ c = 62 → ∀ a ∈ attributes, c ∉ attributeText a := by
        rintro c hc a ha
        obtain ⟨hkey, -, -, hlt, hgt⟩ := hattr a ha
        rcases hc with rfl | rfl
        · simp [attributeText, hkey.notMem h60, hlt]
        · simp [attributeText, hkey.notMem h62, hgt]
      simp only [XmlTag.wire, List.mem_append, List.mem_flatMap, not_or, not_exists, not_and]
      exact ⟨⟨hname.notMem h60, hnot 60 (.inl rfl)⟩, hname.notMem h62, hnot 62 (.inr rfl)⟩

/-- An item is read back. -/
lemma readItem_part {i : XmlItem} (h : i.Plain) : readItem i.part = some i := by
  have hclose := (bracket_notMem_wire h.tag).2
  rw [readItem, XmlItem.part, dropWhile_ne_append hclose, takeWhile_ne_append hclose,
    readTag_wire h.tag]
  exact if_neg h.text.1

/-- **Items are read back**, one behind the other. -/
theorem readItems_wire {items : List XmlItem} (h : ∀ i ∈ items, i.Plain) :
    readItems (items.flatMap XmlItem.wire) = some items := by
  have hcut : ∀ (items : List XmlItem), (∀ i ∈ items, i.Plain) → ∀ front : Bytes, 60 ∉ front →
      (front ++ items.flatMap XmlItem.wire).splitOn 60 = front :: items.map XmlItem.part := by
    intro items
    induction items with
    | nil =>
        intro _ front hfront
        rw [List.flatMap_nil, List.append_nil, List.splitOn_eq_singleton hfront]
        rfl
    | cons i items ih =>
        intro h front hfront
        rw [List.forall_mem_cons] at h
        have hpart : 60 ∉ i.part := by
          simp [XmlItem.part, (bracket_notMem_wire h.1.tag).1, h.1.text.2]
        rw [List.flatMap_cons, XmlItem.wire, List.cons_append,
          List.splitOn_append_cons_self_of_not_mem hfront, ih h.2 i.part hpart]
        rfl
  have hall := hcut items h [] (by simp)
  rw [List.nil_append] at hall
  rw [readItems, hall]
  refine mapM_eq_some (by simp) fun k part i hpart hi => ?_
  rw [List.getElem?_map, hi] at hpart
  obtain rfl : i.part = part := Option.some.inj hpart
  exact readItem_part (h i (List.mem_of_getElem? hi))

/-! ### Elements -/

/-- What is read of an element with the text and with what is inside it. -/
def elementEntries (name text : Bytes) (entries : List (List Bytes × Bytes)) :
    List (List Bytes × Bytes) :=
  ([name], text) :: entries.map fun e => (name :: e.1, e.2)

lemma ne_nil_of_mem_elementEntries {name text : Bytes} {entries : List (List Bytes × Bytes)} :
    ∀ e ∈ elementEntries name text entries, e.1 ≠ [] := by
  rw [elementEntries, List.forall_mem_cons, List.forall_mem_map]
  exact ⟨List.cons_ne_nil _ _, fun e _ => List.cons_ne_nil _ _⟩

/-- An element. -/
def xmlElement (name : Bytes) (attributes : List (Bytes × Bytes)) (text : Bytes)
    (items : List XmlItem) : List XmlItem :=
  ⟨.start name attributes, text⟩ :: (items ++ [⟨.stop name, []⟩])

/-- The items end what they begin, and what is read of them is `entries`, wherever they stand. -/
def Nested (items : List XmlItem) (entries : List (List Bytes × Bytes)) : Prop :=
  ∀ path rest, walk path (items ++ rest) =
    (walk path rest).map ((entries.map fun e => (path.reverse ++ e.1, e.2)) ++ ·)

lemma nested_nil : Nested [] [] := by
  intro path rest
  simp

/-- Elements one behind the other. -/
lemma Nested.append {items items' : List XmlItem} {entries entries' : List (List Bytes × Bytes)}
    (h : Nested items entries) (h' : Nested items' entries') :
    Nested (items ++ items') (entries ++ entries') := by
  intro path rest
  rw [List.append_assoc, h, h', Option.map_map, List.map_append]
  exact congrArg (Option.map · _) (funext fun s => (List.append_assoc _ _ s).symm)

/-- An element around others. -/
lemma Nested.element {items : List XmlItem} {entries : List (List Bytes × Bytes)}
    (h : Nested items entries) (name : Bytes) (attributes : List (Bytes × Bytes)) (text : Bytes) :
    Nested (xmlElement name attributes text items) (elementEntries name text entries) := by
  intro path rest
  have hstop : walk (name :: path) (⟨.stop name, []⟩ :: rest) = walk path rest := by
    rw [walk, if_pos ⟨rfl, rfl⟩]
  rw [xmlElement, List.cons_append, List.append_assoc, List.singleton_append, walk, h, hstop,
    Option.map_map]
  refine congrArg (Option.map · _) (funext fun s => ?_)
  simp [elementEntries]

/-- An element is read back when its parts are. -/
lemma plain_element {name text : Bytes} {attributes : List (Bytes × Bytes)} {items : List XmlItem}
    (hstart : (XmlTag.start name attributes).Plain) (htext : 38 ∉ text ∧ 60 ∉ text)
    (h : ∀ i ∈ items, i.Plain) : ∀ i ∈ xmlElement name attributes text items, i.Plain := by
  rw [xmlElement, List.forall_mem_cons, List.forall_mem_append, List.forall_mem_singleton]
  exact ⟨⟨hstart, htext⟩, h, ⟨hstart.1, by simp⟩⟩

/-- Elements with a text and nothing else. -/
def leaves (texts : List (Bytes × Bytes)) : List XmlItem :=
  texts.flatMap fun t => xmlElement t.1 [] t.2 []

lemma nested_leaves (texts : List (Bytes × Bytes)) :
    Nested (leaves texts) (texts.map fun t => ([t.1], t.2)) := by
  induction texts with
  | nil => exact nested_nil
  | cons t texts ih => exact (nested_nil.element t.1 [] t.2).append ih

lemma plain_leaves {texts : List (Bytes × Bytes)}
    (h : ∀ t ∈ texts, IsXmlName t.1 ∧ 38 ∉ t.2 ∧ 60 ∉ t.2) : ∀ i ∈ leaves texts, i.Plain := by
  intro i hi
  obtain ⟨t, ht, hit⟩ := List.mem_flatMap.mp hi
  exact plain_element ⟨(h t ht).1, by simp⟩ (h t ht).2 (by simp) i hit

/-- **A document is read back**: behind an instruction, one element, with all that is inside. -/
theorem readXml_wire {instruction : Bytes} {name text : Bytes} {attributes : List (Bytes × Bytes)}
    {items : List XmlItem} {entries : List (List Bytes × Bytes)}
    (hplain : ∀ i ∈ ⟨.instruction instruction, []⟩ :: xmlElement name attributes text items,
      i.Plain) (h : Nested items entries) (hne : ∀ e ∈ entries, e.1 ≠ []) :
    readXml ((⟨.instruction instruction, []⟩ :: xmlElement name attributes text items).flatMap
      XmlItem.wire) = some (elementEntries name text entries) := by
  have hwalk : walk [] (xmlElement name attributes text items) =
      some (elementEntries name text entries) := by
    have hnested := h.element name attributes text [] []
    rw [List.append_nil, walk] at hnested
    simpa using hnested
  have hone : (elementEntries name text entries).countP (·.1.length = 1) = 1 := by
    rw [elementEntries, List.countP_cons_of_pos (by simp), List.countP_map,
      List.countP_eq_zero.mpr]
    intro e he hlen
    exact hne e he (List.length_eq_zero_iff.mp (by simpa using hlen))
  rw [readXml, readItems_wire hplain]
  simp only [Option.bind_eq_bind, Option.bind_some, walk, if_true, hwalk]
  exact if_pos hone

end FauxmoLinux
