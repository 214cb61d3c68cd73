import Outline.Markup
import Outline.Proofs.Markup.Escape

/-!
# Tags

A tag stands between a '<' and a '>'.  Running text begins none, and what an element is given ends
none, unless a name does.  So the texts are what is left when the tags are deleted.

* `Markup.html_element_append`: an element is an opening tag and the remainder, whatever follows.
* `Markup.not_mem_inside`: nothing ends an opening tag early.
* `Markup.withoutTags`: a text without the runs from a '<' to the next '>'.
* `Markup.decode_withoutTags_htmlAll`: **the views of an element agree**.
-/

namespace Outline.Markup

variable {tag : Text} {id : Option Text} {classes : List Text}
  {attributes given : List Attribute} {children ms : List Markup} {m : Markup}

/-! ### What stands in an opening tag -/

def idAttribute : Option Text → List Attribute
  | none => []
  | some i => if i = [] then [] else [⟨['i', 'd'], some i⟩]

def classAttribute (classes : List Text) : List Attribute :=
  if classes = [] then [] else [⟨['c', 'l', 'a', 's', 's'], some ([' '].intercalate classes)⟩]

/-- Everything that an element is given, as attributes in the order in which they are written. -/
def allAttributes (id : Option Text) (classes : List Text) (attributes : List Attribute) :
    List Attribute := idAttribute id ++ classAttribute classes ++ attributes

def spaced (given : List Attribute) : Text := given.flatMap fun a => ' ' :: attributeEntry a

def inside (tag : Text) (id : Option Text) (classes : List Text) (attributes : List Attribute) :
    Text := tag ++ spaced (allAttributes id classes attributes)

/-- What is written of an element behind its opening tag. -/
def remainder (tag : Text) (children : List Markup) : Text :=
  if isVoidTag tag && children.isEmpty then [] else htmlAll children ++ closingTag tag

theorem idEntry_eq (id : Option Text) : idEntry id = (idAttribute id).map attributeEntry := by
  cases id with
  | none => rfl
  | some i =>
    rw [idEntry, idAttribute]
    split_ifs <;> rfl

theorem classEntry_eq (classes : List Text) :
    classEntry classes = (classAttribute classes).map attributeEntry := by
  rw [classEntry, classAttribute]
  split_ifs <;> rfl

/-- **An opening tag** writes everything that the element is given in the same way. -/
theorem openingTag_eq (tag : Text) (id : Option Text) (classes : List Text)
    (attributes : List Attribute) :
    openingTag tag id classes attributes = '<' :: (inside tag id classes attributes ++ ['>']) := by
  rw [openingTag, idEntry_eq, classEntry_eq, List.cons_append, List.cons_append, ← List.map_append,
    List.cons_append, ← List.map_append, Text.intercalate_cons_eq_append_flatMap, List.flatMap_map]
  rfl

theorem html_element_append (tag : Text) (id : Option Text) (classes : List Text)
    (attributes : List Attribute) (children : List Markup) (rest : Text) :
    html (element tag id classes attributes children) ++ rest =
      '<' :: (inside tag id classes attributes ++ '>' :: (remainder tag children ++ rest)) := by
  rw [html, openingTag_eq, remainder]
  split_ifs <;> simp only [List.cons_append, List.append_assoc, List.nil_append]

theorem name_of_mem_idAttribute {a : Attribute} (ha : a ∈ idAttribute id) :
    a.name = ['i', 'd'] := by
  cases id with
  | none => exact absurd ha List.not_mem_nil
  | some i =>
    rw [idAttribute] at ha
    split_ifs at ha
    · exact absurd ha List.not_mem_nil
    · exact congrArg Attribute.name (List.mem_singleton.mp ha)

theorem name_of_mem_classAttribute {a : Attribute} (ha : a ∈ classAttribute classes) :
    a.name = ['c', 'l', 'a', 's', 's'] := by
  rw [classAttribute] at ha
  split_ifs at ha
  · exact absurd ha List.not_mem_nil
  · exact congrArg Attribute.name (List.mem_singleton.mp ha)

theorem forall_allAttributes {p : Text → Prop} (hid : p ['i', 'd'])
    (hclass : p ['c', 'l', 'a', 's', 's']) (h : ∀ a ∈ attributes, p a.name) :
    ∀ a ∈ allAttributes id classes attributes, p a.name := by
  intro a ha
  rw [allAttributes, List.mem_append, List.mem_append] at ha
  rcases ha with (ha | ha) | ha
  · exact name_of_mem_idAttribute ha ▸ hid
  · exact name_of_mem_classAttribute ha ▸ hclass
  · exact h a ha

theorem not_mem_spaced (h : ∀ a ∈ given, '>' ∉ a.name) : '>' ∉ spaced given := by
  intro hmem
  obtain ⟨a, ha, hmem⟩ := List.mem_flatMap.mp hmem
  have hentry : '>' ∈ attributeEntry a := (List.mem_cons.mp hmem).resolve_left (by decide)
  rw [attributeEntry] at hentry
  cases hv : a.value with
  | none =>
    rw [hv] at hentry
    exact h a ha hentry
  | some v =>
    rw [hv] at hentry
    simp only [written, List.append_assoc, List.cons_append, List.mem_append, List.mem_cons,
      List.not_mem_nil, or_false] at hentry
    rcases hentry with hname | hequals | hquote | hvalue | hquote
    · exact h a ha hname
    · exact absurd hequals (by decide)
    · exact absurd hquote (by decide)
    · exact not_mem_escapeValue (.inl rfl) v hvalue
    · exact absurd hquote (by decide)

/-- **Nothing ends an opening tag early** when no name does. -/
theorem not_mem_inside (htag : '>' ∉ tag) (h : ∀ a ∈ attributes, '>' ∉ a.name) :
    '>' ∉ inside tag id classes attributes := by
  rw [inside, List.mem_append, not_or]
  exact ⟨htag, not_mem_spaced
    (forall_allAttributes (p := ('>' ∉ ·)) (by decide) (by decide) h)⟩

/-! ### Deleting tags -/

/-- A text without the runs from a '<' to the next '>', when it begins within such a run or not.
A '<' with no '>' behind it stays. -/
def withoutTagsFrom : Bool → Text → Text
  | _, [] => []
  | true, c :: rest => withoutTagsFrom (c != '>') rest
  | false, c :: rest =>
    if c = '<' ∧ '>' ∈ rest then withoutTagsFrom true rest else c :: withoutTagsFrom false rest

def withoutTags (t : Text) : Text := withoutTagsFrom false t

theorem withoutTagsFrom_true {t : Text} (h : '>' ∉ t) (rest : Text) :
    withoutTagsFrom true (t ++ '>' :: rest) = withoutTags rest := by
  induction t with
  | nil => rfl
  | cons c t ih =>
    rw [List.mem_cons, not_or] at h
    rw [List.cons_append, withoutTagsFrom, bne_iff_ne.mpr (Ne.symm h.1)]
    exact ih h.2

theorem withoutTags_tag {t : Text} (h : '>' ∉ t) (rest : Text) :
    withoutTags ('<' :: (t ++ '>' :: rest)) = withoutTags rest := by
  rw [withoutTags, withoutTagsFrom, if_pos ⟨rfl, List.mem_append_right t List.mem_cons_self⟩]
  exact withoutTagsFrom_true h rest

theorem withoutTags_append {t : Text} (h : '<' ∉ t) (rest : Text) :
    withoutTags (t ++ rest) = t ++ withoutTags rest := by
  induction t with
  | nil => rfl
  | cons c t ih =>
    rw [List.mem_cons, not_or] at h
    rw [List.cons_append, withoutTags, withoutTagsFrom, if_neg fun hc => h.1 hc.1.symm]
    exact congrArg (c :: ·) (ih h.2)

/-! ### The texts alone -/

/-- No tag and no name of an attribute holds the '>' that would end the tag it stands in. -/
inductive Unbroken : Markup → Prop
  | text (data : Text) : Unbroken (text data)
  | element {tag : Text} {id : Option Text} {classes : List Text} {attributes : List Attribute}
      {children : List Markup} (htag : '>' ∉ tag) (hattributes : ∀ a ∈ attributes, '>' ∉ a.name)
      (hchildren : ∀ m ∈ children, Unbroken m) :
      Unbroken (element tag id classes attributes children)

/-- **Deleting the tags leaves the texts** of the markup as they are written, whatever follows. -/
def LeavesTexts (m : Markup) : Prop :=
  ∀ rest, withoutTags (html m ++ rest) = escapeText (textContent m) ++ withoutTags rest

theorem withoutTags_htmlAll (h : ∀ m ∈ ms, LeavesTexts m) (rest : Text) :
    withoutTags (htmlAll ms ++ rest) = escapeText (textContentAll ms) ++ withoutTags rest := by
  induction ms with
  | nil => rfl
  | cons m ms ih =>
    rw [List.forall_mem_cons] at h
    rw [htmlAll, textContentAll, List.append_assoc, h.1, ih h.2, ← List.append_assoc]
    exact congrArg (· ++ _) (escape_append ..).symm

theorem withoutTags_remainder (htag : '>' ∉ tag) (h : ∀ m ∈ children, LeavesTexts m)
    (rest : Text) :
    withoutTags (remainder tag children ++ rest) =
      escapeText (textContentAll children) ++ withoutTags rest := by
  rw [remainder]
  split_ifs with hvoid
  · -- without a closing tag there are no texts either
    rw [Bool.and_eq_true, List.isEmpty_iff] at hvoid
    rw [hvoid.2]
    rfl
  · have hclosing : '>' ∉ '/' :: tag := fun h => (List.mem_cons.mp h).elim (by decide) htag
    rw [List.append_assoc, withoutTags_htmlAll h, closingTag, List.append_assoc]
    exact congrArg _ (withoutTags_tag hclosing rest)

theorem Unbroken.leavesTexts (h : Unbroken m) : LeavesTexts m := by
  induction h with
  | text data =>
    intro rest
    rw [html, textContent]
    exact withoutTags_append (not_mem_escapeText data) rest
  | element htag hattributes _ ih =>
    intro rest
    rw [html_element_append, textContent, withoutTags_tag (not_mem_inside htag hattributes),
      withoutTags_remainder htag ih]

/-- **The views of an element agree**: what it contains, written out, is its texts when the tags are
deleted and the references are resolved. -/
theorem decode_withoutTags_htmlAll (h : ∀ m ∈ ms, Unbroken m) :
    Reference.decode (withoutTags (htmlAll ms)) = .ok (textContentAll ms) := by
  have htexts : withoutTags (htmlAll ms) = escapeText (textContentAll ms) := by
    have happend := withoutTags_htmlAll (fun m hm => (h m hm).leavesTexts) []
    rw [List.append_nil] at happend
    exact happend.trans (List.append_nil _)
  rw [htexts]
  exact decode_escape resolved_textReference _

def lookalikes : List Markup :=
  [.text ['&'], .text ['l', 't', ';'],
    .element ['p'] (some ['"', '>']) [['<'], ['\'']]
      [⟨['q'], some ['<', '/', 'p', '>']⟩, ⟨['r'], none⟩]
      [.text ['<', 'b', '>'], .element ['b', 'r'] none [] [] []]]

theorem unbroken_lookalikes : ∀ m ∈ lookalikes, Unbroken m := by
  have hbreak : Unbroken (.element ['b', 'r'] none [] [] []) :=
    .element (by decide) nofun nofun
  simp only [lookalikes, List.forall_mem_cons]
  refine ⟨.text _, .text _, .element (by decide) (by decide) ?_, nofun⟩
  simp only [List.forall_mem_cons]
  exact ⟨.text _, hbreak, nofun⟩

theorem decode_withoutTags_htmlAll_of_lookalikes :
    (∀ m ∈ lookalikes, Unbroken m) ∧
      Reference.decode (withoutTags (htmlAll lookalikes)) =
        .ok ['&', 'l', 't', ';', '<', 'b', '>'] :=
  ⟨unbroken_lookalikes, decode_withoutTags_htmlAll unbroken_lookalikes⟩

end Outline.Markup
