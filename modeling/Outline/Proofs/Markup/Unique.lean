import Mathlib.Data.List.Chain
import Outline.Proofs.Markup.Tags

/-!
# Markup in normal form

Some trees are written alike: an empty id is not written, and texts that touch look like one text.
A tree in **normal form** is written like no other tree in normal form, whatever its texts and
values hold.

* `Markup.spaced_inj`, `Markup.IsNormalTag.inside_inj`: an opening tag is read back.
* `Markup.IsNormal`: what normal form asks for.
* `Markup.IsNormal.recognized`: markup is told from what is written, whatever follows it.
* `Markup.eq_of_html_eq`: **what is written determines the tree**.
-/

namespace Outline.Markup

variable {tag : Text} {id id' : Option Text} {classes classes' : List Text}
  {attributes attributes' given given' : List Attribute} {children children' ms ms' : List Markup}
  {m m' : Markup} {r r' : Text}

/-! ### Reading attributes back -/

def valueEntry : Option Text → Text
  | none => []
  | some v => '=' :: '"' :: escapeValue v ++ ['"']

theorem attributeEntry_eq (a : Attribute) : attributeEntry a = a.name ++ valueEntry a.value := by
  obtain ⟨name, value⟩ := a
  cases value with
  | none => exact (List.append_nil name).symm
  | some v => exact List.append_assoc name _ _

theorem spaced_cons (a : Attribute) (given : List Attribute) :
    spaced (a :: given) = ' ' :: (a.name ++ (valueEntry a.value ++ spaced given)) := by
  rw [spaced, List.flatMap_cons, attributeEntry_eq, List.cons_append, List.append_assoc]
  rfl

theorem head?_spaced (given : List Attribute) : ∀ c ∈ (spaced given).head?, c = ' ' := by
  cases given with
  | nil => exact nofun
  | cons a given =>
    rw [spaced_cons]
    exact fun c hc => (Option.some.inj hc).symm

theorem valueEntry_inj {v v' : Option Text}
    (h : valueEntry v ++ spaced given = valueEntry v' ++ spaced given') :
    v = v' ∧ spaced given = spaced given' := by
  have hother : ∀ (w : Text) (g g' : List Attribute),
      spaced g ≠ valueEntry (some w) ++ spaced g' := fun w g g' heq =>
    absurd (head?_spaced g '=' (heq ▸ rfl)) (by decide)
  cases v with
  | none =>
    cases v' with
    | none => exact ⟨rfl, h⟩
    | some w' => exact absurd h (hother w' given given')
  | some w =>
    cases v' with
    | none => exact absurd h.symm (hother w given' given)
    | some w' =>
      simp only [valueEntry, List.cons_append, List.append_assoc, List.nil_append, List.cons.injEq,
        true_and] at h
      obtain ⟨hvalue, hrest⟩ :=
        Text.cut_inj (not_mem_escapeValue (.inr rfl) w) (not_mem_escapeValue (.inr rfl) w') h
      exact ⟨congrArg some (escapeValue_injective hvalue), hrest⟩

/-- A name that ends neither itself nor its tag. -/
def IsPlain (name : Text) : Prop := ' ' ∉ name ∧ '=' ∉ name ∧ '>' ∉ name

instance (name : Text) : Decidable (IsPlain name) :=
  inferInstanceAs (Decidable (' ' ∉ name ∧ '=' ∉ name ∧ '>' ∉ name))

theorem IsPlain.forall_mem {name : Text} (h : IsPlain name) :
    ∀ c ∈ name, (c != ' ' && c != '=') = true := by
  intro c hc
  rw [Bool.and_eq_true, bne_iff_ne, bne_iff_ne]
  exact ⟨fun hspace => h.1 (hspace ▸ hc), fun hequals => h.2.1 (hequals ▸ hc)⟩

/-- **Attributes are read back** when their names are plain. -/
theorem spaced_inj (h : ∀ a ∈ given, IsPlain a.name) (h' : ∀ a ∈ given', IsPlain a.name)
    (heq : spaced given = spaced given') : given = given' := by
  have hend : ∀ (v : Option Text) (g : List Attribute),
      ∀ c ∈ (valueEntry v ++ spaced g).head?, (c != ' ' && c != '=') = false := by
    intro v g c hc
    cases v with
    | none => rw [head?_spaced g c hc]; rfl
    | some w => rw [← Option.some.inj hc]; rfl
  induction given generalizing given' with
  | nil =>
    cases given' with
    | nil => rfl
    | cons a' given' => rw [spaced_cons] at heq; exact absurd heq nofun
  | cons a given ih =>
    cases given' with
    | nil => rw [spaced_cons] at heq; exact absurd heq nofun
    | cons a' given' =>
      rw [List.forall_mem_cons] at h h'
      rw [spaced_cons, spaced_cons] at heq
      -- the name ends at the next space or equals sign, which neither name holds
      obtain ⟨hname, hrest⟩ :=
        Text.run_inj h.1.forall_mem h'.1.forall_mem (hend _ _) (hend _ _) (List.cons.inj heq).2
      obtain ⟨hvalue, hspaced⟩ := valueEntry_inj hrest
      obtain ⟨name, value⟩ := a
      obtain ⟨name', value'⟩ := a'
      obtain rfl : name = name' := hname
      obtain rfl : value = value' := hvalue
      rw [ih h.2 h'.2 hspaced]

/-! ### Reading an id and classes back -/

theorem idAttribute_inj (h : id ≠ some []) (h' : id' ≠ some [])
    (heq : idAttribute id = idAttribute id') : id = id' := by
  have hsome : ∀ {i : Text}, some i ≠ some [] →
      idAttribute (some i) = [⟨['i', 'd'], some i⟩] := fun hi =>
    if_neg fun hnil => hi (congrArg some hnil)
  cases id with
  | none =>
    cases id' with
    | none => rfl
    | some i' => rw [hsome h'] at heq; exact absurd heq nofun
  | some i =>
    cases id' with
    | none => rw [hsome h] at heq; exact absurd heq nofun
    | some i' =>
      rw [hsome h, hsome h'] at heq
      exact congrArg Attribute.value (List.cons.inj heq).1

theorem classAttribute_inj (h : ∀ c ∈ classes, ' ' ∉ c) (h' : ∀ c ∈ classes', ' ' ∉ c)
    (heq : classAttribute classes = classAttribute classes') : classes = classes' := by
  have hsplit : ∀ {l : List Text}, (∀ c ∈ l, ' ' ∉ c) → l ≠ [] →
      ([' '].intercalate l).splitOnP (· == ' ') = l := fun hl hne =>
    Text.splitOnP_intercalate rfl
      (fun t ht c hc => beq_false_of_ne fun hspace => hl t ht (hspace ▸ hc)) hne
  rw [classAttribute, classAttribute] at heq
  split_ifs at heq with hnil hnil' hnil'
  · rw [hnil, hnil']
  · have hjoin := Option.some.inj (congrArg Attribute.value (List.cons.inj heq).1)
    rw [← hsplit h hnil, hjoin, hsplit h' hnil']

/-- **An id and classes are told from attributes** that are not named like them. -/
theorem allAttributes_inj
    (h : ∀ a ∈ attributes, a.name ≠ ['i', 'd'] ∧ a.name ≠ ['c', 'l', 'a', 's', 's'])
    (h' : ∀ a ∈ attributes', a.name ≠ ['i', 'd'] ∧ a.name ≠ ['c', 'l', 'a', 's', 's'])
    (heq : allAttributes id classes attributes = allAttributes id' classes' attributes') :
    idAttribute id = idAttribute id' ∧ classAttribute classes = classAttribute classes' ∧
      attributes = attributes' := by
  have hclass : ∀ {l : List Text} {as : List Attribute}, (∀ a ∈ as, a.name ≠ ['i', 'd']) →
      ∀ a ∈ (classAttribute l ++ as).head?, (a.name == ['i', 'd']) = false := by
    intro l as has a ha
    rcases List.mem_append.mp (List.mem_of_mem_head? ha) with ha | ha
    · rw [name_of_mem_classAttribute ha]; rfl
    · exact beq_false_of_ne (has a ha)
  have hattributes : ∀ {as : List Attribute}, (∀ a ∈ as, a.name ≠ ['c', 'l', 'a', 's', 's']) →
      ∀ a ∈ as.head?, (a.name == ['c', 'l', 'a', 's', 's']) = false :=
    fun has a ha => beq_false_of_ne (has a (List.mem_of_mem_head? ha))
  rw [allAttributes, allAttributes, List.append_assoc, List.append_assoc] at heq
  obtain ⟨hid, hrest⟩ := Text.run_inj (fun a ha => beq_iff_eq.mpr (name_of_mem_idAttribute ha))
    (fun a ha => beq_iff_eq.mpr (name_of_mem_idAttribute ha)) (hclass fun a ha => (h a ha).1)
    (hclass fun a ha => (h' a ha).1) heq
  exact ⟨hid, Text.run_inj (fun a ha => beq_iff_eq.mpr (name_of_mem_classAttribute ha))
    (fun a ha => beq_iff_eq.mpr (name_of_mem_classAttribute ha))
    (hattributes fun a ha => (h a ha).2) (hattributes fun a ha => (h' a ha).2) hrest⟩

/-! ### Normal form -/

def isText : Markup → Bool
  | text _ => true
  | element .. => false

/-- Pieces of markup that stay apart when they are written one after the other. -/
def Apart (m n : Markup) : Prop := m.isText = true → n.isText = false

/-- **What an element in normal form is given.**  The tag is a word, the id is not empty, no class
name holds a space, and attributes have plain names that are not those of the id and the classes.
Ids and values may hold anything, and names may be empty, may hold quotes and may repeat. -/
structure IsNormalTag (tag : Text) (id : Option Text) (classes : List Text)
    (attributes : List Attribute) : Prop where
  tag_ne_nil : tag ≠ []
  isWord_tag : ∀ c ∈ tag, Text.isWord c = true
  id_ne : id ≠ some []
  space_notMem : ∀ c ∈ classes, ' ' ∉ c
  name_ne : ∀ a ∈ attributes, a.name ≠ ['i', 'd'] ∧ a.name ≠ ['c', 'l', 'a', 's', 's']
  isPlain_name : ∀ a ∈ attributes, IsPlain a.name

/-- Markup in **normal form**: no text is empty, no two texts touch, and an element whose tag is not
closed when it is empty is empty. -/
inductive IsNormal : Markup → Prop
  | text {data : Text} (hdata : data ≠ []) : IsNormal (text data)
  | element {tag : Text} {id : Option Text} {classes : List Text} {attributes : List Attribute}
      {children : List Markup} (htag : IsNormalTag tag id classes attributes)
      (hvoid : isVoidTag tag = true → children = []) (hapart : children.IsChain Apart)
      (hchildren : ∀ m ∈ children, IsNormal m) :
      IsNormal (element tag id classes attributes children)

theorem IsNormalTag.inside_inj {tag' : Text} (h : IsNormalTag tag id classes attributes)
    (h' : IsNormalTag tag' id' classes' attributes')
    (heq : inside tag id classes attributes = inside tag' id' classes' attributes') :
    tag = tag' ∧ id = id' ∧ classes = classes' ∧ attributes = attributes' := by
  have hspace : ∀ g : List Attribute, ∀ c ∈ (spaced g).head?, Text.isWord c = false := by
    intro g c hc
    rw [head?_spaced g c hc]
    decide
  obtain ⟨htag, hspaced⟩ := Text.run_inj h.isWord_tag h'.isWord_tag (hspace _) (hspace _) heq
  have hgiven := spaced_inj (forall_allAttributes (by decide) (by decide) h.isPlain_name)
    (forall_allAttributes (by decide) (by decide) h'.isPlain_name) hspaced
  obtain ⟨hid, hclasses, hattributes⟩ := allAttributes_inj h.name_ne h'.name_ne hgiven
  exact ⟨htag, idAttribute_inj h.id_ne h'.id_ne hid,
    classAttribute_inj h.space_notMem h'.space_notMem hclasses, hattributes⟩

/-! ### Reading markup back -/

def AtTag (t : Text) : Prop := ∀ c ∈ t.head?, c = '<'

/-- **The markup is told** from what is written for it, whatever follows.  Behind a text, what
follows must be a tag. -/
def Recognized (m : Markup) : Prop :=
  ∀ {m' : Markup} {r r' : Text}, IsNormal m' → (m.isText = true → AtTag r) →
    (m'.isText = true → AtTag r') → html m ++ r = html m' ++ r' → m = m' ∧ r = r'

theorem head?_html_text {data : Text} (h : data ≠ []) (r : Text) :
    (html (text data) ++ r).head? ≠ some '<' := by
  have hne : escapeText data ≠ [] := fun hnil => h (escapeText_injective hnil)
  obtain ⟨c, t, ht⟩ := List.exists_cons_of_ne_nil hne
  have hmem : c ∈ escapeText data := ht ▸ List.mem_cons_self
  rw [html, ht]
  exact fun heq => not_mem_escapeText data (Option.some.inj heq ▸ hmem)

theorem head?_html_element (tag : Text) (id : Option Text) (classes : List Text)
    (attributes : List Attribute) (children : List Markup) (r : Text) :
    (html (element tag id classes attributes children) ++ r).head? = some '<' := by
  rw [html_element_append]
  rfl

theorem IsNormal.ne_closing (h : IsNormal m) (r r' : Text) : html m ++ r ≠ '<' :: '/' :: r' := by
  intro heq
  cases h with
  | text hdata => exact head?_html_text hdata r (heq ▸ rfl)
  | @element tag id classes attributes children htag =>
    obtain ⟨c, rest, rfl⟩ := List.exists_cons_of_ne_nil htag.tag_ne_nil
    rw [html_element_append] at heq
    obtain ⟨hc, -⟩ := List.cons.inj (List.cons.inj heq).2
    have hword := htag.isWord_tag c List.mem_cons_self
    rw [hc] at hword
    exact absurd hword (by decide)

theorem atTag_htmlAll (h : m.isText = true)
    (hapart : (m :: ms).IsChain Apart) (r : Text) :
    AtTag (htmlAll ms ++ '<' :: r) := by
  cases ms with
  | nil => exact fun c hc => (Option.some.inj hc).symm
  | cons n ms =>
    have hn := (List.isChain_cons_cons.mp hapart).1 h
    cases n with
    | text data => exact absurd hn nofun
    | element tag id classes attributes children =>
      intro c hc
      rw [htmlAll, List.append_assoc, head?_html_element] at hc
      exact (Option.some.inj hc).symm

/-- **What an element contains is told** from what is written for it up to the closing tag. -/
theorem htmlAll_append_inj (hrecognized : ∀ m ∈ ms, Recognized m)
    (h : ∀ m ∈ ms, IsNormal m) (h' : ∀ m ∈ ms', IsNormal m)
    (hapart : ms.IsChain Apart) (hapart' : ms'.IsChain Apart)
    (heq : htmlAll ms ++ '<' :: '/' :: r = htmlAll ms' ++ '<' :: '/' :: r') :
    ms = ms' ∧ r = r' := by
  induction ms generalizing ms' with
  | nil =>
    cases ms' with
    | nil => exact ⟨rfl, (List.cons.inj (List.cons.inj heq).2).2⟩
    | cons m' ms' =>
      -- a closing tag stands where more markup begins
      rw [List.forall_mem_cons] at h'
      rw [htmlAll, htmlAll, List.append_assoc] at heq
      exact absurd heq.symm (h'.1.ne_closing _ _)
  | cons m ms ih =>
    rw [List.forall_mem_cons] at hrecognized h
    cases ms' with
    | nil =>
      rw [htmlAll, htmlAll, List.append_assoc] at heq
      exact absurd heq (h.1.ne_closing _ _)
    | cons m' ms' =>
      rw [List.forall_mem_cons] at h'
      rw [htmlAll, htmlAll, List.append_assoc, List.append_assoc] at heq
      obtain ⟨rfl, hrest⟩ := hrecognized.1 h'.1 (fun ht => atTag_htmlAll ht hapart _)
        (fun ht => atTag_htmlAll ht hapart' _) heq
      obtain ⟨rfl, hr⟩ := ih hrecognized.2 h.2 h'.2 hapart.tail hapart'.tail hrest
      exact ⟨rfl, hr⟩

theorem recognized_text {data : Text} (hdata : data ≠ []) : Recognized (text data) := by
  intro m' r r' h' hr hr' heq
  cases h' with
  | @text data' hdata' =>
    have hrun : ∀ t : Text, ∀ c ∈ escapeText t, (c != '<') = true := fun t c hc =>
      bne_iff_ne.mpr fun hless => not_mem_escapeText t (hless ▸ hc)
    have hend : ∀ {t : Text}, AtTag t → ∀ c ∈ t.head?, (c != '<') = false := fun ht c hc =>
      bne_eq_false_iff_eq.mpr (ht c hc)
    rw [html, html] at heq
    obtain ⟨hdata, hrest⟩ :=
      Text.run_inj (hrun data) (hrun data') (hend (hr rfl)) (hend (hr' rfl)) heq
    exact ⟨congrArg text (escapeText_injective hdata), hrest⟩
  | element =>
    refine absurd ?_ (head?_html_text hdata r)
    rw [heq, head?_html_element]

theorem IsNormalTag.not_mem (h : IsNormalTag tag id classes attributes) :
    '>' ∉ inside tag id classes attributes :=
  not_mem_inside (fun hmem => absurd (h.isWord_tag '>' hmem) (by decide))
    fun a ha => (h.isPlain_name a ha).2.2

theorem remainder_append_inj (hrecognized : ∀ m ∈ children, Recognized m)
    (h : ∀ m ∈ children, IsNormal m) (h' : ∀ m ∈ children', IsNormal m)
    (hapart : children.IsChain Apart) (hapart' : children'.IsChain Apart)
    (hvoid : isVoidTag tag = true → children = []) (hvoid' : isVoidTag tag = true → children' = [])
    (heq : remainder tag children ++ r = remainder tag children' ++ r') :
    children = children' ∧ r = r' := by
  rw [remainder, remainder] at heq
  -- the tag, which is the same for both, says whether there is a closing tag
  cases hv : isVoidTag tag with
  | true =>
    rw [hv, hvoid hv, hvoid' hv] at heq
    exact ⟨(hvoid hv).trans (hvoid' hv).symm, heq⟩
  | false =>
    rw [hv, Bool.false_and, Bool.false_and, if_neg Bool.false_ne_true, if_neg Bool.false_ne_true,
      List.append_assoc, List.append_assoc] at heq
    obtain ⟨hchildren, hclosing⟩ := htmlAll_append_inj hrecognized h h' hapart hapart' heq
    exact ⟨hchildren, List.append_cancel_left hclosing⟩

theorem recognized_element (htag : IsNormalTag tag id classes attributes)
    (hvoid : isVoidTag tag = true → children = []) (hapart : children.IsChain Apart)
    (hchildren : ∀ m ∈ children, IsNormal m) (ih : ∀ m ∈ children, Recognized m) :
    Recognized (element tag id classes attributes children) := by
  intro m' r r' h' _ _ heq
  cases h' with
  | text hdata' =>
    refine absurd ?_ (head?_html_text hdata' r')
    rw [← heq, head?_html_element]
  | element htag' hvoid' hapart' hchildren' =>
    rw [html_element_append, html_element_append] at heq
    obtain ⟨hinside, hremainder⟩ :=
      Text.cut_inj htag.not_mem htag'.not_mem (List.cons.inj heq).2
    obtain ⟨rfl, rfl, rfl, rfl⟩ := htag.inside_inj htag' hinside
    obtain ⟨rfl, hr⟩ :=
      remainder_append_inj ih hchildren hchildren' hapart hapart' hvoid hvoid' hremainder
    exact ⟨rfl, hr⟩

theorem IsNormal.recognized (h : IsNormal m) : Recognized m := by
  induction h with
  | text hdata => exact recognized_text hdata
  | element htag hvoid hapart hchildren ih =>
    exact recognized_element htag hvoid hapart hchildren ih

/-- **What is written determines the tree.** -/
theorem eq_of_html_eq (h : IsNormal m) (h' : IsNormal m') (heq : html m = html m') : m = m' := by
  have hend : AtTag [] := nofun
  have happend : html m ++ [] = html m' ++ [] := congrArg (· ++ []) heq
  exact (h.recognized h' (fun _ => hend) (fun _ => hend) happend).1

def disguised (classes : List Text) : Markup :=
  .element ['p'] (some ['"', '>']) classes [⟨['q'], some ['=', '"']⟩, ⟨['r'], none⟩]
    [.text ['<', '/', 'p', '>'], .element ['B', 'r'] none [] [] [], .text ['&', 'l', 't', ';']]

theorem isNormal_disguised (h : ∀ c ∈ classes, ' ' ∉ c) : IsNormal (disguised classes) := by
  have hbreak : IsNormalTag ['B', 'r'] none [] [] :=
    ⟨by decide, List.all_eq_true.mp (by decide +kernel), nofun, nofun, nofun, nofun⟩
  refine .element
    ⟨by decide, List.all_eq_true.mp (by decide +kernel), by decide, h, by decide, by decide⟩
    (fun hv => absurd hv (by decide +kernel)) ?_ ?_
  · simp [Apart, isText]
  · simp only [List.forall_mem_cons]
    exact ⟨.text nofun, .element hbreak (fun _ => rfl) .nil nofun, .text nofun, nofun⟩

theorem eq_of_html_eq_of_disguised :
    IsNormal (disguised [['x'], ['y']]) ∧ IsNormal (disguised (Text.words ['x', ' ', 'y'])) ∧
      html (disguised [['x'], ['y']]) = html (disguised (Text.words ['x', ' ', 'y'])) ∧
        disguised [['x'], ['y']] = disguised (Text.words ['x', ' ', 'y']) := by
  have h : IsNormal (disguised [['x'], ['y']]) := isNormal_disguised (by decide)
  have h' : IsNormal (disguised (Text.words ['x', ' ', 'y'])) := isNormal_disguised (by decide)
  have heq : html (disguised [['x'], ['y']]) = html (disguised (Text.words ['x', ' ', 'y'])) := by
    decide +kernel
  exact ⟨h, h', heq, eq_of_html_eq h h' heq⟩

end Outline.Markup
