import Mathlib.Data.List.Basic
import Outline.Text.Word
import Outline.Text.Lines

/-!
# Trimming and cutting

A text is **tight** when it neither starts nor ends with white space.  Those are the texts that
trimming leaves alone, and trimming makes every text tight.

* `Text.isBlank_eq_false_of_isName`, `Text.isBlank_of_isBreak`: how the character classes lie.
* `Text.trim_eq_self_iff`, `Text.tight_trim`: what trimming does.
* `Text.pieces_singleton`: with a separator of one character, pieces are those of a list.
* `Text.cut_eq_some_iff`, `Text.cutLast_eq_some_iff`: where a text is cut.
-/

namespace Outline.Text

/-! ### Character classes -/

theorem Ranges.exists_of_has {rs : Ranges} {n : Nat} (h : rs.has n = true) :
    ∃ r ∈ rs, r.1 ≤ n ∧ n ≤ r.2 := by
  induction rs with
  | nil => exact absurd h Bool.false_ne_true
  | cons r rs ih =>
    obtain ⟨lo, hi⟩ := r
    rw [has] at h
    by_cases hlo : n < lo
    · rw [if_pos hlo] at h
      exact absurd h Bool.false_ne_true
    · rw [if_neg hlo, Bool.or_eq_true, decide_eq_true_eq] at h
      rcases h with hhi | h
      · exact ⟨(lo, hi), List.mem_cons_self, Nat.le_of_not_lt hlo, hhi⟩
      · obtain ⟨r, hr, hn⟩ := ih h
        exact ⟨r, List.mem_cons_of_mem _ hr, hn⟩

theorem isWord_eq_false_of_isBlank {c : Char} (h : isBlank c = true) : isWord c = false := by
  obtain ⟨r, hr, hlo, hhi⟩ := Ranges.exists_of_has h
  have hall : ∀ r ∈ blankRanges, ∀ k < r.2 - r.1 + 1, wordRanges.has (r.1 + k) = false := by
    decide +kernel
  have hc := hall r hr (c.toNat - r.1) (by omega)
  rwa [Nat.add_sub_cancel' hlo] at hc

theorem isBlank_eq_false_of_isWord {c : Char} (h : isWord c = true) : isBlank c = false := by
  cases hb : isBlank c with
  | false => rfl
  | true => rw [isWord_eq_false_of_isBlank hb] at h; exact absurd h Bool.false_ne_true

/-- **A name holds no white space.** -/
theorem isBlank_eq_false_of_isName {c : Char} (h : isName c = true) : isBlank c = false := by
  rw [isName, Bool.or_eq_true, beq_iff_eq] at h
  rcases h with h | rfl
  · exact isBlank_eq_false_of_isWord h
  · decide

/-- **A line break is white space.** -/
theorem isBlank_of_isBreak {c : Char} (h : isBreak c = true) : isBlank c = true := by
  have hall : ∀ n ∈ [10, 11, 12, 13, 28, 29, 30, 133, 8232, 8233], blankRanges.has n = true := by
    decide
  exact hall c.toNat (List.contains_iff_mem.mp h)

def startsWithWord : Text → Bool
  | [] => false
  | c :: _ => isWord c

/-! ### Trimming -/

def StartsVisible (t : Text) : Prop := ∀ c ∈ t.head?, isBlank c = false

def EndsVisible (t : Text) : Prop := ∀ c ∈ t.getLast?, isBlank c = false

/-- A text is **tight** when it neither starts nor ends with white space. -/
def Tight (t : Text) : Prop := StartsVisible t ∧ EndsVisible t

theorem startsVisible_cons {c : Char} {t : Text} :
    StartsVisible (c :: t) ↔ isBlank c = false := by
  rw [StartsVisible, List.head?_cons]
  exact ⟨fun h => h c rfl, fun h d hd => Option.some.inj hd ▸ h⟩

theorem StartsVisible.append {t u : Text} (ht : StartsVisible t) (hu : StartsVisible u) :
    StartsVisible (t ++ u) := by
  cases t with
  | nil => exact hu
  | cons c t => exact startsVisible_cons.mpr (startsVisible_cons.mp ht)

theorem EndsVisible.nil : EndsVisible [] := nofun

theorem EndsVisible.append {t u : Text} (ht : EndsVisible t) (hu : EndsVisible u) :
    EndsVisible (t ++ u) := by
  intro c hc
  rw [List.getLast?_append] at hc
  cases hl : u.getLast? with
  | none => rw [hl] at hc; exact ht c hc
  | some d => rw [hl] at hc; exact hu c (hl.trans hc)

theorem EndsVisible.cons {c : Char} {t : Text} (hc : isBlank c = false) (ht : EndsVisible t) :
    EndsVisible (c :: t) := by
  have hsingle : EndsVisible [c] := fun d hd => by simpa [← Option.some.inj hd] using hc
  exact hsingle.append ht

theorem EndsVisible.of_append {t u : Text} (h : EndsVisible (t ++ u)) : EndsVisible u := by
  intro c hc
  refine h c ?_
  rw [List.getLast?_append, Option.mem_def.mp hc]
  rfl

theorem endsVisible_concat {t : Text} {c : Char} :
    EndsVisible (t ++ [c]) ↔ isBlank c = false := by
  rw [EndsVisible, List.getLast?_concat]
  exact ⟨fun h => h c rfl, fun h d hd => Option.some.inj hd ▸ h⟩

theorem startsVisible_reverse {t : Text} : StartsVisible t.reverse ↔ EndsVisible t := by
  rw [StartsVisible, EndsVisible, List.head?_reverse]

theorem Tight.append {t u : Text} (ht : Tight t) (hu : Tight u) : Tight (t ++ u) :=
  ⟨ht.1.append hu.1, ht.2.append hu.2⟩

theorem tight_of_forall {t : Text} (h : ∀ c ∈ t, isBlank c = false) : Tight t :=
  ⟨fun c hc => h c (List.mem_of_mem_head? hc), fun c hc => h c (List.mem_of_getLast? hc)⟩

theorem startsVisible_trimLeft (t : Text) : StartsVisible (trimLeft t) := by
  intro c hc
  have := List.head?_dropWhile_not isBlank t
  rw [trimLeft] at hc
  rw [hc] at this
  exact Bool.eq_false_iff.mpr (by simpa using this)

theorem trimLeft_eq_self_iff {t : Text} : trimLeft t = t ↔ StartsVisible t := by
  constructor
  · intro h
    exact h ▸ startsVisible_trimLeft t
  · intro h
    cases t with
    | nil => rfl
    | cons c t =>
      rw [trimLeft, List.dropWhile_cons_of_neg]
      exact Bool.eq_false_iff.mp (startsVisible_cons.mp h)

theorem trimRight_eq (t : Text) : trimRight t = (trimLeft t.reverse).reverse := rfl

theorem endsVisible_trimRight (t : Text) : EndsVisible (trimRight t) := by
  rw [← startsVisible_reverse, trimRight_eq, List.reverse_reverse]
  exact startsVisible_trimLeft _

theorem trimRight_eq_self_iff {t : Text} : trimRight t = t ↔ EndsVisible t := by
  rw [← startsVisible_reverse, ← trimLeft_eq_self_iff, trimRight_eq, List.reverse_eq_iff]

theorem trimRight_isPrefix (t : Text) : trimRight t <+: t := by
  rw [trimRight_eq, ← List.reverse_suffix, List.reverse_reverse]
  exact List.dropWhile_suffix _

theorem StartsVisible.trimRight {t : Text} (h : StartsVisible t) :
    StartsVisible (trimRight t) := by
  obtain ⟨u, hu⟩ := trimRight_isPrefix t
  cases hr : Text.trimRight t with
  | nil => exact nofun
  | cons c r =>
    rw [hr] at hu
    rw [← hu] at h
    exact startsVisible_cons.mpr (startsVisible_cons.mp h)

/-- **Trimming makes a text tight.** -/
theorem tight_trim (t : Text) : Tight (trim t) :=
  ⟨(startsVisible_trimLeft t).trimRight, endsVisible_trimRight _⟩

/-- **Trimming leaves exactly the tight texts alone.** -/
theorem trim_eq_self_iff {t : Text} : trim t = t ↔ Tight t := by
  constructor
  · intro h
    exact h ▸ tight_trim t
  · intro h
    rw [trim, trimLeft_eq_self_iff.mpr h.1, trimRight_eq_self_iff.mpr h.2]

theorem trim_trim (t : Text) : trim (trim t) = trim t := trim_eq_self_iff.mpr (tight_trim t)

theorem trimLeft_sublist (t : Text) : (trimLeft t).Sublist t := List.dropWhile_sublist _

theorem trim_sublist (t : Text) : (trim t).Sublist t :=
  (trimRight_isPrefix _).sublist.trans (trimLeft_sublist t)

/-! ### Runs -/

section

variable {α : Type} {p : α → Bool} {t t' u u' : List α}

theorem takeWhile_append (ht : ∀ c ∈ t, p c = true) (hu : ∀ c ∈ u.head?, p c = false) :
    (t ++ u).takeWhile p = t := by
  rw [List.takeWhile_append_of_pos ht]
  cases u with
  | nil => exact List.append_nil t
  | cons c u =>
    rw [List.takeWhile_cons_of_neg (by rw [hu c rfl]; exact Bool.false_ne_true), List.append_nil]

theorem dropWhile_append (ht : ∀ c ∈ t, p c = true) (hu : ∀ c ∈ u.head?, p c = false) :
    (t ++ u).dropWhile p = u := by
  rw [List.dropWhile_append_of_pos ht]
  cases u with
  | nil => rfl
  | cons c u =>
    rw [List.dropWhile_cons_of_neg (by rw [hu c rfl]; exact Bool.false_ne_true)]

theorem run_inj (ht : ∀ c ∈ t, p c = true) (ht' : ∀ c ∈ t', p c = true)
    (hu : ∀ c ∈ u.head?, p c = false) (hu' : ∀ c ∈ u'.head?, p c = false)
    (h : t ++ u = t' ++ u') : t = t' ∧ u = u' := by
  constructor
  · rw [← takeWhile_append ht hu, h, takeWhile_append ht' hu']
  · rw [← dropWhile_append ht hu, h, dropWhile_append ht' hu']

end

/-! ### Pieces -/

/-- **A separator of one character** separates as in a list. -/
theorem pieces_singleton (c : Char) (t : Text) : pieces [c] t = t.splitOn c := by
  rw [pieces]
  induction t with
  | nil => rfl
  | cons d t ih =>
    rw [piecesFrom, List.splitOn_cons_eq_if_modifyHead, ← ih]
    by_cases h : d = c
    · obtain rfl := h
      rw [if_pos (beq_self_eq_true d), if_pos (by simp)]
      rfl
    · rw [if_neg (by simpa using Ne.symm h), if_neg (by simpa using h)]

variable {α : Type} {sep : List α} {l l' : List (List α)}

theorem splitOnP_intercalate {p : α → Bool} {x : α} (hx : p x = true)
    (h : ∀ t ∈ l, ∀ c ∈ t, p c = false) (hl : l ≠ []) :
    ([x].intercalate l).splitOnP p = l := by
  induction l with
  | nil => exact absurd rfl hl
  | cons t l ih =>
    rw [List.forall_mem_cons] at h
    cases l with
    | nil => rw [List.intercalate_singleton, List.splitOnP_eq_singleton h.1]
    | cons u l =>
      rw [List.intercalate_cons_cons, List.append_assoc, List.singleton_append,
        List.splitOnP_append_cons_of_forall_mem h.1 x hx, ih h.2 (List.cons_ne_nil _ _)]

theorem sublist_of_mem_splitOnP {p : α → Bool} {t u : List α} (hu : u ∈ t.splitOnP p) :
    u.Sublist t ∧ ∀ c ∈ u, p c = false := by
  induction t generalizing u with
  | nil =>
    rw [List.splitOnP_nil, List.mem_singleton] at hu
    subst hu
    exact ⟨List.Sublist.refl _, nofun⟩
  | cons c t ih =>
    rw [List.splitOnP_cons_eq_if_modifyHead] at hu
    by_cases hc : p c = true
    · rw [if_pos hc, List.mem_cons] at hu
      rcases hu with rfl | hu
      · exact ⟨List.nil_sublist _, nofun⟩
      · exact ⟨(ih hu).1.cons c, (ih hu).2⟩
    · rw [if_neg hc] at hu
      cases hs : t.splitOnP p with
      | nil => exact absurd hs (List.splitOnP_ne_nil p t)
      | cons v l =>
        rw [hs] at ih hu
        rcases List.mem_cons.mp hu with rfl | hu
        · obtain ⟨hsub, hall⟩ := ih List.mem_cons_self
          refine ⟨hsub.cons_cons c, fun d hd => ?_⟩
          rcases List.mem_cons.mp hd with rfl | hd
          · exact Bool.eq_false_iff.mpr hc
          · exact hall d hd
        · obtain ⟨hsub, hall⟩ := ih (List.mem_cons_of_mem _ hu)
          exact ⟨hsub.cons c, hall⟩

theorem sublist_of_mem_splitOn {x : Char} {t u : Text} (hu : u ∈ t.splitOn x) :
    u.Sublist t ∧ x ∉ u := by
  rw [List.splitOn_eq_splitOnP] at hu
  obtain ⟨hsub, hall⟩ := sublist_of_mem_splitOnP hu
  exact ⟨hsub, fun hx => absurd (hall x hx) (by simp)⟩

theorem intercalate_modifyHead_cons (x : α) (hl : l ≠ []) :
    sep.intercalate (l.modifyHead (x :: ·)) = x :: sep.intercalate l := by
  cases l with
  | nil => exact absurd rfl hl
  | cons t l =>
    cases l with
    | nil => simp
    | cons u l => simp [List.intercalate_cons_cons]

theorem length_intercalate_splitOnP (p : α → Bool) (x : α) (t : List α) :
    ([x].intercalate (t.splitOnP p)).length = t.length := by
  induction t with
  | nil => rfl
  | cons c t ih =>
    have hne := List.splitOnP_ne_nil p t
    rw [List.splitOnP_cons_eq_if_modifyHead]
    by_cases hc : p c = true
    · rw [if_pos hc, List.intercalate_cons_of_ne_nil hne]
      simp [ih]
    · rw [if_neg hc, intercalate_modifyHead_cons c hne, List.length_cons, ih, List.length_cons]

theorem filter_intercalate {p : α → Bool} {x : α} (hx : p x = false) (l : List (List α)) :
    ([x].intercalate l).filter p = l.flatMap (List.filter p) := by
  induction l with
  | nil => rfl
  | cons t l ih =>
    cases l with
    | nil => simp
    | cons u l => simp [List.intercalate_cons_cons, ih, hx]

theorem flatMap_filter_splitOnP {p q : α → Bool} (hq : ∀ c, q c = true → p c = false)
    (t : List α) : (t.splitOnP q).flatMap (List.filter p) = t.filter p := by
  induction t with
  | nil => rfl
  | cons c t ih =>
    rw [List.splitOnP_cons_eq_if_modifyHead]
    by_cases hc : q c = true
    · rw [if_pos hc, List.flatMap_cons, ih, List.filter_cons_of_neg (by simp [hq c hc])]
      rfl
    · obtain ⟨u, l, hl⟩ := List.exists_cons_of_ne_nil (List.splitOnP_ne_nil q t)
      rw [hl, List.flatMap_cons] at ih
      rw [if_neg hc, hl, List.modifyHead_cons, List.flatMap_cons, List.filter_cons,
        List.filter_cons, ← ih]
      split <;> rfl

theorem flatMap_filter_of_nil {β : Type} {f : α → List β} {p : α → Bool} {l : List α}
    (h : ∀ x ∈ l, p x = false → f x = []) : (l.filter p).flatMap f = l.flatMap f := by
  induction l with
  | nil => rfl
  | cons x l ih =>
    obtain ⟨hx, hl⟩ := List.forall_mem_cons.mp h
    cases hp : p x with
    | true => rw [List.filter_cons_of_pos hp, List.flatMap_cons, List.flatMap_cons, ih hl]
    | false =>
      rw [List.filter_cons_of_neg (by simp [hp]), List.flatMap_cons, hx hp, ih hl, List.nil_append]

theorem mem_intercalate {c : α} (hc : c ∈ sep.intercalate l) : c ∈ sep ∨ ∃ t ∈ l, c ∈ t := by
  induction l with
  | nil => exact absurd hc List.not_mem_nil
  | cons t l ih =>
    cases l with
    | nil =>
      rw [List.intercalate_singleton] at hc
      exact .inr ⟨t, List.mem_singleton_self t, hc⟩
    | cons u l =>
      rw [List.intercalate_cons_cons, List.mem_append, List.mem_append] at hc
      rcases hc with (hc | hc) | hc
      · exact .inr ⟨t, List.mem_cons_self, hc⟩
      · exact .inl hc
      · rcases ih hc with hsep | ⟨v, hv, hcv⟩
        · exact .inl hsep
        · exact .inr ⟨v, List.mem_cons_of_mem t hv, hcv⟩

theorem mem_intercalate_of_mem {c : α} {t : List α} (ht : t ∈ l) (hc : c ∈ t) :
    c ∈ sep.intercalate l := by
  induction l with
  | nil => exact absurd ht List.not_mem_nil
  | cons u l ih =>
    cases l with
    | nil =>
      rw [List.mem_singleton] at ht
      rwa [List.intercalate_singleton, ← ht]
    | cons v l =>
      rw [List.intercalate_cons_cons, List.mem_append, List.mem_append]
      rcases List.mem_cons.mp ht with rfl | ht
      · exact .inl (.inl hc)
      · exact .inr (ih ht)

theorem intercalate_sublist_cons (t : List α) :
    (sep.intercalate l).Sublist (sep.intercalate (t :: l)) := by
  cases l with
  | nil => exact List.nil_sublist _
  | cons u l =>
    rw [List.intercalate_cons_cons]
    exact List.sublist_append_right _ _

theorem intercalate_cons_eq_append_flatMap (sep t : List α) (l : List (List α)) :
    sep.intercalate (t :: l) = t ++ l.flatMap (sep ++ ·) := by
  induction l generalizing t with
  | nil => rw [List.intercalate_singleton, List.flatMap_nil, List.append_nil]
  | cons u l ih =>
    rw [List.intercalate_cons_cons, ih, List.flatMap_cons, List.append_assoc, List.append_assoc]

theorem intercalate_sublist (h : l.Sublist l') :
    (sep.intercalate l).Sublist (sep.intercalate l') := by
  induction h with
  | slnil => exact List.Sublist.refl _
  | cons t _ ih => exact ih.trans (intercalate_sublist_cons t)
  | @cons_cons l l' t h ih =>
    cases l with
    | nil =>
      rw [List.intercalate_singleton]
      cases l' with
      | nil => rw [List.intercalate_singleton]
      | cons u l' =>
        rw [List.intercalate_cons_cons, List.append_assoc]
        exact List.sublist_append_left _ _
    | cons u l =>
      have hl' : l' ≠ [] := fun h' => by rw [h', List.sublist_nil] at h; exact absurd h nofun
      rw [List.intercalate_cons_of_ne_nil (List.cons_ne_nil u l),
        List.intercalate_cons_of_ne_nil hl']
      exact List.Sublist.append_left ih _

theorem intercalate_map_sublist {f : List α → List α} (h : ∀ t ∈ l, (f t).Sublist t) :
    (sep.intercalate (l.map f)).Sublist (sep.intercalate l) := by
  induction l with
  | nil => exact List.Sublist.refl _
  | cons t l ih =>
    rw [List.forall_mem_cons] at h
    cases l with
    | nil => simpa using h.1
    | cons u l =>
      have ih := ih h.2
      rw [List.map_cons] at ih
      rw [List.map_cons, List.map_cons, List.intercalate_cons_cons, List.intercalate_cons_cons]
      exact ((h.1.append_right sep)).append ih

theorem intercalate_map_filter_sublist (sep : List α) (p : List α → Bool)
    {f : List α → List α} (h : ∀ t, (f t).Sublist t) (l : List (List α)) :
    (sep.intercalate ((l.filter p).map f)).Sublist (sep.intercalate l) :=
  (intercalate_map_sublist fun t _ => h t).trans (intercalate_sublist List.filter_sublist)

/-! ### Cutting -/

theorem cut_eq_none_iff {c : Char} {t : Text} : cut c t = none ↔ c ∉ t := by
  induction t with
  | nil => exact ⟨fun _ => List.not_mem_nil, fun _ => rfl⟩
  | cons d t ih =>
    rw [cut, List.mem_cons, not_or]
    by_cases h : d = c
    · rw [if_pos h]
      exact ⟨nofun, fun h' => absurd h.symm h'.1⟩
    · rw [if_neg h, Option.map_eq_none_iff, ih]
      exact ⟨fun h' => ⟨Ne.symm h, h'⟩, And.right⟩

/-- **A text is cut at the first occurrence.** -/
theorem cut_eq_some_iff {c : Char} {t before after : Text} :
    cut c t = some (before, after) ↔ t = before ++ c :: after ∧ c ∉ before := by
  induction t generalizing before with
  | nil => exact ⟨nofun, fun h => absurd h.1 (by simp)⟩
  | cons d t ih =>
    rw [cut]
    by_cases h : d = c
    · obtain rfl := h
      rw [if_pos rfl]
      constructor
      · intro h
        obtain ⟨rfl, rfl⟩ := Prod.mk.inj (Option.some.inj h)
        exact ⟨rfl, List.not_mem_nil⟩
      · rintro ⟨ht, hd⟩
        cases before with
        | nil => rw [(List.cons.inj ht).2]
        | cons e before =>
          rw [(List.cons.inj ht).1] at hd
          exact absurd List.mem_cons_self hd
    · rw [if_neg h, Option.map_eq_some_iff]
      constructor
      · rintro ⟨⟨b, a⟩, hp, heq⟩
        obtain ⟨rfl, rfl⟩ := Prod.mk.inj heq
        obtain ⟨rfl, hb⟩ := ih.mp hp
        exact ⟨rfl, fun hc => (List.mem_cons.mp hc).elim (fun hc => h hc.symm) hb⟩
      · rintro ⟨ht, hd⟩
        cases before with
        | nil => exact absurd (List.cons.inj ht).1 h
        | cons e before =>
          obtain ⟨rfl, rfl⟩ := List.cons.inj ht
          exact ⟨(before, after), ih.mpr ⟨rfl, fun hc => hd (List.mem_cons_of_mem _ hc)⟩, rfl⟩

theorem cut_inj {c : Char} {t t' u u' : Text} (ht : c ∉ t) (ht' : c ∉ t')
    (h : t ++ c :: u = t' ++ c :: u') : t = t' ∧ u = u' := by
  have hcut := cut_eq_some_iff.mpr ⟨h, ht'⟩
  rw [cut_eq_some_iff.mpr ⟨rfl, ht⟩] at hcut
  exact Prod.mk.inj (Option.some.inj hcut)

theorem cutLast_eq_none_iff {c : Char} {t : Text} : cutLast c t = none ↔ c ∉ t := by
  induction t with
  | nil => exact ⟨fun _ => List.not_mem_nil, fun _ => rfl⟩
  | cons d t ih =>
    rw [cutLast, List.mem_cons, not_or]
    cases hcut : cutLast c t with
    | some p =>
      rw [hcut] at ih
      exact ⟨nofun, fun h => absurd (ih.mpr h.2) nofun⟩
    | none =>
      by_cases h : d = c
      · rw [if_pos h]
        exact ⟨nofun, fun h' => absurd h.symm h'.1⟩
      · rw [if_neg h]
        exact ⟨fun _ => ⟨Ne.symm h, ih.mp hcut⟩, fun _ => rfl⟩

/-- **A text is cut at the last occurrence.** -/
theorem cutLast_eq_some_iff {c : Char} {t before after : Text} :
    cutLast c t = some (before, after) ↔ t = before ++ c :: after ∧ c ∉ after := by
  induction t generalizing before with
  | nil => exact ⟨nofun, fun h => absurd h.1 (by simp)⟩
  | cons d t ih =>
    rw [cutLast]
    constructor
    · intro h
      cases hcut : cutLast c t with
      | some p =>
        obtain ⟨b, a⟩ := p
        rw [hcut] at h
        obtain ⟨rfl, rfl⟩ := Prod.mk.inj (Option.some.inj h)
        obtain ⟨rfl, ha⟩ := ih.mp hcut
        exact ⟨rfl, ha⟩
      | none =>
        rw [hcut] at h
        by_cases hd : d = c
        · rw [if_pos hd] at h
          obtain ⟨rfl, rfl⟩ := Prod.mk.inj (Option.some.inj h)
          exact ⟨by rw [hd, List.nil_append], cutLast_eq_none_iff.mp hcut⟩
        · rw [if_neg hd] at h
          exact absurd h nofun
    · rintro ⟨ht, ha⟩
      cases before with
      | nil =>
        obtain ⟨rfl, rfl⟩ := List.cons.inj ht
        rw [cutLast_eq_none_iff.mpr ha, if_pos rfl]
      | cons e before =>
        obtain ⟨rfl, rfl⟩ := List.cons.inj ht
        rw [ih.mpr ⟨rfl, ha⟩]

end Outline.Text
