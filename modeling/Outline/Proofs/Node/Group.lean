import Mathlib.Data.List.Infix
import Outline.Node.Group
import Outline.Proofs.Text.Basic

/-!
# Where a group ends

A text stays **within** a group when, read from the left, it never closes a pair that it has not
opened.  A group that is closed by its own pair is the longest beginning of the text that stays
within; a text that stays within as a whole does not close the group at all.

* `Group.within_marks`, `Group.isBalanced_of_marks_eq`: only opening and closing characters matter.
* `Group.balanced_eq_none_iff`, `Group.balanced_eq_some_iff`: the search for the end of a group.
* `Group.read_cases`: the three ways to read a group.
* `Group.read_append_iff`: the texts that are read back when they are put between a pair.
* `Group.read_matched_iff`: those that are read back without a complaint.
-/

namespace Outline.Group

variable {opener closer : Char} {depth : Nat} {t u inner rest : Text}

/-! ### Texts that stay within a group -/

/-- A text stays **within** a group, in which `depth` more pairs are open, when none of its
beginnings closes more pairs than are open. -/
def Within (opener closer : Char) (depth : Nat) (t : Text) : Prop :=
  ∀ u, u <+: t → u.count closer ≤ u.count opener + depth

instance (opener closer : Char) (depth : Nat) (t : Text) :
    Decidable (Within opener closer depth t) :=
  decidable_of_iff (∀ u ∈ t.inits, u.count closer ≤ u.count opener + depth)
    (forall_congr' fun u => imp_congr_left (List.mem_inits u t))

/-- A text is **balanced** when its pairs close one another. -/
def IsBalanced (opener closer : Char) (t : Text) : Prop :=
  Within opener closer 0 t ∧ t.count closer = t.count opener

theorem within_nil : Within opener closer depth [] := by
  intro u hu
  rw [List.prefix_nil.mp hu]
  exact Nat.zero_le _

theorem within_cons {x : Char} : Within opener closer depth (x :: t) ↔
    ∀ u, u <+: t → (x :: u).count closer ≤ (x :: u).count opener + depth := by
  constructor
  · intro h u hu
    exact h (x :: u) ((List.prefix_cons_inj x).mpr hu)
  · intro h u hu
    rcases List.prefix_cons_iff.mp hu with rfl | ⟨v, rfl, hv⟩
    · exact Nat.zero_le _
    · exact h v hv

theorem within_opener (hne : opener ≠ closer) :
    Within opener closer depth (opener :: t) ↔ Within opener closer (depth + 1) t := by
  rw [within_cons, Within]
  refine forall₂_congr fun u _ => ?_
  rw [List.count_cons_self, List.count_cons_of_ne hne]
  omega

theorem not_within_closer (hne : opener ≠ closer) : ¬Within opener closer 0 (closer :: t) := by
  intro h
  have := within_cons.mp h [] (List.nil_prefix)
  rw [List.count_cons_self, List.count_cons_of_ne hne.symm] at this
  exact absurd this (by simp)

theorem within_closer (hne : opener ≠ closer) :
    Within opener closer (depth + 1) (closer :: t) ↔ Within opener closer depth t := by
  rw [within_cons, Within]
  refine forall₂_congr fun u _ => ?_
  rw [List.count_cons_self, List.count_cons_of_ne hne.symm]
  omega

theorem within_other {x : Char} (ho : x ≠ opener) (hc : x ≠ closer) :
    Within opener closer depth (x :: t) ↔ Within opener closer depth t := by
  rw [within_cons, Within]
  refine forall₂_congr fun u _ => ?_
  rw [List.count_cons_of_ne ho, List.count_cons_of_ne hc]

theorem Within.of_append (h : Within opener closer depth (t ++ u)) :
    Within opener closer depth t :=
  fun v hv => h v (hv.trans (List.prefix_append t u))

theorem within_of_not_mem (h : closer ∉ t) : Within opener closer depth t := by
  intro u hu
  rw [List.count_eq_zero.mpr fun hc => h (hu.subset hc)]
  exact Nat.zero_le _

theorem Within.append_of_not_mem (ht : Within opener closer depth t) (hu : closer ∉ u) :
    Within opener closer depth (t ++ u) := by
  intro v hv
  rcases List.prefix_or_prefix_of_prefix hv (List.prefix_append t u) with hvt | ⟨w, rfl⟩
  · exact ht v hvt
  · have hw : w <+: u := (List.prefix_append_right_inj t).mp hv
    have hwc : w.count closer = 0 := List.count_eq_zero.mpr fun hc => hu (hw.subset hc)
    have htt := ht t (List.prefix_refl t)
    rw [List.count_append, List.count_append, hwc]
    omega

theorem Within.append_closer (hne : opener ≠ closer) (ht : Within opener closer 0 t)
    (hlt : t.count closer ≠ t.count opener) : Within opener closer 0 (t ++ [closer]) := by
  intro v hv
  rcases List.prefix_concat_iff.mp hv with rfl | hv
  · have htt := ht t (List.prefix_refl t)
    rw [List.count_append, List.count_append, List.count_singleton_self,
      List.count_singleton, if_neg (by simpa using hne.symm)]
    omega
  · exact ht v hv

def marks (opener closer : Char) (t : Text) : Text := t.filter fun c => c == opener || c == closer

theorem count_opener_marks (opener closer : Char) (t : Text) :
    (marks opener closer t).count opener = t.count opener := List.count_filter (by simp)

theorem count_closer_marks (opener closer : Char) (t : Text) :
    (marks opener closer t).count closer = t.count closer := List.count_filter (by simp)

/-- **Only opening and closing characters matter** for whether a text stays within a group. -/
theorem within_marks : Within opener closer depth (marks opener closer t) ↔
    Within opener closer depth t := by
  constructor
  · intro h u hu
    have hmarks := h (marks opener closer u) (hu.filter _)
    rwa [count_opener_marks, count_closer_marks] at hmarks
  · intro h v hv
    obtain ⟨u, hu, rfl⟩ := List.prefix_filter_iff.mp hv
    show (marks opener closer u).count closer ≤ (marks opener closer u).count opener + depth
    rw [count_opener_marks, count_closer_marks]
    exact h u hu

theorem isBalanced_of_marks_eq (h : marks opener closer t = marks opener closer u)
    (hu : IsBalanced opener closer u) : IsBalanced opener closer t := by
  constructor
  · rw [← within_marks, h, within_marks]
    exact hu.1
  · rw [← count_closer_marks opener closer, ← count_opener_marks opener closer, h,
      count_closer_marks, count_opener_marks]
    exact hu.2

/-! ### The end of a group -/

/-- **The search finds nothing exactly when the text stays within the group.** -/
theorem balanced_eq_none_iff (hne : opener ≠ closer) :
    balanced opener closer depth t = none ↔ Within opener closer depth t := by
  induction t generalizing depth with
  | nil => exact ⟨fun _ => within_nil, fun _ => rfl⟩
  | cons x t ih =>
    rw [balanced.eq_def]
    dsimp only
    by_cases ho : x = opener
    · rw [if_pos ho, Option.map_eq_none_iff, ih, ho, within_opener hne]
    · rw [if_neg ho]
      by_cases hc : x = closer
      · rw [if_pos hc, hc]
        cases depth with
        | zero => exact ⟨nofun, fun h => absurd h (not_within_closer hne)⟩
        | succ depth => rw [Option.map_eq_none_iff, ih, within_closer hne]
      · rw [if_neg hc, Option.map_eq_none_iff, ih, within_other ho hc]

/-- **The search finds the character that closes one pair too many.** -/
theorem balanced_eq_some_iff (hne : opener ≠ closer) :
    balanced opener closer depth t = some (inner, rest) ↔
      t = inner ++ closer :: rest ∧ Within opener closer depth inner ∧
        inner.count closer = inner.count opener + depth := by
  induction t generalizing depth inner with
  | nil => exact ⟨nofun, fun h => absurd h.1 (by simp)⟩
  | cons x t ih =>
    have hskip : ∀ {depth' : Nat}, (∀ u : Text, Within opener closer depth (x :: u) ↔
        Within opener closer depth' u) →
        (∀ u : Text, (x :: u).count closer = (x :: u).count opener + depth ↔
          u.count closer = u.count opener + depth') → (x = closer → depth ≠ 0) →
        (((balanced opener closer depth' t).map fun p => (x :: p.1, p.2)) = some (inner, rest) ↔
          x :: t = inner ++ closer :: rest ∧ Within opener closer depth inner ∧
            inner.count closer = inner.count opener + depth) := by
      intro depth' hwithin hcount hfirst
      rw [Option.map_eq_some_iff]
      constructor
      · rintro ⟨⟨a, b⟩, hp, heq⟩
        obtain ⟨rfl, rfl⟩ := Prod.mk.inj heq
        obtain ⟨rfl, hw, hn⟩ := ih.mp hp
        exact ⟨rfl, (hwithin a).mpr hw, (hcount a).mpr hn⟩
      · rintro ⟨ht, hw, hn⟩
        cases inner with
        | nil => exact absurd (Nat.zero_add depth ▸ hn).symm (hfirst (List.cons.inj ht).1)
        | cons y a =>
          obtain ⟨rfl, rfl⟩ := List.cons.inj ht
          exact ⟨(a, rest), ih.mpr ⟨rfl, (hwithin a).mp hw, (hcount a).mp hn⟩, rfl⟩
    rw [balanced.eq_def]
    dsimp only
    by_cases ho : x = opener
    · rw [if_pos ho]
      subst ho
      refine hskip (fun u => within_opener hne) (fun u => ?_) fun hc => absurd hc hne
      rw [List.count_cons_self, List.count_cons_of_ne hne]
      omega
    · rw [if_neg ho]
      by_cases hc : x = closer
      · rw [if_pos hc]
        subst hc
        cases depth with
        | zero =>
          constructor
          · intro h
            obtain ⟨rfl, rfl⟩ := Prod.mk.inj (Option.some.inj h)
            exact ⟨rfl, within_nil, rfl⟩
          · rintro ⟨ht, hw, -⟩
            cases inner with
            | nil => rw [(List.cons.inj ht).2]
            | cons y a =>
              obtain rfl := (List.cons.inj ht).1
              exact absurd hw (not_within_closer hne)
        | succ depth =>
          refine hskip (fun u => within_closer hne) (fun u => ?_) fun _ => Nat.succ_ne_zero depth
          rw [List.count_cons_self, List.count_cons_of_ne hne.symm]
          omega
      · rw [if_neg hc]
        refine hskip (fun u => within_other ho hc) (fun u => ?_) fun h => absurd h hc
        rw [List.count_cons_of_ne ho, List.count_cons_of_ne hc]

/-! ### Reading a group -/

/-- **The three ways to read a group**: up to the end of its pair, up to the last closing
character, or up to the end of the text. -/
theorem read_cases (hne : opener ≠ closer) (t : Text) :
    (∃ inner rest, read opener closer t = (⟨inner, .matched⟩, rest) ∧
      t = inner ++ closer :: rest ∧ IsBalanced opener closer inner) ∨
    (∃ inner rest, read opener closer t = (⟨inner, .last⟩, rest) ∧
      t = inner ++ closer :: rest ∧ Within opener closer 0 t ∧ closer ∉ rest) ∨
    (read opener closer t = (⟨t, .missing⟩, []) ∧ closer ∉ t) := by
  rw [read]
  cases hb : balanced opener closer 0 t with
  | some p =>
    obtain ⟨ht, hw, hn⟩ := (balanced_eq_some_iff hne).mp hb
    exact .inl ⟨p.1, p.2, rfl, ht, hw, hn⟩
  | none =>
    have hw := (balanced_eq_none_iff hne).mp hb
    cases hl : t.cutLast closer with
    | some p =>
      obtain ⟨ht, hr⟩ := Text.cutLast_eq_some_iff.mp hl
      exact .inr (.inl ⟨p.1, p.2, rfl, ht, hw, hr⟩)
    | none => exact .inr (.inr ⟨rfl, Text.cutLast_eq_none_iff.mp hl⟩)

theorem read_parts (hne : opener ≠ closer) (t : Text) :
    (read opener closer t).1.inner <+: t ∧ (read opener closer t).2 <:+ t := by
  rcases read_cases hne t with ⟨i, r, hread, rfl, -⟩ | ⟨i, r, hread, rfl, -⟩ | ⟨hread, -⟩
  · rw [hread]
    exact ⟨List.prefix_append _ _, (List.suffix_cons closer r).trans (List.suffix_append _ _)⟩
  · rw [hread]
    exact ⟨List.prefix_append _ _, (List.suffix_cons closer r).trans (List.suffix_append _ _)⟩
  · rw [hread]
    exact ⟨List.prefix_refl t, List.nil_suffix⟩

/-- When the right text is read between a pair, the group ends at its closing character. -/
theorem read_append_of_length_le (hne : opener ≠ closer)
    (hinner : inner.length ≤ (read opener closer (inner ++ closer :: rest)).1.inner.length)
    (hrest : rest.length ≤ (read opener closer (inner ++ closer :: rest)).2.length) :
    ∃ closing, read opener closer (inner ++ closer :: rest) = (⟨inner, closing⟩, rest) := by
  have hend : ∀ {i r closing}, read opener closer (inner ++ closer :: rest) =
      (⟨i, closing⟩, r) → inner ++ closer :: rest = i ++ closer :: r →
      ∃ closing, read opener closer (inner ++ closer :: rest) = (⟨inner, closing⟩, rest) := by
    intro i r closing hread happ
    rw [hread] at hinner hrest
    dsimp only at hinner hrest
    have hlen := congrArg List.length happ
    rw [List.length_append, List.length_append, List.length_cons, List.length_cons] at hlen
    obtain ⟨rfl, hr⟩ := List.append_inj happ (by omega)
    obtain rfl := (List.cons.inj hr).2
    exact ⟨closing, hread⟩
  rcases read_cases hne (inner ++ closer :: rest) with
    ⟨i, r, hread, happ, -⟩ | ⟨i, r, hread, happ, -⟩ | ⟨-, hmem⟩
  · exact hend hread happ
  · exact hend hread happ
  · exact absurd (List.mem_append_right inner List.mem_cons_self) hmem

theorem read_append_of_inner (hne : opener ≠ closer)
    (hinner : (read opener closer (inner ++ closer :: rest)).1.inner = inner) :
    ∃ closing, read opener closer (inner ++ closer :: rest) = (⟨inner, closing⟩, rest) := by
  rcases read_cases hne (inner ++ closer :: rest) with
    ⟨i, r, hread, happ, -⟩ | ⟨i, r, hread, happ, -⟩ | ⟨-, hmem⟩
  · rw [hread] at hinner
    obtain rfl := hinner
    obtain rfl := (List.cons.inj (List.append_cancel_left happ)).2
    exact ⟨.matched, hread⟩
  · rw [hread] at hinner
    obtain rfl := hinner
    obtain rfl := (List.cons.inj (List.append_cancel_left happ)).2
    exact ⟨.last, hread⟩
  · exact absurd (List.mem_append_right inner List.mem_cons_self) hmem

theorem read_matched (hne : opener ≠ closer) (h : IsBalanced opener closer inner) :
    read opener closer (inner ++ closer :: rest) = (⟨inner, .matched⟩, rest) := by
  rw [read, (balanced_eq_some_iff hne).mpr ⟨rfl, h.1, h.2⟩]

theorem read_last (hw : Within opener closer 0 (inner ++ closer :: rest)) (hr : closer ∉ rest)
    (hne : opener ≠ closer) :
    read opener closer (inner ++ closer :: rest) = (⟨inner, .last⟩, rest) := by
  rw [read, (balanced_eq_none_iff hne).mpr hw]
  simp only [Text.cutLast_eq_some_iff.mpr ⟨rfl, hr⟩]

/-- **What is read back when it is put between a pair**: a text that stays within, and whose own
pairs are closed or that nothing behind it could close. -/
theorem read_append_iff (hne : opener ≠ closer) :
    (∃ closing, read opener closer (inner ++ closer :: rest) = (⟨inner, closing⟩, rest)) ↔
      Within opener closer 0 inner ∧
        (inner.count closer = inner.count opener ∨ closer ∉ rest) := by
  constructor
  · rintro ⟨closing, h⟩
    rcases read_cases hne (inner ++ closer :: rest) with
      ⟨i, r, hread, -, hbal⟩ | ⟨i, r, hread, -, hw, hr⟩ | ⟨hread, hmem⟩
    · obtain ⟨hi, rfl⟩ := Prod.mk.inj (hread.symm.trans h)
      obtain ⟨rfl, -⟩ := Group.mk.inj hi
      exact ⟨hbal.1, .inl hbal.2⟩
    · obtain ⟨-, rfl⟩ := Prod.mk.inj (hread.symm.trans h)
      exact ⟨hw.of_append, .inr hr⟩
    · exact absurd (List.mem_append_right inner List.mem_cons_self) hmem
  · rintro ⟨hw, h⟩
    by_cases hn : inner.count closer = inner.count opener
    · exact ⟨.matched, read_matched hne ⟨hw, hn⟩⟩
    · have hr := h.resolve_left hn
      have hall := (hw.append_closer hne hn).append_of_not_mem hr
      rw [List.append_assoc, List.singleton_append] at hall
      exact ⟨.last, read_last hall hr hne⟩

/-- **What is read back without a complaint**: the balanced texts. -/
theorem read_matched_iff (hne : opener ≠ closer) :
    read opener closer (inner ++ closer :: rest) = (⟨inner, .matched⟩, rest) ↔
      IsBalanced opener closer inner := by
  refine ⟨fun h => ?_, read_matched hne⟩
  rcases read_cases hne (inner ++ closer :: rest) with
    ⟨i, r, hread, -, hbal⟩ | ⟨i, r, hread, -⟩ | ⟨hread, -⟩
  · obtain ⟨hi, -⟩ := Prod.mk.inj (hread.symm.trans h)
    obtain ⟨rfl, -⟩ := Group.mk.inj hi
    exact hbal
  · obtain ⟨hi, -⟩ := Prod.mk.inj (hread.symm.trans h)
    exact absurd (Group.mk.inj hi).2 nofun
  · obtain ⟨hi, -⟩ := Prod.mk.inj (hread.symm.trans h)
    exact absurd (Group.mk.inj hi).2 nofun

end Outline.Group
