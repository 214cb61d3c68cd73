import Mathlib.Order.Bounds.Basic
import Outline.Proofs.Node.Writing

/-!
# How far a group extends

The search for the end of a group counts the pairs that are open.  Told on the positions of the
text, the group ends where the pairs from its opening character on **settle** for the first time:
where as many have been closed as opened.  If they never do, it ends at the last closing character,
or with the text when there is none.

* `Group.Settles`: the positions where a group may end.
* `Group.settles_iff`: such a position, told on what stands behind the opening character.
* `Group.isLeast_settles`, `Group.isGreatest_closer`: the end of a balanced group, and the last
  closing character.
* `Group.takeGroup_extent`: which group is taken at a position, and where reading goes on.
-/

namespace Outline.Group

variable {opener closer : Char} {t u inner rest : Text} {p q : Nat}

/-- The pairs from the position `p` on **settle** at a later position `q` when the characters from
the one to the other open as many pairs as they close. -/
def Settles (opener closer : Char) (t : Text) (p q : Nat) : Prop :=
  p < q ∧ q < t.length ∧ (t.extract p (q + 1)).count opener = (t.extract p (q + 1)).count closer

instance (opener closer : Char) (t : Text) (p q : Nat) : Decidable (Settles opener closer t p q) :=
  inferInstanceAs (Decidable (_ ∧ _))

/-! ### Positions behind the opening character -/

theorem drop_eq_cons {c : Char} (hp : t[p]? = some c) : t.drop p = c :: t.drop (p + 1) := by
  obtain ⟨hlt, rfl⟩ := List.getElem?_eq_some_iff.mp hp
  exact List.drop_eq_getElem_cons hlt

theorem extract_eq_cons (hp : t[p]? = some opener) (hpq : p < q) :
    t.extract p (q + 1) = opener :: (t.drop (p + 1)).take (q - p) := by
  have hlen : q + 1 - p = q - p + 1 := by omega
  rw [List.extract_eq_take_drop, drop_eq_cons hp, hlen, List.take_succ_cons]

/-- **The pairs settle where one more pair has been closed than opened** behind the opening
character. -/
theorem settles_iff (hne : opener ≠ closer) (hp : t[p]? = some opener) :
    Settles opener closer t p q ↔
      ∃ u, u <+: t.drop (p + 1) ∧ q = p + u.length ∧ u.count closer = u.count opener + 1 := by
  constructor
  · rintro ⟨hpq, hq, hcount⟩
    refine ⟨(t.drop (p + 1)).take (q - p), List.take_prefix _ _, ?_, ?_⟩
    · rw [List.length_take, List.length_drop]
      omega
    · rw [extract_eq_cons hp hpq, List.count_cons_self, List.count_cons_of_ne hne] at hcount
      exact hcount.symm
  · rintro ⟨u, hu, rfl, hcount⟩
    have hpos : 0 < u.length := by
      have := List.count_le_length (a := closer) (l := u)
      omega
    have hle := hu.length_le
    rw [List.length_drop] at hle
    have htake : (t.drop (p + 1)).take (p + u.length - p) = u := by
      rw [Nat.add_sub_cancel_left]
      exact (List.prefix_iff_eq_take.mp hu).symm
    refine ⟨by omega, by omega, ?_⟩
    rw [extract_eq_cons hp (by omega), htake, List.count_cons_self, List.count_cons_of_ne hne,
      hcount]

theorem not_settles_of_within (hne : opener ≠ closer) (hp : t[p]? = some opener)
    (hw : Within opener closer 0 (t.drop (p + 1))) : ¬∃ q, Settles opener closer t p q := by
  rintro ⟨q, hq⟩
  obtain ⟨u, hu, -, hcount⟩ := (settles_iff hne hp).mp hq
  have := hw u hu
  omega

/-- **Behind a balanced text the pairs settle for the first time.** -/
theorem isLeast_settles (hne : opener ≠ closer) (hp : t[p]? = some opener)
    (ht : t.drop (p + 1) = inner ++ closer :: rest) (hb : IsBalanced opener closer inner) :
    IsLeast {q | Settles opener closer t p q} (p + 1 + inner.length) := by
  constructor
  · refine (settles_iff hne hp).mpr ⟨inner ++ [closer], ?_, ?_, ?_⟩
    · rw [ht, List.prefix_append_right_inj]
      exact (List.prefix_cons_inj closer).mpr List.nil_prefix
    · rw [List.length_append, List.length_singleton]
      omega
    · rw [List.count_append, List.count_append, List.count_singleton_self, List.count_singleton,
        if_neg (by simpa using hne.symm), hb.2]
  · intro q hq
    obtain ⟨u, hu, rfl, hcount⟩ := (settles_iff hne hp).mp hq
    by_contra hlt
    -- a shorter beginning lies in the balanced text, which never closes more than it opens
    have hinner : u <+: inner := by
      rw [ht] at hu
      refine List.prefix_of_prefix_length_le hu (List.prefix_append _ _) ?_
      omega
    have := hb.1 u hinner
    omega

/-! ### Cutting at a position -/

theorem extract_of_drop_eq {c : Char} (ht : t.drop (p + 1) = inner ++ c :: rest) :
    t.extract (p + 1) (p + 1 + inner.length) = inner ∧
      t.drop (p + 1 + inner.length + 1) = rest := by
  constructor
  · rw [List.extract_eq_take_drop, Nat.add_sub_cancel_left, ht, List.take_left]
  · rw [Nat.add_assoc, ← List.drop_drop, ht, ← List.drop_drop, List.drop_left, List.drop_one,
      List.tail_cons]

theorem getElem?_of_drop_eq (ht : t.drop (p + 1) = u) (k : Nat) : t[p + 1 + k]? = u[k]? := by
  rw [← ht, List.getElem?_drop]

/-- **The last closing character** is the one that none comes after. -/
theorem isGreatest_closer (ht : t.drop (p + 1) = inner ++ closer :: rest) (hr : closer ∉ rest) :
    IsGreatest {r | p < r ∧ t[r]? = some closer} (p + 1 + inner.length) := by
  constructor
  · refine ⟨by omega, ?_⟩
    rw [getElem?_of_drop_eq ht, List.getElem?_append_right (Nat.le_refl _), Nat.sub_self]
    rfl
  · rintro r ⟨hpr, hget⟩
    by_contra hlt
    obtain ⟨k, rfl⟩ : ∃ k, r = p + 1 + (inner.length + 1 + k) :=
      ⟨r - (p + 1 + (inner.length + 1)), by omega⟩
    rw [getElem?_of_drop_eq ht, List.getElem?_append_right (by omega)] at hget
    have hk : inner.length + 1 + k - inner.length = k + 1 := by omega
    rw [hk, List.getElem?_cons_succ] at hget
    exact hr (List.mem_of_getElem? hget)

theorem not_exists_closer (hc : closer ∉ t.drop (p + 1)) : ¬∃ r, p < r ∧ t[r]? = some closer := by
  rintro ⟨r, hpr, hget⟩
  obtain ⟨k, rfl⟩ : ∃ k, r = p + 1 + k := ⟨r - (p + 1), by omega⟩
  rw [getElem?_of_drop_eq rfl] at hget
  exact hc (List.mem_of_getElem? hget)

/-! ### The group at a position -/

/-- **Which group is taken at a position** that an opening character stands at.  If the pairs from
there on settle somewhere, it is what stands before the first such position; it is balanced, reading
goes on behind that position, and there is no notice.  If they do not, it is what stands before the
last closing character, and reading goes on behind it; or, without any, the rest of the text, and
nothing is left to read.  There is one notice in each of these two cases. -/
theorem takeGroup_extent (hne : opener ≠ closer) (hp : t[p]? = some opener) (line : Option Int) :
    let taken := Frame.takeGroup opener closer (t.drop p)
    let text := taken.1.map Group.inner
    let notices := (Frame.closingIssues opener closer taken.1).map (Notice.issue line)
    ((∃ q, Settles opener closer t p q) → ∃ q, IsLeast {q | Settles opener closer t p q} q ∧
      text = some (t.extract (p + 1) q) ∧ taken.2 = t.drop (q + 1) ∧ notices = [] ∧
      IsBalanced opener closer (t.extract (p + 1) q)) ∧
    ((¬∃ q, Settles opener closer t p q) → (∃ r, p < r ∧ t[r]? = some closer) →
      ∃ r, IsGreatest {r | p < r ∧ t[r]? = some closer} r ∧
      text = some (t.extract (p + 1) r) ∧ taken.2 = t.drop (r + 1) ∧
      notices = [.issue line (.closedAtLast opener closer)]) ∧
    ((¬∃ q, Settles opener closer t p q) → (¬∃ r, p < r ∧ t[r]? = some closer) →
      text = some (t.drop (p + 1)) ∧ taken.2 = t.drop t.length ∧
      notices = [.issue line (.unclosed opener)]) := by
  rw [drop_eq_cons hp, Frame.takeGroup_cons]
  rcases read_cases hne (t.drop (p + 1)) with
    ⟨i, r, hread, ht, hb⟩ | ⟨i, r, hread, ht, hw, hr⟩ | ⟨hread, hc⟩
  · rw [hread]
    have hleast := isLeast_settles hne hp ht hb
    obtain ⟨hinner, hrest⟩ := extract_of_drop_eq ht
    refine ⟨fun _ => ⟨_, hleast, ?_⟩, fun hno => ?_, fun hno => ?_⟩
    · rw [hinner, hrest]
      exact ⟨rfl, rfl, rfl, hb⟩
    · exact absurd ⟨_, hleast.1⟩ hno
    · exact absurd ⟨_, hleast.1⟩ hno
  · rw [hread]
    have hgreatest := isGreatest_closer ht hr
    obtain ⟨hinner, hrest⟩ := extract_of_drop_eq ht
    refine ⟨fun hq => ?_, fun _ _ => ⟨_, hgreatest, ?_⟩, fun _ hno => ?_⟩
    · exact absurd hq (not_settles_of_within hne hp hw)
    · rw [hinner, hrest]
      exact ⟨rfl, rfl, rfl⟩
    · exact absurd ⟨_, hgreatest.1⟩ hno
  · rw [hread]
    have hw : Within opener closer 0 (t.drop (p + 1)) := within_of_not_mem hc
    refine ⟨fun hq => ?_, fun _ hex => ?_, fun _ _ => ?_⟩
    · exact absurd hq (not_settles_of_within hne hp hw)
    · exact absurd hex (not_exists_closer hc)
    · rw [List.drop_length]
      exact ⟨rfl, rfl, rfl⟩

/-- A group with a pair inside it and one behind it, a group that is left open behind a pair, and
one that nothing closes. -/
theorem takeGroup_extent_of_nested :
    let taken (t : Text) := Frame.takeGroup '(' ')' (t.drop 1)
    (taken "a(b(c)d)e)".toList).1.map Group.inner = some "b(c)d".toList ∧
      (taken "a(b(c)d)e)".toList).2 = "e)".toList ∧
      (taken "a(b(c)d".toList).1.map Group.inner = some "b(c".toList ∧
      (taken "a(b(c)d".toList).2 = ['d'] ∧
      (taken "a(b(c".toList).1.map Group.inner = some "b(c".toList ∧
      (taken "a(b(c".toList).2 = [] := by
  intro taken
  have hclosed : IsLeast {q | Settles '(' ')' "a(b(c)d)e)".toList 1 q} 7 := by
    have ht : "a(b(c)d)e)".toList.drop 2 = "b(c)d".toList ++ ')' :: "e)".toList := rfl
    exact isLeast_settles (by decide) rfl ht ⟨by decide, rfl⟩
  have hlast : IsGreatest {r | 1 < r ∧ "a(b(c)d".toList[r]? = some ')'} 5 := by
    have ht : "a(b(c)d".toList.drop 2 = "b(c".toList ++ ')' :: ['d'] := rfl
    exact isGreatest_closer ht (by decide)
  have hopen : ∀ t ∈ ["a(b(c)d".toList, "a(b(c".toList], ¬∃ q, Settles '(' ')' t 1 q := by
    rw [List.forall_mem_cons, List.forall_mem_singleton]
    constructor
    · exact not_settles_of_within (by decide) rfl (by decide)
    · exact not_settles_of_within (by decide) rfl (by decide)
  obtain ⟨q, hq, htext, hrest, -⟩ :=
    (takeGroup_extent (t := "a(b(c)d)e)".toList) (by decide) rfl none).1 ⟨7, hclosed.1⟩
  obtain ⟨r, hr, htext', hrest', -⟩ :=
    (takeGroup_extent (t := "a(b(c)d".toList) (by decide) rfl none).2.1
      (hopen _ (by decide)) ⟨5, hlast.1⟩
  obtain ⟨htext'', hrest'', -⟩ :=
    (takeGroup_extent (t := "a(b(c".toList) (by decide) rfl none).2.2
      (hopen _ (by decide)) (not_exists_closer (by decide))
  obtain rfl : q = 7 := hq.unique hclosed
  obtain rfl : r = 5 := hr.unique hlast
  exact ⟨htext, hrest, htext', hrest', htext'', hrest''⟩

end Outline.Group
