import Mathlib.Data.List.Basic
import Outline.Dom.Store

/-!
# Changes of a store

A change of one element leaves the others as they are, so changes of different elements can be made
in either order, and before or after another element is made.

* `Store.update_comm`, `Store.update_create`: changes in either order.
* `Store.mount_append`: elements mounted in two goes.
-/

namespace Outline.Dom.Store

variable {s : Store} {i j : Ref}

/-! ### Positions -/

@[simp] theorem next_create (s : Store) (tag : Text) : (s.create tag).next = s.next + 1 := by
  simp [next, create]

@[simp] theorem next_update (s : Store) (i : Ref) (f : Element → Element) :
    (s.update i f).next = s.next :=
  List.length_modify f s.elements i

@[simp] theorem next_append (s : Store) (parent child : Ref) :
    (s.append parent child).next = s.next := by
  simp [append]

@[simp] theorem next_mount (s : Store) (container : Ref) (roots : List Ref) :
    (s.mount container roots).next = s.next := by
  induction roots generalizing s with
  | nil => rfl
  | cons r roots ih => exact (ih _).trans (next_append s container r)

/-! ### Changes in either order -/

theorem update_comm (h : i ≠ j) (s : Store) (f g : Element → Element) :
    (s.update i f).update j g = (s.update j g).update i f :=
  congrArg Store.mk (List.modify_modify_ne f g s.elements h)

theorem modify_append {α : Type} {l : List α} {i : Nat} (h : i < l.length) (f : α → α)
    (r : List α) : (l ++ r).modify i f = l.modify i f ++ r := by
  induction l generalizing i with
  | nil => exact absurd h (Nat.not_lt_zero i)
  | cons y l ih =>
    cases i with
    | zero => rfl
    | succ i => exact congrArg (y :: ·) (ih (Nat.lt_of_succ_lt_succ h))

theorem update_create (h : i < s.next) (f : Element → Element) (tag : Text) :
    (s.update i f).create tag = (s.create tag).update i f :=
  congrArg Store.mk (modify_append h f [{ tag := tag }]).symm

theorem get_update_of_ne (h : i ≠ j) (s : Store) (f : Element → Element) :
    (s.update i f).get j = s.get j := by
  simp [get, update, h]

theorem get_update_self (h : i < s.next) (f : Element → Element) :
    (s.update i f).get i = f (s.get i) := by
  have hi : i < s.elements.length := h
  simp [get, update, hi]

theorem get_of_le (h : s.next ≤ i) : s.get i = default := by
  rw [get, List.getD_eq_getElem?_getD, List.getElem?_eq_none h]
  rfl

theorem get_update (s : Store) (i : Ref) (f : Element → Element) (r : Ref) :
    (s.update i f).get r = if r = i ∧ i < s.next then f (s.get r) else s.get r := by
  by_cases hr : r = i
  · subst hr
    by_cases hi : r < s.next
    · rw [get_update_self hi, if_pos ⟨rfl, hi⟩]
    · have hnext : (s.update r f).next ≤ r := by
        rw [next_update]
        exact Nat.le_of_not_lt hi
      rw [if_neg fun h => hi h.2, get_of_le hnext, get_of_le (Nat.le_of_not_lt hi)]
  · rw [get_update_of_ne (Ne.symm hr), if_neg fun h => hr h.1]

theorem append_eq (s : Store) (parent child : Ref) :
    s.append parent child =
      (s.update child fun e => { e with parent := some parent }).update parent fun e =>
        { e with children := e.children ++ [.element child] } := rfl

theorem mount_append (s : Store) (container : Ref) (roots roots' : List Ref) :
    s.mount container (roots ++ roots') = (s.mount container roots).mount container roots' :=
  List.foldl_append

/-! ### Stores in parts -/

section

variable {L M : List Element} {e : Element}

theorem get_left (h : i < L.length) : get ⟨L ++ M⟩ i = get ⟨L⟩ i := by
  simp [get, List.getElem?_append_left h]

theorem get_middle (h : i = L.length) : get ⟨L ++ e :: M⟩ i = e := by
  subst h
  simp [get]

theorem update_left (h : i < L.length) (f : Element → Element) :
    update ⟨L ++ M⟩ i f = ⟨(update ⟨L⟩ i f).elements ++ M⟩ :=
  congrArg Store.mk (modify_append h f M)

theorem update_middle (h : i = L.length) (f : Element → Element) :
    update ⟨L ++ e :: M⟩ i f = ⟨L ++ f e :: M⟩ := by
  subst h
  exact congrArg Store.mk (List.modifyTailIdx_add _ 0 L (e :: M))

end

end Outline.Dom.Store
