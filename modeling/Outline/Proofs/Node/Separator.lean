import Outline.Proofs.Node.RoundTrip

/-!
# Lines written under another separator

The separator stands in the line of a node between its attributes and nowhere else.  So the line is
the same under every separator when there is at most one attribute.  When there are more, a line
that is written under one separator is not read back under another: no attribute holds the separator
that they were told apart by, and what was put between them is taken for a part of the first.

* `Node.source_eq_of_length_le`: lines that the separator does not stand in.
* `Node.mem_source_of_mem_source`: the characters of a line under another separator.
* `Node.read_source_separated_iff`: the nodes that are read back from a line under another
  separator.
-/

namespace Outline

open Text

namespace Frame

variable {s : Char} {f : Frame} {g : Group}

theorem length_attributes_le_one (hg : f.attributes = some g) (hs : s ∉ g.inner) :
    (f.node [s]).attributes.length ≤ 1 := by
  have hlisted : (f.listed [s]).length ≤ 1 := by
    rw [listed_some hg, List.splitOn_eq_singleton hs, List.length_map]
    exact List.length_filter_le _ _
  exact (List.length_filter_le _ _).trans hlisted

end Frame

namespace Node

variable {s d : Char} {n : Node}

/-- **With one attribute at most no separator is written.** -/
theorem source_eq_of_length_le (h : n.attributes.length ≤ 1) (s d : Char) :
    n.source [s] = n.source [d] := by
  have hsame : ∀ as : List Attribute, as.length ≤ 1 →
      attributeSource [s] as = attributeSource [d] as := by
    intro as has
    cases as with
    | nil => rfl
    | cons a as =>
      obtain rfl : as = [] := by simpa using has
      rfl
  rw [source, source, hsame n.attributes h]

theorem mem_source_of_mem_source {c : Char} (hc : c ∈ n.source [d]) (s : Char) :
    c = d ∨ c ∈ n.source [s] := by
  have hlisting : c ∈ n.listing d → c = d ∨ c ∈ n.listing s := by
    intro hc
    rcases mem_intercalate hc with hd | ⟨u, hu, hcu⟩
    · exact .inl (List.mem_singleton.mp hd)
    · exact .inr (mem_intercalate_of_mem hu hcu)
  have hattributes : c ∈ attributeSource [d] n.attributes →
      c = d ∨ c ∈ attributeSource [s] n.attributes := by
    intro hc
    by_cases hne : n.attributes = []
    · rw [attributeSource, if_pos hne] at hc
      exact absurd hc List.not_mem_nil
    · rw [attributeSource_eq hne] at hc ⊢
      simp only [List.mem_cons, List.mem_append, List.not_mem_nil, or_false] at hc ⊢
      rcases hc with hopen | hin | hclose
      · exact .inr (.inl hopen)
      · exact (hlisting hin).imp_right fun h => .inr (.inl h)
      · exact .inr (.inr (.inr hclose))
  rw [source_eq, tail] at hc ⊢
  simp only [List.mem_append] at hc ⊢
  rcases hc with htag | hclass | hid | hcontent | hattribute | hevent
  · exact .inr (.inl htag)
  · exact .inr (.inr (.inl hclass))
  · exact .inr (.inr (.inr (.inl hid)))
  · exact .inr (.inr (.inr (.inr (.inl hcontent))))
  · exact (hattributes hattribute).imp_right fun h => .inr (.inr (.inr (.inr (.inl h))))
  · exact .inr (.inr (.inr (.inr (.inr (.inr hevent)))))

theorem separator_not_mem_listing (h : n.Legal s) (hne : s ≠ d) : s ∉ n.listing d := by
  intro hmem
  rcases mem_intercalate hmem with hd | ⟨u, hu, hsu⟩
  · exact hne (List.mem_singleton.mp hd)
  · obtain ⟨a, ha, rfl⟩ := List.mem_map.mp hu
    exact (h.attributes a ha).sep_not_mem hsu

/-- **The nodes that are read back from a line under another separator**: those that are read back
from the line under their own, if both separators are the same or there is nothing to separate. -/
theorem read_source_separated_iff : (read [s] (n.source [d])).result = .ok n ↔
    (read [s] (n.source [s])).result = .ok n ∧ (s = d ∨ n.attributes.length ≤ 1) := by
  constructor
  · intro h
    have hfew : s = d ∨ n.attributes.length ≤ 1 := by
      by_contra hmany
      rw [not_or] at hmany
      obtain ⟨hne, hlong⟩ := hmany
      have hlegal := legal_of_read h
      obtain ⟨f, hread, hnode⟩ := read_result_eq_ok_iff.mp h
      have hattributes : n.attributes ≠ [] := by
        intro hnil
        rw [hnil] at hlong
        exact hlong (Nat.zero_le 1)
      -- the group is read as it was written, and no character in it separates attributes
      obtain ⟨closing, hgroup, -⟩ := (groups_of_read_source hlegal hread hnode).2 hattributes
      have hle := Frame.length_attributes_le_one hgroup (separator_not_mem_listing hlegal hne)
      rw [hnode] at hle
      exact hlong hle
    refine ⟨?_, hfew⟩
    rcases hfew with rfl | hle
    · exact h
    · rwa [source_eq_of_length_le hle s d]
  · rintro ⟨h, rfl | hle⟩
    · exact h
    · rwa [source_eq_of_length_le hle d s]

end Node

end Outline
