import StateHolders.Registry.Entry
import StateHolders.Text.Utf8

/-!
# The holders on offer

The holders on offer come in no particular order. They are listed by the bytes of their names, and
those of one name in the order in which they came.
-/

namespace StateHolders

/-- The holders on offer. -/
structure Catalogue where
  /-- The holders, in the order in which they came. -/
  offers : List Entry

namespace Catalogue

/-- The holders by name. -/
def sorted (c : Catalogue) : List Entry :=
  c.offers.mergeSort fun a b => Text.precedes a.name b.name

/-- The names and descriptions by name. -/
def listing (c : Catalogue) : List (String × String) :=
  c.sorted.map fun e => (e.name, e.description)

/-- Whether a holder of that name is on offer. -/
def offersName (c : Catalogue) (name : String) : Bool := c.sorted.any fun e => e.name == name

/-- Sorting only changes the order. -/
theorem sorted_perm (c : Catalogue) : c.sorted.Perm c.offers := List.mergeSort_perm _ _

/-- Sorting keeps every holder. -/
theorem mem_sorted (c : Catalogue) (e : Entry) : e ∈ c.sorted ↔ e ∈ c.offers :=
  c.sorted_perm.mem_iff

/-- No holder is listed after one whose name its own precedes. -/
theorem pairwise_sorted (c : Catalogue) :
    c.sorted.Pairwise fun a b => Text.precedes a.name b.name = true := by
  apply List.pairwise_mergeSort
  · exact fun _ _ _ => Text.precedes_trans
  · exact fun _ _ => Text.precedes_total _ _

/-- The holders are listed in ascending order of the bytes of their names. -/
theorem pairwise_le_sorted (c : Catalogue) :
    c.sorted.Pairwise fun a b => Text.utf8 a.name ≤ Text.utf8 b.name :=
  c.pairwise_sorted.imp fun hab => by simpa [Text.precedes] using hab

/-- Holders of one name are listed as they came. -/
theorem filter_name_sorted (c : Catalogue) (name : String) :
    c.sorted.filter (fun e => e.name == name) = c.offers.filter fun e => e.name == name := by
  have hsame : (c.offers.filter fun e => e.name == name).Pairwise
      fun a b => Text.precedes a.name b.name = true := by
    refine List.pairwise_of_forall_mem_list fun a ha b hb => ?_
    obtain rfl : a.name = name := by simpa using (List.mem_filter.mp ha).2
    have hb' : b.name = a.name := by simpa using (List.mem_filter.mp hb).2
    rw [hb']
    simpa using Text.precedes_total a.name a.name
  have hsub : (c.offers.filter fun e => e.name == name).Sublist c.sorted := by
    refine List.sublist_mergeSort ?_ ?_ hsame List.filter_sublist
    · exact fun _ _ _ => Text.precedes_trans
    · exact fun _ _ => Text.precedes_total _ _
  -- Both sides have the same holders, so the one cannot be shorter than the other.
  have hfilter := hsub.filter fun e => e.name == name
  rw [List.filter_filter] at hfilter
  simp only [Bool.and_self] at hfilter
  exact (hfilter.eq_of_length ((c.sorted_perm.filter _).length_eq.symm)).symm

end Catalogue

end StateHolders
