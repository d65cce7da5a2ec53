import Mathlib.Data.String.Basic
import Mathlib.Tactic.Common
import SceneRelay.Subscriptions

/-! The filters form a set, kept as a strictly ascending list. -/
namespace SceneRelay.Subscriptions
variable {s : Subscriptions} {t u : String} {ts : List String}

theorem mem_insertSorted : u ∈ insertSorted t ts ↔ u = t ∨ u ∈ ts := by
  induction ts with
  | nil => simp [insertSorted]
  | cons r ts ih =>
    unfold insertSorted
    split
    · subst r
      simp
    · split
      · simp
      · simp only [List.mem_cons, ih]
        tauto

theorem pairwise_insertSorted (h : ts.Pairwise (· < ·)) :
    (insertSorted t ts).Pairwise (· < ·) := by
  induction ts with
  | nil => exact List.pairwise_singleton _ _
  | cons r ts ih =>
    obtain ⟨hr, hts⟩ := List.pairwise_cons.mp h
    unfold insertSorted
    split
    · exact h
    · rename_i hne
      split
      · rename_i hlt
        refine List.pairwise_cons.mpr ⟨fun u hu => ?_, h⟩
        obtain rfl | hu := List.mem_cons.mp hu
        · exact hlt
        · exact hlt.trans (hr u hu)
      · rename_i hge
        refine List.pairwise_cons.mpr ⟨fun u hu => ?_, ih hts⟩
        obtain rfl | hu := mem_insertSorted.mp hu
        · exact lt_of_le_of_ne (le_of_not_gt hge) hne
        · exact hr u hu

/-- The list is strictly ascending. -/
def Sorted (s : Subscriptions) : Prop := s.topics.Pairwise (· < ·)

theorem sorted_empty : Sorted {} := List.Pairwise.nil

theorem Sorted.insert (h : s.Sorted) (t : String) : (s.insert t).1.Sorted :=
  pairwise_insertSorted h

theorem Sorted.erase (h : s.Sorted) (t : String) : (s.erase t).1.Sorted := List.Pairwise.filter _ h

theorem mem_insert : u ∈ (s.insert t).1.topics ↔ u = t ∨ u ∈ s.topics := mem_insertSorted

theorem mem_erase : u ∈ (s.erase t).1.topics ↔ u ≠ t ∧ u ∈ s.topics := by
  simp [Subscriptions.erase, and_comm]

/-- The order makes sets with the same filters equal. -/
theorem Sorted.ext {s' : Subscriptions} (h : s.Sorted) (h' : s'.Sorted)
    (hmem : ∀ u, u ∈ s.topics ↔ u ∈ s'.topics) : s = s' := by
  obtain ⟨ts⟩ := s
  obtain ⟨ts'⟩ := s'
  have hperm : ts.Perm ts' :=
    (List.perm_ext_iff_of_nodup (h.imp ne_of_lt) (h'.imp ne_of_lt)).mpr hmem
  have heq : ts = ts' := hperm.eq_of_pairwise (fun _ _ _ _ hlt hgt => absurd hgt hlt.not_gt) h h'
  rw [heq]

theorem Sorted.erase_insert (h : s.Sorted) (ht : t ∉ s.topics) :
    ((s.insert t).1.erase t).1 = s := by
  refine ((h.insert t).erase t).ext h fun u => ?_
  rw [mem_erase, mem_insert]
  constructor
  · rintro ⟨hne, hu⟩
    exact hu.resolve_left hne
  · intro hu
    exact ⟨ne_of_mem_of_not_mem hu ht, .inr hu⟩

theorem Sorted.insert_erase (h : s.Sorted) (ht : t ∈ s.topics) :
    ((s.erase t).1.insert t).1 = s := by
  refine ((h.erase t).insert t).ext h fun u => ?_
  rw [mem_insert, mem_erase]
  by_cases hu : u = t <;> simp [hu, ht]

end SceneRelay.Subscriptions
