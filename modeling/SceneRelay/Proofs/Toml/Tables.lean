import Mathlib.Data.List.Nodup
import SceneRelay.Proofs.Toml.Document

/-! What a section of a document adds: a table of its settings, at the place of its header. -/
namespace SceneRelay.Toml

variable {entries sub : Entries} {key : String} {value other : Toml}

/-! ### One key -/

theorem lookup_append_sole (h : entries.lookup key = none) :
    (entries ++ [(key, value)]).lookup key = some value := by
  simp [List.lookup_append, h]

theorem replace_append_sole (h : entries.lookup key = none) :
    replace key value (entries ++ [(key, other)]) = entries ++ [(key, value)] := by
  induction entries with
  | nil => simp [replace]
  | cons e entries ih =>
    obtain ⟨k, v⟩ := e
    have hne : key ≠ k := by
      rintro rfl
      simp at h
    have hrest : entries.lookup key = none := by
      simpa [List.lookup_cons, beq_false_of_ne hne] using h
    simp [replace, hne.symm, ih hrest]

/-! ### The table at the end of a way -/

/-- Where a way leads: `put` has a table there, whatever the table is, and keeps the rest. -/
def Place (way : List String) (put : Entries → Entries) : Prop :=
  ∀ f entries, along way f (put entries) = (f entries).map put

theorem Place.top : Place [] id := fun f entries => by simp [along]

theorem along_append (way rest : List String) (f : Entries → Option Entries) (entries : Entries) :
    along (way ++ rest) f entries = along way (along rest f) entries := by
  induction way generalizing entries with
  | nil => rfl
  | cons p way ih =>
    have hrest : along (way ++ rest) f = along way (along rest f) := funext ih
    simp only [List.cons_append, along, hrest]

variable {way : List String} {put : Entries → Entries} {current : List String}

/-- The last key of a table leads on, if its value is a table that a header opened. -/
theorem Place.extend (h : Place way put) (hkey : entries.lookup key = none) :
    Place (way ++ [key]) fun sub => put (entries ++ [(key, .table .headed sub)]) := by
  intro f sub
  rw [along_append, h]
  simp [along, lookup_append_sole hkey, replace_append_sole hkey, Function.comp_def]

/-- A header opens an empty table under a key that is new at its place. -/
theorem Place.add_header (h : Place way put) (hkey : entries.lookup key = none) :
    Draft.add ⟨current, put entries⟩ (.header (way ++ [key])) =
      some ⟨way ++ [key], put (entries ++ [(key, .table .headed [])])⟩ := by
  simp [Draft.add, h _ entries, openTable, hkey]

theorem Place.add_assignment (h : Place way put) (hkey : entries.lookup key = none) :
    Draft.add ⟨way, put entries⟩ (.assignment [key] value) =
      some ⟨way, put (entries ++ [(key, value)])⟩ := by
  simp [Draft.add, h _ entries, assign, assignAlong, insertNew, hkey]

/-- Settings with different new names come into the current table, in their order. -/
theorem Place.foldlM_assignments (h : Place way put) {pairs : Entries}
    (hnodup : (pairs.map Prod.fst).Nodup) (hnew : ∀ p ∈ pairs, entries.lookup p.1 = none) :
    (pairs.map fun p => Statement.assignment [p.1] p.2).foldlM Draft.add ⟨way, put entries⟩ =
      some ⟨way, put (entries ++ pairs)⟩ := by
  induction pairs generalizing entries with
  | nil => simp
  | cons p pairs ih =>
    obtain ⟨hp, hpairs⟩ := List.forall_mem_cons.mp hnew
    obtain ⟨hfresh, hrest⟩ := List.nodup_cons.mp hnodup
    have hnext : ∀ q ∈ pairs, (entries ++ [p]).lookup q.1 = none := by
      intro q hq
      have hne : q.1 ≠ p.1 := fun heq => hfresh (heq ▸ List.mem_map_of_mem hq)
      simp [List.lookup_append, hpairs q hq, hne]
    rw [List.map_cons, List.foldlM_cons, h.add_assignment hp]
    simp only [Option.bind_eq_bind, Option.bind_some]
    rw [ih hrest hnext, List.append_assoc, List.singleton_append]

/-- A section adds its table under a key that is new at its place. -/
theorem Place.foldlM_section (h : Place way put) (hkey : entries.lookup key = none)
    {pairs : Entries} (hnodup : (pairs.map Prod.fst).Nodup) :
    (sectionStatements (way ++ [key]) pairs).foldlM Draft.add ⟨current, put entries⟩ =
      some ⟨way ++ [key], put (entries ++ [(key, .table .headed pairs)])⟩ := by
  rw [sectionStatements, List.foldlM_cons, h.add_header hkey]
  exact (h.extend hkey).foldlM_assignments hnodup (by simp)

theorem foldlM_section_top (hkey : entries.lookup key = none) {pairs : Entries}
    (hnodup : (pairs.map Prod.fst).Nodup) :
    (sectionStatements [key] pairs).foldlM Draft.add ⟨current, entries⟩ =
      some ⟨[key], entries ++ [(key, .table .headed pairs)]⟩ :=
  Place.top.foldlM_section hkey hnodup

theorem foldlM_section_last {inner : String} (hkey : entries.lookup key = none)
    (hinner : sub.lookup inner = none) {pairs : Entries} (hnodup : (pairs.map Prod.fst).Nodup) :
    (sectionStatements [key, inner] pairs).foldlM Draft.add
        ⟨current, entries ++ [(key, .table .headed sub)]⟩ =
      some ⟨[key, inner],
        entries ++ [(key, .table .headed (sub ++ [(inner, .table .headed pairs)]))]⟩ :=
  (Place.top.extend hkey).foldlM_section hinner hnodup

end SceneRelay.Toml
