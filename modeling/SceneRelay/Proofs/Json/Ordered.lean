import SceneRelay.Proofs.Json.RoundTrip

/-! Every document that is read from a text has its objects in order, so that each of its members is
found by its name. -/
namespace SceneRelay.Json

/-- Documents with all their objects in order. -/
inductive Ordered : Json → Prop
  | null : Ordered .null
  | bool (b) : Ordered (.bool b)
  | number (n) : Ordered (.number n)
  | string (s) : Ordered (.string s)
  | array {items} (h : ∀ v ∈ items, Ordered v) : Ordered (.array items)
  | object {members} (ho : Ascending members) (h : ∀ m ∈ members, Ordered m.2) :
      Ordered (.object members)

attribute [simp] Ordered.null Ordered.bool Ordered.number Ordered.string

variable {name : String} {v : Json} {members : List (String × Json)}

@[simp] theorem ordered_array_iff {items : List Json} :
    Ordered (.array items) ↔ ∀ v ∈ items, Ordered v :=
  ⟨fun | .array h => h, .array⟩

@[simp] theorem ordered_object_iff :
    Ordered (.object members) ↔ Ascending members ∧ ∀ m ∈ members, Ordered m.2 :=
  ⟨fun | .object ho h => ⟨ho, h⟩, fun ⟨ho, h⟩ => .object ho h⟩

theorem mem_of_lookup (h : members.lookup name = some v) : (name, v) ∈ members := by
  obtain ⟨before, after, rfl, -⟩ := List.lookup_eq_some_iff.mp h
  simp

/-- In an object in order a name finds exactly its member. -/
theorem Ascending.lookup_eq_some_iff (h : Ascending members) :
    members.lookup name = some v ↔ (name, v) ∈ members := by
  refine ⟨mem_of_lookup, fun hm => ?_⟩
  obtain ⟨before, after, rfl⟩ := List.append_of_mem hm
  refine List.lookup_eq_some_iff.mpr ⟨before, after, rfl, fun m hbefore => ?_⟩
  have hlt := (List.pairwise_append.mp h).2.2 m hbefore (name, v) List.mem_cons_self
  simpa using (ne_of_lt hlt).symm

theorem Ordered.of_lookup (h : Ordered (.object members)) (hv : members.lookup name = some v) :
    Ordered v := by
  cases h with
  | object _ h => exact h _ (mem_of_lookup hv)

/-! ### Reading -/

theorem mem_insertMember {m : String × Json} (hm : m ∈ insertMember name v members) :
    m = (name, v) ∨ m ∈ members := by
  induction members with
  | nil => exact .inl (List.mem_singleton.mp hm)
  | cons n members ih =>
    unfold insertMember at hm
    split at hm
    · exact (List.mem_cons.mp hm).imp_right (List.mem_cons_of_mem _)
    · split at hm
      · exact List.mem_cons.mp hm
      · obtain rfl | hm := List.mem_cons.mp hm
        · exact .inr List.mem_cons_self
        · exact (ih hm).imp_right (List.mem_cons_of_mem _)

theorem Ascending.insertMember (h : Ascending members) (name : String) (v : Json) :
    Ascending (insertMember name v members) := by
  induction members with
  | nil => exact List.pairwise_singleton _ _
  | cons n members ih =>
    obtain ⟨hn, hmembers⟩ := List.pairwise_cons.mp h
    unfold Json.insertMember
    split
    · rename_i hname
      exact List.pairwise_cons.mpr ⟨fun m hm => hname ▸ hn m hm, hmembers⟩
    · rename_i hname
      split
      · rename_i hlt
        refine List.pairwise_cons.mpr ⟨fun m hm => ?_, h⟩
        obtain rfl | hm := List.mem_cons.mp hm
        · exact hlt
        · exact hlt.trans (hn m hm)
      · rename_i hge
        refine List.pairwise_cons.mpr ⟨fun m hm => ?_, ih hmembers⟩
        obtain rfl | hm := mem_insertMember hm
        · exact lt_of_le_of_ne (le_of_not_gt hge) hname
        · exact hn m hm

/-- Members in any order make an object in order. -/
theorem ordered_ofMembers (h : ∀ m ∈ members, Ordered m.2) : Ordered (ofMembers members) := by
  have hfold (done : List (String × Json)) (hdone : Ordered (.object done)) :
      Ordered (.object (members.foldl (fun acc m => insertMember m.1 m.2 acc) done)) := by
    induction members generalizing done with
    | nil => exact hdone
    | cons m members ih =>
      obtain ⟨hm, hmembers⟩ := List.forall_mem_cons.mp h
      cases hdone with
      | object ho hall =>
        refine ih hmembers _ (.object (ho.insertMember m.1 m.2) fun n hn => ?_)
        obtain rfl | hn := mem_insertMember hn
        · exact hm
        · exact hall n hn
  exact hfold [] (.object List.Pairwise.nil (by simp))

variable {α : Type} {item : List Char → Option (α × List Char)} {close : Char}
  {cs rest : List Char} {xs : List α} {P : α → Prop}

theorem forall_of_itemsUpTo (hitem : ∀ cs x rest, item cs = some (x, rest) → P x) {fuel : Nat}
    {done : List α} (hdone : ∀ x ∈ done, P x)
    (h : itemsUpTo close item fuel done cs = some (xs, rest)) : ∀ x ∈ xs, P x := by
  induction fuel generalizing done cs with
  | zero => nomatch h
  | succ fuel ih =>
    unfold itemsUpTo at h
    split at h
    · nomatch h
    · rename_i x cs' hx
      have hmore : ∀ y ∈ x :: done, P y :=
        List.forall_mem_cons.mpr ⟨hitem cs x cs' hx, hdone⟩
      split at h
      · exact ih hmore h
      · split at h
        · cases h
          exact fun y hy => hmore y (List.mem_reverse.mp hy)
        · nomatch h
      · nomatch h

/-- What holds of every item that can be read holds of all items of a container. -/
theorem forall_of_itemsOf (hitem : ∀ cs x rest, item cs = some (x, rest) → P x)
    (h : itemsOf close item cs = some (xs, rest)) : ∀ x ∈ xs, P x := by
  unfold itemsOf at h
  split at h
  · nomatch h
  · split at h
    · cases h
      simp
    · exact forall_of_itemsUpTo hitem (by simp) h

theorem exists_number_of_unsigned? {negative : Bool} (h : unsigned? negative cs = some (v, rest)) :
    ∃ n, v = .number n := by
  simp only [unsigned?, Option.bind_eq_bind, Option.pure_def, Option.bind_eq_some_iff,
    Option.some.injEq, Prod.mk.injEq] at h
  obtain ⟨-, -, -, -, -, -, n, -, rfl, -⟩ := h
  exact ⟨n, rfl⟩

theorem exists_number_of_number? (h : number? cs = some (v, rest)) : ∃ n, v = .number n := by
  unfold number? at h
  split at h <;> exact exists_number_of_unsigned? h

theorem ordered_of_memberOf {value : List Char → Option (Json × List Char)}
    (hvalue : ∀ cs v rest, value cs = some (v, rest) → Ordered v) {m : String × Json}
    (h : memberOf value cs = some (m, rest)) : Ordered m.2 := by
  unfold memberOf at h
  split at h
  · split at h
    · nomatch h
    · split at h
      · obtain ⟨⟨v, rest'⟩, hv, heq⟩ := Option.map_eq_some_iff.mp h
        cases heq
        exact hvalue _ _ _ hv
      · nomatch h
  · nomatch h

/-- A value that has been read has its objects in order. -/
theorem ordered_of_value {depth : Nat} (h : value depth cs = some (v, rest)) : Ordered v := by
  -- Values inside a container are read with less depth, all others at once.
  induction depth using Nat.strongRecOn generalizing cs v rest with
  | ind depth ih =>
    rw [value.eq_def] at h
    dsimp only at h
    split at h
    · cases h
      exact .null
    · cases h
      exact .bool true
    · cases h
      exact .bool false
    · obtain ⟨⟨s, rest'⟩, -, heq⟩ := Option.map_eq_some_iff.mp h
      cases heq
      exact .string s
    · split at h
      · cases h
      · rename_i depth
        obtain ⟨⟨items, rest'⟩, hitems, heq⟩ := Option.map_eq_some_iff.mp h
        cases heq
        exact .array (forall_of_itemsOf (fun _ _ _ hv => ih depth depth.lt_succ_self hv) hitems)
    · split at h
      · cases h
      · rename_i depth
        obtain ⟨⟨members, rest'⟩, hmembers, heq⟩ := Option.map_eq_some_iff.mp h
        cases heq
        have hmember (cs : List Char) (m : String × Json) (rest : List Char)
            (hm : memberOf (value depth) cs = some (m, rest)) : Ordered m.2 :=
          ordered_of_memberOf (fun _ _ _ hv => ih depth depth.lt_succ_self hv) hm
        exact ordered_ofMembers (forall_of_itemsOf hmember hmembers)
    · obtain ⟨n, rfl⟩ := exists_number_of_number? h
      exact .number n

/-- A document that has been read from bytes has its objects in order. -/
theorem ordered_of_ofBytes? {bytes : ByteArray} (h : ofBytes? bytes = some v) : Ordered v := by
  obtain ⟨text, -, h⟩ := Option.bind_eq_some_iff.mp h
  unfold parse? at h
  split at h
  · rename_i w rest hw
    split at h
    · cases h
      exact ordered_of_value hw
    · nomatch h
  · nomatch h

end SceneRelay.Json
