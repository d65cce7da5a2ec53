import Mathlib.Algebra.Order.Field.Power
import Mathlib.Data.Rat.Cast.Order
import Mathlib.Tactic.FieldSimp
import Mathlib.Tactic.Ring
import Mathlib.Tactic.Common
import SceneRelay.Schema

/-! What the keywords of a schema mean, each by itself, and which numbers count as integers. -/
namespace SceneRelay

theorem twoTo_eq (n : Nat) : twoTo n = 2 ^ n := rfl

namespace Binary64

/-- The number that a double stands for. -/
def toRat (x : Binary64) : ℚ :=
  (if x.negative then -1 else 1) * x.significand * 2 ^ x.exponent

/-- The bits tell whether the value is a whole number. -/
theorem isIntegral_iff (x : Binary64) : x.isIntegral ↔ ∃ k : ℤ, x.toRat = k := by
  have hsign : (∃ k : ℤ, x.toRat = k) ↔ ∃ k : ℤ, (x.significand : ℚ) * 2 ^ x.exponent = k := by
    unfold toRat
    cases x.negative
    · simp
    · constructor
      · rintro ⟨k, hk⟩
        exact ⟨-k, by push_cast; rw [← hk]; simp⟩
      · rintro ⟨k, hk⟩
        exact ⟨-k, by push_cast; rw [← hk]; simp⟩
  rw [hsign]
  unfold isIntegral
  split
  · rename_i he
    obtain ⟨n, hn⟩ := Int.eq_ofNat_of_zero_le he
    simp only [hn, zpow_natCast, true_iff]
    exact ⟨x.significand * 2 ^ n, by push_cast; rfl⟩
  · rename_i he
    obtain ⟨n, hn⟩ := Int.eq_ofNat_of_zero_le (a := -x.exponent) (by omega)
    have hpow : (2 : ℚ) ^ n ≠ 0 := pow_ne_zero n two_ne_zero
    rw [hn, Int.toNat_natCast, beq_iff_eq, twoTo_eq, ← Nat.dvd_iff_mod_eq_zero,
      ← neg_neg x.exponent, hn, zpow_neg, zpow_natCast]
    constructor
    · rintro ⟨k, hk⟩
      exact ⟨k, by rw [hk]; push_cast; field_simp⟩
    · rintro ⟨k, hk⟩
      rw [← div_eq_mul_inv, div_eq_iff hpow] at hk
      have hk : (x.significand : ℤ) = k * 2 ^ n := by exact_mod_cast hk
      exact Int.natCast_dvd_natCast.mp ⟨k, by push_cast; rw [hk]; ring⟩

end Binary64

/-- A number without a fraction, however it is written. -/
def JsonNumber.IsInteger : JsonNumber → Prop
  | integer _ => True
  | double x => ∃ k : ℤ, x.toRat = k

theorem JsonNumber.isWhole_iff (n : JsonNumber) : n.isWhole ↔ n.IsInteger := by
  cases n with
  | integer n => exact ⟨fun _ => trivial, fun _ => rfl⟩
  | double x => exact x.isIntegral_iff

namespace JsonType
variable {v : Json}

theorem admits_array_iff : array.admits v ↔ ∃ items, v = .array items := by
  cases v <;> simp [admits]

theorem admits_object_iff : object.admits v ↔ ∃ members, v = .object members := by
  cases v <;> simp [admits]

theorem admits_string_iff : string.admits v ↔ ∃ s, v = .string s := by
  cases v <;> simp [admits]

theorem admits_number_iff : number.admits v ↔ ∃ n, v = .number n := by
  cases v <;> simp [admits]

theorem admits_integer_iff : integer.admits v ↔ ∃ n, v = .number n ∧ n.IsInteger := by
  cases v <;> simp [admits, JsonNumber.isWhole_iff]

end JsonType

namespace Schema
variable {types : Option (List JsonType)} {required : List String}
  {properties : Option (List (String × Schema))} {closedBy each : Option Schema}
  {minItems maxItems : Option Nat} {members : List (String × Json)} {v : Json}

/-- The types hold of a value if one of them does. -/
theorem typesAdmit_iff : typesAdmit types v ↔ ∀ ts ∈ types, ∃ t ∈ ts, t.admits v := by
  simp [typesAdmit, Option.all_eq_true]

theorem acceptsAll_iff {values : List Json} :
    acceptsAll each values ↔ ∀ s ∈ each, ∀ w ∈ values, s.accepts w := by
  cases each <;> simp [acceptsAll]

theorem acceptsProperties_iff {ps : List (String × Schema)} :
    acceptsProperties ps members ↔ ∀ p ∈ ps, ∀ w, members.lookup p.1 = some w → p.2.accepts w := by
  induction ps with
  | nil => simp [acceptsProperties]
  | cons p ps ih =>
    obtain ⟨name, s⟩ := p
    simp only [acceptsProperties, Bool.and_eq_true, ih, List.forall_mem_cons]
    cases members.lookup name <;> simp

theorem acceptsNamed_iff : acceptsNamed properties members ↔
    ∀ p ∈ properties.getD [], ∀ w, members.lookup p.1 = some w → p.2.accepts w := by
  cases properties with
  | none => simp [acceptsNamed]
  | some ps => exact acceptsProperties_iff

/-- What an object has to satisfy: its required members are there, its named members and the others
are accepted by the schemas given for them. -/
theorem accepts_object_iff :
    (rules types required properties closedBy each minItems maxItems).accepts (.object members) ↔
      typesAdmit types (.object members) ∧
      (∀ name ∈ required, ∃ w, members.lookup name = some w) ∧
      (∀ p ∈ properties.getD [], ∀ w, members.lookup p.1 = some w → p.2.accepts w) ∧
      ∀ s ∈ closedBy, ∀ m ∈ extras properties members, s.accepts m.2 := by
  simp only [accepts, Bool.and_eq_true, List.all_eq_true, acceptsNamed_iff, acceptsAll_iff,
    List.forall_mem_map, Option.isSome_iff_exists, and_assoc]

/-- What an array has to satisfy: it is neither too short nor too long, and its items are accepted. -/
theorem accepts_array_iff {items : List Json} :
    (rules types required properties closedBy each minItems maxItems).accepts (.array items) ↔
      typesAdmit types (.array items) ∧ (∀ n ∈ minItems, n ≤ items.length) ∧
      (∀ n ∈ maxItems, items.length ≤ n) ∧ ∀ s ∈ each, ∀ w ∈ items, s.accepts w := by
  simp [accepts, acceptsAll_iff, Option.all_eq_true, and_assoc]

/-- Whatever the other keywords are, the type has to be right. -/
theorem typesAdmit_of_accepts
    (h : (rules types required properties closedBy each minItems maxItems).accepts v) :
    typesAdmit types v := by
  unfold accepts at h
  exact (Bool.and_eq_true_iff.mp h).1

theorem typesAdmit_single {t : JsonType} : typesAdmit (some [t]) v ↔ t.admits v := by
  simp [typesAdmit_iff]

/-! ### The schemas of single types, records, maps and lists -/

/-- The schema that asks for one type and nothing else. -/
def typed (t : JsonType) : Schema := rules (some [t]) [] none none none none none

/-- The schema of objects with some members required and some of given schemas. -/
def record (required : List String) (properties : List (String × Schema)) : Schema :=
  rules (some [.object]) required (some properties) none none none none

/-- The schema of objects with members of one schema. -/
def mapOf (s : Schema) : Schema := rules (some [.object]) [] none (some s) none none none

/-- The schema of arrays with items of one schema. -/
def listOf (s : Schema) : Schema := rules (some [.array]) [] none none (some s) none none

theorem accepts_typed_iff {t : JsonType} : (typed t).accepts v ↔ t.admits v := by
  constructor
  · exact fun h => typesAdmit_single.mp (typesAdmit_of_accepts h)
  · intro h
    cases v <;> simpa [typed, accepts, typesAdmit, acceptsNamed, acceptsAll] using h

theorem accepts_record_iff {ps : List (String × Schema)} : (record required ps).accepts v ↔
    ∃ members, v = .object members ∧ (∀ name ∈ required, ∃ w, members.lookup name = some w) ∧
      ∀ p ∈ ps, ∀ w, members.lookup p.1 = some w → p.2.accepts w := by
  constructor
  · intro h
    obtain ⟨members, rfl⟩ :=
      JsonType.admits_object_iff.mp (typesAdmit_single.mp (typesAdmit_of_accepts h))
    obtain ⟨-, hrequired, hnamed, -⟩ := accepts_object_iff.mp h
    exact ⟨members, rfl, hrequired, hnamed⟩
  · rintro ⟨members, rfl, hrequired, hnamed⟩
    exact accepts_object_iff.mpr ⟨rfl, hrequired, hnamed, by simp⟩

theorem accepts_mapOf_iff {s : Schema} : (mapOf s).accepts v ↔
    ∃ members, v = .object members ∧ ∀ m ∈ members, s.accepts m.2 := by
  have hextras (members : List (String × Json)) : extras none members = members := by
    simp [extras]
  constructor
  · intro h
    obtain ⟨members, rfl⟩ :=
      JsonType.admits_object_iff.mp (typesAdmit_single.mp (typesAdmit_of_accepts h))
    obtain ⟨-, -, -, hall⟩ := accepts_object_iff.mp h
    rw [hextras] at hall
    exact ⟨members, rfl, hall s rfl⟩
  · rintro ⟨members, rfl, hall⟩
    refine accepts_object_iff.mpr ⟨rfl, by simp, by simp, ?_⟩
    rw [hextras]
    rintro _ ⟨⟩
    exact hall

theorem accepts_listOf_iff {s : Schema} : (listOf s).accepts v ↔
    ∃ items, v = .array items ∧ ∀ w ∈ items, s.accepts w := by
  constructor
  · intro h
    obtain ⟨items, rfl⟩ :=
      JsonType.admits_array_iff.mp (typesAdmit_single.mp (typesAdmit_of_accepts h))
    obtain ⟨-, -, -, hall⟩ := accepts_array_iff.mp h
    exact ⟨items, rfl, hall s rfl⟩
  · rintro ⟨items, rfl, hall⟩
    refine accepts_array_iff.mpr ⟨rfl, by simp, by simp, ?_⟩
    rintro _ ⟨⟩
    exact hall

end Schema
end SceneRelay
