import Mathlib.Tactic.Common
import SceneRelay.Config.Environment
import SceneRelay.Proofs.Text.Blank
import SceneRelay.Proofs.Text.Digits

/-! What the text of a variable stands for: a level, a port, or a yes or no. Each reader succeeds on
exactly the texts of its kind, and with the value that they stand for; a text without a port has one
of two reasons, and which one it is depends on the number that it denotes, if any. -/
namespace SceneRelay.Config

/-- The text is the name of a level, in letters of either case. -/
def IsLevel (value level : String) : Prop :=
  level = value.map Char.toLower ∧ level ∈ logLevels

/-- The text is one of the words for yes or for no. -/
def IsFlag (value : String) (b : Bool) : Prop :=
  value ∈ if b then ["true", "1", "yes"] else ["false", "0", "no"]

/-- Digits, with or without a plus sign, that stand for a number. -/
def IsNumeral (cs : List Char) (n : Nat) : Prop :=
  ∃ sign digits, cs = sign ++ digits ∧ sign ∈ [[], ['+']] ∧ digits ≠ [] ∧
    (∀ c ∈ digits, c.isDigit) ∧ Text.decimalValue digits = n

/-- The text is the number of a port not below `low`, with white space around it. -/
def IsPort (low : UInt16) (value : String) (port : UInt16) : Prop :=
  IsNumeral (Text.trim value.toList) port.toNat ∧ low ≤ port

variable {value level level' : String} {low port port' : UInt16} {cs : List Char} {n : Nat}
  {w v : UInt32} {b b' : Bool}

theorem readLevel_eq_ok_iff : readLevel value = .ok level ↔ IsLevel value level := by
  unfold readLevel IsLevel
  dsimp only
  split
  · rename_i h
    rw [Except.ok.injEq]
    exact ⟨fun he => ⟨he.symm, he ▸ h⟩, fun he => he.1.symm⟩
  · rename_i h
    exact ⟨nofun, fun he => absurd (he.1 ▸ he.2) h⟩

theorem IsLevel.unique (h : IsLevel value level) (h' : IsLevel value level') : level' = level :=
  h'.1.trans h.1.symm

theorem readBool_eq_ok_iff : readBool value = .ok b ↔ IsFlag value b := by
  have hdisjoint : value ∈ ["true", "1", "yes"] → value ∉ ["false", "0", "no"] := by
    simp only [List.mem_cons, List.not_mem_nil, or_false]
    rintro (rfl | rfl | rfl) <;> decide
  unfold readBool IsFlag
  split
  · rename_i htrue
    cases b <;> simp [htrue, hdisjoint htrue]
  · rename_i htrue
    split
    · rename_i hfalse
      cases b <;> simp [htrue, hfalse]
    · rename_i hfalse
      cases b <;> simp [htrue, hfalse]

theorem IsFlag.unique (h : IsFlag value b) (h' : IsFlag value b') : b' = b :=
  Except.ok.inj ((readBool_eq_ok_iff.mpr h').symm.trans (readBool_eq_ok_iff.mpr h))

/-- What comes after a plus sign, if there is one. -/
def unsigned : List Char → List Char
  | '+' :: cs => cs
  | cs => cs

theorem unsigned_eq_self (h : ∀ c ∈ cs, c.isDigit) : unsigned cs = cs := by
  unfold unsigned
  split
  · exact absurd (h '+' List.mem_cons_self) (by decide)
  · rfl

theorem exists_sign_append_unsigned (cs : List Char) :
    ∃ sign ∈ [[], ['+']], cs = sign ++ unsigned cs := by
  unfold unsigned
  split
  · exact ⟨['+'], by simp, rfl⟩
  · exact ⟨[], by simp, rfl⟩

theorem isNumeral_iff : IsNumeral cs n ↔
    unsigned cs ≠ [] ∧ (∀ c ∈ unsigned cs, c.isDigit) ∧ Text.decimalValue (unsigned cs) = n := by
  constructor
  · rintro ⟨sign, digits, rfl, hsign, hne, hdigits, hvalue⟩
    have hunsigned : unsigned (sign ++ digits) = digits := by
      obtain rfl | rfl : sign = [] ∨ sign = ['+'] := by simpa using hsign
      · exact unsigned_eq_self hdigits
      · rfl
    rw [hunsigned]
    exact ⟨hne, hdigits, hvalue⟩
  · rintro ⟨hne, hdigits, hvalue⟩
    obtain ⟨sign, hsign, hcs⟩ := exists_sign_append_unsigned cs
    exact ⟨sign, unsigned cs, hcs, hsign, hne, hdigits, hvalue⟩

theorem isNumeral_iff_toDigits : IsNumeral cs n ↔ ∃ sign ∈ [[], ['+']], ∃ zeros,
    cs = sign ++ (List.replicate zeros '0' ++ Nat.toDigits 10 n) := by
  constructor
  · rintro ⟨sign, digits, rfl, hsign, hnumber⟩
    obtain ⟨zeros, rfl⟩ := Text.decimalValue_eq_iff.mp hnumber
    exact ⟨sign, hsign, zeros, rfl⟩
  · rintro ⟨sign, hsign, zeros, rfl⟩
    exact ⟨sign, _, rfl, hsign, Text.decimalValue_eq_iff.mpr ⟨zeros, rfl⟩⟩

theorem IsNumeral.not_isBlank (h : IsNumeral cs n) : ∀ c ∈ cs, ¬Text.isBlank c := by
  obtain ⟨sign, digits, rfl, hsign, -, hdigits, -⟩ := h
  intro c hc
  obtain hc | hc := List.mem_append.mp hc
  · obtain rfl | rfl : sign = [] ∨ sign = ['+'] := by simpa using hsign
    · nomatch hc
    · rw [List.mem_singleton.mp hc]
      decide
  · exact Text.not_isBlank_of_isDigit (hdigits c hc)

theorem IsNumeral.unique {m : Nat} (h : IsNumeral cs n) (h' : IsNumeral cs m) : m = n :=
  (isNumeral_iff.mp h').2.2.symm.trans (isNumeral_iff.mp h).2.2

theorem IsPort.unique (h : IsPort low value port) (h' : IsPort low value port') : port' = port :=
  UInt16.toNat_inj.mp (h.1.unique h'.1)

/-! ### Words -/

/-- A digit is read onto a word if the number that this makes is still a word. -/
theorem pushDigit?_eq_some_iff {c : Char} :
    pushDigit? w c = some v ↔ c.isDigit ∧ 10 * w.toNat + Text.digitValue c = v.toNat := by
  unfold pushDigit?
  rw [Option.ite_none_right_eq_some, Option.some_inj]
  constructor
  · rintro ⟨⟨hdigit, hfits⟩, rfl⟩
    exact ⟨hdigit, (UInt32.toNat_ofNat_of_lt' hfits).symm⟩
  · rintro ⟨hdigit, hv⟩
    rw [hv]
    exact ⟨⟨hdigit, v.toNat_lt⟩, UInt32.ofNat_toNat⟩

/-- Reading more digits never makes a number smaller. -/
theorem le_foldl_digits (cs : List Char) (n : Nat) :
    n ≤ cs.foldl (fun n c => 10 * n + Text.digitValue c) n := by
  induction cs generalizing n with
  | nil => exact Nat.le_refl n
  | cons c cs ih =>
    have hstep : n ≤ 10 * n + Text.digitValue c := by omega
    exact Nat.le_trans hstep (ih _)

theorem foldlM_pushDigit?_eq_some_iff :
    cs.foldlM pushDigit? w = some v ↔ (∀ c ∈ cs, c.isDigit) ∧
      cs.foldl (fun n c => 10 * n + Text.digitValue c) w.toNat = v.toNat := by
  induction cs generalizing w with
  | nil => simp [UInt32.toNat_inj]
  | cons c cs ih =>
    rw [List.foldlM_cons, Option.bind_eq_bind, Option.bind_eq_some_iff, List.forall_mem_cons,
      List.foldl_cons]
    constructor
    · rintro ⟨u, hu, hv⟩
      obtain ⟨hdigit, hun⟩ := pushDigit?_eq_some_iff.mp hu
      obtain ⟨hdigits, hvn⟩ := ih.mp hv
      exact ⟨⟨hdigit, hdigits⟩, hun ▸ hvn⟩
    · rintro ⟨⟨hdigit, hdigits⟩, hv⟩
      -- The number so far is at most that of all digits, so that it does not overflow either.
      have hfits : 10 * w.toNat + Text.digitValue c < UInt32.size :=
        Nat.lt_of_le_of_lt (le_foldl_digits cs _) (hv ▸ v.toNat_lt)
      have hun := (UInt32.toNat_ofNat_of_lt' hfits).symm
      exact ⟨_, pushDigit?_eq_some_iff.mpr ⟨hdigit, hun⟩, ih.mpr ⟨hdigits, hun ▸ hv⟩⟩

/-- A word is read from exactly the numerals of numbers that fit it. -/
theorem word32?_eq_some_iff : word32? cs = some w ↔ IsNumeral cs w.toNat := by
  have hword : word32? cs =
      if unsigned cs = [] then none else (unsigned cs).foldlM pushDigit? 0 := rfl
  rw [hword, isNumeral_iff, Option.ite_none_left_eq_some, foldlM_pushDigit?_eq_some_iff]
  rfl

theorem word32?_eq_none_iff : word32? cs = none ↔ ∀ n, IsNumeral cs n → UInt32.size ≤ n := by
  constructor
  · intro hnone n hn
    by_contra hlt
    have hun := UInt32.toNat_ofNat_of_lt' (Nat.lt_of_not_le hlt)
    have hsome := word32?_eq_some_iff.mpr (hun.symm ▸ hn)
    rw [hnone] at hsome
    nomatch hsome
  · intro h
    by_contra hne
    obtain ⟨w, hw⟩ := Option.ne_none_iff_exists'.mp hne
    exact absurd (h _ (word32?_eq_some_iff.mp hw)) (Nat.not_le.mpr w.toNat_lt)

/-! ### Ports -/

/-- Without the white space at its ends, the text is a numeral for the number. -/
def Denotes (value : String) (n : Nat) : Prop :=
  ∃ core, Text.IsTrimmed value.toList core ∧ IsNumeral core n

theorem denotes_iff : Denotes value n ↔ IsNumeral (Text.trim value.toList) n := by
  simp only [Denotes, ← Text.trim_eq_iff, exists_eq_left']

/-- The whole text of a number: white space, a sign, zeros, the digits of the number, and white space
again, each but the digits or not at all. -/
theorem denotes_iff_toDigits : Denotes value n ↔ ∃ before, ∃ sign ∈ [[], ['+']], ∃ zeros after,
    value.toList = before ++ (sign ++ (List.replicate zeros '0' ++ Nat.toDigits 10 n)) ++ after ∧
      (∀ c ∈ before, Text.isBlank c) ∧ ∀ c ∈ after, Text.isBlank c := by
  constructor
  · rintro ⟨core, htrimmed, hcore⟩
    obtain ⟨sign, hsign, zeros, rfl⟩ := isNumeral_iff_toDigits.mp hcore
    obtain ⟨before, after, hvalue, hblank⟩ := htrimmed.within
    exact ⟨before, sign, hsign, zeros, after, hvalue, hblank⟩
  · rintro ⟨before, sign, hsign, zeros, after, hvalue, hbefore, hafter⟩
    have hcore : IsNumeral (sign ++ (List.replicate zeros '0' ++ Nat.toDigits 10 n)) n :=
      isNumeral_iff_toDigits.mpr ⟨sign, hsign, zeros, rfl⟩
    exact ⟨_, hvalue ▸ Text.isTrimmed_append hbefore hafter hcore.not_isBlank, hcore⟩

theorem Denotes.unique {m : Nat} (h : Denotes value n) (h' : Denotes value m) : m = n :=
  (denotes_iff.mp h).unique (denotes_iff.mp h')

/-- What comes of reading a port: the port with the number that the text denotes, or the reason why
there is none. -/
inductive PortRead (low : UInt16) (value : String) : Except String UInt16 → Prop
  | port {port : UInt16} (number : Denotes value port.toNat) (high : low ≤ port) :
      PortRead low value (.ok port)
  | notNumber (tooBig : ∀ n, Denotes value n → UInt32.size ≤ n) :
      PortRead low value (.error "not a number")
  | outOfRange {n : Nat} (number : Denotes value n) (fits : n < UInt32.size)
      (outside : ¬(low.toNat ≤ n ∧ n ≤ 65535)) :
      PortRead low value (.error s!"must be {low}-65535")

theorem portRead_readPort (low : UInt16) (value : String) :
    PortRead low value (readPort low value) := by
  unfold readPort
  cases hword : word32? (Text.trim value.toList) with
  | none => exact .notNumber fun n hn => word32?_eq_none_iff.mp hword n (denotes_iff.mp hn)
  | some w =>
    have hnumber : Denotes value w.toNat := denotes_iff.mpr (word32?_eq_some_iff.mp hword)
    have hrange : low.toUInt32 ≤ w ∧ w ≤ 65535 ↔ low.toNat ≤ w.toNat ∧ w.toNat ≤ 65535 := by
      rw [UInt32.le_iff_toNat_le, UInt32.le_iff_toNat_le, UInt16.toNat_toUInt32]
      rfl
    dsimp only
    split
    · rename_i h
      obtain ⟨hlow, hhigh⟩ := hrange.mp h
      have hnarrow : w.toUInt16.toNat = w.toNat := by
        rw [UInt32.toNat_toUInt16]
        omega
      rw [← hnarrow] at hnumber hlow
      exact .port hnumber (UInt16.le_iff_toNat_le.mpr hlow)
    · rename_i h
      exact .outOfRange hnumber w.toNat_lt (mt hrange.mpr h)

theorem toNat_lt_word (port : UInt16) : port.toNat < UInt32.size :=
  Nat.lt_trans port.toNat_lt (by decide)

theorem toNat_inside (high : low ≤ port) : low.toNat ≤ port.toNat ∧ port.toNat ≤ 65535 :=
  ⟨UInt16.le_iff_toNat_le.mp high, Nat.le_of_lt_succ port.toNat_lt⟩

/-- The text decides what comes of reading it. -/
theorem PortRead.unique {r r' : Except String UInt16} (h : PortRead low value r)
    (h' : PortRead low value r') : r' = r := by
  cases h with
  | port number high =>
    cases h' with
    | port number' _ => rw [UInt16.toNat_inj.mp (number.unique number')]
    | notNumber tooBig => exact absurd (tooBig _ number) (Nat.not_le.mpr (toNat_lt_word _))
    | outOfRange number' _ outside =>
      exact absurd (number'.unique number ▸ toNat_inside high) outside
  | notNumber tooBig =>
    cases h' with
    | port number _ => exact absurd (tooBig _ number) (Nat.not_le.mpr (toNat_lt_word _))
    | notNumber _ => rfl
    | outOfRange number fits _ => exact absurd (tooBig _ number) (Nat.not_le.mpr fits)
  | outOfRange number fits outside =>
    cases h' with
    | port number' high => exact absurd (number.unique number' ▸ toNat_inside high) outside
    | notNumber tooBig => exact absurd (tooBig _ number) (Nat.not_le.mpr fits)
    | outOfRange _ _ _ => rfl

theorem readPort_eq_iff {r : Except String UInt16} :
    readPort low value = r ↔ PortRead low value r :=
  ⟨fun h => h ▸ portRead_readPort low value, fun h => h.unique (portRead_readPort low value)⟩

theorem readPort_eq_ok_iff : readPort low value = .ok port ↔ IsPort low value port := by
  rw [readPort_eq_iff, IsPort, ← denotes_iff]
  constructor
  · rintro ⟨number, high⟩
    exact ⟨number, high⟩
  · rintro ⟨number, high⟩
    exact .port number high

example : readPort 1 " +0080\t" = .ok 80 := by cbv

theorem fromVariable_eq_ok_iff {α : Type} {a : α} {name : String}
    {read : String → Except String α} :
    fromVariable name read value = .ok a ↔ read value = .ok a := by
  unfold fromVariable
  cases read value <;> simp [Except.mapError]

theorem fromVariable_eq_error_iff {α : Type} {name reason : String}
    {read : String → Except String α} :
    fromVariable name read value = .error (.badVariable name value reason) ↔
      read value = .error reason := by
  unfold fromVariable
  cases read value <;> simp [Except.mapError]

/-- The reasons for which there is no port begin with different letters. -/
theorem notNumber_ne_outOfRange (low : UInt16) : "not a number" ≠ s!"must be {low}-65535" := by
  intro h
  have hfirst : (s!"must be {low}-65535").toList.head? = some 'm' := by
    rw [String.toList_append, String.toList_append]
    rfl
  rw [← h] at hfirst
  exact absurd hfirst (by decide)

theorem portRead_notNumber_iff :
    PortRead low value (.error "not a number") ↔ ∀ n, Denotes value n → UInt32.size ≤ n := by
  refine ⟨fun h => ?_, .notNumber⟩
  generalize hr : (Except.error "not a number" : Except String UInt16) = r at h
  cases h with
  | port _ _ => nomatch hr
  | notNumber tooBig => exact tooBig
  | outOfRange _ _ _ => exact absurd (Except.error.inj hr) (notNumber_ne_outOfRange low)

theorem portRead_outOfRange_iff : PortRead low value (.error s!"must be {low}-65535") ↔
    ∃ n, Denotes value n ∧ n < UInt32.size ∧ ¬(low.toNat ≤ n ∧ n ≤ 65535) := by
  refine ⟨fun h => ?_, fun ⟨_, number, fits, outside⟩ => .outOfRange number fits outside⟩
  generalize hr : (Except.error s!"must be {low}-65535" : Except String UInt16) = r at h
  cases h with
  | port _ _ => nomatch hr
  | notNumber _ => exact absurd (Except.error.inj hr).symm (notNumber_ne_outOfRange low)
  | outOfRange number fits outside => exact ⟨_, number, fits, outside⟩

/-- A text denotes a number if it is, up to white space at its ends, a plus sign or none and the
decimal digits of the number with any zeros in front. The ports that are read are the numbers denoted
from `low` to 65535. A text that denotes no number is no number, nor is one that denotes a number too
big for a word; any other number is out of range. Either error names the variable and its whole
text. -/
theorem ports_read_from_numerals (low : UInt16) (name value : String) :
    (∀ n, Denotes value n ↔ ∃ before, ∃ sign ∈ [[], ['+']], ∃ zeros after,
      value.toList = before ++ (sign ++ (List.replicate zeros '0' ++ Nat.toDigits 10 n)) ++ after ∧
        (∀ c ∈ before, Text.isBlank c) ∧ ∀ c ∈ after, Text.isBlank c) ∧
    (∀ n, (∃ port, fromVariable name (readPort low) value = .ok port ∧ port.toNat = n) ↔
      Denotes value n ∧ low.toNat ≤ n ∧ n ≤ 65535) ∧
    (fromVariable name (readPort low) value = .error (.badVariable name value "not a number") ↔
      (∀ n, ¬Denotes value n) ∨ ∃ n, Denotes value n ∧ UInt32.size ≤ n) ∧
    (fromVariable name (readPort low) value =
        .error (.badVariable name value s!"must be {low}-65535") ↔
      ∃ n, Denotes value n ∧ n < UInt32.size ∧ ¬(low.toNat ≤ n ∧ n ≤ 65535)) := by
  simp only [fromVariable_eq_ok_iff, fromVariable_eq_error_iff, readPort_eq_iff]
  refine ⟨fun n => denotes_iff_toDigits, fun n => ⟨?_, ?_⟩,
    portRead_notNumber_iff.trans ⟨fun tooBig => ?_, ?_⟩, portRead_outOfRange_iff⟩
  · rintro ⟨port, ⟨number, high⟩, rfl⟩
    exact ⟨number, toNat_inside high⟩
  · rintro ⟨number, hlow, hhigh⟩
    have hport : n.toUInt16.toNat = n := UInt16.toNat_ofNat_of_lt' (Nat.lt_succ_of_le hhigh)
    rw [← hport] at number hlow
    exact ⟨n.toUInt16, .port number (UInt16.le_iff_toNat_le.mpr hlow), hport⟩
  · by_cases hnumber : ∃ n, Denotes value n
    · obtain ⟨n, hn⟩ := hnumber
      exact .inr ⟨n, hn, tooBig n hn⟩
    · exact .inl (not_exists.mp hnumber)
  · rintro (hnone | ⟨n, hn, hbig⟩) m hm
    · exact absurd hm (hnone m)
    · rwa [hn.unique hm]

end SceneRelay.Config
