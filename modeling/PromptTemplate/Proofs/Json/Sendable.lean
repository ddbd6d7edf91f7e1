import Mathlib.Algebra.Group.Nat.Defs
import PromptTemplate.Json.Printer
import PromptTemplate.Proofs.Text.Scalar

/-!
# Values that can be sent

A value can be sent if its integers have a numeral and there is no lone surrogate in its texts and keys. All
its integers are then short enough to be written (`IsSendable.isWritable`), and the text that is written has
no lone surrogate, so it has bytes (`IsSendable.isScalar_write`).
-/

namespace PromptTemplate.Json

open Text

/-- A value without reals and bytes that is written and has bytes as JSON. -/
inductive IsSendable : Data → Prop
  | null : IsSendable .null
  | bool (b : Bool) : IsSendable (.bool b)
  | int {n : Int} (h : n.natAbs < 10 ^ Numeral.maxDigits) : IsSendable (.int n)
  | text {t : Text} (h : t.isScalar = true) : IsSendable (.text t)
  | list {items : List Data} (h : ∀ d ∈ items, IsSendable d) : IsSendable (.list items)
  | map {members : List (Text × Data)} (hkeys : ∀ m ∈ members, m.1.isScalar = true)
    (h : ∀ m ∈ members, IsSendable m.2) : IsSendable (.map members)

/-! ### What can be sent -/

attribute [simp] IsSendable.null IsSendable.bool

@[simp] theorem isSendable_int_iff {n : Int} :
    IsSendable (.int n) ↔ n.natAbs < 10 ^ Numeral.maxDigits :=
  ⟨fun h => by cases h; assumption, .int⟩

@[simp] theorem isSendable_text_iff {t : Text} : IsSendable (.text t) ↔ t.isScalar = true :=
  ⟨fun h => by cases h; assumption, .text⟩

@[simp] theorem isSendable_list_iff {items : List Data} :
    IsSendable (.list items) ↔ ∀ d ∈ items, IsSendable d :=
  ⟨fun h => by cases h; assumption, .list⟩

@[simp] theorem isSendable_texts_iff {ts : List Text} :
    IsSendable (.texts ts) ↔ ∀ t ∈ ts, t.isScalar = true := by
  simp [Data.texts]

@[simp] theorem isSendable_ofText?_iff {t : Option Text} :
    IsSendable (.ofText? t) ↔ ∀ v ∈ t, v.isScalar = true := by
  cases t <;> simp [Data.ofText?]

@[simp] theorem isSendable_object_iff {members : List (String × Data)} :
    IsSendable (.object members) ↔ ∀ m ∈ members, IsSendable m.2 := by
  constructor
  · intro h m hm
    cases h with
    | map hkeys h => exact h _ (List.mem_map_of_mem hm)
  · intro h
    refine .map (fun p hp => ?_) fun p hp => ?_ <;> obtain ⟨m, hm, rfl⟩ := List.mem_map.mp hp
    · exact isScalar_ofString m.1
    · exact h m hm

/-! ### Sending -/

theorem areWritable_iff {ds : List Data} : areWritable ds = true ↔ ∀ d ∈ ds, isWritable d = true := by
  induction ds with
  | nil => simp [areWritable]
  | cons d ds ih => simp [areWritable, ih]

theorem membersAreWritable_iff {ms : List (Text × Data)} :
    membersAreWritable ms = true ↔ ∀ m ∈ ms, isWritable m.2 = true := by
  induction ms with
  | nil => simp [membersAreWritable]
  | cons m ms ih => simp [membersAreWritable, ih]

theorem IsSendable.isWritable {d : Data} (h : IsSendable d) : isWritable d = true := by
  induction h with
  | null | bool | text => rfl
  | @int n h =>
    have hlength : (Nat.toDigits 10 n.natAbs).length ≤ Numeral.maxDigits :=
      (Nat.length_toDigits_le_iff (by decide) (by decide)).mpr h
    simpa [Json.isWritable, Numeral.ofNat] using hlength
  | list _ ih => exact areWritable_iff.mpr ih
  | map _ _ ih => exact membersAreWritable_iff.mpr ih

theorem isScalar_unicodeEscape (n : Nat) : (unicodeEscape n).isScalar = true := by
  simp [unicodeEscape, Numeral.isScalar_hex]

theorem isScalar_quotePoint (asciiOnly : Bool) {c : CodePoint} (h : c.isSurrogate = false) :
    (quotePoint asciiOnly c).isScalar = true := by
  unfold quotePoint
  split_ifs <;> simp [isScalar_unicodeEscape, h]

theorem isScalar_quote (asciiOnly : Bool) {t : Text} (h : t.isScalar = true) :
    (quote asciiOnly t).isScalar = true := by
  have hpoints : Text.isScalar (t.flatMap (quotePoint asciiOnly)) = true :=
    isScalar_flatMap.mpr fun c hc => isScalar_quotePoint asciiOnly (isScalar_iff.mp h c hc)
  simp [quote, hpoints]

theorem isScalar_newLine (style : Style) (level : Nat) : (newLine style level).isScalar = true := by
  unfold newLine
  cases style.indent <;> simp [isScalar_replicate_char]

theorem isScalar_bracket {style : Style} (hstyle : style.itemSeparator.isScalar = true) (level : Nat)
    (opening closing : Char) {parts : List Text} (h : ∀ p ∈ parts, p.isScalar = true) :
    (bracket style level opening closing parts).isScalar = true := by
  have hseparator : (style.itemSeparator ++ newLine style (level + 1)).isScalar = true := by
    simp [hstyle, isScalar_newLine]
  unfold bracket
  split_ifs <;> simp [isScalar_newLine, isScalar_joinWith hseparator h]

theorem writeItems_eq_map (style : Style) (level : Nat) (ds : List Data) :
    writeItems style level ds = ds.map (writeAt style level) := by
  induction ds with
  | nil => rfl
  | cons d ds ih => rw [writeItems, ih, List.map_cons]

theorem writeMembers_eq_map (style : Style) (level : Nat) (ms : List (Text × Data)) :
    writeMembers style level ms =
      ms.map fun m => quote style.asciiOnly m.1 ++ style.keySeparator ++ writeAt style level m.2 := by
  induction ms with
  | nil => rfl
  | cons m ms ih => rw [writeMembers, ih, List.map_cons]

theorem IsSendable.isScalar_writeAt {style : Style} (hitem : style.itemSeparator.isScalar = true)
    (hkey : style.keySeparator.isScalar = true) {d : Data} (h : IsSendable d) (level : Nat) :
    (writeAt style level d).isScalar = true := by
  induction h generalizing level with
  | null => rfl
  | bool b => cases b <;> rfl
  | @int n =>
    cases n <;> simp [writeAt, Numeral.ofInt, Numeral.isScalar_ofNat]
  | text h => exact isScalar_quote _ h
  | list _ ih =>
    refine isScalar_bracket hitem _ _ _ fun p hp => ?_
    rw [writeItems_eq_map] at hp
    obtain ⟨d, hd, rfl⟩ := List.mem_map.mp hp
    exact ih d hd _
  | map hkeys _ ih =>
    refine isScalar_bracket hitem _ _ _ fun p hp => ?_
    rw [writeMembers_eq_map] at hp
    obtain ⟨m, hm, rfl⟩ := List.mem_map.mp hp
    simp [isScalar_quote _ (hkeys m hm), hkey, ih m hm]

theorem IsSendable.isScalar_write {style : Style} (hitem : style.itemSeparator.isScalar = true)
    (hkey : style.keySeparator.isScalar = true) {d : Data} (h : IsSendable d) :
    (write style d).isScalar = true :=
  h.isScalar_writeAt hitem hkey 0

end PromptTemplate.Json
