import PromptTemplate.Proofs.Json.LongInteger
import PromptTemplate.Proofs.Json.Roundtrip
import PromptTemplate.Proofs.Json.Sendable

/-!
# Objects that are sent

A value is sent if it is written and what is written has bytes. The parts of an object decide that one by one
(`isSent_object_iff`): no blanks depend on the level at which a part stands (`writeAt_compact`), and a lone
surrogate in a part is a lone surrogate in the whole.
-/

namespace PromptTemplate

open Text

theorem Text.ofString_injective : Function.Injective ofString := fun _ _ h =>
  String.toList_injective (List.map_injective_iff.mpr (fun _ _ h => CodePoint.char.inj h) h)

/-- A member of an object is found by its name. -/
theorem Data.get?_object (members : List (String × Data)) (name : String) :
    (object members).get? name = (members.find? fun m => m.1 = name).map Prod.snd := by
  rw [object, get?, Table.get?, List.find?_map, Option.map_map]
  simp only [Function.comp_def, ofString_injective.eq_iff]

namespace Json

/-- A value that is written and has bytes as JSON. -/
def IsSent (d : Data) : Prop := isWritable d = true ∧ (write .compact d).isScalar = true

instance (d : Data) : Decidable (IsSent d) := by
  unfold IsSent
  infer_instance

theorem IsSendable.isSent {d : Data} (h : IsSendable d) : IsSent d :=
  ⟨h.isWritable, h.isScalar_write (by decide) (by decide)⟩

mutual
/-- On one line a value is written alike at every level. -/
theorem writeAt_compact (level level' : Nat) :
    ∀ d : Data, writeAt .compact level d = writeAt .compact level' d
  | .null | .bool _ | .int _ | .real _ | .text _ | .bytes _ | .other _ => rfl
  | .list items => by
    have hitems := writeItems_compact (level + 1) (level' + 1) items
    rw [writeAt, writeAt, hitems]
    rfl
  | .map members => by
    have hmembers := writeMembers_compact (level + 1) (level' + 1) members
    rw [writeAt, writeAt, hmembers]
    rfl

theorem writeItems_compact (level level' : Nat) :
    ∀ items : List Data, writeItems .compact level items = writeItems .compact level' items
  | [] => rfl
  | d :: items => by
    rw [writeItems, writeItems, writeAt_compact level level' d, writeItems_compact level level' items]

theorem writeMembers_compact (level level' : Nat) :
    ∀ ms : List (Text × Data), writeMembers .compact level ms = writeMembers .compact level' ms
  | [] => rfl
  | (k, d) :: ms => by
    rw [writeMembers, writeMembers, writeAt_compact level level' d, writeMembers_compact level level' ms]
end

theorem isScalar_joinWith_iff {sep : Text} (hsep : sep.isScalar = true) {ts : List Text} :
    (joinWith sep ts).isScalar = true ↔ ∀ t ∈ ts, t.isScalar = true := by
  constructor
  · intro h t ht
    exact isScalar_iff.mpr fun c hc => isScalar_iff.mp h c (mem_joinWith_of_mem ht hc)
  · exact isScalar_joinWith hsep

theorem isScalar_bracket_compact_iff (level : Nat) (opening closing : Char) {parts : List Text} :
    (bracket .compact level opening closing parts).isScalar = true ↔ ∀ p ∈ parts, p.isScalar = true := by
  have hsep : (Style.compact.itemSeparator ++ newLine .compact (level + 1)).isScalar = true := rfl
  cases parts with
  | nil => simp [bracket]
  | cons p parts =>
    rw [← isScalar_joinWith_iff hsep]
    simp [bracket, isScalar_newLine]

/-- **An object is sent just if the values of its members are.** -/
theorem isSent_object_iff {members : List (String × Data)} :
    IsSent (.object members) ↔ ∀ m ∈ members, IsSent m.2 := by
  have hwritable : isWritable (.object members) = true ↔ ∀ m ∈ members, isWritable m.2 = true := by
    rw [Data.object, isWritable, membersAreWritable_iff, List.forall_mem_map]
  have hscalar : (write .compact (.object members)).isScalar = true ↔
      ∀ m ∈ members, (write .compact m.2).isScalar = true := by
    rw [write, Data.object, writeAt, isScalar_bracket_compact_iff, writeMembers_eq_map, List.forall_mem_map,
      List.forall_mem_map]
    refine forall₂_congr fun m _ => ?_
    have hquote : (quote Style.compact.asciiOnly (ofString m.1)).isScalar = true :=
      isScalar_quote _ (isScalar_ofString m.1)
    have hkey : Style.compact.keySeparator.isScalar = true := by decide
    rw [isScalar_append, isScalar_append, hquote, hkey, writeAt_compact (0 + 1) 0]
    simp [write]
  rw [IsSent, hwritable, hscalar]
  exact forall₂_and.symm

/-! ### Reading what was sent -/

/-- A code point of ASCII has one byte and is read back from it. -/
theorem exists_byte_of_ascii {c : CodePoint} (hc : 0 < c.toNat ∧ c.toNat < 0x80) :
    ∃ b, Utf8.encodePoint c = [b] ∧ (b ≠ 0 ∧ b < 0x80) ∧ Utf8.asciiPoint b = c := by
  have hbyte : (UInt8.ofNat c.toNat).toNat = c.toNat := Utf8.toNat_ofNat_of_lt (by omega)
  refine ⟨UInt8.ofNat c.toNat, if_pos hc.2, ⟨fun h => ?_, ?_⟩, ?_⟩
  · rw [h] at hbyte
    exact absurd hbyte (by simp; omega)
  · rw [UInt8.lt_iff_toNat_lt, hbyte]
    exact hc.2
  · rw [Utf8.asciiPoint, hbyte]
    cases c with
    | char x => simp [CodePoint.toNat]
    | surrogate n =>
      simp only [CodePoint.toNat] at hc
      omega

theorem map_asciiPoint_flatMap {t : Text} (h : ∀ c ∈ t, 0 < c.toNat ∧ c.toNat < 0x80) :
    (t.flatMap Utf8.encodePoint).map Utf8.asciiPoint = t := by
  induction t with
  | nil => rfl
  | cons c t ih =>
    obtain ⟨b, hencode, -, hpoint⟩ := exists_byte_of_ascii (h c (List.mem_cons_self ..))
    have ih := ih fun x hx => h x (List.mem_cons_of_mem _ hx)
    rw [List.flatMap_cons, List.map_append, ih, hencode, List.map_singleton, hpoint]
    rfl

/-- A value whose text is of ASCII is read back from the bytes of the text. -/
theorem readBytes_write {d : Data} (hd : IsKept maxDepth d)
    (hascii : ∀ c ∈ write .compact d, 0 < c.toNat ∧ c.toNat < 0x80) :
    readBytes ((write .compact d).flatMap Utf8.encodePoint) = .ok d := by
  have hbytes : ∀ b ∈ (write .compact d).flatMap Utf8.encodePoint, b ≠ 0 ∧ b < 0x80 := by
    intro b hb
    obtain ⟨c, hc, hb⟩ := List.mem_flatMap.mp hb
    obtain ⟨b', hencode, hbounds, -⟩ := exists_byte_of_ascii (hascii c hc)
    rw [hencode, List.mem_singleton] at hb
    exact hb ▸ hbounds
  rw [readBytes_ascii hbytes, map_asciiPoint_flatMap hascii, read_write Style.isRegular_compact hd]

end Json

end PromptTemplate
