import PromptTemplate.Proofs.File.Document
import PromptTemplate.Proofs.Text.Scalar

/-!
# Messages that have bytes

A message quotes what is wrong in a file, and in quotes a lone surrogate is written as an escape. So a message
has bytes unless the path that it gives has none (`Loader.isScalar_message`).
-/

namespace PromptTemplate

open Text

theorem Numeral.isScalar_ofInt (n : Int) : (Numeral.ofInt n).isScalar = true := by
  cases n with
  | ofNat n => exact isScalar_ofNat n
  | negSucc n => simp [ofInt, isScalar_ofNat]

/-! ### Quoted texts -/

/-- A lone surrogate cannot be printed. -/
theorem CodePoint.inRanges_unprintable {c : CodePoint} (h : c.isSurrogate = true) :
    c.inRanges unprintable = true := by
  cases c with
  | char c => cases h
  | surrogate n =>
    refine List.any_eq_true.mpr ⟨(0xD7FC, 0xF8FF), by decide +kernel, ?_⟩
    have hn := n.isLt
    exact Bool.and_eq_true_iff.mpr
      ⟨decide_eq_true (by simp only [toNat]; omega), decide_eq_true (by simp only [toNat]; omega)⟩

theorem Quoted.isScalar_point (mark : Char) (c : CodePoint) : (point mark c).isScalar = true := by
  unfold point
  cases hc : c.isSurrogate with
  | true =>
    have hne : ∀ ch : Char, c ≠ .char ch := fun ch hch => by simp [hch] at hc
    rw [if_pos (CodePoint.inRanges_unprintable hc)]
    split_ifs <;> simp_all [Numeral.isScalar_hex]
  | false => split_ifs <;> simp [hc, Numeral.isScalar_hex]

/-- What stands in quotes in a message has bytes. -/
theorem Quoted.isScalar_ofText (t : Text) : (ofText t).isScalar = true := by
  have hpoints : ∀ mark, Text.isScalar (t.flatMap (point mark)) = true :=
    fun mark => isScalar_flatMap.mpr fun c _ => isScalar_point mark c
  simp [ofText, hpoints]

theorem Utf8.DecodeFault.isScalar_message (f : DecodeFault) : f.message.isScalar = true := by
  unfold message
  dsimp only
  split_ifs <;> simp [Numeral.isScalar_hex, Numeral.isScalar_ofNat]

theorem Utf8.EncodeFault.isScalar_message (f : EncodeFault) : f.message.isScalar = true := by
  unfold message
  dsimp only
  split_ifs <;> simp [Numeral.isScalar_hex, Numeral.isScalar_ofNat]

/-! ### The messages of faults -/

theorem Yaml.isScalar_durationText (minutes : Int) : (Yaml.durationText minutes).isScalar = true := by
  have hunit : ∀ (unit : String) (n : Int) (t : Text),
      t ∈ (if n = 0 then [] else [Text.ofString unit ++ Numeral.ofInt n]) → t.isScalar = true := by
    intro unit n t ht
    split_ifs at ht
    · cases ht
    · rw [List.mem_singleton.mp ht]
      simp [Numeral.isScalar_ofInt]
  unfold durationText
  dsimp only
  rw [isScalar_append, isScalar_append, isScalar_joinWith (isScalar_ofString _) ?_]
  · rfl
  · intro t ht
    rcases List.mem_append.mp ht with ht | ht
    · exact hunit "days=" _ t ht
    · exact hunit "seconds=" _ t ht

theorem Yaml.ValueFault.isScalar_message (f : ValueFault) : f.message.isScalar = true := by
  cases f with
  | time f =>
    cases f with
    | offset minutes => simp [message, TimeFault.message, isScalar_durationText]
    | _ => exact isScalar_ofString _
  | notInt base t =>
    have hshown : Text.isScalar ((Quoted.ofText t).take shownLength) = true :=
      isScalar_of_subset (Quoted.isScalar_ofText t) (List.take_subset _ _)
    simp [message, Numeral.isScalar_ofNat, hshown]
  | escape n =>
    simp only [message]
    split_ifs <;> exact isScalar_ofString _
  | tooLong digits => simp [message, Numeral.tooLongText, Numeral.isScalar_ofNat]
  | notReal t => simp [message, Quoted.isScalar_ofText]
  | notBool t => simp [message, Quoted.isScalar_ofText]
  | _ => exact isScalar_ofString _

/-- A refusal of a file has a message with bytes, if its path has bytes. -/
theorem Loader.isScalar_message {α : Type} {l : Loader α} {t : FileTree} {p : Path} {f : Fault}
    (hp : p.toText.isScalar = true) (hload : (l.load p t).1 = .error f) (hf : f.isRefusal = true) :
    f.message.isScalar = true := by
  have hresult := (l.load_result t p).1
  rw [hload] at hresult
  cases hresult with
  | unforeseen h =>
    cases h with
    | @noPath f =>
      cases f with
      | loneSurrogate => exact Utf8.EncodeFault.isScalar_message _
      | null => exact isScalar_ofString _
      | tooLong => cases hf
    | barred => cases hf
    | notUtf8 => exact Utf8.DecodeFault.isScalar_message _
    | value => exact Yaml.ValueFault.isScalar_message _
  | notFound | malformed | notMapping | schema => simp [Fault.message, hp]

/-- A path that is written with bytes has bytes. -/
theorem Path.isScalar_toText_ofText {t : Text} (h : t.isScalar = true) :
    (ofText t).toText.isScalar = true := by
  have hnames : ∀ n ∈ (ofText t).names, Text.isScalar n = true := fun n hn =>
    isScalar_of_subset h (subset_of_mem_splitOn (List.mem_of_mem_filter hn))
  have hroot : Text.isScalar (ofText t).root = true := by
    refine isScalar_of_subset h ?_
    show rootOf t ⊆ t
    unfold rootOf
    dsimp only
    have hslashes : t.takeWhile (· = .char '/') ⊆ t := (List.takeWhile_prefix _).subset
    split_ifs
    · exact hslashes
    · exact List.Subset.trans (List.take_subset _ _) hslashes
  unfold toText
  split_ifs
  · rfl
  · simp [hroot, isScalar_joinWith (isScalar_ofString "/") hnames]

end PromptTemplate
