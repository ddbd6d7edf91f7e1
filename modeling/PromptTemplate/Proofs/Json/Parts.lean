import Mathlib.Data.List.Forall2
import PromptTemplate.Json.Encoding
import PromptTemplate.Proofs.Table

/-!
# The size of what is read

A value has parts: itself, the items of its lists and the values of its members, at any depth (`Data.Part`).
Reading a value uses up the text it stands in, so no text and no list among its parts is longer than that
text (`Json.fits_of_read`), nor than the bytes the text was decoded from (`Json.fits_of_readBytes`). The
three readers call one another, each with less fuel: `Json.allFit` is by induction on the fuel, for all three
at once.
-/

namespace PromptTemplate

namespace Data

/-- A value or what stands in it: items of lists and values of members, one inside the other. -/
inductive Part (x : Data) : Data → Prop
  | self : Part x x
  | item {d : Data} {items : List Data} (hd : d ∈ items) (h : Part x d) : Part x (.list items)
  | member {m : Text × Data} {members : List (Text × Data)} (hm : m ∈ members) (h : Part x m.2) :
    Part x (.map members)

theorem Part.trans {x y z : Data} (hx : Part x y) (hy : Part y z) : Part x z := by
  induction hy with
  | self => exact hx
  | item hd _ ih => exact .item hd ih
  | member hm _ ih => exact .member hm ih

/-- A value without bytes whose texts and lists are not longer than `n`. -/
inductive FitsIn (n : Nat) : Data → Prop
  | null : FitsIn n .null
  | bool (b : Bool) : FitsIn n (.bool b)
  | int (i : Int) : FitsIn n (.int i)
  | real (x : Binary64) : FitsIn n (.real x)
  | text {t : Text} (h : t.length ≤ n) : FitsIn n (.text t)
  | list {items : List Data} (hlength : items.length ≤ n) (h : ∀ d ∈ items, FitsIn n d) :
    FitsIn n (.list items)
  | map {members : List (Text × Data)} (h : ∀ m ∈ members, FitsIn n m.2) : FitsIn n (.map members)

variable {n : Nat} {x d : Data}

theorem FitsIn.part (h : FitsIn n d) (hx : Part x d) : FitsIn n x := by
  induction hx with
  | self => exact h
  | item hd _ ih =>
    cases h with
    | list _ h => exact ih (h _ hd)
  | member hm _ ih =>
    cases h with
    | map h => exact ih (h _ hm)

theorem FitsIn.mono (h : FitsIn n d) {k : Nat} (hk : n ≤ k) : FitsIn k d := by
  induction h with
  | null => exact .null
  | bool b => exact .bool b
  | int i => exact .int i
  | real x => exact .real x
  | text h => exact .text (Nat.le_trans h hk)
  | list hlength _ ih => exact .list (Nat.le_trans hlength hk) ih
  | map _ ih => exact .map ih

end Data

theorem exists_of_map_eq_ok {ε α β : Type} {f : α → β} {x : Except ε α} {b : β} (h : x.map f = .ok b) :
    ∃ a, x = .ok a ∧ f a = b := by
  cases x with
  | error e => cases h
  | ok a => exact ⟨a, rfl, Except.ok.inj h⟩

/-- Where a function gives a result for every item, the results are those of the items in order. -/
theorem forall₂_of_mapM_eq_some {α β : Type} {f : α → Option β} {as : List α} {bs : List β}
    (h : as.mapM f = some bs) : List.Forall₂ (fun a b => f a = some b) as bs := by
  induction as generalizing bs with
  | nil =>
    cases h
    exact .nil
  | cons a as ih =>
    rw [List.mapM_cons] at h
    obtain ⟨b, hb, h⟩ := Option.bind_eq_some_iff.mp h
    obtain ⟨bs', hbs, heq⟩ := Option.bind_eq_some_iff.mp h
    cases heq
    exact .cons hb (ih hbs)

theorem exists_of_mem_mapM {α β : Type} {f : α → Option β} {as : List α} {bs : List β}
    (h : as.mapM f = some bs) {b : β} (hb : b ∈ bs) : ∃ a ∈ as, f a = some b := by
  have hall := forall₂_of_mapM_eq_some h
  clear h
  induction hall with
  | nil => cases hb
  | cons hab _ ih =>
    rcases List.mem_cons.mp hb with rfl | hb
    · exact ⟨_, List.mem_cons_self .., hab⟩
    · obtain ⟨a, ha, hab⟩ := ih hb
      exact ⟨a, List.mem_cons_of_mem _ ha, hab⟩

namespace Json

open Data

variable {n : Nat}

theorem length_skipSpace_le (t : Text) : (skipSpace t).length ≤ t.length :=
  (List.dropWhile_suffix isSpace).length_le

/-- A string and what follows it are shorter than what they were read from. -/
theorem length_of_stringFrom {skip : Nat} {t s rest : Text} (h : stringFrom skip t = some (s, rest)) :
    s.length + rest.length < t.length := by
  induction t generalizing skip s rest with
  | nil => cases skip <;> cases h
  | cons c t ih =>
    rw [List.length_cons]
    cases skip with
    | succ skip => exact Nat.lt_succ_of_lt (ih h)
    | zero =>
      rw [stringFrom] at h
      split_ifs at h
      · cases h
        simp
      · obtain ⟨⟨x, k⟩, -, h⟩ := Option.bind_eq_some_iff.mp h
        obtain ⟨⟨s', rest'⟩, h, heq⟩ := Option.map_eq_some_iff.mp h
        cases heq
        have hlt := ih h
        rw [List.length_cons]
        omega
      · obtain ⟨⟨s', rest'⟩, h, heq⟩ := Option.map_eq_some_iff.mp h
        cases heq
        have hlt := ih h
        rw [List.length_cons]
        omega

/-! ### Numbers -/

theorem fraction_suffix (t : Text) : (fraction t).2 <:+ t := by
  unfold fraction
  split
  · split_ifs
    · exact List.suffix_refl _
    · exact (List.dropWhile_suffix _).trans (List.suffix_cons _ _)
  · exact List.suffix_refl _

theorem takeSign_suffix (t : Text) : (Numeral.takeSign t).2 <:+ t := by
  unfold Numeral.takeSign
  split
  · exact List.suffix_cons _ _
  · exact List.suffix_cons _ _
  · exact List.suffix_refl _

theorem suffix_of_exponent? {t rest : Text} {e : Int} (h : exponent? t = some (e, rest)) : rest <:+ t := by
  unfold exponent? at h
  split at h
  · rename_i c u
    split_ifs at h
    have hsign := takeSign_suffix u
    rcases hs : Numeral.takeSign u with ⟨negative, v⟩
    rw [hs] at h hsign
    obtain ⟨k, -, heq⟩ := Option.map_eq_some_iff.mp h
    obtain ⟨-, rfl⟩ := Prod.mk.inj heq
    exact (List.dropWhile_suffix _).trans (hsign.trans (List.suffix_cons _ _))
  · cases h

/-- A minus sign, if there is one, and what follows it. -/
def takeMinus (t : Text) : Bool × Text :=
  match t with
  | .char '-' :: u => (true, u)
  | _ => (false, t)

/-- The digits before the point, and what follows; a zero at the head stands alone. -/
def spanWhole (u : Text) : Text × Text :=
  match u with
  | .char '0' :: v => ([CodePoint.char '0'], v)
  | _ => Numeral.spanDigits u

/-- The number with these digits before its point, and what follows. -/
def numberOf (negative : Bool) (whole rest : Text) : Except Fault (Data × Text) :=
  match Numeral.toNat? 10 whole with
  | none => .error .malformed
  | some n =>
    let (places, rest) := fraction rest
    match exponent? rest with
    | some (e, rest) =>
      let digits := (Numeral.toNat? 10 (whole ++ places)).getD n
      .ok (.real (Binary64.ofDecimal negative digits (e - places.length)), rest)
    | none =>
      if places.isEmpty then
        if whole.length ≤ Numeral.maxDigits then .ok (.int (Numeral.signed negative n), rest)
        else .error (.tooLong whole.length)
      else
        let digits := (Numeral.toNat? 10 (whole ++ places)).getD n
        .ok (.real (Binary64.ofDecimal negative digits (-(places.length : Int))), rest)

theorem number_eq (t : Text) :
    number t = numberOf (takeMinus t).1 (spanWhole (takeMinus t).2).1 (spanWhole (takeMinus t).2).2 := rfl

theorem takeMinus_suffix (t : Text) : (takeMinus t).2 <:+ t := by
  unfold takeMinus
  split
  · exact List.suffix_cons _ _
  · exact List.suffix_refl _

theorem length_spanWhole (u : Text) : (spanWhole u).1.length + (spanWhole u).2.length = u.length := by
  unfold spanWhole
  split
  · exact Nat.add_comm ..
  · rw [Numeral.spanDigits, ← List.length_append, List.takeWhile_append_dropWhile]

theorem fits_of_numberOf {negative : Bool} {whole t rest : Text} {d : Data}
    (h : numberOf negative whole t = .ok (d, rest)) : d.FitsIn n ∧ rest <:+ t ∧ whole ≠ [] := by
  unfold numberOf at h
  split at h
  · cases h
  · rename_i k hk
    have hne : whole ≠ [] := fun hnil => by
      rw [hnil] at hk
      cases hk
    have hfraction := fraction_suffix t
    rcases hf : fraction t with ⟨places, u⟩
    rw [hf] at h hfraction
    dsimp only at h
    split at h
    · rename_i e v he
      cases h
      exact ⟨.real _, (suffix_of_exponent? he).trans hfraction, hne⟩
    · split_ifs at h <;> cases h
      · exact ⟨.int _, hfraction, hne⟩
      · exact ⟨.real _, hfraction, hne⟩

theorem fits_of_number {t rest : Text} {d : Data} (h : number t = .ok (d, rest)) :
    d.FitsIn n ∧ rest.length < t.length := by
  rw [number_eq] at h
  obtain ⟨hd, hrest, hne⟩ := fits_of_numberOf (n := n) h
  have hminus := (takeMinus_suffix t).length_le
  have hwhole := length_spanWhole (takeMinus t).2
  have hpos := List.length_pos_iff.mpr hne
  have hle := hrest.length_le
  exact ⟨hd, by omega⟩

/-! ### Values -/

theorem fits_of_mem_words {w : Text × Data} (h : w ∈ words) : w.1 ≠ [] ∧ w.2.FitsIn n := by
  simp only [words, List.mem_cons, List.not_mem_nil, or_false] at h
  rcases h with rfl | rfl | rfl | rfl | rfl | rfl
  · exact ⟨by decide, .null⟩
  · exact ⟨by decide, .bool _⟩
  · exact ⟨by decide, .bool _⟩
  · exact ⟨by decide, .real _⟩
  · exact ⟨by decide, .real _⟩
  · exact ⟨by decide, .real _⟩

/-- Values that are read with this fuel from texts not longer than `n` fit in `n`, and reading goes on behind
them. -/
def ValuesFit (n fuel : Nat) : Prop :=
  ∀ room t d rest, t.length ≤ n → value fuel room t = .ok (d, rest) →
    d.FitsIn n ∧ rest.length < t.length

/-- So do items, and they are not more than the code points they were read from. -/
def ItemsFit (n fuel : Nat) : Prop :=
  ∀ room t ds rest, t.length ≤ n → items fuel room t = .ok (ds, rest) →
    (∀ d ∈ ds, d.FitsIn n) ∧ ds.length + rest.length ≤ t.length

/-- So do the members of an object, with the members before them. -/
def MembersFit (n fuel : Nat) : Prop :=
  ∀ room known t ms rest, t.length ≤ n → (∀ m ∈ known, m.2.FitsIn n) →
    members fuel room known t = .ok (ms, rest) → (∀ m ∈ ms, m.2.FitsIn n) ∧ rest.length < t.length

variable {fuel : Nat}

theorem valuesFit_succ (hitems : ItemsFit n fuel) (hmembers : MembersFit n fuel) :
    ValuesFit n (fuel + 1) := by
  intro room t d rest ht h
  unfold value at h
  split at h
  · -- a string
    rename_i u
    split at h
    · rename_i s rest' hs
      cases h
      have hlt := length_of_stringFrom hs
      rw [List.length_cons] at ht ⊢
      exact ⟨.text (by omega), by omega⟩
    · cases h
  · -- a list
    rename_i u
    have hskip := length_skipSpace_le u
    rw [List.length_cons] at ht ⊢
    split at h
    · cases h
    · split at h
      · rename_i rest' hu
        cases h
        rw [hu, List.length_cons] at hskip
        exact ⟨.list (Nat.zero_le _) (by simp), by omega⟩
      · obtain ⟨⟨ds, rest'⟩, hds, heq⟩ := exists_of_map_eq_ok h
        cases heq
        obtain ⟨hfit, hlength⟩ := hitems _ _ _ _ (by omega) hds
        exact ⟨.list (by omega) hfit, by omega⟩
  · -- an object
    rename_i u
    have hskip := length_skipSpace_le u
    rw [List.length_cons] at ht ⊢
    split at h
    · cases h
    · split at h
      · rename_i rest' hu
        cases h
        rw [hu, List.length_cons] at hskip
        exact ⟨.map (by simp), by omega⟩
      · obtain ⟨⟨ms, rest'⟩, hms, heq⟩ := exists_of_map_eq_ok h
        cases heq
        obtain ⟨hfit, hlength⟩ := hmembers _ _ _ _ _ (by omega) (by simp) hms
        exact ⟨.map hfit, by omega⟩
  · split at h
    · -- a word
      rename_i w hw
      cases h
      obtain ⟨hne, hfit⟩ := fits_of_mem_words (n := n) (List.mem_of_find?_eq_some hw)
      have hprefix := List.find?_some hw
      have hle := (List.isPrefixOf_iff_prefix.mp hprefix).length_le
      have hpos := List.length_pos_iff.mpr hne
      rw [List.length_drop]
      exact ⟨hfit, by omega⟩
    · exact fits_of_number h

theorem itemsFit_succ (hvalue : ValuesFit n fuel) (hitems : ItemsFit n fuel) : ItemsFit n (fuel + 1) := by
  intro room t ds rest ht h
  unfold items at h
  split at h
  · cases h
  · rename_i d u hd
    obtain ⟨hfit, hlength⟩ := hvalue _ _ _ _ ht hd
    have hskip := length_skipSpace_le u
    split at h
    · rename_i rest' hu
      cases h
      rw [hu, List.length_cons] at hskip
      exact ⟨by simpa using hfit, by simp only [List.length_singleton]; omega⟩
    · rename_i v hv
      rw [hv, List.length_cons] at hskip
      have hnext := length_skipSpace_le v
      obtain ⟨⟨ds', rest'⟩, hds, heq⟩ := exists_of_map_eq_ok h
      cases heq
      obtain ⟨hfits, hlengths⟩ := hitems _ _ _ _ (by omega) hds
      exact ⟨List.forall_mem_cons.mpr ⟨hfit, hfits⟩, by rw [List.length_cons]; omega⟩
    · cases h

theorem membersFit_succ (hvalue : ValuesFit n fuel) (hmembers : MembersFit n fuel) :
    MembersFit n (fuel + 1) := by
  intro room known t ms rest ht hknown h
  unfold members at h
  split at h
  · rename_i u
    rw [List.length_cons] at ht ⊢
    split at h
    · cases h
    · rename_i key u' hkey
      have hstring := length_of_stringFrom hkey
      have hskip := length_skipSpace_le u'
      split at h
      · rename_i v hv
        rw [hv, List.length_cons] at hskip
        have hcolon := length_skipSpace_le v
        split at h
        · cases h
        · rename_i d w hd
          obtain ⟨hfit, hlength⟩ := hvalue _ _ _ _ (by omega) hd
          have hset : ∀ m ∈ Table.set known key d, m.2.FitsIn n := fun m hm => by
            rcases Table.mem_of_mem_set hm with rfl | hm
            · exact hfit
            · exact hknown m hm
          have hafter := length_skipSpace_le w
          split at h
          · rename_i rest' hw
            cases h
            rw [hw, List.length_cons] at hafter
            exact ⟨hset, by omega⟩
          · rename_i w' hw
            rw [hw, List.length_cons] at hafter
            have hnext := length_skipSpace_le w'
            obtain ⟨hfits, hlengths⟩ := hmembers _ _ _ _ _ (by omega) hset h
            exact ⟨hfits, by omega⟩
          · cases h
      · cases h
  · cases h

theorem allFit (n fuel : Nat) : ValuesFit n fuel ∧ ItemsFit n fuel ∧ MembersFit n fuel := by
  induction fuel with
  | zero =>
    refine ⟨fun _ _ _ _ _ h => ?_, fun _ _ _ _ _ h => ?_, fun _ _ _ _ _ _ _ h => ?_⟩ <;> cases h
  | succ fuel ih =>
    obtain ⟨hvalue, hitems, hmembers⟩ := ih
    exact ⟨valuesFit_succ hitems hmembers, itemsFit_succ hvalue hitems, membersFit_succ hvalue hmembers⟩

/-- **What is read is no longer than the text.** -/
theorem fits_of_read {t : Text} {d : Data} (h : read t = .ok d) : d.FitsIn t.length := by
  unfold read at h
  split at h
  · cases h
  · rename_i d' rest hd
    obtain ⟨hfit, -⟩ := (allFit t.length _).1 _ _ _ _ (length_skipSpace_le t) hd
    split_ifs at h
    cases h
    exact hfit

end Json

/-! ### Bytes -/

theorem Utf8.length_of_decodeFrom {lenient : Bool} {position skip : Nat} {bs : List UInt8} {t : Text}
    (h : decodeFrom lenient position skip bs = .ok t) : t.length ≤ bs.length := by
  induction bs generalizing position skip t with
  | nil =>
    rw [decodeFrom] at h
    cases h
    exact Nat.le_refl _
  | cons b bs ih =>
    cases skip with
    | succ skip => exact Nat.le_trans (ih h) (Nat.le_succ _)
    | zero =>
      rw [decodeFrom] at h
      split at h
      · obtain ⟨u, hu, rfl⟩ := exists_of_map_eq_ok h
        exact Nat.succ_le_succ (ih hu)
      · cases h

theorem Utf16.length_of_units? {o : ByteOrder} {bs : List UInt8} {us : List Nat}
    (h : units? o bs = some us) : us.length ≤ bs.length := by
  fun_induction units? o bs generalizing us with
  | case1 =>
    cases h
    exact Nat.le_refl _
  | case2 => cases h
  | case3 a b bs ih =>
    obtain ⟨us', hus, rfl⟩ := Option.map_eq_some_iff.mp h
    have hle := ih hus
    simp only [List.length_cons]
    omega

theorem Utf16.length_points_le (us : List Nat) : (points us).length ≤ us.length := by
  fun_induction points us with
  | case1 | case2 => exact Nat.le_refl _
  | case3 | case4 =>
    simp only [List.length_cons] at *
    omega

theorem Utf32.length_of_points? {o : ByteOrder} {bs : List UInt8} {ns : List Nat}
    (h : points? o bs = some ns) : ns.length ≤ bs.length := by
  fun_induction points? o bs generalizing ns with
  | case1 =>
    cases h
    exact Nat.le_refl _
  | case2 a b c d bs unit =>
    rename_i ih
    obtain ⟨ns', hns, rfl⟩ := Option.map_eq_some_iff.mp h
    have hle := ih hns
    simp only [List.length_cons]
    omega
  | case3 => cases h

namespace Json

theorem Encoding.length_of_decode? {e : Encoding} {bs : List UInt8} {t : Text} (h : e.decode? bs = some t) :
    t.length ≤ bs.length := by
  cases e with
  | utf8 =>
    change (Utf8.decodeFrom true 0 0 bs).toOption = some t at h
    cases hd : Utf8.decodeFrom true 0 0 bs with
    | error f =>
      rw [hd] at h
      cases h
    | ok u =>
      rw [hd] at h
      cases h
      exact Utf8.length_of_decodeFrom hd
  | utf16 o =>
    obtain ⟨us, hus, h⟩ := Option.bind_eq_some_iff.mp h
    rw [← (forall₂_of_mapM_eq_some h).length_eq]
    exact Nat.le_trans (Utf16.length_points_le us) (Utf16.length_of_units? hus)
  | utf32 o =>
    obtain ⟨ns, hns, h⟩ := Option.bind_eq_some_iff.mp h
    rw [← (forall₂_of_mapM_eq_some h).length_eq]
    exact Utf32.length_of_points? hns

theorem Encoding.length_detect_le (bs : List UInt8) : (detect bs).2.length ≤ bs.length := by
  unfold detect marked?
  split <;> simp only [Option.getD_some, Option.getD_none, List.length_cons] <;> omega

/-- **No text and no list of a value is longer than the bytes it was read from.** -/
theorem fits_of_readBytes {bs : List UInt8} {d : Data} (h : readBytes bs = .ok d) : d.FitsIn bs.length := by
  unfold readBytes at h
  dsimp only at h
  split at h
  · rename_i t ht
    exact (fits_of_read h).mono
      (Nat.le_trans (Encoding.length_of_decode? ht) (Encoding.length_detect_le bs))
  · cases h

end Json

end PromptTemplate
