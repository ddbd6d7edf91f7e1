import Mathlib.Data.List.DropRight
import PromptTemplate.Proofs.Text.Cut

/-!
# Texts joined and taken apart

Texts joined with a code point are its parts again when none of them holds it, and what a text is split into
joins to the text. A separator that begins with a code point of none of the texts can be replaced by another one
(`replace_joinWith`). To trim a joined text at its separator is to leave out the empty texts at either end
(`trimBy_joinWith`).
-/

namespace PromptTemplate

namespace Text

variable {x : CodePoint} {t u part : Text} {ts us : List Text}

theorem joinWith_eq_intercalate (sep : Text) : ∀ ts, joinWith sep ts = List.intercalate sep ts
  | [] => rfl
  | [t] => (List.intercalate_singleton).symm
  | t :: u :: ts => by rw [joinWith, joinWith_eq_intercalate sep (u :: ts), List.intercalate_cons_cons]

theorem splitOn_eq (x : CodePoint) (t : Text) : splitOn x t = List.splitOn x t := by
  induction t with
  | nil => rfl
  | cons c t ih =>
    obtain ⟨part, parts, hparts⟩ := List.exists_cons_of_ne_nil (splitOn_ne_nil x t)
    rw [splitOn, List.splitOn_cons_eq_if_modifyHead, ← ih, hparts]
    simp only [beq_iff_eq, List.modifyHead_cons]

theorem joinWith_splitOn (x : CodePoint) (t : Text) : joinWith [x] (splitOn x t) = t := by
  rw [joinWith_eq_intercalate, splitOn_eq, List.intercalate_splitOn]

theorem splitOn_of_notMem (h : x ∉ t) : splitOn x t = [t] := by
  rw [splitOn_eq, List.splitOn_eq_singleton h]

/-- No part holds a code point the text is split at. -/
theorem not_of_mem_splitOnP {p : CodePoint → Bool} (h : part ∈ List.splitOnP p t) : ∀ c ∈ part, p c = false := by
  induction t generalizing part with
  | nil =>
    obtain rfl : part = [] := by simpa using h
    exact fun c hc => absurd hc List.not_mem_nil
  | cons c t ih =>
    obtain ⟨first, rest, hparts⟩ := List.exists_cons_of_ne_nil (List.splitOnP_ne_nil p t)
    rw [hparts] at ih
    rw [List.splitOnP_cons_eq_if_modifyHead, hparts] at h
    split at h
    · rcases List.mem_cons.mp h with rfl | h
      · exact fun c hc => absurd hc List.not_mem_nil
      · exact ih h
    · rename_i hc
      rcases List.mem_cons.mp h with rfl | h
      · exact List.forall_mem_cons.mpr ⟨Bool.eq_false_iff.mpr hc, ih (List.mem_cons_self ..)⟩
      · exact ih (List.mem_cons_of_mem _ h)

theorem notMem_of_mem_splitOn (h : part ∈ splitOn x t) : x ∉ part := by
  rw [splitOn_eq, List.splitOn_eq_splitOnP] at h
  exact fun hx => by simpa using not_of_mem_splitOnP h x hx

/-- Each code point that the text is split at, at its beginning, has nothing before it. -/
theorem splitOnP_append_of_forall {p : CodePoint → Bool} (hu : ∀ c ∈ u, p c = true) (t : Text) :
    List.splitOnP p (u ++ t) = List.replicate u.length [] ++ List.splitOnP p t := by
  induction u with
  | nil => rfl
  | cons c u ih =>
    rw [List.forall_mem_cons] at hu
    rw [List.cons_append, List.splitOnP_cons_eq_if_modifyHead, if_pos hu.1, ih hu.2]
    rfl

theorem splitOn_joinWith_of_notMem (hts : ts ≠ []) (h : ∀ t ∈ ts, x ∉ t) :
    splitOn x (joinWith [x] ts) = ts := by
  rw [joinWith_eq_intercalate, splitOn_eq, List.splitOn_intercalate x h hts]

/-- **What is joined with a code point is split where the parts are split.** -/
theorem splitOn_joinWith (hts : ts ≠ []) : splitOn x (joinWith [x] ts) = (ts.map (splitOn x)).flatten := by
  induction ts with
  | nil => exact absurd rfl hts
  | cons t ts ih =>
    cases ts with
    | nil => simp [joinWith]
    | cons u ts =>
      rw [joinWith, List.append_assoc, List.singleton_append, splitOn_eq, List.splitOn_append_cons_self,
        ← splitOn_eq, ← splitOn_eq, ih (List.cons_ne_nil u ts)]
      rfl

/-- The first text, and each further one behind its separator. -/
theorem joinWith_cons_eq_flatMap (sep t : Text) (ts : List Text) :
    joinWith sep (t :: ts) = t ++ ts.flatMap (sep ++ ·) := by
  induction ts generalizing t with
  | nil => simp [joinWith]
  | cons u ts ih => rw [joinWith, ih, List.flatMap_cons, List.append_assoc, List.append_assoc]

theorem joinWith_append (sep : Text) (hts : ts ≠ []) (hus : us ≠ []) :
    joinWith sep (ts ++ us) = joinWith sep ts ++ (sep ++ joinWith sep us) := by
  obtain ⟨t, ts, rfl⟩ := List.exists_cons_of_ne_nil hts
  obtain ⟨u, us, rfl⟩ := List.exists_cons_of_ne_nil hus
  rw [List.cons_append, joinWith_cons_eq_flatMap, joinWith_cons_eq_flatMap, joinWith_cons_eq_flatMap,
    List.flatMap_append, List.flatMap_cons, List.append_assoc, List.append_assoc]

/-- Text in front that is not split stands in front of the first part. -/
theorem splitOn_append_of_notMem {first : Text} {rest : List Text} (hu : x ∉ u)
    (ht : splitOn x t = first :: rest) : splitOn x (u ++ t) = (u ++ first) :: rest := by
  have hparts : ∀ part ∈ first :: rest, x ∉ part := fun part hpart => notMem_of_mem_splitOn (ht ▸ hpart)
  rw [List.forall_mem_cons] at hparts
  have hjoin : u ++ t = joinWith [x] ((u ++ first) :: rest) := by
    rw [← joinWith_splitOn x t, ht, joinWith_cons_eq_flatMap, joinWith_cons_eq_flatMap, List.append_assoc]
  rw [hjoin]
  refine splitOn_joinWith_of_notMem (List.cons_ne_nil _ _) (List.forall_mem_cons.mpr ⟨?_, hparts.2⟩)
  exact List.not_mem_append hu hparts.1

/-- **Another separator** takes the place of one whose first code point is in none of the texts. -/
theorem replace_joinWith {p : Text} (r : Text) (hp : p.head? = some x) (h : ∀ t ∈ ts, x ∉ t) :
    replace (joinWith p ts) p r = joinWith r ts := by
  cases ts with
  | nil => rfl
  | cons t ts =>
    have hne : p ≠ [] := fun hnil => by simp [hnil] at hp
    rw [List.forall_mem_cons] at h
    rw [joinWith_cons_eq_flatMap, joinWith_cons_eq_flatMap, replace_append_of_notMem hp h.1]
    congr 1
    obtain ⟨-, h⟩ := h
    induction ts with
    | nil => rfl
    | cons u ts ih =>
      rw [List.forall_mem_cons] at h
      rw [List.flatMap_cons, List.flatMap_cons, List.append_assoc, replace_append_self hne,
        replace_append_of_notMem hp h.1, ih h.2, List.append_assoc]

/-! ### Trimming -/

theorem dropWhile_eq_filter {α : Type} {p : α → Bool} {l : List α} (h : ∀ a ∈ l.tail, p a = false) :
    l.dropWhile p = l.filter (!p ·) := by
  cases l with
  | nil => rfl
  | cons a l =>
    have hl : l.filter (!p ·) = l := List.filter_eq_self.mpr fun x hx => by simp [h x hx]
    have hdrop : l.dropWhile p = l := by
      cases l with
      | nil => rfl
      | cons b l => rw [List.dropWhile_cons_of_neg (by simp [h b (List.mem_cons_self ..)])]
    cases ha : p a <;> simp [ha, hl, hdrop]

/-- Where only the first and the last member can be dropped, dropping from both ends filters. -/
theorem rdropWhile_dropWhile_eq_filter {α : Type} {p : α → Bool} {l : List α}
    (h : ∀ a ∈ l.tail.dropLast, p a = false) : (l.dropWhile p).rdropWhile p = l.filter (!p ·) := by
  rcases l.eq_nil_or_concat with rfl | ⟨l, b, rfl⟩
  · rfl
  · rw [List.concat_eq_append] at h ⊢
    have hleft : l.dropWhile p = l.filter (!p ·) := dropWhile_eq_filter fun a ha => h a (by
      cases l with
      | nil => cases ha
      | cons x l => simpa using ha)
    have hright : (l.filter (!p ·)).rdropWhile p = l.filter (!p ·) := by
      refine List.rdropWhile_eq_self_iff.mpr fun hl => ?_
      simpa using (List.mem_filter.mp (List.getLast_mem hl)).2
    rw [List.dropWhile_append, hleft, List.filter_append]
    split
    · rename_i hnil
      rw [List.isEmpty_iff.mp hnil]
      cases hb : p b <;> simp [hb, List.rdropWhile]
    · rw [List.rdropWhile_concat, hright]
      cases hb : p b <;> simp [hb]

theorem reverse_joinWith (x : CodePoint) (ts : List Text) :
    (joinWith [x] ts).reverse = joinWith [x] (ts.map List.reverse).reverse := by
  induction ts with
  | nil => rfl
  | cons t ts ih =>
    cases ts with
    | nil => rfl
    | cons u ts =>
      have hne : ((u :: ts).map List.reverse).reverse ≠ [] := by simp
      calc (joinWith [x] (t :: u :: ts)).reverse
          = (joinWith [x] (u :: ts)).reverse ++ ([x] ++ t.reverse) := by simp [joinWith]
        _ = joinWith [x] (((u :: ts).map List.reverse).reverse ++ [t.reverse]) := by
            rw [ih, joinWith_append [x] hne (List.cons_ne_nil _ _)]
            rfl
        _ = _ := by rw [← List.reverse_cons, ← List.map_cons]

theorem dropWhile_joinWith (h : ∀ t ∈ ts, x ∉ t) :
    (joinWith [x] ts).dropWhile (· = x) = joinWith [x] (ts.dropWhile List.isEmpty) := by
  induction ts with
  | nil => rfl
  | cons t ts ih =>
    rw [List.forall_mem_cons] at h
    cases t with
    | nil =>
      cases ts with
      | nil => rfl
      | cons u ts => simpa [joinWith] using ih h.2
    | cons c t =>
      have hc : c ≠ x := fun hc => h.1 (hc ▸ List.mem_cons_self ..)
      rw [joinWith_cons_eq_flatMap]
      simp [hc, joinWith_cons_eq_flatMap]

/-- **Trimming a joined text** at the separator takes the empty texts off either end. -/
theorem trimBy_joinWith (h : ∀ t ∈ ts, x ∉ t) :
    (joinWith [x] ts).trimBy (· = x) =
      joinWith [x] ((ts.dropWhile List.isEmpty).rdropWhile List.isEmpty) := by
  have hleft : ∀ t ∈ ts.dropWhile List.isEmpty, x ∉ t := fun t ht => h t ((List.dropWhile_sublist _).mem ht)
  have hright : ∀ t ∈ ((ts.dropWhile List.isEmpty).map List.reverse).reverse, x ∉ t := by
    intro t ht
    obtain ⟨u, hu, rfl⟩ := List.mem_map.mp (List.mem_reverse.mp ht)
    exact mt List.mem_reverse.mp (hleft u hu)
  have hempty : (List.isEmpty ∘ List.reverse : Text → Bool) = List.isEmpty :=
    funext fun t => Bool.eq_iff_iff.mpr (by simp)
  rw [trimBy, dropWhile_joinWith h, reverse_joinWith, dropWhile_joinWith hright, reverse_joinWith]
  simp only [← List.map_reverse, List.dropWhile_map, hempty, List.map_map, List.reverse_involutive.comp_self,
    List.map_id, List.rdropWhile]

/-! ### Lower case -/

@[simp] theorem toLowerAscii_append (t u : Text) : (t ++ u).toLowerAscii = t.toLowerAscii ++ u.toLowerAscii :=
  List.map_append

theorem toLowerAscii_joinWith (sep : Text) (ts : List Text) :
    (joinWith sep ts).toLowerAscii = joinWith sep.toLowerAscii (ts.map toLowerAscii) := by
  induction ts with
  | nil => rfl
  | cons t ts ih =>
    cases ts with
    | nil => rfl
    | cons u ts =>
      rw [joinWith, toLowerAscii_append, toLowerAscii_append, ih]
      rfl

end Text

/-- With one text for every match, a cut is its literal texts joined. -/
theorem Cut.render_const {α : Type} (sep : Text) (c : Cut α) :
    c.render (fun _ => sep) = Text.joinWith sep c.literals := by
  rw [Cut.literals, Text.joinWith_cons_eq_flatMap, List.flatMap_map, Cut.render]

end PromptTemplate
