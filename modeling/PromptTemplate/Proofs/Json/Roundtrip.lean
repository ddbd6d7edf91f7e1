import PromptTemplate.Json.Printer
import PromptTemplate.Json.Reader
import PromptTemplate.Proofs.Table
import PromptTemplate.Proofs.Text.Utf8

/-!
# Reading back what was written

A value without numbers comes back from the text that was written for it, whatever the blanks between
its parts, as long as nothing outside ASCII is escaped (`read_write`). A string comes back one code point
after the other, so its text may hold anything, lone surrogates included (`stringFrom_quoted`). Lists and
objects come back part by part; the members of an object keep their order since no key repeats.
-/

namespace PromptTemplate

open Text

namespace Json

/-! ### Strings -/

/-- The escape of a control character is six code points, and the last four of them write its number. -/
theorem exists_unicodeEscape {n : Nat} (h : n < 0x20) :
    ∃ a b c d, unicodeEscape n = [.char '\\', .char 'u', a, b, c, d] ∧
      Numeral.toNat? 16 [a, b, c, d] = some n := by
  have hall : ∀ n < 0x20, (unicodeEscape n).take 2 = [.char '\\', .char 'u'] ∧
      ((unicodeEscape n).drop 2).length = 4 ∧
      Numeral.toNat? 16 ((unicodeEscape n).drop 2) = some n := by decide +kernel
  obtain ⟨hhead, hlen, hvalue⟩ := hall n h
  match hdrop : (unicodeEscape n).drop 2, hlen with
  | [a, b, c, d], _ =>
    refine ⟨a, b, c, d, ?_, hdrop ▸ hvalue⟩
    rw [← List.take_append_drop 2 (unicodeEscape n), hhead, hdrop]
    rfl

theorem stringFrom_unicodeEscape {c : CodePoint} (h : c.toNat < 0x20) (t : Text) :
    stringFrom 0 (unicodeEscape c.toNat ++ t) =
      (stringFrom 0 t).map fun (s, rest) => (c :: s, rest) := by
  obtain ⟨x, y, z, w, hesc, hvalue⟩ := exists_unicodeEscape h
  have hescape : escape? (.char 'u' :: x :: y :: z :: w :: t) = some (c, 5) := by
    have hlow : ¬ (0xD800 ≤ c.toNat ∧ c.toNat < 0xDC00) := by omega
    simp only [escape?, hex4?, hvalue, Option.bind_some, if_neg hlow, CodePoint.ofNat?_toNat,
      Option.map_some]
  rw [hesc]
  simp only [List.cons_append, List.nil_append]
  rw [stringFrom, if_neg (by decide), if_pos rfl, hescape]
  rfl

/-- A code point comes back from its quoted form. -/
theorem stringFrom_quotePoint (c : CodePoint) (t : Text) :
    stringFrom 0 (quotePoint false c ++ t) = (stringFrom 0 t).map fun (s, rest) => (c :: s, rest) := by
  simp only [quotePoint, Bool.false_and, Bool.false_eq_true, if_false]
  split_ifs with h1 h2 h3 h4 h5 h6 h7 h8
  iterate 7
    · subst_vars
      rfl
  · exact stringFrom_unicodeEscape h8 t
  · rw [List.singleton_append, stringFrom, if_neg h1, if_neg h2, if_neg h8]

/-- **A string comes back**, whatever it holds. -/
theorem stringFrom_quoted (t rest : Text) :
    stringFrom 0 (t.flatMap (quotePoint false) ++ .char '"' :: rest) = some (t, rest) := by
  induction t with
  | nil => rfl
  | cons c t ih => rw [List.flatMap_cons, List.append_assoc, stringFrom_quotePoint, ih, Option.map_some]

/-! ### Blanks -/

/-- Whether a text is blank between two parts of JSON. -/
def IsSpaces (w : Text) : Prop := ∀ c ∈ w, isSpace c = true

theorem skipSpace_append {w : Text} (hw : IsSpaces w) (t : Text) : skipSpace (w ++ t) = skipSpace t :=
  List.dropWhile_append_of_pos hw

theorem skipSpace_cons {c : CodePoint} (hc : isSpace c = false) (t : Text) :
    skipSpace (c :: t) = c :: t := by
  rw [skipSpace, List.dropWhile_cons_of_neg (by simp [hc])]

theorem isSpaces_newLine (style : Style) (level : Nat) : IsSpaces (newLine style level) := by
  intro c hc
  unfold newLine at hc
  split at hc
  · rcases List.mem_cons.mp hc with rfl | hc
    · rfl
    · rw [List.eq_of_mem_replicate hc]
      rfl
  · simp at hc

/-- A style that escapes no more than it must, and in which only blanks stand beside commas and colons. -/
structure Style.IsRegular (style : Style) : Prop where
  asciiOnly : style.asciiOnly = false
  itemSeparator : ∃ w, IsSpaces w ∧ style.itemSeparator = .char ',' :: w
  keySeparator : ∃ w, IsSpaces w ∧ style.keySeparator = .char ':' :: w

theorem Style.isRegular_indented : Style.indented.IsRegular :=
  ⟨rfl, ⟨[], by simp [IsSpaces], rfl⟩, ⟨[.char ' '], by simp [IsSpaces, isSpace], rfl⟩⟩

theorem Style.isRegular_compact : Style.compact.IsRegular :=
  ⟨rfl, ⟨[], by simp [IsSpaces], rfl⟩, ⟨[], by simp [IsSpaces], rfl⟩⟩

/-! ### Values -/

/-- A value that JSON keeps as it is: no numbers, no bytes, no key twice, and at most `room` lists and
objects inside one another. -/
inductive IsKept : Nat → Data → Prop
  | null {room : Nat} : IsKept room .null
  | bool {room : Nat} (b : Bool) : IsKept room (.bool b)
  | text {room : Nat} (t : Text) : IsKept room (.text t)
  | list {room : Nat} {items : List Data} (h : ∀ d ∈ items, IsKept room d) :
    IsKept (room + 1) (.list items)
  | map {room : Nat} {members : List (Text × Data)} (h : ∀ m ∈ members, IsKept room m.2)
    (hkeys : (Table.keys members).Nodup) : IsKept (room + 1) (.map members)

variable {style : Style} {room : Nat} {d : Data}

/-- What a value begins with: nothing that is skipped, and nothing that closes a list or an object. -/
theorem exists_writeAt (style : Style) (h : IsKept room d) (level : Nat) :
    ∃ c u, writeAt style level d = .char c :: u ∧ c ∈ ['n', 't', 'f', '"', '[', '{'] := by
  cases h with
  | null => exact ⟨'n', _, rfl, by simp⟩
  | bool b =>
    cases b
    · exact ⟨'f', _, rfl, by simp⟩
    · exact ⟨'t', _, rfl, by simp⟩
  | text t => exact ⟨'"', _, rfl, by simp⟩
  | list | map =>
    rw [writeAt, bracket]
    split <;> exact ⟨_, _, rfl, by simp⟩

theorem isSpace_of_mem_heads {c : Char} (h : c ∈ ['n', 't', 'f', '"', '[', '{']) :
    isSpace (.char c) = false := by
  simp only [List.mem_cons, List.not_mem_nil, or_false] at h
  rcases h with rfl | rfl | rfl | rfl | rfl | rfl <;> rfl

theorem skipSpace_writeAt (h : IsKept room d) (level : Nat) (t : Text) :
    skipSpace (writeAt style level d ++ t) = writeAt style level d ++ t := by
  obtain ⟨c, u, hd, hc⟩ := exists_writeAt style h level
  rw [hd, List.cons_append, skipSpace_cons (isSpace_of_mem_heads hc)]

theorem length_writeAt_pos (style : Style) (h : IsKept room d) (level : Nat) :
    0 < (writeAt style level d).length := by
  obtain ⟨c, u, hd, -⟩ := exists_writeAt style h level
  rw [hd]
  exact Nat.zero_lt_succ _

theorem exists_fuel (h : IsKept room d) {fuel level : Nat}
    (hfuel : (writeAt style level d).length ≤ fuel) : ∃ n, fuel = n + 1 :=
  ⟨fuel - 1, by
    have := length_writeAt_pos style h level
    omega⟩

/-- A value is read back at every level of nesting, given as much fuel as its text is long. -/
def ReadsBack (style : Style) (room : Nat) (d : Data) : Prop :=
  ∀ fuel level rest, (writeAt style level d).length ≤ fuel →
    value fuel room (writeAt style level d ++ rest) = .ok (d, rest)

/-! ### Parts -/

theorem joinWith_cons (sep : Text) (t : Text) {ts : List Text} (h : ts ≠ []) :
    joinWith sep (t :: ts) = t ++ (sep ++ joinWith sep ts) := by
  obtain ⟨u, ts, rfl⟩ := List.exists_cons_of_ne_nil h
  rw [joinWith, List.append_assoc]

theorem joinWith_cons_cons (sep : Text) (c : CodePoint) (t : Text) (ts : List Text) :
    joinWith sep ((c :: t) :: ts) = c :: joinWith sep (t :: ts) := by
  cases ts <;> rfl

/-- The blanks before the first part are skipped, and no more. -/
theorem skipSpace_parts {w : Text} (hw : IsSpaces w) {c : CodePoint} (hc : isSpace c = false)
    (sep t : Text) (ts : List Text) (rest : Text) :
    skipSpace (w ++ (joinWith sep ((c :: t) :: ts) ++ rest)) = joinWith sep ((c :: t) :: ts) ++ rest := by
  rw [skipSpace_append hw, joinWith_cons_cons, List.cons_append, skipSpace_cons hc]

/-- The parts between their brackets. -/
theorem exists_bracket (hstyle : style.IsRegular) (level : Nat) (opening closing : Char)
    {parts : List Text} (hne : parts ≠ []) :
    ∃ v, IsSpaces v ∧ ∀ rest, bracket style level opening closing parts ++ rest =
      .char opening :: (newLine style (level + 1) ++ (joinWith (.char ',' :: v) parts ++
        (newLine style level ++ .char closing :: rest))) := by
  obtain ⟨v, hv, hcomma⟩ := hstyle.itemSeparator
  refine ⟨v ++ newLine style (level + 1), fun c hc => ?_, fun rest => ?_⟩
  · exact (List.mem_append.mp hc).elim (hv c) (isSpaces_newLine style (level + 1) c)
  · rw [bracket, if_neg (by simpa using hne), hcomma]
    simp only [List.append_assoc, List.cons_append, List.nil_append]

/-! ### Lists -/

theorem exists_writeItems (style : Style) (h : IsKept room d) (level : Nat) (ds : List Data) :
    ∃ c u, writeItems style level (d :: ds) = (.char c :: u) :: writeItems style level ds ∧
      c ∈ ['n', 't', 'f', '"', '[', '{'] := by
  obtain ⟨c, u, hd, hc⟩ := exists_writeAt style h level
  exact ⟨c, u, by rw [writeItems, hd], hc⟩

/-- **The items of a list come back**, up to its closing bracket. -/
theorem items_writeItems {v w : Text} (hv : IsSpaces v) (hw : IsSpaces w) (level : Nat)
    {ds : List Data} (hne : ds ≠ []) (hall : ∀ d ∈ ds, IsKept room d ∧ ReadsBack style room d)
    (rest : Text) {fuel : Nat}
    (hfuel : (joinWith (.char ',' :: v) (writeItems style level ds)).length < fuel) :
    items fuel room (joinWith (.char ',' :: v) (writeItems style level ds) ++ (w ++ .char ']' :: rest)) =
      .ok (ds, rest) := by
  induction ds generalizing fuel with
  | nil => exact absurd rfl hne
  | cons d ds ih =>
    obtain ⟨fuel, rfl⟩ : ∃ n, fuel = n + 1 := ⟨fuel - 1, by omega⟩
    obtain ⟨⟨-, hd⟩, hds⟩ := List.forall_mem_cons.mp hall
    cases ds with
    | nil =>
      simp only [writeItems, joinWith] at hfuel ⊢
      rw [items, hd _ _ _ (by omega)]
      simp only [skipSpace_append hw, skipSpace_cons (show isSpace (.char ']') = false from rfl)]
    | cons d' ds =>
      obtain ⟨c, u, hparts, hc⟩ :=
        exists_writeItems style (hds d' (List.mem_cons_self ..)).1 level ds
      rw [writeItems, joinWith_cons _ _ (by simp [hparts])] at hfuel ⊢
      simp only [List.length_append, List.length_cons] at hfuel
      rw [items, List.append_assoc, hd _ _ _ (by omega)]
      simp only [List.append_assoc, List.cons_append,
        skipSpace_cons (show isSpace (.char ',') = false from rfl)]
      rw [hparts, skipSpace_parts hv (isSpace_of_mem_heads hc), ← hparts, ih (by simp) hds (by omega)]
      rfl

theorem value_list {fuel : Nat} {c : Char} {t u : Text} (hu : skipSpace u = .char c :: t) (hc : c ≠ ']') :
    value (fuel + 1) (room + 1) (.char '[' :: u) =
      (items fuel room (skipSpace u)).map fun (ds, rest) => (.list ds, rest) := by
  rw [value]
  simp only [hu]
  split
  · simp_all
  · rfl

theorem readsBack_list (hstyle : style.IsRegular) {ds : List Data}
    (hall : ∀ d ∈ ds, IsKept room d ∧ ReadsBack style room d) :
    ReadsBack style (room + 1) (.list ds) := by
  intro fuel level rest hfuel
  obtain ⟨n, rfl⟩ := exists_fuel (.list fun d hd => (hall d hd).1) hfuel
  cases ds with
  | nil => rfl
  | cons d ds =>
    obtain ⟨c, u, hparts, hc⟩ :=
      exists_writeItems style (hall d (List.mem_cons_self ..)).1 (level + 1) ds
    obtain ⟨v, hv, htext⟩ := exists_bracket hstyle level '[' ']'
      (show writeItems style (level + 1) (d :: ds) ≠ [] by simp [hparts])
    have hskip := skipSpace_parts (isSpaces_newLine style (level + 1)) (isSpace_of_mem_heads hc)
      (.char ',' :: v) u (writeItems style (level + 1) ds)
    have hclose : c ≠ ']' := by
      rintro rfl
      simp at hc
    have hlen := congrArg List.length (htext [])
    simp only [List.append_nil, List.length_append, List.length_cons] at hlen
    rw [writeAt] at hfuel ⊢
    rw [htext, hparts, value_list (by rw [hskip, joinWith_cons_cons, List.cons_append]) hclose, hskip,
      ← hparts, items_writeItems hv (isSpaces_newLine style level) _ (by simp) hall rest (by omega)]
    rfl

/-! ### Objects -/

theorem quote_eq_cons (asciiOnly : Bool) (t : Text) :
    quote asciiOnly t = .char '"' :: (t.flatMap (quotePoint asciiOnly) ++ [.char '"']) := rfl

theorem exists_writeMembers (style : Style) (level : Nat) (m : Text × Data) (ms : List (Text × Data)) :
    ∃ u, writeMembers style level (m :: ms) = (.char '"' :: u) :: writeMembers style level ms :=
  ⟨_, rfl⟩

/-- One member is read, and then the object ends or goes on. -/
theorem members_writeMember (hstyle : style.IsRegular) {level : Nat} {key : Text}
    (hkept : IsKept room d) (hd : ReadsBack style room d) {known : List (Text × Data)}
    (hkey : key ∉ Table.keys known) {fuel : Nat} (hfuel : (writeAt style level d).length ≤ fuel)
    (t : Text) :
    let text := quote style.asciiOnly key ++ style.keySeparator ++ writeAt style level d ++ t
    (∀ rest, skipSpace t = .char '}' :: rest →
        members (fuel + 1) room known text = .ok (known ++ [(key, d)], rest)) ∧
      ∀ w, skipSpace t = .char ',' :: w →
        members (fuel + 1) room known text =
          members fuel room (known ++ [(key, d)]) (skipSpace w) := by
  obtain ⟨x, hx, hcolon⟩ := hstyle.keySeparator
  intro text
  have htext : text = .char '"' ::
      (key.flatMap (quotePoint false) ++ .char '"' :: .char ':' :: (x ++ (writeAt style level d ++ t))) := by
    simp only [text, hstyle.asciiOnly, quote_eq_cons, hcolon, List.append_assoc, List.cons_append,
      List.nil_append]
  refine ⟨fun rest ht => ?_, fun w ht => ?_⟩ <;> rw [htext, members] <;>
    simp only [stringFrom_quoted, skipSpace_cons (show isSpace (.char ':') = false from rfl),
      skipSpace_append hx, skipSpace_writeAt hkept, hd _ _ _ hfuel, ht, Table.set,
      Table.alter_of_notMem hkey]

/-- **The members of an object come back** in their order, behind those already read. -/
theorem members_writeMembers (hstyle : style.IsRegular) {v w : Text} (hv : IsSpaces v)
    (hw : IsSpaces w) (level : Nat) {ms : List (Text × Data)} (hne : ms ≠ [])
    (hall : ∀ m ∈ ms, IsKept room m.2 ∧ ReadsBack style room m.2) (rest : Text)
    {known : List (Text × Data)} (hkeys : (Table.keys (known ++ ms)).Nodup) {fuel : Nat}
    (hfuel : (joinWith (.char ',' :: v) (writeMembers style level ms)).length < fuel) :
    members fuel room known
        (joinWith (.char ',' :: v) (writeMembers style level ms) ++ (w ++ .char '}' :: rest)) =
      .ok (known ++ ms, rest) := by
  induction ms generalizing fuel known with
  | nil => exact absurd rfl hne
  | cons m ms ih =>
    obtain ⟨key, d⟩ := m
    obtain ⟨fuel, rfl⟩ : ∃ n, fuel = n + 1 := ⟨fuel - 1, by omega⟩
    obtain ⟨hm, hms⟩ := List.forall_mem_cons.mp hall
    obtain ⟨hkept, hd⟩ : IsKept room d ∧ ReadsBack style room d := hm
    have hkey : key ∉ Table.keys known := by
      rw [Table.keys, List.map_append, List.map_cons, List.nodup_middle, List.nodup_cons,
        List.mem_append, not_or] at hkeys
      exact hkeys.1.1
    cases ms with
    | nil =>
      simp only [writeMembers, joinWith] at hfuel ⊢
      simp only [List.length_append] at hfuel
      refine (members_writeMember hstyle hkept hd hkey (by omega) _).1 rest ?_
      rw [skipSpace_append hw, skipSpace_cons rfl]
    | cons m' ms =>
      obtain ⟨u, hparts⟩ := exists_writeMembers style level m' ms
      rw [writeMembers, joinWith_cons _ _ (by simp [hparts])] at hfuel ⊢
      simp only [List.length_append, List.length_cons] at hfuel
      have hread := (members_writeMember hstyle hkept hd hkey
        (show (writeAt style level d).length ≤ fuel by omega) _).2 _ (skipSpace_cons rfl
          (v ++ (joinWith (.char ',' :: v) (writeMembers style level (m' :: ms)) ++ (w ++ .char '}' :: rest))))
      simp only [List.append_assoc, List.cons_append] at hread ⊢
      rw [hread, hparts, skipSpace_parts hv rfl, ← hparts, ih (by simp) hms (by simpa using hkeys) (by omega),
        List.append_assoc, List.singleton_append]

theorem value_map {fuel : Nat} {c : Char} {t u : Text} (hu : skipSpace u = .char c :: t) (hc : c ≠ '}') :
    value (fuel + 1) (room + 1) (.char '{' :: u) =
      (members fuel room [] (skipSpace u)).map fun (ms, rest) => (.map ms, rest) := by
  rw [value]
  simp only [hu]
  split
  · simp_all
  · rfl

theorem readsBack_map (hstyle : style.IsRegular) {ms : List (Text × Data)}
    (hall : ∀ m ∈ ms, IsKept room m.2 ∧ ReadsBack style room m.2) (hkeys : (Table.keys ms).Nodup) :
    ReadsBack style (room + 1) (.map ms) := by
  intro fuel level rest hfuel
  obtain ⟨n, rfl⟩ := exists_fuel (.map (fun m hm => (hall m hm).1) hkeys) hfuel
  cases ms with
  | nil => rfl
  | cons m ms =>
    obtain ⟨u, hparts⟩ := exists_writeMembers style (level + 1) m ms
    obtain ⟨v, hv, htext⟩ := exists_bracket hstyle level '{' '}'
      (show writeMembers style (level + 1) (m :: ms) ≠ [] by simp [hparts])
    have hskip := skipSpace_parts (isSpaces_newLine style (level + 1))
      (show isSpace (.char '"') = false from rfl) (.char ',' :: v) u (writeMembers style (level + 1) ms)
    have hlen := congrArg List.length (htext [])
    simp only [List.append_nil, List.length_append, List.length_cons] at hlen
    rw [writeAt] at hfuel ⊢
    rw [htext, hparts, value_map (by rw [hskip, joinWith_cons_cons, List.cons_append]) (by decide), hskip,
      ← hparts, members_writeMembers hstyle hv (isSpaces_newLine style level) _ (by simp) hall rest hkeys
        (by omega)]
    rfl

/-! ### Whole texts -/

/-- **A value is read back** at any place where it is written. -/
theorem readsBack_of_isKept (hstyle : style.IsRegular) (h : IsKept room d) : ReadsBack style room d := by
  induction h with
  | list h ih => exact readsBack_list hstyle fun d hd => ⟨h d hd, ih d hd⟩
  | map h hkeys ih => exact readsBack_map hstyle (fun m hm => ⟨h m hm, ih m hm⟩) hkeys
  | @null room =>
    intro fuel level rest hfuel
    obtain ⟨n, rfl⟩ := exists_fuel (.null : IsKept room _) hfuel
    rfl
  | @bool room b =>
    intro fuel level rest hfuel
    obtain ⟨n, rfl⟩ := exists_fuel (.bool b : IsKept room _) hfuel
    cases b <;> rfl
  | @text room t =>
    intro fuel level rest hfuel
    obtain ⟨n, rfl⟩ := exists_fuel (.text t : IsKept room _) hfuel
    rw [writeAt, hstyle.asciiOnly, quote_eq_cons, List.cons_append, List.append_assoc, value]
    simp only [List.cons_append, List.nil_append, stringFrom_quoted]

/-- **What was written is read back.** -/
theorem read_write (hstyle : style.IsRegular) (h : IsKept maxDepth d) : read (write style d) = .ok d := by
  have hvalue := readsBack_of_isKept hstyle h (2 * (write style d).length + 2) 0 [] (by
    rw [write]
    omega)
  have hskip : skipSpace (writeAt style 0 d ++ []) = writeAt style 0 d ++ [] := skipSpace_writeAt h 0 []
  rw [List.append_nil, ← write] at hvalue hskip
  rw [read, hskip, hvalue]
  rfl

/-- **Members come back as the object that they make** when they are set one after the other. -/
theorem read_foldl_set (hstyle : style.IsRegular) {entries : List (Text × Data)}
    (h : ∀ e ∈ entries, ∀ room, IsKept room e.2) :
    let members := entries.foldl (fun t e => Table.set t e.1 e.2) []
    read (write style (.map members)) = .ok (.map members) := by
  refine read_write hstyle (.map (fun m hm => ?_) (Table.listsLast_foldl_set entries).keys.nodup)
  exact h m ((Table.mem_of_mem_foldl_set hm).resolve_right List.not_mem_nil) _

end Json

end PromptTemplate
