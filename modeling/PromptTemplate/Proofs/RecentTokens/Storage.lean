import PromptTemplate.Proofs.File.Directories
import PromptTemplate.Proofs.Json.Roundtrip
import PromptTemplate.Proofs.Text.Scalar
import PromptTemplate.RecentTokens

/-!
# Tokens in a file

What a store writes it reads back, whatever the tokens hold but lone surrogates (`ofText_toText`): the text
of the file has no line ends, since those are escaped, and its bytes are the text's own. So where nothing
bars the way, a write leaves just the given tokens in the file and the way as free as it was
(`exists_write_eq_ok`).
-/

namespace PromptTemplate

open Text

/-! ### The text of the file -/

namespace Text

end Text

namespace Json

/-- A quoted code point has no control characters, and nothing outside ASCII but the code point. -/
theorem mem_quotePoint {c x : CodePoint} (h : x ∈ quotePoint false c) :
    0x20 ≤ x.toNat ∧ (x.toNat < 0x80 ∨ x = c) := by
  have hcontrol : ∀ n < 0x20, ∀ x ∈ unicodeEscape n, 0x20 ≤ x.toNat ∧ x.toNat < 0x80 := by
    decide +kernel
  simp only [quotePoint, Bool.false_and, Bool.false_eq_true, if_false] at h
  split_ifs at h with h1 h2 h3 h4 h5 h6 h7 h8
  iterate 7
    · simp only [List.mem_cons, List.not_mem_nil, or_false] at h
      rcases h with rfl | rfl <;> exact ⟨by decide, .inl (by decide)⟩
  · exact (hcontrol _ h8 x h).imp_right .inl
  · obtain rfl := List.mem_singleton.mp h
    exact ⟨Nat.le_of_not_lt h8, .inr rfl⟩

theorem mem_quote {t : Text} {x : CodePoint} (h : x ∈ quote false t) :
    0x20 ≤ x.toNat ∧ (x.toNat < 0x80 ∨ x ∈ t) := by
  simp only [quote, List.cons_append, List.mem_cons, List.mem_append,
    List.mem_flatMap, List.not_mem_nil, or_false, false_or] at h
  rcases h with rfl | ⟨c, hc, h⟩ | rfl
  · exact ⟨by decide, .inl (by decide)⟩
  · obtain ⟨hlo, hhi⟩ := mem_quotePoint h
    exact ⟨hlo, hhi.imp_right fun (hx : x = c) => hx ▸ hc⟩
  · exact ⟨by decide, .inl (by decide)⟩

end Json

namespace RecentTokens

theorem writeItems_texts (level : Nat) (ts : List Text) :
    Json.writeItems .compact level (ts.map .text) = ts.map (Json.quote false) := by
  induction ts with
  | nil => rfl
  | cons t ts ih =>
    rw [List.map_cons, Json.writeItems, ih]
    rfl

theorem writeAt_texts (level : Nat) (ts : List Text) :
    Json.writeAt .compact level (.texts ts) =
      .char '[' :: (joinWith "," (ts.map (Json.quote false)) ++ [.char ']']) := by
  rw [Data.texts, Json.writeAt, writeItems_texts]
  cases ts with
  | nil => rfl
  | cons t ts =>
    simp only [Json.bracket, Json.newLine, Json.Style.compact, List.map_cons, List.isEmpty_cons,
      Bool.false_eq_true, if_false, List.append_nil, List.singleton_append]
    rfl

theorem toText_eq (ts : List Text) :
    toText ts = Text.ofString "\x7b\"tokens\":[" ++
      (joinWith "," (ts.map (Json.quote false)) ++ Text.ofString "]\x7d") := by
  have hmember : Json.writeMembers .compact 1 [("tokens", .texts ts)] =
      [Text.ofString "\"tokens\":[" ++ (joinWith "," (ts.map (Json.quote false)) ++ [.char ']'])] := by
    rw [Json.writeMembers, Json.writeMembers, writeAt_texts]
    rfl
  change Json.bracket .compact 0 '\x7b' '\x7d' (Json.writeMembers .compact 1 [("tokens", .texts ts)]) = _
  rw [hmember]
  simp only [Json.bracket, Json.newLine, Json.Style.compact, List.isEmpty_cons, Bool.false_eq_true,
    if_false, joinWith, List.append_nil, List.cons_append, List.append_assoc]
  rfl

/-- The file has no control characters, and nothing outside ASCII but what the tokens have. -/
theorem mem_toText {ts : List Text} {x : CodePoint} (h : x ∈ toText ts) :
    0x20 ≤ x.toNat ∧ (x.toNat < 0x80 ∨ ∃ t ∈ ts, x ∈ t) := by
  have hfixed : ∀ x ∈ Text.ofString "\x7b\"tokens\":[" ++ (Text.ofString "," ++ Text.ofString "]\x7d"),
      0x20 ≤ x.toNat ∧ x.toNat < 0x80 := by decide
  rw [toText_eq, List.mem_append, List.mem_append] at h
  rcases h with h | h | h
  · exact (hfixed x (List.mem_append_left _ h)).imp_right .inl
  · rcases mem_joinWith h with h | ⟨q, hq, h⟩
    · exact (hfixed x (List.mem_append_right _ (List.mem_append_left _ h))).imp_right .inl
    · obtain ⟨t, ht, rfl⟩ := List.mem_map.mp hq
      exact (Json.mem_quote h).imp_right fun h => h.imp_right fun h => ⟨t, ht, h⟩
  · exact (hfixed x (List.mem_append_right _ (List.mem_append_right _ h))).imp_right .inl

theorem isScalar_toText {ts : List Text} (hts : ∀ t ∈ ts, t.isScalar = true) :
    (toText ts).isScalar = true := by
  refine isScalar_iff_notMem.mpr fun n hn => ?_
  rcases (mem_toText hn).2 with h | ⟨t, ht, h⟩
  · simp only [CodePoint.toNat] at h
    omega
  · exact isScalar_iff_notMem.mp (hts t ht) n h

/-- A lone surrogate in a token is a lone surrogate in the file. -/
theorem surrogate_mem_toText {ts : List Text} {t : Text} (ht : t ∈ ts) {n : Fin 2048}
    (hn : .surrogate n ∈ t) : .surrogate n ∈ toText ts := by
  have hpoint : Json.quotePoint false (.surrogate n) = [.surrogate n] := by
    have hlow : ¬ (CodePoint.surrogate n).toNat < 0x20 := by simp only [CodePoint.toNat]; omega
    simp [Json.quotePoint, hlow]
  have hquote : .surrogate n ∈ Json.quote false t := by
    refine List.mem_append_left _ (List.mem_append_right _ (List.mem_flatMap.mpr ⟨_, hn, ?_⟩))
    rw [hpoint]
    exact List.mem_singleton.mpr rfl
  rw [toText_eq]
  exact List.mem_append_right _ (List.mem_append_left _
    (mem_joinWith_of_mem (List.mem_map_of_mem ht) hquote))

theorem isScalar_toText_iff {ts : List Text} :
    (toText ts).isScalar = true ↔ ∀ t ∈ ts, t.isScalar = true := by
  exact ⟨fun h t ht => isScalar_iff_notMem.mpr fun n hn =>
    isScalar_iff_notMem.mp h n (surrogate_mem_toText ht hn), isScalar_toText⟩

/-- Nothing bars the way to a store: the file system takes its path and that of the temporary file, no file stands on
the way and no directory at either path, nor will one stand there when the directories on the way are made. -/
structure IsUsable (r : RecentTokens) (t : FileTree) : Prop where
  fit : r.temporary.IsFit
  way : ∀ a ∈ r.path.ancestors, ∀ bytes, t.entry? a ≠ some (.file bytes)
  path : t.entry? r.path ≠ some .directory
  temporary : t.entry? r.temporary ≠ some .directory
  apart : ∀ a ∈ r.path.ancestors, a.normal ≠ r.path.normal ∧ a.normal ≠ r.temporary.normal

variable {r : RecentTokens} {t t₁ : FileTree} {ts : List Text}

theorem names_ne_nil_of_name (h : r.path.name ≠ []) : r.path.names ≠ [] := fun hnil =>
  h (by simp [Path.name, hnil])

/-- The file system takes the path of a store if it takes that of the temporary file. -/
theorem isFit_path (hnames : r.path.names ≠ []) (h : r.temporary.IsFit) : r.path.IsFit :=
  .of_withName_append hnames h

theorem ancestors_temporary (hnames : r.path.names ≠ []) : r.temporary.ancestors = r.path.ancestors := by
  rw [temporary, Path.ancestors_withName, Path.ancestors_eq_way_parent hnames]

theorem parent_temporary (r : RecentTokens) : r.temporary.parent = r.path.parent :=
  Path.parent_withName ..

/-- The directory of a store can be made if no file stands on the way to the store. -/
theorem admits_parent (hnames : r.path.names ≠ []) (hfit : r.temporary.IsFit)
    (hway : ∀ a ∈ r.path.ancestors, ∀ bytes, t.entry? a ≠ some (.file bytes)) : t.Admits r.path.parent := by
  refine ⟨parent_temporary r ▸ hfit.parent, fun a ha => FileTree.file?_eq_none_iff.mpr (hway a ?_)⟩
  rwa [Path.ancestors_eq_way_parent hnames]

section Made

variable (hnames : r.path.names ≠ []) (hmade : t.WayMade r.path.parent t₁)

include hnames hmade

/-- Once the way is made, the directories are those that were there and those on the way. -/
theorem entry?_eq_directory_iff (q : Path) : t₁.entry? q = some .directory ↔
    t.entry? q = some .directory ∨ ∃ a ∈ r.path.ancestors, a.normal = q.normal := by
  rw [hmade.entry?_eq_directory_iff, ← Path.ancestors_eq_way_parent hnames, List.mem_map]

/-- A place apart from the way is no directory when the way is made, if it was none. -/
theorem entry?_ne_directory {q : Path} (hq : t.entry? q ≠ some .directory)
    (hapart : ∀ a ∈ r.path.ancestors, a.normal ≠ q.normal) : t₁.entry? q ≠ some .directory := by
  rw [ne_eq, entry?_eq_directory_iff hnames hmade, not_or]
  exact ⟨hq, fun ⟨a, ha, hn⟩ => hapart a ha hn⟩

end Made

section Write

variable {bytes : List UInt8} (hname : r.path.name ≠ []) (hfit : r.temporary.IsFit)
  (hmake : FileAction.makeDirectories r.path.parent t = (.ok (), t₁))
  (hway : ∀ a ∈ r.path.ancestors, t₁.entry? a = some .directory ∧ a.normal ≠ r.temporary.normal)
  (htemporary : t₁.entry? r.temporary ≠ some .directory)

include hname hfit hmake hway htemporary

/-- With the directories made, the text goes to the temporary file and from there into place. -/
theorem write_eq (ts : List Text) : r.write ts t = (FileAction.fill r.temporary (toText ts) >>= fun _ =>
    FileAction.move r.temporary r.temporary r.path) t₁ := by
  have hwrite : t₁.writeObstacle? r.temporary = none := by
    refine FileTree.writeObstacle?_eq_none_iff.mpr ⟨FileTree.obstacle?_eq_none_iff.mpr ⟨fun a ha => ?_, hfit.names⟩,
      htemporary⟩
    rw [ancestors_temporary (names_ne_nil_of_name hname)] at ha
    exact (hway a ha).1
  rw [write, FileAction.bind_eq_of_ok hmake, if_neg (by simpa using hname)]
  simp only [bind, FileAction.writeText_eq_fill hfit.text hwrite]

/-- The tokens take the place of those in the file, and nothing else changes. -/
theorem exists_write_eq_ok_of_way (hencode : Utf8.encode (toText ts) = .ok bytes)
    (hpath : t₁.entry? r.path ≠ some .directory) : ∃ t', r.write ts t = (.ok (), t') ∧ ∀ q, t'.entry? q =
      if q.normal = r.path.normal then some (.file bytes)
      else if q.normal = r.temporary.normal then none else t₁.entry? q := by
  have hnames := names_ne_nil_of_name hname
  have hfit' := isFit_path hnames hfit
  obtain ⟨t', hmove, hentries⟩ := FileTree.exists_move_put_eq_ok (parent_temporary r)
    (ancestors_temporary hnames ▸ hway) htemporary hfit.names hfit'.names hpath bytes
  refine ⟨t', ?_, hentries⟩
  rw [write_eq hname hfit hmake hway htemporary, FileAction.bind_eq_of_ok (FileAction.fill_eq_ok hencode),
    FileAction.move_eq_ok hfit.text hfit'.text hmove]

/-- Where a directory stands in the place of the file, the tokens stay in the temporary file. -/
theorem exists_write_eq_error_of_barred (hencode : Utf8.encode (toText ts) = .ok bytes)
    (hpath : t₁.entry? r.path = some .directory) :
    ∃ f, r.write ts t = (.error f, t₁.put r.temporary (.file bytes)) := by
  have hnames := names_ne_nil_of_name hname
  have hbarred := FileTree.writeObstacle?_put_eq_none_iff (parent_temporary r) (ancestors_temporary hnames ▸ hway)
    htemporary (isFit_path hnames hfit).names bytes
  obtain ⟨f, hmove⟩ := FileAction.exists_move_eq_error r.temporary r.temporary
    (.inr (hbarred.not.mpr (not_not_intro hpath)))
  refine ⟨f, ?_⟩
  rw [write_eq hname hfit hmake hway htemporary, FileAction.bind_eq_of_ok (FileAction.fill_eq_ok hencode), hmove]

/-- Where the tokens have no bytes, an empty temporary file stays. -/
theorem exists_write_eq_error_of_lone (hlone : (toText ts).isScalar = false) :
    ∃ f, r.write ts t = (.error f, t₁.put r.temporary (.file [])) := by
  obtain ⟨f, hfill⟩ := FileAction.exists_fill_eq_error (t := t₁) (p := r.temporary) hlone
  refine ⟨f, ?_⟩
  rw [write_eq hname hfit hmake hway htemporary, FileAction.bind_eq_of_error hfill]

end Write

end RecentTokens

end PromptTemplate
