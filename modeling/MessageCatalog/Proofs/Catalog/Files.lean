import MessageCatalog.Catalog.Files
import MessageCatalog.Proofs.Text.Lines
import MessageCatalog.Proofs.Workspace.FileTree

/-!
# Content that is the name of a file

Bytes that are not the name of a file stand for themselves. Bytes that are one depend on that file,
and on no other.
-/

namespace MessageCatalog

open Text

namespace FileTree

variable {t u : FileTree} {current loc : Location} {path : Text}

/-- Where a path leads depends on which directories there are. -/
lemma walk?_congr (hd : t.directories = u.directories) (loc : Location) (parts : List Text) :
    t.walk? loc parts = u.walk? loc parts := by
  induction parts generalizing loc with
  | nil => rfl
  | cons part rest ih => rw [walk?, walk?, isDirectory, isDirectory, hd, ih]

/-- Which file a path leads to depends on which files and directories there are. -/
lemma fileNamed?_congr (hf : ∀ l, t.isFile l = u.isFile l) (hd : t.directories = u.directories)
    (current : Location) (path : Text) :
    t.fileNamed? current path = u.fileNamed? current path := by
  unfold fileNamed?
  simp only [walk?_congr hd, show t.isFile = u.isFile from funext hf]

lemma isFile_of_fileNamed? (h : t.fileNamed? current path = some loc) : t.isFile loc = true := by
  unfold fileNamed? at h
  split at h
  · cases h
  · exact (Option.filter_eq_some_iff.mp h).2

/-! ### Names with line feeds -/

/-- On the way to something that is there, every component that does not lead up is the name of
something that is there. -/
lemma exists_isPresent_of_walk? {parts : List Text} {start : Location}
    (h : t.walk? start parts = some loc) (hloc : t.isPresent loc) {part : Text}
    (hpart : part ∈ parts) (hup : part ≠ ['.', '.']) : ∃ dir, t.isPresent (dir ++ [part]) := by
  induction parts generalizing start with
  | nil => cases hpart
  | cons first rest ih =>
    rw [walk?, ite_eq_iff] at h
    obtain ⟨-, h⟩ | ⟨-, h⟩ := h
    · rcases List.mem_cons.mp hpart with rfl | hrest
      · refine ⟨start, ?_⟩
        rw [Location.step, if_neg hup] at h
        cases rest with
        | nil => exact Option.some.inj h ▸ hloc
        | cons second rest =>
          rw [walk?, ite_eq_iff] at h
          obtain ⟨hdir, -⟩ | ⟨-, h⟩ := h
          · exact Bool.or_eq_true_iff.mpr (.inr hdir)
          · cases h
      · exact ih h hrest
    · cases h

/-- No name of a file or a directory holds a line feed. -/
def HasOneLineNames (t : FileTree) : Prop :=
  ∀ loc, t.isPresent loc → ∀ name ∈ loc, '\n' ∉ name

lemma hasOneLineNames_of_forall
    (h : ∀ loc ∈ t.files.map Prod.fst ++ t.directories, ∀ name ∈ loc, '\n' ∉ name) :
    t.HasOneLineNames := by
  intro loc hloc
  refine h loc (List.mem_append.mpr ((Bool.or_eq_true_iff.mp hloc).imp (fun hfile => ?_) ?_))
  · obtain ⟨bytes, hbytes⟩ := Option.isSome_iff_exists.mp hfile
    exact List.mem_map_of_mem (mem_of_content? hbytes)
  · simp [isDirectory]

lemma HasOneLineNames.put (h : t.HasOneLineNames) (hloc : t.isFile loc) (bytes : ByteArray) :
    (t.put loc bytes).HasOneLineNames := by
  intro l hl
  refine h l ?_
  rw [isPresent, isFile_put, isDirectory_put] at hl
  by_cases heq : l = loc
  · subst heq
    exact Bool.or_eq_true_iff.mpr (.inl hloc)
  · simpa [isPresent, heq] using hl

/-- In such a tree a text with a line feed is not the name of a file. -/
lemma HasOneLineNames.fileNamed?_eq_none (h : t.HasOneLineNames) (hpath : '\n' ∈ path) :
    t.fileNamed? current path = none := by
  obtain ⟨part, hpart, hmem⟩ : ∃ part ∈ splitOn '/' path, '\n' ∈ part := by
    rw [← join_splitOn '/' path] at hpath
    exact (mem_join hpath).resolve_left (by simp)
  have hin : part ∈ (Path.ofText path).parts :=
    List.mem_filter.mpr ⟨hpart, by grind⟩
  refine Option.eq_none_iff_forall_ne_some.mpr fun loc hloc => ?_
  have hfile := isFile_of_fileNamed? hloc
  unfold fileNamed? at hloc
  split at hloc
  · cases hloc
  · obtain ⟨dir, hdir⟩ := exists_isPresent_of_walk? (Option.filter_eq_some_iff.mp hloc).1
      (Bool.or_eq_true_iff.mpr (.inl hfile)) hin (by grind)
    exact h _ hdir part (List.mem_append_right dir (List.mem_singleton_self part)) hmem

end FileTree

namespace Catalog

variable {t u : FileTree} {current loc : Location} {bytes : ByteArray} {charset : Text}

/-- The file that the content of a catalog file is the name of. -/
def pointee? (t : FileTree) (current : Location) (bytes : ByteArray) (charset : Text) :
    Option Location :=
  (Charset.decodeNamed charset bytes).toOption.bind (t.fileNamed? current)

/-- Bytes that are not the name of a file stand for themselves. -/
lemma ofContent_of_pointee?_eq_none (h : pointee? t current bytes charset = none) :
    ofContent t current bytes charset = parseBytes bytes charset := by
  unfold ofContent parseBytes
  cases hdecode : Charset.decodeNamed charset bytes with
  | error f => rfl
  | ok text =>
    have hname : t.fileNamed? current text = none := by
      simpa [pointee?, hdecode, Except.toOption] using h
    simp only [bind, Except.bind, hname]

/-- What bytes stand for is the same in two trees with the same files and directories, if the file
that they are the name of holds the same in both. -/
lemma ofContent_congr (hf : ∀ l, t.isFile l = u.isFile l) (hd : t.directories = u.directories)
    (hcontent : ∀ l, pointee? t current bytes charset = some l → t.content? l = u.content? l) :
    ofContent t current bytes charset = ofContent u current bytes charset := by
  unfold ofContent
  cases hdecode : Charset.decodeNamed charset bytes with
  | error f => rfl
  | ok text =>
    simp only [bind, Except.bind, ← FileTree.fileNamed?_congr hf hd]
    cases hname : t.fileNamed? current text with
    | none => rfl
    | some loc =>
      obtain ⟨opened, hopened⟩ :=
        Option.isSome_iff_exists.mp (FileTree.isFile_of_fileNamed? hname)
      have hsame := hcontent loc (by simp [pointee?, hdecode, Except.toOption, hname])
      have hread := FileTree.read_eq_ok_iff.mpr hopened
      have hread' := FileTree.read_eq_ok_iff.mpr (hsame ▸ hopened)
      simp only [hread, hread']

end Catalog

end MessageCatalog
