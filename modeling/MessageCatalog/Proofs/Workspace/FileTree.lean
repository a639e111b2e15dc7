import Mathlib
import MessageCatalog.Workspace.Glob
import MessageCatalog.Proofs.Failure

/-!
# File trees: what changes and what stays

Writing a file changes its content and nothing else; making a directory adds directories and
leaves the files alone. In a tree where every file is in a directory that is there, the components
of a location lead to it.
-/

namespace MessageCatalog

/-- No component of the location leads up. -/
def Location.IsNormal (loc : Location) : Prop := ['.', '.'] ∉ loc

instance (loc : Location) : Decidable loc.IsNormal := inferInstanceAs (Decidable (_ ∉ _))

lemma Location.isNormal_step {loc : Location} (h : loc.IsNormal) (part : Text) :
    (step loc part).IsNormal := by
  unfold step
  split
  · exact fun hmem => h (List.mem_of_mem_dropLast hmem)
  · next hne =>
    intro hmem
    rcases List.mem_append.mp hmem with hmem | hmem
    · exact h hmem
    · exact hne (List.mem_singleton.mp hmem).symm

lemma Location.isNormal_follow {loc : Location} (h : loc.IsNormal) (parts : List Text) :
    (follow loc parts).IsNormal := by
  induction parts generalizing loc with
  | nil => exact h
  | cons part rest ih => exact ih (isNormal_step h part)

lemma Location.isNormal_resolve {base : Location} (h : base.IsNormal) (p : Path) :
    (base.resolve p).IsNormal := by
  unfold resolve
  split
  · exact isNormal_follow List.not_mem_nil _
  · exact isNormal_follow h _

namespace FileTree

variable {t u : FileTree} {loc l : Location} {bytes : ByteArray}

/-- Every file is in a directory that is there, and so is every directory on the way to it. -/
def IsRooted (t : FileTree) : Prop :=
  ∀ f ∈ t.files, ∀ n < f.1.length, t.isDirectory (f.1.take n)

instance (t : FileTree) : Decidable t.IsRooted := inferInstanceAs (Decidable (∀ f ∈ _, _))

/-! ### Reading -/

lemma read_eq_ok_iff : t.read loc = .ok bytes ↔ t.content? loc = some bytes := by
  unfold read
  cases t.content? loc with
  | some bytes' => simp
  | none =>
    cases t.isDirectory loc with
    | true => simp
    | false =>
      cases t.obstacleAlong? [] loc with
      | none => simp
      | some f => cases f <;> simp

lemma isFile_of_read (h : t.read loc = .ok bytes) : t.isFile loc := by
  rw [isFile, read_eq_ok_iff.mp h]
  rfl

lemma mem_of_content? (h : t.content? loc = some bytes) : (loc, bytes) ∈ t.files := by
  obtain ⟨before, after, hfiles, -⟩ := List.lookup_eq_some_iff.mp h
  rw [hfiles]
  exact List.mem_append_right before List.mem_cons_self

/-! ### Writing -/

@[simp] lemma isDirectory_put (l : Location) :
    (t.put loc bytes).isDirectory l = t.isDirectory l := rfl

lemma isFile_put (l : Location) :
    (t.put loc bytes).isFile l = (t.isFile l || decide (l = loc)) := by
  by_cases h : l = loc
  · subst h
    simp [isFile]
  · simp [isFile, content?_put_of_ne t bytes h, h]

/-- The way to a location is as free in one tree as in another with the same files and
directories. -/
lemma obstacleAlong?_congr (hf : ∀ l, t.isFile l = u.isFile l)
    (hd : t.directories = u.directories) (loc : Location) (names : List Text) :
    t.obstacleAlong? loc names = u.obstacleAlong? loc names := by
  have hblocked (l : Location) : t.obstacle? l = u.obstacle? l := by
    rw [obstacle?, obstacle?, isDirectory, isDirectory, hf, hd]
  induction names generalizing loc with
  | nil => rfl
  | cons name rest ih =>
    rw [obstacleAlong?, obstacleAlong?, hblocked]
    cases u.obstacle? loc with
    | none => exact ih (loc ++ [name])
    | some f => rfl

lemma write_eq_ok_iff :
    t.write loc bytes = .ok u ↔
      t.isDirectory loc = false ∧ t.obstacleAlong? [] loc = none ∧ u = t.put loc bytes := by
  unfold write
  cases hd : t.isDirectory loc with
  | true => simp
  | false =>
    cases ho : t.obstacleAlong? [] loc with
    | none => simp [eq_comm]
    | some f => cases f <;> simp

/-- Whether a file can be written depends on which files and directories there are. -/
lemma write_congr (hf : ∀ l, t.isFile l = u.isFile l) (hd : t.directories = u.directories)
    (loc : Location) (bytes : ByteArray) :
    u.write loc bytes = (t.write loc bytes).map fun _ => u.put loc bytes := by
  have hdir : u.isDirectory loc = t.isDirectory loc := by rw [isDirectory, isDirectory, hd]
  unfold write
  rw [← obstacleAlong?_congr hf hd, hdir]
  cases t.isDirectory loc with
  | true => rfl
  | false =>
    cases t.obstacleAlong? [] loc with
    | none => rfl
    | some f => cases f <;> rfl

lemma eq_put_of_write (h : t.write loc bytes = .ok u) : u = t.put loc bytes := by
  rw [write_eq_ok_iff] at h
  exact h.2.2

lemma content?_write_self (h : t.write loc bytes = .ok u) : u.content? loc = some bytes := by
  obtain rfl := eq_put_of_write h
  exact content?_put_self t loc bytes

lemma content?_write_of_ne (h : t.write loc bytes = .ok u) (hne : l ≠ loc) :
    u.content? l = t.content? l := by
  obtain rfl := eq_put_of_write h
  exact content?_put_of_ne t bytes hne

/-- Nothing changes when a file is written with the content that it has. -/
lemma content?_write_same (h : t.write loc bytes = .ok u) (hsame : t.content? loc = some bytes)
    (l : Location) : u.content? l = t.content? l := by
  by_cases hl : l = loc
  · rw [hl, content?_write_self h, hsame]
  · exact content?_write_of_ne h hl

/-- What was written can be overwritten. -/
lemma exists_write_again (h : t.write loc bytes = .ok u) (hfile : t.isFile loc = true)
    (bytes' : ByteArray) : ∃ v, u.write loc bytes' = .ok v := by
  rw [write_eq_ok_iff] at h
  obtain ⟨hdir, hway, rfl⟩ := h
  have hfiles : ∀ l, t.isFile l = (t.put loc bytes).isFile l := by
    intro l
    rw [isFile_put]
    by_cases hl : l = loc
    · rw [hl, hfile]
      rfl
    · simp [hl]
  refine ⟨(t.put loc bytes).put loc bytes', ?_⟩
  rw [write_eq_ok_iff, ← obstacleAlong?_congr hfiles rfl]
  exact ⟨hdir, hway, rfl⟩

lemma isDirectory_write (h : t.write loc bytes = .ok u) (l : Location) :
    u.isDirectory l = t.isDirectory l := by
  obtain rfl := eq_put_of_write h
  rfl

/-! ### Making directories -/

lemma makeDirectory_eq_ok_iff :
    t.makeDirectory loc = .ok u ↔
      t.isFile loc = false ∧ (ancestors loc).any t.isFile = false ∧ u = t.addDirectory loc := by
  unfold makeDirectory
  cases t.isFile loc <;> cases (ancestors loc).any t.isFile <;> simp [eq_comm]

lemma eq_addDirectory_of_makeDirectory (h : t.makeDirectory loc = .ok u) :
    u = t.addDirectory loc := by
  rw [makeDirectory_eq_ok_iff] at h
  exact h.2.2

lemma content?_makeDirectory (h : t.makeDirectory loc = .ok u) (l : Location) :
    u.content? l = t.content? l := by
  obtain rfl := eq_addDirectory_of_makeDirectory h
  rfl

lemma isDirectory_makeDirectory (h : t.makeDirectory loc = .ok u) (hl : t.isDirectory l) :
    u.isDirectory l := by
  obtain rfl := eq_addDirectory_of_makeDirectory h
  simp only [isDirectory, addDirectory, List.any_append, Bool.or_eq_true]
  exact .inl hl

/-! ### Following a location -/

lemma walk?_append_of_isNormal {front rest : Location} (hn : rest.IsNormal)
    (hd : ∀ n < rest.length, t.isDirectory (front ++ rest.take n)) :
    t.walk? front rest = some (front ++ rest) := by
  induction rest generalizing front with
  | nil => simp [walk?]
  | cons part rest ih =>
    have hfront : t.isDirectory front := by simpa using hd 0 (by simp)
    have hpart : part ≠ ['.', '.'] := fun h => hn (h ▸ List.mem_cons_self)
    rw [walk?, if_pos hfront, Location.step, if_neg hpart, ih]
    · simp
    · exact fun hmem => hn (List.mem_cons_of_mem _ hmem)
    · intro n hlt
      simpa using hd (n + 1) (by simpa using hlt)

/-- The way down to a file is there. -/
lemma IsRooted.isDirectory_take (ht : t.IsRooted) (h : t.content? loc ≠ none) {n : Nat}
    (hn : n < loc.length) : t.isDirectory (loc.take n) := by
  obtain ⟨bytes, hbytes⟩ := Option.ne_none_iff_exists'.mp h
  exact ht (loc, bytes) (mem_of_content? hbytes) n hn

lemma isDirectory_of_isFile
    (hplain : ∀ f ∈ t.files, t.isDirectory f.1 = false) (h : t.isFile loc) :
    t.isDirectory loc = false := by
  obtain ⟨bytes, hbytes⟩ := Option.isSome_iff_exists.mp h
  exact hplain (loc, bytes) (mem_of_content? hbytes)

lemma obstacleAlong?_eq_none {front : Location} {rest : List Text}
    (hd : ∀ n < rest.length, t.isDirectory (front ++ rest.take n)) :
    t.obstacleAlong? front rest = none := by
  induction rest generalizing front with
  | nil => rfl
  | cons name rest ih =>
    have hfront : t.isDirectory front := by simpa using hd 0 (by simp)
    rw [obstacleAlong?, obstacle?, if_pos hfront]
    refine ih fun n hlt => ?_
    simpa using hd (n + 1) (by simpa using hlt)

/-- A file that is there can be overwritten. -/
lemma IsRooted.write_eq_put (ht : t.IsRooted) (hfile : t.isFile loc)
    (hdir : t.isDirectory loc = false) (bytes : ByteArray) :
    t.write loc bytes = .ok (t.put loc bytes) := by
  refine write_eq_ok_iff.mpr ⟨hdir, obstacleAlong?_eq_none fun n hn => ?_, rfl⟩
  exact ht.isDirectory_take (Option.isSome_iff_ne_none.mp hfile) hn

end FileTree

/-! ### Files that are found -/

namespace Glob

lemma mem_distinct {l : Location} {locs : List Location} : l ∈ distinct locs ↔ l ∈ locs := by
  induction locs with
  | nil => simp [distinct]
  | cons loc rest ih =>
    by_cases h : l = loc <;> simp [distinct, ih, h]

lemma nodup_distinct (locs : List Location) : (distinct locs).Nodup := by
  induction locs with
  | nil => exact List.nodup_nil
  | cons loc rest ih => exact List.nodup_cons.mpr ⟨by simp, ih.filter _⟩

lemma distinct_eq_self {locs : List Location} (h : locs.Nodup) : distinct locs = locs := by
  induction locs with
  | nil => rfl
  | cons loc rest ih =>
    obtain ⟨hloc, hrest⟩ := List.nodup_cons.mp h
    rw [distinct, ih hrest, List.filter_eq_self.mpr]
    intro l hl
    exact decide_eq_true fun heq => hloc (heq ▸ hl)

lemma isFile_of_select {t : FileTree} {base : Location} {pattern : Text} {locs : List Location}
    (h : select t base pattern = .ok locs) {l : Location} (hl : l ∈ locs) : t.isFile l = true := by
  have hsearch {places : Except Failure (List Place)}
      (h : (do return ((← places).map Place.location).filter t.isFile) = .ok locs) :
      t.isFile l = true := by
    obtain ⟨found, -, h⟩ := Failure.bind_eq_ok_iff.mp h
    rw [← Failure.pure_eq_ok_iff.mp h] at hl
    exact (List.mem_filter.mp hl).2
  unfold select at h
  dsimp only at h
  split at h
  · next loc _ =>
    split at h
    · next hfile =>
      rw [← Failure.pure_eq_ok_iff.mp h] at hl
      rw [List.mem_singleton.mp hl]
      exact hfile
    · exact hsearch h
  · exact hsearch h

lemma isFile_of_selectValue {t : FileTree} {base : Location} {v : Value} {locs : List Location}
    (h : selectValue t base v = .ok locs) {l : Location} (hl : l ∈ locs) : t.isFile l = true := by
  cases v with
  | text pattern => exact isFile_of_select h hl
  | _ => cases h

end Glob

/-- The files that patterns find are there, and each is found once. -/
lemma FileTree.nodup_glob {t : FileTree} {base : Location} {patterns : Value}
    {files : List Location} (h : t.glob base patterns = .ok files) :
    files.Nodup ∧ ∀ l ∈ files, t.isFile l = true := by
  obtain ⟨values, -, h⟩ := Failure.bind_eq_ok_iff.mp h
  split at h
  · cases h
  · obtain ⟨found, hfound, h⟩ := Failure.bind_eq_ok_iff.mp h
    obtain rfl := Failure.pure_eq_ok_iff.mp h
    refine ⟨Glob.nodup_distinct _, fun l hl => ?_⟩
    obtain ⟨locs, hlocs, hl⟩ := List.mem_flatten.mp (Glob.mem_distinct.mp hl)
    obtain ⟨v, -, hv⟩ := Failure.exists_of_forall₂ (Failure.mapM_eq_ok_iff.mp hfound) hlocs
    exact Glob.isFile_of_selectValue hv hl

lemma FileTree.glob_list (t : FileTree) (base : Location) (items : List Value) :
    t.glob base (.list items) =
      if items.isEmpty then .error .noGlobs
      else do return Glob.distinct (← items.mapM (Glob.selectValue t base)).flatten := by
  cases items <;> rfl

lemma FileTree.glob_of_patternsOf {t : FileTree} {base : Location} {patterns : Value}
    {items : List Value} (h : Glob.patternsOf patterns = .ok items) :
    t.glob base patterns = t.glob base (.list items) := by
  unfold glob
  rw [h]
  rfl

/-- Patterns in another order find the same files. -/
lemma FileTree.glob_perm {t : FileTree} {base : Location} {items items' : List Value}
    (h : items.Perm items') {files : List Location}
    (hfiles : t.glob base (.list items) = .ok files) :
    ∃ files', t.glob base (.list items') = .ok files' ∧ files.Perm files' := by
  rw [glob_list] at hfiles ⊢
  split at hfiles
  · cases hfiles
  · next hne =>
    rw [← h.isEmpty_eq, if_neg hne]
    obtain ⟨found, hfound, hfiles⟩ := Failure.bind_eq_ok_iff.mp hfiles
    obtain rfl := Failure.pure_eq_ok_iff.mp hfiles
    obtain ⟨found', hfound', hperm⟩ := Failure.mapM_perm h hfound
    refine ⟨_, Failure.bind_eq_ok_iff.mpr ⟨found', hfound', rfl⟩, ?_⟩
    refine (List.perm_ext_iff_of_nodup (Glob.nodup_distinct _) (Glob.nodup_distinct _)).mpr ?_
    intro loc
    rw [Glob.mem_distinct, Glob.mem_distinct, hperm.flatten.mem_iff]

end MessageCatalog
