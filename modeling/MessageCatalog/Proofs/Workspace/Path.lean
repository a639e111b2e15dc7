import MessageCatalog.Proofs.Text.Lines
import MessageCatalog.Proofs.Workspace.FileTree

/-!
# Relative paths

The steps from a directory to a file lead back to the file, and they can be read again when they
are written as a path. So two files never have the same path relative to one directory.
-/

namespace MessageCatalog

namespace Path

/-- The component can be written: it does not vanish when the path is read, and is not cut. -/
def IsComponent (part : Text) : Prop := part ≠ [] ∧ part ≠ ['.'] ∧ '/' ∉ part

instance (part : Text) : Decidable (IsComponent part) := inferInstanceAs (Decidable (_ ∧ _))

lemma isComponent_up : IsComponent ['.', '.'] := by decide

lemma isComponent_of_mem_ofText {t part : Text} (h : part ∈ (ofText t).parts) :
    IsComponent part := by
  obtain ⟨hmem, hkept⟩ := List.mem_filter.mp h
  obtain ⟨hempty, hdot⟩ := of_decide_eq_true hkept
  exact ⟨hempty, hdot, (Text.of_mem_splitOn hmem).1⟩

/-- Written components are read again. -/
lemma partsOf_join {parts : List Text} (h : ∀ part ∈ parts, IsComponent part) :
    partsOf (Text.join "/" parts) = parts := by
  have hsplit : parts.flatMap (Text.splitOn '/') = parts := by
    induction parts with
    | nil => rfl
    | cons part parts ih =>
      rw [List.flatMap_cons, Text.splitOn_of_not_mem (h part List.mem_cons_self).2.2,
        ih fun part hmem => h part (List.mem_cons_of_mem _ hmem), List.singleton_append]
  by_cases hparts : parts = []
  · rw [hparts]
    rfl
  · have hjoin : Text.splitOn '/' (Text.join "/" parts) = parts :=
      (Text.splitOn_join '/' hparts).trans hsplit
    rw [partsOf, hjoin, List.filter_eq_self]
    exact fun part hmem => decide_eq_true ⟨(h part hmem).1, (h part hmem).2.1⟩

/-- A relative path is the same after it has been written and read. -/
lemma ofText_toText {parts : List Text} (h : ∀ part ∈ parts, IsComponent part) :
    ofText (toText ⟨"", parts⟩) = ⟨"", parts⟩ := by
  cases parts with
  | nil => rfl
  | cons part rest =>
    obtain ⟨hempty, -, hslash⟩ := h part List.mem_cons_self
    obtain ⟨c, cs, rfl⟩ := List.exists_cons_of_ne_nil hempty
    have hc : c ≠ '/' := fun hc => hslash (hc ▸ List.mem_cons_self)
    have hhead : ∃ tail, Text.join "/" ((c :: cs) :: rest) = c :: tail := by
      cases rest <;> simp
    obtain ⟨tail, htail⟩ := hhead
    have hparts := partsOf_join h
    rw [htail] at hparts
    show ofText (Text.join "/" ((c :: cs) :: rest)) = _
    rw [htail, ofText, hparts, List.takeWhile_cons_of_neg (by simpa using hc)]
    rfl

end Path

namespace Location

variable {base file front loc : Location}

/-- All components of the location are names. -/
def IsProper (loc : Location) : Prop := loc.IsNormal ∧ ∀ part ∈ loc, Path.IsComponent part

instance (loc : Location) : Decidable loc.IsProper := inferInstanceAs (Decidable (_ ∧ _))

lemma isProper_nil : IsProper [] := ⟨List.not_mem_nil, List.forall_mem_nil _⟩

lemma isComponent_of_mem_follow {parts : List Text} {part : Text}
    (h : part ∈ follow loc parts) : part ∈ loc ∨ part ∈ parts := by
  induction parts generalizing loc with
  | nil => exact .inl h
  | cons next parts ih =>
    rcases ih h with h | h
    · unfold step at h
      split at h
      · exact .inl (List.mem_of_mem_dropLast h)
      · exact (List.mem_append.mp h).imp_right fun h => List.mem_cons.mpr (.inl (by simpa using h))
    · exact .inr (List.mem_cons_of_mem _ h)

lemma IsProper.follow (hloc : loc.IsProper) {parts : List Text}
    (h : ∀ part ∈ parts, Path.IsComponent part) : (loc.follow parts).IsProper :=
  ⟨isNormal_follow hloc.1 parts, fun part hmem =>
    (isComponent_of_mem_follow hmem).elim (hloc.2 part) (h part)⟩

lemma IsProper.resolve (hloc : loc.IsProper) (t : Text) :
    (loc.resolve (Path.ofText t)).IsProper := by
  have hparts : ∀ part ∈ (Path.ofText t).parts, Path.IsComponent part :=
    fun _ => Path.isComponent_of_mem_ofText
  unfold Location.resolve
  split
  · exact isProper_nil.follow hparts
  · exact hloc.follow hparts

/-! ### Steps -/

lemma follow_of_isNormal (h : file.IsNormal) (front : Location) :
    follow front file = front ++ file := by
  induction file generalizing front with
  | nil => simp [follow]
  | cons part file ih =>
    have hpart : part ≠ ['.', '.'] := fun hpart => h (hpart ▸ List.mem_cons_self)
    have hrest := ih (fun hmem => h (List.mem_cons_of_mem _ hmem)) (front ++ [part])
    rw [follow, List.foldl_cons, step, if_neg hpart]
    exact hrest.trans (by simp)

/-- As many steps up as there are components lead out of them. -/
lemma follow_replicate_up (front back : Location) :
    follow (front ++ back) (List.replicate back.length ['.', '.']) = front := by
  induction back using List.reverseRecOn with
  | nil => simp [follow]
  | append_singleton back part ih =>
    rw [List.length_append, List.length_singleton, List.replicate_succ, follow, List.foldl_cons,
      step, if_pos rfl, ← List.append_assoc, List.dropLast_concat]
    exact ih

/-- The steps from one location to another lead to it, from below any directory. -/
lemma follow_stepsTo (h : file.IsNormal) (front : Location) :
    follow (front ++ base) (stepsTo base file) = front ++ file := by
  induction base, file using stepsTo.induct generalizing front with
  | case1 base a file ih =>
    have hrest := ih (fun hmem => h (List.mem_cons_of_mem _ hmem)) (front ++ [a])
    simpa [stepsTo] using hrest
  | case2 a base b file hne =>
    rw [stepsTo, if_neg hne, follow, List.foldl_append]
    have hup := follow_replicate_up front (a :: base)
    rw [List.length_cons, follow] at hup
    rw [hup]
    exact follow_of_isNormal h front
  | case3 base file hshort =>
    rw [stepsTo.eq_2 base file hshort, follow, List.foldl_append]
    have hup := follow_replicate_up front base
    rw [follow] at hup
    rw [hup]
    exact follow_of_isNormal h front

/-- Below a directory no steps go up. -/
lemma stepsTo_append (base way : Location) : stepsTo base (base ++ way) = way := by
  induction base with
  | nil => cases way <;> simp [stepsTo]
  | cons part base ih => rw [List.cons_append, stepsTo, if_pos rfl, ih]

lemma mem_stepsTo {part : Text} (h : part ∈ stepsTo base file) :
    part = ['.', '.'] ∨ part ∈ file := by
  induction base, file using stepsTo.induct with
  | case1 base a file ih =>
    rw [stepsTo, if_pos rfl] at h
    exact (ih h).imp_right (List.mem_cons_of_mem _)
  | case2 a base b file hne =>
    rw [stepsTo, if_neg hne] at h
    exact (List.mem_append.mp h).imp_left List.eq_of_mem_replicate
  | case3 base file hshort =>
    rw [stepsTo.eq_2 base file hshort] at h
    exact (List.mem_append.mp h).imp_left List.eq_of_mem_replicate

lemma IsProper.isComponent_of_mem_stepsTo (h : file.IsProper) {part : Text}
    (hmem : part ∈ stepsTo base file) : Path.IsComponent part := by
  rcases mem_stepsTo hmem with rfl | hmem
  · exact Path.isComponent_up
  · exact h.2 part hmem

/-! ### Relative paths -/

/-- The path from a directory to a file, written and read again, leads to the file. -/
lemma resolve_ofText_relativeTo (h : file.IsProper) (base : Location) :
    base.resolve (Path.ofText (file.relativeTo base).toText) = file := by
  rw [relativeTo, Path.ofText_toText fun part => h.isComponent_of_mem_stepsTo]
  exact follow_stepsTo h.1 []

/-- Different files have different relative paths. -/
lemma IsProper.eq_of_toText_relativeTo {other : Location} (h : file.IsProper)
    (hother : other.IsProper)
    (heq : (file.relativeTo base).toText = (other.relativeTo base).toText) : file = other := by
  rw [← resolve_ofText_relativeTo h base, heq, resolve_ofText_relativeTo hother base]

end Location

namespace FileTree

/-- All files have names. -/
def IsProper (t : FileTree) : Prop := ∀ f ∈ t.files, f.1.IsProper

instance (t : FileTree) : Decidable t.IsProper := inferInstanceAs (Decidable (∀ f ∈ _, _))

lemma IsProper.of_isFile {t : FileTree} (ht : t.IsProper) {loc : Location}
    (h : t.isFile loc = true) : loc.IsProper := by
  obtain ⟨bytes, hbytes⟩ := Option.isSome_iff_exists.mp h
  obtain ⟨before, after, hfiles, -⟩ := List.lookup_eq_some_iff.mp hbytes
  exact ht (loc, bytes) (by rw [hfiles]; simp)

end FileTree

/-! ### Names from the root -/

/-- A location is read again from its name. -/
lemma Path.ofText_toText_location {loc : Location} (h : loc.IsProper) :
    ofText loc.toText = loc.toPath := by
  have hparts : partsOf loc.toText = loc := by
    have hsplit : Text.splitOn '/' loc.toText = [] :: Text.splitOn '/' (Text.join "/" loc) := by
      rw [Location.toText, Text.splitOn, if_pos rfl]
    rw [partsOf, hsplit]
    exact partsOf_join h.2
  have hslash : (Text.join "/" loc).takeWhile (· = '/') = [] := by
    cases loc with
    | nil => rfl
    | cons part rest =>
      obtain ⟨hne, -, hmem⟩ := h.2 part List.mem_cons_self
      obtain ⟨c, cs, rfl⟩ := List.exists_cons_of_ne_nil hne
      have hc : c ≠ '/' := fun hc => hmem (hc ▸ List.mem_cons_self)
      cases rest <;> simp [hc]
  rw [ofText, hparts, Location.toText, List.takeWhile_cons_of_pos (by simp), hslash]
  rfl

/-- Files that are there are found by their names. -/
lemma FileTree.glob_names {t : FileTree} (hproper : t.IsProper) (hrooted : t.IsRooted)
    (base : Location) {files : List Location} (hne : files ≠ []) (hnodup : files.Nodup)
    (hfiles : ∀ loc ∈ files, t.isFile loc = true) :
    t.glob base (.list (files.map fun loc => .text loc.toText)) = .ok files := by
  have hselect : ∀ loc ∈ files, Glob.select t base loc.toText = .ok [loc] := by
    intro loc hloc
    have hfile := hfiles loc hloc
    have hthere : t.content? loc ≠ none := by
      intro hnone
      simp [isFile, hnone] at hfile
    have hwalk : t.walk? [] loc = some loc := by
      have hloc := (hproper.of_isFile hfile).1
      exact walk?_append_of_isNormal hloc fun n hn => hrooted.isDirectory_take hthere hn
    have hpath : (base.toPath.append (Path.ofText loc.toText)).parts = loc := by
      rw [Path.ofText_toText_location (hproper.of_isFile hfile)]
      rfl
    unfold Glob.select
    dsimp only
    rw [hpath, hwalk]
    dsimp only
    rw [if_pos hfile]
    rfl
  have hvalues : (files.map fun loc => Value.text loc.toText).mapM (Glob.selectValue t base) =
      .ok (files.map fun loc => [loc]) := by
    rw [Failure.mapM_eq_ok_iff, List.forall₂_map_left_iff, List.forall₂_map_right_iff,
      List.forall₂_same]
    exact hselect
  have hflat : (files.map fun loc => [loc]).flatten = files := by
    rw [← List.flatMap_def, List.flatMap_singleton']
  rw [glob_list, if_neg (by simpa using hne), hvalues]
  show Except.ok (Glob.distinct (files.map fun loc => [loc]).flatten) = _
  rw [hflat, Glob.distinct_eq_self hnodup]

end MessageCatalog
