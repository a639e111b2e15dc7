import MessageCatalog.Proofs.Extract.Collecting
import MessageCatalog.Proofs.Extract.Comments
import MessageCatalog.Proofs.Extract.Failures
import MessageCatalog.Proofs.Index
import MessageCatalog.Proofs.Reference.Line
import MessageCatalog.Proofs.Workspace.Path

/-!
# Collecting without conflicts

A file gives at most one comment to each of its lines, and no two files share a reference. So an
index that is empty at the start never gets a second comment for a reference, and collecting does
not fail for a conflict.
-/

namespace MessageCatalog

variable {α β : Type}

open Failure (Avoids)

/-! ### Steps that leave references free -/

namespace Collecting

/-- In a directory, an index and a session in which the references have no comment yet. -/
structure IsReady (current : Location) (refs : Set Text) (i : Index) (s : Session) : Prop where
  current : s.current = current
  proper : s.tree.IsProper
  free : ∀ r ∈ refs, i.IsFree r

/-- If the references of `before` are free when the step begins, then those of `after` are when it
ends, well or not, and no failure of it is a conflict. -/
def Leaves (current : Location) (before after : Set Text) (a : Collecting α) : Prop :=
  ∀ i s, IsReady current before i s →
    IsReady current after (a.outcome i s).2.1 (a.outcome i s).2.2 ∧
      Avoids .conflict (a.outcome i s).1

variable {current : Location} {before middle after refs : Set Text}

lemma IsReady.mono {i : Index} {s : Session} (h : IsReady current before i s)
    (hsub : after ⊆ before) : IsReady current after i s :=
  ⟨h.current, h.proper, fun r hr => h.free r (hsub hr)⟩

lemma IsReady.heard {i : Index} {s t : Session} (h : IsReady current refs i s)
    (hheard : s.Heard t) : IsReady current refs i t :=
  ⟨hheard.current_eq.trans h.current, hheard.tree_eq ▸ h.proper, h.free⟩

lemma Leaves.mono {a : Collecting α} (h : Leaves current before middle a)
    (hsub : after ⊆ middle) : Leaves current before after a :=
  fun i s hs => ⟨(h i s hs).1.mono hsub, (h i s hs).2⟩

lemma leaves_pure (x : α) : Leaves current refs refs (pure x) :=
  fun _ _ hs => ⟨hs, Failure.avoids_ok x⟩

lemma leaves_throw {f : Failure} (h : f.kind ≠ .conflict) :
    Leaves current refs refs (throw f : Collecting α) :=
  fun _ _ hs => ⟨hs, Failure.avoids_error.mpr h⟩

lemma leaves_ofAction {a : Action α} (h : a.IsMild .conflict) :
    Leaves current refs refs (ofAction a) :=
  fun _ s hs => ⟨hs.heard (h.quiet s), h.avoids s⟩

/-- The second step may count on what the first one gives. -/
lemma Leaves.bind_of {a : Collecting α} {f : α → Collecting β}
    (ha : Leaves current before middle a)
    (hf : ∀ x i s, IsReady current before i s → (a.outcome i s).1 = .ok x →
      Leaves current middle after (f x))
    (hsub : after ⊆ middle) : Leaves current before after (a >>= f) := by
  intro i s hs
  obtain ⟨hready, havoids⟩ := ha i s hs
  have hnext := fun x => hf x i s hs
  rw [outcome_bind]
  cases h : a.outcome i s with
  | mk r state =>
    rw [h] at hready havoids hnext
    cases r with
    | error e => exact ⟨hready.mono hsub, Failure.avoids_error.mpr (havoids e rfl)⟩
    | ok x => exact hnext x rfl state.1 state.2 hready

lemma Leaves.bind {a : Collecting α} {f : α → Collecting β} (ha : Leaves current before middle a)
    (hf : ∀ x, Leaves current middle after (f x)) (hsub : after ⊆ middle) :
    Leaves current before after (a >>= f) :=
  ha.bind_of (fun x _ _ _ _ => hf x) hsub

lemma Leaves.tryCatch {a : Collecting α} {handler : Failure → Collecting α}
    (ha : Leaves current before after a)
    (hh : ∀ e, e.kind ≠ .conflict → Leaves current after after (handler e)) :
    Leaves current before after (tryCatch a handler) := by
  intro i s hs
  obtain ⟨hready, havoids⟩ := ha i s hs
  rw [outcome_tryCatch]
  cases h : a.outcome i s with
  | mk r state =>
    rw [h] at hready havoids
    cases r with
    | error e => exact hh e (havoids e rfl) state.1 state.2 hready
    | ok x => exact ⟨hready, Failure.avoids_ok x⟩

end Collecting

open Collecting (Leaves IsReady leaves_pure leaves_throw leaves_ofAction)

namespace Collector

variable (c : Collector) {current : Location} {refs : Set Text}

/-! ### The keys of a file -/

/-- A key without a comment can be added anywhere, and one with a comment where there is none. -/
lemma leaves_addOccurrence (name : Text) (o : Occurrence)
    (h : Index.nonempty o.comment = none ∨ Reference.ofLine name o.line ∈ refs) :
    Leaves current refs
      {r ∈ refs | Index.nonempty o.comment = none ∨ r ≠ Reference.ofLine name o.line}
      (c.addOccurrence name o) := by
  intro i s hs
  have hcontext := c.avoids_contextName
  rw [outcome_addOccurrence]
  cases hname : c.contextName with
  | error e =>
    rw [hname] at hcontext
    exact ⟨hs.mono (Set.sep_subset _ _), Failure.avoids_error.mpr (hcontext e rfl)⟩
  | ok context =>
    obtain ⟨j, hj, hfree⟩ := Index.exists_add context o.key (h.imp_right (hs.free _))
    dsimp only
    rw [hj]
    exact ⟨⟨hs.current, hs.proper, fun r hr => hfree r (hs.free r hr.1) hr.2⟩,
      Failure.avoids_ok ()⟩

/-- Of the keys on one line only the first may have a comment. -/
lemma leaves_forM_addOccurrence (name : Text) {os : List Occurrence}
    (hos : os.Pairwise fun a b => a.line = b.line → b.comment = none)
    (h : ∀ o ∈ os, Index.nonempty o.comment = none ∨ Reference.ofLine name o.line ∈ refs) :
    Leaves current refs {r ∈ refs | ∀ line, r ≠ Reference.ofLine name line}
      (os.forM (c.addOccurrence name)) := by
  induction os generalizing refs with
  | nil => exact (leaves_pure ()).mono (Set.sep_subset _ _)
  | cons o os ih =>
    obtain ⟨hlater, hos⟩ := List.pairwise_cons.mp hos
    have hrest : ∀ o' ∈ os, Index.nonempty o'.comment = none ∨ Reference.ofLine name o'.line ∈
        {r ∈ refs | Index.nonempty o.comment = none ∨ r ≠ Reference.ofLine name o.line} := by
      intro o' ho'
      by_cases hline : o.line = o'.line
      · exact .inl (by rw [hlater o' ho' hline]; rfl)
      · refine (h o' (List.mem_cons_of_mem _ ho')).imp_right fun hmem => ⟨hmem, .inr ?_⟩
        exact fun heq => hline (Reference.ofLine_inj.mp heq).2.symm
    refine (c.leaves_addOccurrence name o (h o List.mem_cons_self)).bind
      (fun _ => (ih hos hrest).mono ?_) ?_
    · exact fun r hr => ⟨⟨hr.1, .inr (hr.2 o.line)⟩, hr.2⟩
    · exact fun r hr => ⟨hr.1, .inr (hr.2 o.line)⟩

/-- What is left of references when a file has taken those to its lines. -/
def without (current : Location) (loc : Location) (refs : Set Text) : Set Text :=
  {r ∈ refs | ∀ line, r ≠ Reference.ofLine (c.nameOf current loc) line}

lemma leaves_addText (loc : Location) (t : Text)
    (h : ∀ line, Reference.ofLine (c.nameOf current loc) line ∈ refs) :
    Leaves current refs (c.without current loc refs) (c.addText loc t) := by
  have hsub : c.without current loc refs ⊆ refs := Set.sep_subset _ _
  have hfind (name : Text) : Action.IsMild .conflict (do
      let found ← Action.ofExcept (Findings.ofText c.options c.rules t)
      Action.sayAll (found.notices name)
      return found) :=
    Action.isMild_bind (Action.isMild_ofExcept (Findings.avoids_ofText _ _ t)) fun _ =>
      Action.isMild_bind (Action.isMild_sayAll _) fun _ => Action.isMild_pure _
  refine (leaves_ofAction (c.isMild_name loc)).bind_of (fun name i s hs heq => ?_) hsub
  rw [Collecting.outcome_ofAction, outcome_name, hs.current] at heq
  obtain rfl : c.nameOf current loc = name := Except.ok.inj heq
  refine (leaves_ofAction (hfind _)).bind_of (fun found i s hs heq => ?_) hsub
  rw [Collecting.outcome_ofAction] at heq
  obtain ⟨_, hfound, heq⟩ := Action.exists_of_outcome_ofExcept_bind heq
  obtain rfl := (Except.ok.inj heq).symm
  have hadd : Leaves current refs (c.without current loc refs)
      (found.occurrences.forM (c.addOccurrence (c.nameOf current loc))) :=
    c.leaves_forM_addOccurrence _ (Findings.first_of_ofText hfound) fun o _ => .inr (h o.line)
  refine hadd.bind (fun _ => ?_) le_rfl
  exact (leaves_ofAction (Action.isMild_detail _ _ _ (by decide))).bind
    (fun _ => leaves_pure _) le_rfl

/-! ### Several files -/

lemma leaves_addLocation (encoding : Value) (loc : Location)
    (h : ∀ line, Reference.ofLine (c.nameOf current loc) line ∈ refs) :
    Leaves current refs (c.without current loc refs) (c.addLocation encoding loc) := by
  have hsub : c.without current loc refs ⊆ refs := Set.sep_subset _ _
  have hread : Action.IsMild .conflict (tryCatch (some <$> c.readText encoding loc) fun f => do
      if isUnreadable f then
        c.passOver "Error reading" loc f
        return none
      else throw f) := by
    refine Action.isMild_tryCatch ?_ fun f hf => ?_
    · rw [← bind_pure_comp]
      exact Action.isMild_bind (c.isMild_readText encoding loc) fun _ => Action.isMild_pure _
    · split
      · exact Action.isMild_bind (c.isMild_passOver _ loc f) fun _ => Action.isMild_pure _
      · exact Action.isMild_throw hf
  refine (leaves_ofAction hread).bind (fun content => ?_) hsub
  cases content with
  | none => exact (leaves_pure 0).mono hsub
  | some t =>
    refine Leaves.tryCatch ?_ fun f hf => ?_
    · rw [← bind_pure_comp]
      exact (c.leaves_addText loc t h).bind (fun _ => leaves_pure _) le_rfl
    · split
      · exact (leaves_ofAction (c.isMild_passOver _ loc f)).bind (fun _ => leaves_pure 0) le_rfl
      · exact leaves_throw hf

/-- The references to the lines of files. -/
def references (current : Location) (files : List Location) : Set Text :=
  {r | ∃ loc ∈ files, ∃ line, r = Reference.ofLine (c.nameOf current loc) line}

/-- A file takes none of the references of files with other names. -/
lemma references_subset_without {loc : Location} {files : List Location}
    (h : ∀ l ∈ files, c.nameOf current l ≠ c.nameOf current loc) :
    c.references current files ⊆ c.without current loc (c.references current (loc :: files)) := by
  rintro r ⟨l, hl, line, rfl⟩
  refine ⟨⟨l, List.mem_cons_of_mem _ hl, line, rfl⟩, fun line' heq => ?_⟩
  exact h l hl (Reference.ofLine_inj.mp heq).1

lemma leaves_mapM_addLocation (encoding : Value) {files : List Location}
    (h : (files.map (c.nameOf current)).Nodup) :
    Leaves current (c.references current files) ∅ (files.mapM (c.addLocation encoding)) := by
  induction files with
  | nil => exact (leaves_pure []).mono (Set.empty_subset _)
  | cons loc files ih =>
    rw [List.map_cons, List.nodup_cons] at h
    have hloc (line : Nat) : Reference.ofLine (c.nameOf current loc) line ∈
        c.references current (loc :: files) := ⟨loc, List.mem_cons_self, line, rfl⟩
    have hrest : c.references current files ⊆
        c.without current loc (c.references current (loc :: files)) :=
      c.references_subset_without fun l hl heq => h.1 (heq ▸ List.mem_map_of_mem hl)
    rw [List.mapM_cons]
    refine ((c.leaves_addLocation encoding loc hloc).mono hrest).bind (fun _ => ?_)
      (Set.empty_subset _)
    exact (ih h.2).bind (fun _ => leaves_pure _) le_rfl

/-- Files that are there have different names. -/
lemma nodup_names {t : FileTree} (ht : t.IsProper) {files : List Location} (hnodup : files.Nodup)
    (hfiles : ∀ l ∈ files, t.isFile l = true) : (files.map (c.nameOf current)).Nodup := by
  refine (List.nodup_map_iff_inj_on hnodup).mpr fun l hl l' hl' heq => ?_
  exact (ht.of_isFile (hfiles l hl)).eq_of_toText_relativeTo (ht.of_isFile (hfiles l' hl')) heq

lemma leaves_addFiles (patterns encoding : Value) :
    Leaves current Set.univ ∅ (c.addFiles patterns encoding) := by
  have hglob : Action.IsMild .conflict (do
      let s ← get
      let files ← Action.ofExcept (s.tree.glob (c.base s.current) patterns)
      Action.say ("Extracting from " ++ Decimal.ofNat files.length ++ " files") (some .blue)
      return files) :=
    Action.isMild_bind Action.isMild_get fun s =>
      Action.isMild_bind (Action.isMild_ofExcept (s.tree.avoids_glob _ patterns)) fun _ =>
        Action.isMild_bind (Action.isMild_say _ _) fun _ => Action.isMild_pure _
  refine (leaves_ofAction hglob).bind_of (fun files i s hs heq => ?_) (Set.empty_subset _)
  rw [Collecting.outcome_ofAction, Action.outcome_bind_ok (Action.outcome_get s)] at heq
  obtain ⟨_, hfiles, heq⟩ := Action.exists_of_outcome_ofExcept_bind heq
  obtain rfl := (Except.ok.inj heq).symm
  obtain ⟨hnodup, hthere⟩ := FileTree.nodup_glob hfiles
  have hnames : (files.map (c.nameOf current)).Nodup := c.nodup_names hs.proper hnodup hthere
  have hadd : Leaves current Set.univ ∅ (files.mapM (c.addLocation encoding)) := fun i s hs =>
    c.leaves_mapM_addLocation encoding hnames i s (hs.mono (Set.subset_univ _))
  exact hadd.bind (fun _ => leaves_ofAction (Action.isMild_say _ _)) le_rfl

lemma leaves_collect (patterns encoding : Value) :
    Leaves current Set.univ ∅ (c.collect patterns encoding) := by
  have hindex : Leaves current ∅ ∅ (getThe Index : Collecting Index) := fun i _ hs =>
    ⟨hs, Failure.avoids_ok i⟩
  refine (c.leaves_addFiles patterns encoding).bind (fun _ => ?_) le_rfl
  refine hindex.bind (fun i => ?_) le_rfl
  exact leaves_ofAction (Action.isMild_ofExcept (c.avoids_messages i))

/-- Of the keys on one line at most one has a comment. -/
lemma countP_comment_le_one {os : List Occurrence}
    (h : os.Pairwise fun a b => a.line = b.line → b.comment = none) (line : Nat) :
    os.countP (fun o => o.line = line ∧ Index.nonempty o.comment ≠ none) ≤ 1 := by
  induction os with
  | nil => exact Nat.zero_le 1
  | cons o os ih =>
    obtain ⟨hlater, hos⟩ := List.pairwise_cons.mp h
    by_cases ho : o.line = line ∧ Index.nonempty o.comment ≠ none
    · rw [List.countP_cons_of_pos (by simpa using ho), List.countP_eq_zero.mpr fun b hb => ?_]
      simp only [decide_eq_true_eq, not_and, not_not]
      intro hline
      rw [hlater b hb (ho.1.trans hline.symm)]
      rfl
    · rw [List.countP_cons_of_neg (by simpa using ho)]
      exact ih hos

/-- Collecting into an empty index never fails for a conflict, whatever the files hold: a file gives
at most one of the keys on a line a comment, and references to different files are different. -/
theorem collect_avoids_conflict (c : Collector) (patterns encoding : Value) {s : Session}
    (hs : s.tree.IsProper) :
    Avoids .conflict ((c.collect patterns encoding).outcome .empty s).1 ∧
      (∀ t found, Findings.ofText c.options c.rules t = .ok found → ∀ line,
        found.occurrences.countP
          (fun o => o.line = line ∧ Index.nonempty o.comment ≠ none) ≤ 1) ∧
      ∀ file file', s.tree.isFile file = true → s.tree.isFile file' = true → file ≠ file' →
        ∀ line line', Reference.ofLine (c.nameOf s.current file) line ≠
          Reference.ofLine (c.nameOf s.current file') line' := by
  refine ⟨?_, ?_, ?_⟩
  · exact (c.leaves_collect patterns encoding .empty s
      ⟨rfl, hs, fun r _ => Index.isFree_empty r⟩).2
  · exact fun t found hfound => countP_comment_le_one (Findings.first_of_ofText hfound)
  · intro file file' hfile hfile' hne line line' heq
    have hnames := (Reference.ofLine_inj.mp heq).1
    exact hne ((hs.of_isFile hfile).eq_of_toText_relativeTo (hs.of_isFile hfile') hnames)

/-- Two source files with the same key on the same line, and different comments beside it. -/
def sources : Session where
  tree :=
    { files := [([['w'], "a.py"], "_('a')#1".toByteArray),
        ([['w'], "b.py"], "_('a')#2".toByteArray)]
      directories := [[], [['w']]] }
  current := [['w']]

/-- A collector that keeps all comments. -/
def keeper : Collector where
  options := { baseDir := ⟨"", []⟩ }
  rules := ⟨true, none, none⟩

def sourcePatterns : Value := .list [.text "a.py", .text "b.py"]

theorem collect_avoids_conflict_sources :
    sources.tree.IsProper ∧
      (((keeper.collect sourcePatterns .null).outcome .empty sources).1.toOption.map
        (List.map Message.key)) = some (["a"] : List Text) ∧
      Avoids .conflict ((keeper.collect sourcePatterns .null).outcome .empty sources).1 ∧
      ∀ line line', Reference.ofLine (keeper.nameOf sources.current [['w'], "a.py"]) line ≠
        Reference.ofLine (keeper.nameOf sources.current [['w'], "b.py"]) line' := by
  have hproper : sources.tree.IsProper := by decide
  obtain ⟨havoids, -, hreferences⟩ :=
    collect_avoids_conflict keeper sourcePatterns .null hproper
  exact ⟨hproper, by decide +kernel, havoids,
    hreferences _ _ (by decide) (by decide) (by decide)⟩

end Collector

end MessageCatalog
