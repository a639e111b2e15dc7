import MessageCatalog.Proofs.Merge.Atomic
import MessageCatalog.Proofs.Workspace.Path

/-!
# Destinations of a batch

A batch writes the result for a file below another directory, to the place of the file less its
first component. Files that differ in the first component only have the same destination, and the
last result that goes there stays.
-/

namespace MessageCatalog

open Location

namespace Merger

/-- A path less its first component, unless there is no other. -/
def shortened (parts : List Text) : List Text := if parts.length ≤ 1 then parts else parts.drop 1

/-- The location that the destination of a file leads to. -/
def target (m : Merger) (current : Location) (directory : Text) (source : Location) : Location :=
  resolve [] (m.destination current source directory)

variable {m : Merger} {current source loc : Location} {directory : Text} {messages : Value}
  {s t : Session} {r : FileMerge} {rs : List FileMerge}

/-! ### Names -/

/-- The name of a location leads to it. -/
lemma locate_nameOf (m : Merger) (current : Location) (h : loc.IsProper) :
    m.locate current (m.nameOf current loc) = loc :=
  resolve_ofText_relativeTo h _

lemma isProper_target (hbase : (m.base current).IsProper) (h : source.IsProper) :
    (m.target current directory source).IsProper := by
  have hdirectory : (m.locate current directory).IsProper := hbase.resolve directory
  have hparts : ∀ part ∈ shortened (stepsTo (m.base current) source), Path.IsComponent part := by
    intro part hmem
    unfold shortened at hmem
    split at hmem
    · exact h.isComponent_of_mem_stepsTo hmem
    · exact h.isComponent_of_mem_stepsTo (List.mem_of_mem_drop hmem)
  refine isProper_nil.follow fun part hmem => ?_
  exact (List.mem_append.mp hmem).elim (hdirectory.2 part) (hparts part)

/-- A file below the base directory goes to its shortened path below the other directory. -/
lemma target_append (hbase : (m.base current).IsProper) {way : Location} (hway : way.IsNormal) :
    m.target current directory (m.base current ++ way) =
      m.locate current directory ++ shortened way := by
  have hdirectory : (m.locate current directory).IsProper := hbase.resolve directory
  have hshort : ['.', '.'] ∉ shortened way := by
    unfold shortened
    split
    · exact hway
    · exact fun hmem => hway (List.mem_of_mem_drop hmem)
  have hnormal : IsNormal (m.locate current directory ++ shortened way) := fun hmem =>
    (List.mem_append.mp hmem).elim hdirectory.1 hshort
  have hdestination : m.destination current (m.base current ++ way) directory =
      ⟨"/", m.locate current directory ++ shortened way⟩ := by
    rw [destination, relativeTo, stepsTo_append, shortened]
  rw [target, hdestination]
  exact follow_of_isNormal hnormal []

/-! ### One result -/

lemma sourceFile_of_preview (h : (m.preview source messages).outcome s = (.ok r, t)) :
    r.sourceFile = m.nameOf s.current source := by
  rw [preview] at h
  obtain ⟨values, s₁, hvalues, h⟩ := Action.outcome_bind_eq_ok_iff.mp h
  obtain ⟨s₂, s₃, hget, h⟩ := Action.outcome_bind_eq_ok_iff.mp h
  obtain ⟨_, s₄, -, h⟩ := Action.outcome_bind_eq_ok_iff.mp h
  obtain ⟨bytes, s₅, -, h⟩ := Action.outcome_bind_eq_ok_iff.mp h
  obtain ⟨_, s₆, -, h⟩ := Action.outcome_bind_eq_ok_iff.mp h
  obtain ⟨c, s₇, -, h⟩ := Action.outcome_bind_eq_ok_iff.mp h
  obtain ⟨report, s₈, -, h⟩ := Action.outcome_bind_eq_ok_iff.mp h
  obtain ⟨content, s₉, -, hresult⟩ := Action.outcome_bind_eq_ok_iff.mp h
  obtain ⟨-, rfl⟩ := Prod.mk.inj hvalues
  obtain ⟨hsession, -⟩ := Prod.mk.inj hget
  obtain rfl := Except.ok.inj hsession
  obtain rfl := Except.ok.inj (Prod.mk.inj hresult).1
  rfl

lemma current_makeDirectory (loc : Location) (s : Session) :
    ((Action.makeDirectory loc).outcome s).2.current = s.current := by
  rw [Action.makeDirectory, Action.outcome_change]
  cases s.tree.makeDirectory loc <;> rfl

lemma current_writeFile (m : Merger) (name : Text) (loc : Location) (bytes : ByteArray)
    (s : Session) : ((m.writeFile name loc bytes).outcome s).2.current = s.current := by
  cases hdry : m.options.dryRun.truthy with
  | true =>
    rw [writeFile, if_pos hdry]
    rfl
  | false =>
    obtain ⟨t, ht, hwrite⟩ := @outcome_writeFile m loc hdry name bytes s
    rw [hwrite]
    cases s.tree.write loc bytes <;> exact ht.current_eq

/-- A result names the file that the messages were merged into, and the one that was written. -/
lemma names_of_outcome_updateTo (h : (m.updateTo source loc messages).outcome s = (.ok r, t)) :
    r.sourceFile = m.nameOf s.current source ∧ r.file = m.nameOf s.current loc ∧
      t.current = s.current := by
  rw [updateTo] at h
  obtain ⟨_, s₁, hguard, h⟩ := Action.outcome_bind_eq_ok_iff.mp h
  obtain ⟨p, s₂, hpreview, h⟩ := Action.outcome_bind_eq_ok_iff.mp h
  obtain ⟨s₂', s₃, hget, h⟩ := Action.outcome_bind_eq_ok_iff.mp h
  obtain ⟨_, s₄, hmake, h⟩ := Action.outcome_bind_eq_ok_iff.mp h
  obtain ⟨w, s₅, hwrite, hresult⟩ := Action.outcome_bind_eq_ok_iff.mp h
  obtain ⟨hsession, rfl⟩ := Prod.mk.inj hget
  obtain rfl := Except.ok.inj hsession
  obtain ⟨hmerge, rfl⟩ := Prod.mk.inj hresult
  obtain rfl := Except.ok.inj hmerge
  have h₁ := ((isQuiet_guardPresent m loc.toPath).heard hguard).current_eq
  have h₂ := ((isQuiet_preview m source messages).heard hpreview).current_eq
  have h₃ := current_makeDirectory loc.dropLast s₂
  have h₄ := current_writeFile m (m.nameOf s₂.current loc) loc p.content s₄
  rw [hmake] at h₃
  rw [hwrite] at h₄
  refine ⟨?_, ?_, h₄.trans (h₃.trans (h₂.trans h₁))⟩
  · have hsource := sourceFile_of_preview hpreview
    rwa [h₁] at hsource
  · rw [← h₁, ← h₂]

/-! ### All results -/

/-- The results in the order in which they were written, seen at the end: each is named after its
source and its target, a place that no result went to is as it was, and a result with no other one
for the same file after it is what the file holds. -/
structure IsBatch (m : Merger) (directory : Text) (s t : Session) (files : List Location)
    (rs : List FileMerge) : Prop where
  names : List.Forall₂ (fun file r => r.sourceFile = m.nameOf s.current file ∧
    r.file = m.nameOf s.current (m.target s.current directory file)) files rs
  others : ∀ l, (∀ r ∈ rs, m.locate s.current r.file ≠ l) → t.tree.content? l = s.tree.content? l
  last : ∀ before r after, rs = before ++ r :: after → (∀ r' ∈ after, r'.file ≠ r.file) →
    t.tree.content? (m.locate s.current r.file) = some r.content

lemma isBatch_of_outcome (hdry : m.options.dryRun.truthy = false)
    (hbase : (m.base s.current).IsProper) {files : List Location}
    (hfiles : ∀ file ∈ files, file.IsProper)
    (h : (files.mapM fun file =>
      m.updateTo file (m.target s.current directory file) messages).outcome s = (.ok rs, t)) :
    m.IsBatch directory s t files rs := by
  -- Every merge runs in a session of its own, but all in the same directory.
  suffices hrun : ∀ u, u.current = s.current → (files.mapM fun file =>
      m.updateTo file (m.target s.current directory file) messages).outcome u = (.ok rs, t) →
      m.IsBatch directory u t files rs from hrun s rfl h
  clear h
  intro u hu h
  induction files generalizing u rs with
  | nil =>
    obtain ⟨hrs, rfl⟩ := Prod.mk.inj h
    obtain rfl := Except.ok.inj hrs
    exact ⟨.nil, fun _ _ => rfl, fun before r after hsplit => by simp at hsplit⟩
  | cons file files ih =>
    rw [List.mapM_cons] at h
    obtain ⟨r, v, hfirst, h⟩ := Action.outcome_bind_eq_ok_iff.mp h
    obtain ⟨rs', t', hrest, hresult⟩ := Action.outcome_bind_eq_ok_iff.mp h
    obtain ⟨hrs, rfl⟩ := Prod.mk.inj hresult
    obtain rfl := Except.ok.inj hrs
    obtain ⟨hsource, hfile, hcurrent⟩ := names_of_outcome_updateTo hfirst
    have hwritten := allOrNothing_updateTo m file (m.target s.current directory file) messages u
    rw [hfirst] at hwritten
    obtain ⟨hkept, hcontent, -⟩ := hwritten
    have hproper : (m.target s.current directory file).IsProper :=
      isProper_target hbase (hfiles file List.mem_cons_self)
    have hlocate : m.locate u.current r.file = m.target s.current directory file := by
      rw [hfile, locate_nameOf m u.current hproper]
    obtain ⟨hnames, hothers, hlast⟩ := ih (fun l hl => hfiles l (List.mem_cons_of_mem _ hl)) v
      (hcurrent.trans hu) hrest
    rw [hcurrent] at hnames hothers hlast
    refine ⟨.cons ⟨hsource, hu ▸ hfile⟩ hnames, fun l hl => ?_,
      fun before r' after hsplit hafter => ?_⟩
    · rw [hothers l fun r' hr' => hl r' (List.mem_cons_of_mem _ hr')]
      exact hkept l fun hl' => hl r List.mem_cons_self (hlocate.trans hl'.symm)
    · cases before with
      | cons r₀ before =>
        exact hlast before r' after (List.cons.inj hsplit).2 hafter
      | nil =>
        obtain ⟨rfl, rfl⟩ := List.cons.inj hsplit
        rw [hothers _ fun r' hr' heq => ?_, hlocate, hcontent hdry]
        -- A later result in the same place has the same file.
        obtain ⟨file', hmem, -, hfile'⟩ := Failure.exists_of_forall₂ hnames hr'
        have hproper' : (m.target u.current directory file').IsProper :=
          isProper_target (hu ▸ hbase) (hfiles file' (List.mem_cons_of_mem _ hmem))
        rw [hfile', locate_nameOf m u.current hproper', hlocate] at heq
        exact hafter r' hr' (by rw [hfile', hfile, heq])

lemma of_outcome_updateAllTo {patterns : Value}
    (h : (m.updateAllTo patterns directory messages).outcome s = (.ok rs, t)) :
    ∃ files values u, s.tree.glob (m.base s.current) patterns = .ok files ∧ s.Heard u ∧
      (files.mapM fun file => m.updateTo file (m.target s.current directory file)
        (.list values)).outcome u = (.ok rs, t) := by
  rw [updateAllTo] at h
  obtain ⟨values, s₁, hvalues, h₁⟩ := Action.outcome_bind_eq_ok_iff.mp h
  obtain ⟨files, s₂, hfind, h₂⟩ := Action.outcome_bind_eq_ok_iff.mp h₁
  obtain ⟨s₂', s₃, hget, h₃⟩ := Action.outcome_bind_eq_ok_iff.mp h₂
  obtain ⟨_, s₄, hcount, h₄⟩ := Action.outcome_bind_eq_ok_iff.mp h₃
  obtain ⟨_, s₅, hguard, hrun⟩ := Action.outcome_bind_eq_ok_iff.mp h₄
  obtain ⟨-, rfl⟩ := Prod.mk.inj hvalues
  obtain ⟨hsession, rfl⟩ := Prod.mk.inj hget
  obtain rfl := Except.ok.inj hsession
  have hfound : s.tree.glob (m.base s.current) patterns = .ok files ∧ s = s₂ :=
    Prod.mk.inj (show _ = _ from hfind)
  obtain ⟨hfiles, rfl⟩ := hfound
  have hcounted := (isQuiet_sayCount "Creating" " new po files" files).heard hcount
  have hguarded := (Action.isQuiet_forM (isQuiet_guardPresent m) _).heard hguard
  refine ⟨files, values, s₅, hfiles, hcounted.trans hguarded, ?_⟩
  have hzip : files.zip (files.map fun file => m.destination s.current file directory) =
      files.map fun file => (file, m.destination s.current file directory) :=
    List.map_prod_left_eq_zip.symm
  rw [hzip, List.mapM_map] at hrun
  exact hrun

/-- In the file of every result is the content of the last result with that file. Two files below
the base directory have the same target just when their paths are the same after the first
component. -/
theorem updateAllTo_keeps_last {patterns : Value} (hdry : m.options.dryRun.truthy = false)
    (hbase : (m.base s.current).IsProper) (htree : s.tree.IsProper)
    (h : (m.updateAllTo patterns directory messages).outcome s = (.ok rs, t)) :
    ∃ files, s.tree.glob (m.base s.current) patterns = .ok files ∧ files.Nodup ∧
      List.Forall₂ (fun file r => r.sourceFile = m.nameOf s.current file ∧
        r.file = m.nameOf s.current (m.target s.current directory file)) files rs ∧
      (∀ before r after, rs = before ++ r :: after → (∀ r' ∈ after, r'.file ≠ r.file) →
        t.tree.content? (m.locate s.current r.file) = some r.content) ∧
      ∀ way way', m.base s.current ++ way ∈ files → m.base s.current ++ way' ∈ files →
        (m.target s.current directory (m.base s.current ++ way) =
          m.target s.current directory (m.base s.current ++ way') ↔
            shortened way = shortened way') := by
  obtain ⟨files, values, u, hglob, hu, hrun⟩ := of_outcome_updateAllTo h
  obtain ⟨hnodup, hthere⟩ := FileTree.nodup_glob hglob
  have hfiles : ∀ file ∈ files, file.IsProper := fun file hmem =>
    htree.of_isFile (hthere file hmem)
  rw [← hu.current_eq] at hrun
  have hbatch := isBatch_of_outcome hdry (hu.current_eq ▸ hbase) hfiles hrun
  refine ⟨files, hglob, hnodup, hu.current_eq ▸ hbatch.names, hu.current_eq ▸ hbatch.last, ?_⟩
  intro way way' hway hway'
  have hnormal {way : Location} (hmem : m.base s.current ++ way ∈ files) : way.IsNormal :=
    fun hup => (hfiles _ hmem).1 (List.mem_append_right _ hup)
  rw [target_append hbase (hnormal hway), target_append hbase (hnormal hway'),
    List.append_cancel_left_eq]

/-- Two catalog files of the same name below different directories. -/
def crates : Session where
  tree :=
    { files := [([['w'], ['a'], "de.po"], "msgid \"one\"\nmsgstr \"1\"\n".toByteArray),
        ([['w'], ['b'], "de.po"], "msgid \"two\"\nmsgstr \"2\"\n".toByteArray)]
      directories := [[], [['w']], [['w'], ['a']], [['w'], ['b']]] }
  current := [['w']]

/-- A merger that does not ask git. -/
def cratesMerger : Merger where
  options := { MergeOptions.default { current := [['w']] } with gitCheck := .bool false }

def cratesPatterns : Value := .list [.text "a/de.po", .text "b/de.po"]

/-- The two results of a batch of two files, and the session afterwards. -/
def two? : Except Failure (List FileMerge) × Session → Option (FileMerge × FileMerge × Session)
  | (.ok [r, r'], t) => some (r, r', t)
  | _ => none

lemma eq_of_two? {o : Except Failure (List FileMerge) × Session}
    {p : FileMerge × FileMerge × Session} (h : two? o = some p) :
    o = (.ok [p.1, p.2.1], p.2.2) := by
  unfold two? at h
  split at h
  · obtain rfl := Option.some.inj h
    rfl
  · cases h

/-- The first of the two results is lost. -/
theorem updateAllTo_loses_crates : ∃ r r' t,
    (cratesMerger.updateAllTo cratesPatterns "out" (.list [])).outcome crates = (.ok [r, r'], t) ∧
      r.sourceFile ≠ r'.sourceFile ∧ r.file = r'.file ∧
        t.tree.content? (cratesMerger.locate crates.current r.file) ≠ some r.content := by
  have hrun : (two? ((cratesMerger.updateAllTo cratesPatterns "out" (.list [])).outcome
      crates)).any (fun p => decide (p.1.sourceFile ≠ p.2.1.sourceFile ∧ p.1.file = p.2.1.file ∧
        (p.2.2.tree.content? (cratesMerger.locate crates.current p.1.file)).map (·.data) ≠
          some p.1.content.data)) = true := by decide +kernel
  obtain ⟨⟨r, r', t⟩, h, hrun⟩ := (Option.any_eq_true _ _).mp hrun
  obtain ⟨hsource, hfile, hlost⟩ := of_decide_eq_true hrun
  exact ⟨r, r', t, eq_of_two? h, hsource, hfile, fun heq => hlost (by rw [heq]; rfl)⟩

theorem updateAllTo_keeps_last_crates : ∃ r r' t,
    (cratesMerger.updateAllTo cratesPatterns "out" (.list [])).outcome crates = (.ok [r, r'], t) ∧
      t.tree.content? (cratesMerger.locate crates.current r'.file) = some r'.content := by
  have hrun : (two? ((cratesMerger.updateAllTo cratesPatterns "out" (.list [])).outcome
      crates)).isSome = true := by decide +kernel
  obtain ⟨⟨r, r', t⟩, h⟩ := Option.isSome_iff_exists.mp hrun
  obtain ⟨files, -, -, -, hlast, -⟩ :=
    updateAllTo_keeps_last (by decide) (by decide) (by decide) (eq_of_two? h)
  exact ⟨r, r', t, eq_of_two? h, hlast [r] r' [] rfl (List.forall_mem_nil _)⟩

end Merger

end MessageCatalog
