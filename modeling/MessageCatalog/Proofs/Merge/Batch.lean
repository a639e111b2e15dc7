import MessageCatalog.Proofs.CommandLine.Isolation
import MessageCatalog.Proofs.Merge.Destination

/-!
# A batch and its files

A batch guards all of its files and then merges into one after the other. Each file is found once,
and a merge sees no other file of the batch unless its own holds the name of that file. So the
results are those that the merges have in the session at the start, whatever the order of the
files, as long as no file holds the name of another one. A dry run goes the same way up to the
writing, which cannot fail for a file that is there.
-/

namespace MessageCatalog

variable {m : Merger} {s t : Session} {loc : Location} {files : List Location}
  {patterns messages : Value}

namespace Merger

/-! ### The result of a batch -/

lemma update_list {values : List Value} (h : Merge.messageValues messages = .ok values)
    (loc : Location) : m.update loc (.list values) = m.update loc messages := by
  unfold update preview
  rw [h]
  rfl

/-- No file of those that the patterns find holds the name of another one. -/
def HoldsNoNames (m : Merger) (s : Session) (patterns : Value) : Prop :=
  ∀ files, s.tree.glob (m.base s.current) patterns = .ok files →
    ∀ file ∈ files, ∀ other ∈ files, m.pointee? s file = some other → other = file

lemma HoldsNoNames.apart (h : m.HoldsNoNames s patterns)
    (hfiles : s.tree.glob (m.base s.current) patterns = .ok files) :
    Action.Apart (m.sees s) s files :=
  have ⟨hnodup, hfile⟩ := FileTree.nodup_glob hfiles
  apart_of_pointee? hnodup hfile (h files hfiles)

/-- What a batch gives, put together from what the guards and the merges of its files give in the
session at the start. -/
lemma result_updateAll (hplain : m.HoldsNoNames s patterns) (messages : Value) :
    ((m.updateAll patterns messages).outcome s).1 = (do
      let values ← Merge.messageValues messages
      let files ← s.tree.glob (m.base s.current) patterns
      files.forM fun file => ((m.guard file).outcome s).1
      files.mapM fun file => ((m.update file (.list values)).outcome s).1) := by
  unfold updateAll
  rw [Action.outcome_bind, Action.outcome_ofExcept]
  cases Merge.messageValues messages with
  | error f => rfl
  | ok values =>
    cases hfiles : s.tree.glob (m.base s.current) patterns with
    | error f =>
      have hfind : (m.find patterns).outcome s = (.error f, s) := by
        simp [find, Action.outcome_bind, hfiles]
      exact congrArg Prod.fst (Action.outcome_bind_error hfind)
    | ok files =>
      -- The guards change nothing, and no merge sees another file of the batch.
      have hapart := hplain.apart hfiles
      have hguard := Action.result_forM_local (isQuiet_guard m)
        (fun file hfile => isLocalAt_guard m (hapart.isFile file hfile)) (.refl s)
      simp only [Action.outcome_bind_ok (outcome_find hfiles)]
      cases h : (files.forM m.guard).outcome s with
      | mk r t =>
        rw [h] at hguard
        have hheard := (Action.isQuiet_forM (isQuiet_guard m) files).heard h
        cases r with
        | error f =>
          rw [Action.outcome_bind_error h]
          simp [bind, Except.bind, ← hguard]
        | ok _ =>
          obtain ⟨u, hu⟩ := exists_outcome_sayCount "Updating" " po files" files t
          have hheard' := hheard.trans ((isQuiet_sayCount _ _ _).heard hu)
          rw [Action.outcome_bind_ok h, Action.outcome_bind_ok hu]
          simp only [bind, Except.bind, ← hguard]
          exact Action.result_mapM_local hapart
            (fun file hfile => isLocalAt_update m (hapart.isFile file hfile) (.list values))
            fun file _ => hheard'.agreeOn _

lemma of_outcome_find (h : (m.find patterns).outcome s = (.ok files, t)) :
    s.tree.glob (m.base s.current) patterns = .ok files ∧ s = t := by
  obtain ⟨_, _, hget, hfiles⟩ := Action.outcome_bind_eq_ok_iff.mp h
  obtain ⟨rfl, rfl⟩ : s = _ ∧ s = _ := by simpa using hget
  exact Prod.mk.inj hfiles

/-- A batch that ends well guards its files and merges into them, and its result and the contents
are those of the merges alone. -/
lemma of_outcome_updateAll (hplain : m.HoldsNoNames s patterns) {results : List FileMerge}
    (h : (m.updateAll patterns messages).outcome s = (.ok results, t)) :
    ∃ files, s.tree.glob (m.base s.current) patterns = .ok files ∧
      List.Forall₂ (fun file r => ((m.update file messages).outcome s).1 = .ok r) files results ∧
      (∀ file ∈ files,
        t.tree.content? file = ((m.update file messages).outcome s).2.tree.content? file) ∧
      ∀ loc ∉ files, t.tree.content? loc = s.tree.content? loc := by
  obtain ⟨values, _, hvalues, hfound⟩ := Action.outcome_bind_eq_ok_iff.mp h
  obtain ⟨hlist, rfl⟩ := Prod.mk.inj hvalues
  obtain ⟨files, _, hfind, hchecked⟩ := Action.outcome_bind_eq_ok_iff.mp hfound
  obtain ⟨hglob, rfl⟩ := of_outcome_find hfind
  obtain ⟨_, s₁, hguard, hcounted⟩ := Action.outcome_bind_eq_ok_iff.mp hchecked
  obtain ⟨_, s₂, hcount, hmerged⟩ := Action.outcome_bind_eq_ok_iff.mp hcounted
  have hapart := hplain.apart hglob
  have hlocal := fun file hfile => isLocalAt_update m (hapart.isFile file hfile) (.list values)
  have hheard := ((Action.isQuiet_forM (isQuiet_guard m) files).heard hguard).trans
    ((isQuiet_sayCount _ _ _).heard hcount)
  have hagree := fun file (_ : file ∈ files) => hheard.agreeOn (m.sees s file)
  have hresult := Action.result_mapM_local hapart hlocal hagree
  have hcontent := Action.content?_mapM_local hapart hlocal
    (fun file _ => m.mem_sees_self s file) hagree hmerged
  rw [hmerged, eq_comm, Failure.mapM_eq_ok_iff] at hresult
  simp only [update_list hlist, hheard.tree_eq] at hresult hcontent
  exact ⟨files, hglob, hresult, hcontent⟩

/-- Patterns in another order give the same results in another order, and the same contents. -/
lemma updateAll_perm (hplain : m.HoldsNoNames s patterns) {patterns' : Value}
    {items items' : List Value} {results : List FileMerge}
    (hitems : Glob.patternsOf patterns = .ok items)
    (hitems' : Glob.patternsOf patterns' = .ok items') (hperm : items.Perm items')
    (h : (m.updateAll patterns messages).outcome s = (.ok results, t)) :
    ∃ results' t', (m.updateAll patterns' messages).outcome s = (.ok results', t') ∧
      results.Perm results' ∧ ∀ loc, t'.tree.content? loc = t.tree.content? loc := by
  have hresult := result_updateAll hplain messages
  rw [h, eq_comm] at hresult
  obtain ⟨values, hvalues, hfound⟩ := Failure.bind_eq_ok_iff.mp hresult
  obtain ⟨files, hglob, hchecked⟩ := Failure.bind_eq_ok_iff.mp hfound
  obtain ⟨_, hguards, hmerges⟩ := Failure.bind_eq_ok_iff.mp hchecked
  -- The same files are found, so the same merges run in another order.
  obtain ⟨files', hglob', hfiles⟩ :=
    FileTree.glob_perm hperm (FileTree.glob_of_patternsOf hitems ▸ hglob)
  rw [← FileTree.glob_of_patternsOf hitems'] at hglob'
  have hplain' : m.HoldsNoNames s patterns' := by
    intro found hfound file hfile other hother
    obtain rfl := Except.ok.inj (hglob'.symm.trans hfound)
    exact hplain files hglob file (hfiles.mem_iff.mpr hfile) other (hfiles.mem_iff.mpr hother)
  obtain ⟨results', hmerges', hresults⟩ := Failure.mapM_perm hfiles hmerges
  have hguards' := Failure.forM_eq_ok_iff.mpr fun file hfile =>
    Failure.forM_eq_ok_iff.mp hguards file (hfiles.mem_iff.mpr hfile)
  have hresult' : ((m.updateAll patterns' messages).outcome s).1 = .ok results' := by
    rw [result_updateAll hplain']
    exact Failure.bind_eq_ok_iff.mpr ⟨values, hvalues, Failure.bind_eq_ok_iff.mpr
      ⟨files', hglob', Failure.bind_eq_ok_iff.mpr ⟨(), hguards', hmerges'⟩⟩⟩
  have h' : (m.updateAll patterns' messages).outcome s =
      (.ok results', ((m.updateAll patterns' messages).outcome s).2) := by rw [← hresult']
  refine ⟨results', _, h', hresults, fun loc => ?_⟩
  obtain ⟨found, hfound, -, hin, hout⟩ := of_outcome_updateAll hplain h
  obtain ⟨found', hfound', -, hin', hout'⟩ := of_outcome_updateAll hplain' h'
  obtain rfl := Except.ok.inj (hfound.symm.trans hglob)
  obtain rfl := Except.ok.inj (hfound'.symm.trans hglob')
  by_cases hloc : loc ∈ found
  · rw [hin' loc (hfiles.mem_iff.mp hloc), hin loc hloc]
  · rw [hout' loc (hfiles.mem_iff.not.mp hloc), hout loc hloc]

/-! ### Dry runs -/

/-- The merger with another setting for dry runs. -/
def withDryRun (m : Merger) (dry : Value) : Merger := ⟨{ m.options with dryRun := dry }⟩

lemma isQuiet_update (hdry : m.options.dryRun.truthy = true) (loc : Location) (messages : Value) :
    (m.update loc messages).IsQuiet := by
  refine Action.isQuiet_bind (isQuiet_guard m loc) fun _ => ?_
  refine Action.isQuiet_bind (isQuiet_preview m loc messages) fun r => ?_
  unfold writeFile
  rw [if_pos hdry]
  split
  · refine Action.isQuiet_bind ?_ fun _ => Action.isQuiet_pure _
    exact Action.isQuiet_bind (Action.isQuiet_say _ _) fun _ => Action.isQuiet_pure false
  · exact Action.isQuiet_bind (Action.isQuiet_say _ _) fun _ => Action.isQuiet_pure r

lemma isQuiet_updateAll (hdry : m.options.dryRun.truthy = true) (patterns messages : Value) :
    (m.updateAll patterns messages).IsQuiet := by
  refine Action.isQuiet_bind (Action.isQuiet_ofExcept _) fun values => ?_
  refine Action.isQuiet_bind (isQuiet_find m patterns) fun files => ?_
  refine Action.isQuiet_bind (Action.isQuiet_forM (isQuiet_guard m) files) fun _ => ?_
  refine Action.isQuiet_bind (isQuiet_sayCount _ _ files) fun _ => ?_
  exact Action.isQuiet_mapM (isQuiet_update hdry · (.list values)) files

end Merger

/-- The result of a merge that was not written. -/
def FileMerge.unwritten (r : FileMerge) : FileMerge := { r with written := false }

namespace Merger

lemma outcome_writeFile_dry (hdry : m.options.dryRun.truthy = true) (name : Text) (loc : Location)
    (bytes : ByteArray) : ((m.writeFile name loc bytes).outcome s).1 = .ok false := by
  unfold writeFile
  rw [if_pos hdry]
  rfl

lemma exists_outcome_writeFile (m : Merger) (name : Text) (hrooted : s.tree.IsRooted)
    (hfile : s.tree.isFile loc) (hdir : s.tree.isDirectory loc = false) (bytes : ByteArray) :
    ∃ b, ((m.writeFile name loc bytes).outcome s).1 = .ok b := by
  cases hdry : m.options.dryRun.truthy with
  | true => exact ⟨false, outcome_writeFile_dry hdry name loc bytes⟩
  | false =>
    unfold writeFile
    rw [hdry, if_neg Bool.false_ne_true, Action.outcome_bind_ok (Action.outcome_say _ _ s),
      Action.write, Action.outcome_bind, Action.outcome_change,
      hrooted.write_eq_put hfile hdir bytes]
    exact ⟨true, rfl⟩

/-- A dry run of a merge into a file that is there has the result of the merge, not written. -/
lemma result_update_withDryRun {dry : Value} (hdry : dry.truthy = true)
    (hrooted : s.tree.IsRooted) (hfile : s.tree.isFile loc)
    (hdir : s.tree.isDirectory loc = false) :
    (((m.withDryRun dry).update loc messages).outcome s).1 =
      ((m.update loc messages).outcome s).1.map FileMerge.unwritten := by
  have hguard : (m.withDryRun dry).guard loc = m.guard loc := rfl
  have hpreview : (m.withDryRun dry).preview loc messages = m.preview loc messages := rfl
  unfold update
  rw [hguard, hpreview]
  -- Guard and preview are the same, so the two updates differ only in the writing at the end.
  cases h : (m.guard loc).outcome s with
  | mk r t =>
    have ht := (isQuiet_guard m loc).heard h
    cases r with
    | error f => rw [Action.outcome_bind_error h, Action.outcome_bind_error h]; rfl
    | ok _ =>
      rw [Action.outcome_bind_ok h, Action.outcome_bind_ok h]
      cases h' : (m.preview loc messages).outcome t with
      | mk r u =>
        have hu := ht.trans ((isQuiet_preview m loc messages).heard h')
        cases r with
        | error f => rw [Action.outcome_bind_error h', Action.outcome_bind_error h']; rfl
        | ok r =>
          obtain ⟨-, hwritten, -⟩ := isPreview_of_outcome h'
          have hneeds : (m.withDryRun dry).needsWriting r = m.needsWriting r := rfl
          rw [Action.outcome_bind_ok h', Action.outcome_bind_ok h', hneeds]
          split
          · obtain ⟨b, hb⟩ := exists_outcome_writeFile m r.file (hu.tree_eq ▸ hrooted)
              (hu.tree_eq ▸ hfile) (hu.tree_eq ▸ hdir) r.content
            simp [hb, outcome_writeFile_dry (m := m.withDryRun dry) hdry, Except.map,
              FileMerge.unwritten]
          · simp [Except.map, FileMerge.unwritten, ← hwritten]

/-- A dry run of a batch has the results of the batch, not written. -/
lemma result_updateAll_withDryRun {dry : Value} (hdry : dry.truthy = true)
    (hnames : m.HoldsNoNames s patterns) (hrooted : s.tree.IsRooted)
    (hplain : ∀ f ∈ s.tree.files, s.tree.isDirectory f.1 = false) :
    (((m.withDryRun dry).updateAll patterns messages).outcome s).1 =
      ((m.updateAll patterns messages).outcome s).1.map (List.map FileMerge.unwritten) := by
  have hbase : (m.withDryRun dry).base = m.base := rfl
  have hguard : (m.withDryRun dry).guard = m.guard := rfl
  have hnames' : (m.withDryRun dry).HoldsNoNames s patterns := hnames
  rw [result_updateAll hnames, result_updateAll hnames', hbase, hguard]
  cases Merge.messageValues messages with
  | error f => rfl
  | ok values =>
    cases hfiles : s.tree.glob (m.base s.current) patterns with
    | error f => rfl
    | ok files =>
      simp only [bind, Except.bind]
      cases files.forM fun file => ((m.guard file).outcome s).1 with
      | error f => rfl
      | ok _ =>
        obtain ⟨-, hfile⟩ := FileTree.nodup_glob hfiles
        refine (Failure.mapM_congr fun file hmem => ?_).trans (Failure.mapM_map _ _ files)
        exact result_update_withDryRun hdry hrooted (hfile file hmem)
          (FileTree.isDirectory_of_isFile hplain (hfile file hmem))

/-- A dry run of a batch leaves the tree as it is. If none of the files holds the name of another
one and the batch ends well, its results are those that the merge into each file alone has at the
start, each file that was found has the content which that merge leaves, and all other files are as
they were; patterns in another order give the same results in another order and the same contents.
And however such a batch ends, its dry run ends with the same failure or the same results, not
written. -/
theorem updateAll_sums {dry : Value} (hdry : dry.truthy = true) (hrooted : s.tree.IsRooted)
    (hplain : ∀ f ∈ s.tree.files, s.tree.isDirectory f.1 = false) (m : Merger)
    (patterns messages : Value) :
    (((m.withDryRun dry).updateAll patterns messages).outcome s).2.tree = s.tree ∧
    (m.HoldsNoNames s patterns →
      (∀ results t, (m.updateAll patterns messages).outcome s = (.ok results, t) →
        (∃ files, s.tree.glob (m.base s.current) patterns = .ok files ∧ files.Nodup ∧
          List.Forall₂ (fun file r => ∃ u, (m.update file messages).outcome s = (.ok r, u) ∧
            t.tree.content? file = u.tree.content? file) files results ∧
          ∀ loc ∉ files, t.tree.content? loc = s.tree.content? loc) ∧
        ∀ patterns' items items', Glob.patternsOf patterns = .ok items →
          Glob.patternsOf patterns' = .ok items' → items.Perm items' →
          ∃ results' t', (m.updateAll patterns' messages).outcome s = (.ok results', t') ∧
            results.Perm results' ∧ ∀ loc, t'.tree.content? loc = t.tree.content? loc) ∧
      (((m.withDryRun dry).updateAll patterns messages).outcome s).1 =
        ((m.updateAll patterns messages).outcome s).1.map (List.map FileMerge.unwritten)) := by
  refine ⟨(isQuiet_updateAll (m := m.withDryRun dry) hdry patterns messages s).tree_eq,
    fun hnames => ⟨fun results t h => ⟨?_, fun _ _ _ hitems hitems' hperm =>
      updateAll_perm hnames hitems hitems' hperm h⟩,
      result_updateAll_withDryRun hdry hnames hrooted hplain⟩⟩
  obtain ⟨files, hglob, hresults, hin, hout⟩ := of_outcome_updateAll hnames h
  refine ⟨files, hglob, (FileTree.nodup_glob hglob).1, ?_, hout⟩
  exact ((List.forall₂_and_left files results).mpr ⟨hin, hresults⟩).imp
    fun file r ⟨hcontent, hr⟩ => ⟨_, Prod.ext hr rfl, hcontent⟩

/-- A merger for the crates that keeps the entries of the messages only. -/
def cratesCleaner : Merger where
  options := { cratesMerger.options with replace := .bool true }

def cratesMessages : Value := .list [.object [("key", .text "one")]]

theorem updateAll_sums_crates : ∃ r r' t,
    (cratesCleaner.updateAll cratesPatterns cratesMessages).outcome crates = (.ok [r, r'], t) ∧
      (r.written && r'.written) = true ∧
      (∃ u, (cratesCleaner.update [['w'], ['b'], "de.po"] cratesMessages).outcome crates =
        (.ok r', u) ∧ t.tree.content? [['w'], ['b'], "de.po"] =
          u.tree.content? [['w'], ['b'], "de.po"]) ∧
      (((cratesCleaner.withDryRun (.bool true)).updateAll cratesPatterns cratesMessages).outcome
        crates).1 = .ok [r.unwritten, r'.unwritten] := by
  have hrun : (two? ((cratesCleaner.updateAll cratesPatterns cratesMessages).outcome
      crates)).any (fun p => p.1.written && p.2.1.written) = true := by decide +kernel
  have hglob : crates.tree.glob (cratesCleaner.base crates.current) cratesPatterns =
      .ok [[['w'], ['a'], "de.po"], [['w'], ['b'], "de.po"]] := by rfl
  obtain ⟨⟨r, r', t⟩, h, hwritten⟩ := (Option.any_eq_true _ _).mp hrun
  have htrue : (Value.bool true).truthy = true := rfl
  have hnames : cratesCleaner.HoldsNoNames crates cratesPatterns := by
    intro files hfiles
    obtain rfl := Except.ok.inj (hglob.symm.trans hfiles)
    decide +kernel
  obtain ⟨-, hsums⟩ := updateAll_sums (s := crates) htrue (by decide) (by decide)
    cratesCleaner cratesPatterns cratesMessages
  obtain ⟨hbatch, hdry⟩ := hsums hnames
  obtain ⟨⟨files, hfiles, -, hresults, -⟩, -⟩ := hbatch _ _ (eq_of_two? h)
  obtain rfl := Except.ok.inj (hglob.symm.trans hfiles)
  obtain ⟨-, hrest⟩ := List.forall₂_cons.mp hresults
  refine ⟨r, r', t, eq_of_two? h, hwritten, (List.forall₂_cons.mp hrest).1, ?_⟩
  rw [hdry, eq_of_two? h]
  rfl

/-- Two catalog files, one of which holds the name of the other. -/
def signpost : Session where
  tree :=
    { files :=
        [([['w'], "a.po"], "b.po".toByteArray), ([['w'], "b.po"], "msgid \"\"\n".toByteArray)]
      directories := [[], [['w']]] }
  current := [['w']]

/-- Then the order of the files counts: what was merged into the one file is found for the other. -/
example :
    let added (names : List Value) := ((cratesMerger.updateAll (.list names) cratesMessages).outcome
      signpost).1.toOption.map (List.map fun r => (r.report.ids .added).length)
    added [.text "a.po", .text "b.po"] = some [1, 1] ∧
      added [.text "b.po", .text "a.po"] = some [1, 0] := by
  decide +kernel

end Merger
end MessageCatalog
