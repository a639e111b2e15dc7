import MessageCatalog.Proofs.Merge.Files

/-!
# What git guards

However a call of the merger ends, every file that it changed was either not there before, or git
was asked about it before the change and said that it may be overwritten. A batch asks about all
files it is going to overwrite first, so that one refusal keeps every file as it is.
-/

namespace MessageCatalog

/-! ### Runs that ask first -/

/-- The file may be written: it was not there at the start, or git was asked about it since and
said that it may be overwritten. -/
def Session.Cleared (start s : Session) (loc : Location) : Prop :=
  start.tree.content? loc = none ∨ loc ∈ s.asked.drop start.asked.length ∧ start.IsSafe loc

/-- One step of a run that asks git before it overwrites what was there at the start. -/
inductive GuardedStep (start : Session) : Session → Session → Prop
  | hear {s t : Session} (h : s.Heard t) : GuardedStep start s t
  | makeDirectory {s : Session} (loc : Location) (tree : FileTree)
      (h : s.tree.makeDirectory loc = .ok tree) : GuardedStep start s { s with tree }
  | write {s : Session} (loc : Location) (bytes : ByteArray) (tree : FileTree)
      (h : s.tree.write loc bytes = .ok tree) (hcleared : start.Cleared s loc) :
      GuardedStep start s { s with tree }

/-- A run that asks git before it overwrites what was there at the start. -/
abbrev GuardedRun (start : Session) : Session → Session → Prop :=
  Relation.ReflTransGen (GuardedStep start)

/-- What a run cannot take away: files and directories that are there, and what git was asked. -/
structure Session.Grows (s t : Session) : Prop where
  current : t.current = s.current
  git : t.git = s.git
  asked : s.asked <+: t.asked
  isDirectory : ∀ l, s.tree.isDirectory l → t.tree.isDirectory l
  content : ∀ l, s.tree.content? l ≠ none → t.tree.content? l ≠ none

variable {start s t u : Session} {loc : Location}

lemma Session.Grows.refl (s : Session) : s.Grows s :=
  ⟨rfl, rfl, List.prefix_refl _, fun _ h => h, fun _ h => h⟩

lemma Session.Grows.trans (h₁ : s.Grows t) (h₂ : t.Grows u) : s.Grows u where
  current := h₂.current.trans h₁.current
  git := h₂.git.trans h₁.git
  asked := h₁.asked.trans h₂.asked
  isDirectory l h := h₂.isDirectory l (h₁.isDirectory l h)
  content l h := h₂.content l (h₁.content l h)

lemma GuardedStep.grows (h : GuardedStep start s t) : s.Grows t := by
  cases h with
  | hear h =>
    exact ⟨h.current_eq, h.git_eq, h.asked_prefix, fun l hl => h.tree_eq ▸ hl,
      fun l hl => h.tree_eq ▸ hl⟩
  | makeDirectory loc tree h =>
    exact ⟨rfl, rfl, List.prefix_refl _, fun l hl => FileTree.isDirectory_makeDirectory h hl,
      fun l hl => (FileTree.content?_makeDirectory h l).symm ▸ hl⟩
  | write loc bytes tree h =>
    refine ⟨rfl, rfl, List.prefix_refl _, fun l hl => (FileTree.isDirectory_write h l).symm ▸ hl,
      fun l hl => ?_⟩
    by_cases hloc : l = loc
    · subst hloc
      exact (FileTree.content?_write_self h).symm ▸ Option.some_ne_none bytes
    · exact (FileTree.content?_write_of_ne h hloc).symm ▸ hl

lemma GuardedRun.grows (h : GuardedRun start s t) : s.Grows t := by
  induction h with
  | refl => exact .refl s
  | tail _ hstep ih => exact ih.trans hstep.grows

/-- The first time a run changes a file is a write that was cleared before. -/
lemma GuardedRun.exists_cleared (h : GuardedRun start start t)
    (hchanged : t.tree.content? loc ≠ start.tree.content? loc) :
    ∃ mid, GuardedRun start start mid ∧ mid.tree.content? loc = start.tree.content? loc ∧
      start.Cleared mid loc ∧ GuardedRun start mid t := by
  induction h with
  | refl => exact absurd rfl hchanged
  | @tail mid t hrun hstep ih =>
    by_cases hmid : mid.tree.content? loc = start.tree.content? loc
    · cases hstep with
      | hear h => exact absurd (h.tree_eq ▸ hmid) hchanged
      | makeDirectory l tree h =>
        exact absurd ((FileTree.content?_makeDirectory h loc).trans hmid) hchanged
      | write l bytes tree h hcleared =>
        by_cases hl : loc = l
        · subst hl
          exact ⟨mid, hrun, hmid, hcleared, .single (.write loc bytes tree h hcleared)⟩
        · exact absurd ((FileTree.content?_write_of_ne h hl).trans hmid) hchanged
    · obtain ⟨first, h₁, h₂, h₃, h₄⟩ := ih hmid
      exact ⟨first, h₁, h₂, h₃, h₄.tail hstep⟩

namespace Action

variable {α β : Type} {a : Action α}

lemma IsQuiet.guardedRun (ha : a.IsQuiet) (start s : Session) :
    GuardedRun start s (a.outcome s).2 := .single (.hear (ha s))

lemma guardedRun_bind {f : α → Action β} (ha : GuardedRun start s (a.outcome s).2)
    (hf : ∀ x t, a.outcome s = (.ok x, t) → GuardedRun start t ((f x).outcome t).2) :
    GuardedRun start s ((a >>= f).outcome s).2 := by
  rw [outcome_bind]
  cases h : a.outcome s with
  | mk r t =>
    rw [h] at ha
    cases r with
    | ok x => exact ha.trans (hf x t h)
    | error e => exact ha

/-- A step that only looks and talks stands before the others, which go on from a run that has
asked first. -/
lemma guardedRun_quiet_bind {f : α → Action β} (ha : a.IsQuiet) (hs : GuardedRun start start s)
    (hf : ∀ x t, GuardedRun start start t → a.outcome s = (.ok x, t) →
      GuardedRun start t ((f x).outcome t).2) :
    GuardedRun start s ((a >>= f).outcome s).2 := by
  have hrun := ha.guardedRun start s
  refine guardedRun_bind hrun fun x t ht => hf x t ?_ ht
  rw [ht] at hrun
  exact hs.trans hrun

lemma guardedRun_mapM {f : α → Action β} {xs : List α}
    (hf : ∀ x ∈ xs, ∀ s, GuardedRun start start s → GuardedRun start s ((f x).outcome s).2)
    (hs : GuardedRun start start s) : GuardedRun start s ((xs.mapM f).outcome s).2 := by
  induction xs generalizing s with
  | nil => exact .refl
  | cons x xs ih =>
    rw [List.mapM_cons]
    have hx := hf x List.mem_cons_self s hs
    refine guardedRun_bind hx fun y t hy => guardedRun_bind ?_ fun ys u _ => .refl
    rw [hy] at hx
    exact ih (fun x hx => hf x (List.mem_cons_of_mem _ hx)) (hs.trans hx)

end Action

namespace Merger

variable {m : Merger}

/-! ### The operations -/

lemma cleared_of_guard (hcheck : m.options.gitCheck.truthy = true)
    (hrun : GuardedRun start start s) (h : (m.guard loc).outcome s = (.ok (), t)) :
    start.Cleared t loc := by
  obtain ⟨hasked, status, hstatus, hsafe⟩ := isSafe_of_guard hcheck h
  refine .inr ⟨?_, status, hrun.grows.git ▸ hstatus, hsafe⟩
  have hlen := hrun.grows.asked.length_le
  exact (List.drop_subset_drop_left _ hlen) hasked

/-- What is cleared stays cleared while the program only looks and talks. -/
lemma cleared_of_heard (hc : start.Cleared s loc) (h : s.Heard t) : start.Cleared t loc :=
  hc.imp_right fun ⟨hasked, hsafe⟩ => ⟨(h.asked_prefix.drop _).subset hasked, hsafe⟩

lemma guardedRun_writeFile (m : Merger) (name : Text) (bytes : ByteArray)
    (hc : start.Cleared s loc) : GuardedRun start s ((m.writeFile name loc bytes).outcome s).2 := by
  unfold writeFile
  split
  · exact (Action.isQuiet_bind (Action.isQuiet_say _ _) fun _ =>
      Action.isQuiet_pure false).guardedRun start s
  · refine Action.guardedRun_bind ((Action.isQuiet_say _ _).guardedRun start s) fun _ t ht => ?_
    have hct : start.Cleared t loc :=
      cleared_of_heard hc ((Action.isQuiet_say _ _).heard ht)
    refine Action.guardedRun_bind ?_ fun _ _ _ => .refl
    rw [Action.write, Action.outcome_change]
    cases h : t.tree.write loc bytes with
    | ok tree => exact .single (.write loc bytes tree h hct)
    | error e => exact .refl

lemma guardedRun_update (hcheck : m.options.gitCheck.truthy = true) (messages : Value)
    (hs : GuardedRun start start s) :
    GuardedRun start s ((m.update loc messages).outcome s).2 := by
  refine Action.guardedRun_bind ((isQuiet_guard m loc).guardedRun start s) fun _ t ht => ?_
  have hct := cleared_of_guard hcheck hs ht
  refine Action.guardedRun_bind ((isQuiet_preview m loc messages).guardedRun start t)
    fun r u hu => ?_
  have hcu : start.Cleared u loc :=
    cleared_of_heard hct ((isQuiet_preview m loc messages).heard hu)
  split
  · exact Action.guardedRun_bind (guardedRun_writeFile m _ _ hcu) fun _ _ _ => .refl
  · exact (Action.isQuiet_bind (Action.isQuiet_say _ _) fun _ =>
      Action.isQuiet_pure _).guardedRun start u

/-- A target that was there at the start is found again, and guarded. -/
lemma cleared_of_guardPresent (hcheck : m.options.gitCheck.truthy = true)
    (hrooted : start.tree.IsRooted) (hnormal : loc.IsNormal) (hrun : GuardedRun start start s)
    (h : (m.guardPresent loc.toPath).outcome s = (.ok (), t)) : start.Cleared t loc := by
  by_cases hnew : start.tree.content? loc = none
  · exact .inl hnew
  · have hwalk : s.tree.walk? [] loc.toPath.parts = some loc :=
      FileTree.walk?_append_of_isNormal hnormal fun n hn =>
        hrun.grows.isDirectory _ (hrooted.isDirectory_take hnew hn)
    have hpresent : s.tree.isPresent loc = true := by
      simp [FileTree.isPresent, FileTree.isFile, Option.isSome_iff_ne_none,
        hrun.grows.content loc hnew]
    rw [outcome_guardPresent hwalk hpresent] at h
    exact cleared_of_guard hcheck hrun h

lemma guardedRun_updateTo (hcheck : m.options.gitCheck.truthy = true) {source target : Location}
    (messages : Value) (hrooted : start.tree.IsRooted) (hnormal : target.IsNormal)
    (hs : GuardedRun start start s) :
    GuardedRun start s ((m.updateTo source target messages).outcome s).2 := by
  refine Action.guardedRun_bind ((isQuiet_guardPresent m _).guardedRun start s) fun _ t ht => ?_
  have hct := cleared_of_guardPresent hcheck hrooted hnormal hs ht
  refine Action.guardedRun_bind ((isQuiet_preview m source messages).guardedRun start t)
    fun r u hu => ?_
  have hcu : start.Cleared u target :=
    cleared_of_heard hct ((isQuiet_preview m source messages).heard hu)
  refine Action.guardedRun_bind (Action.isQuiet_get.guardedRun start u) fun s' u' hu' => ?_
  obtain ⟨rfl, rfl⟩ : u = s' ∧ u = u' := by simpa using hu'
  refine Action.guardedRun_bind ?_ fun _ v hv => ?_
  · rw [Action.makeDirectory, Action.outcome_change]
    cases h : u.tree.makeDirectory target.dropLast with
    | ok tree => exact .single (.makeDirectory _ tree h)
    | error e => exact .refl
  · have hcv : start.Cleared v target := by
      rw [Action.makeDirectory, Action.outcome_change] at hv
      cases h : u.tree.makeDirectory target.dropLast with
      | ok tree =>
        rw [h] at hv
        obtain rfl : { u with tree } = v := by simpa using hv
        exact hcu
      | error e => simp [h] at hv
    exact Action.guardedRun_bind (guardedRun_writeFile m _ _ hcv) fun _ _ _ => .refl

lemma guardedRun_updateAll (hcheck : m.options.gitCheck.truthy = true) (messages patterns : Value) :
    GuardedRun s s ((m.updateAll patterns messages).outcome s).2 := by
  refine Action.guardedRun_bind .refl fun values t h => ?_
  obtain ⟨-, rfl⟩ : _ ∧ s = t := by simpa using h
  refine Action.guardedRun_quiet_bind (isQuiet_find m patterns) .refl fun files t ht _ => ?_
  refine Action.guardedRun_quiet_bind (Action.isQuiet_forM (isQuiet_guard m) files) ht
    fun _ u hu _ => ?_
  refine Action.guardedRun_quiet_bind (isQuiet_sayCount "Updating" " po files" files) hu
    fun _ v hv _ => ?_
  exact Action.guardedRun_mapM (fun file _ s' hs' => guardedRun_update hcheck _ hs') hv

lemma guardedRun_updateAllTo (hcheck : m.options.gitCheck.truthy = true) (messages : Value)
    (hrooted : s.tree.IsRooted) (patterns : Value) (directory : Text) :
    GuardedRun s s ((m.updateAllTo patterns directory messages).outcome s).2 := by
  refine Action.guardedRun_bind .refl fun values t h => ?_
  obtain ⟨-, rfl⟩ : _ ∧ s = t := by simpa using h
  refine Action.guardedRun_quiet_bind (isQuiet_find m patterns) .refl fun files t ht _ => ?_
  refine Action.guardedRun_bind .refl fun s' t' h => ?_
  obtain ⟨rfl, rfl⟩ : t = s' ∧ t = t' := by simpa using h
  refine Action.guardedRun_quiet_bind (isQuiet_sayCount "Creating" " new po files" files) ht
    fun _ u hu _ => ?_
  refine Action.guardedRun_quiet_bind (Action.isQuiet_forM (isQuiet_guardPresent m)
    (files.map fun file => m.destination t.current file directory)) hu fun _ v hv _ => ?_
  exact Action.guardedRun_mapM (fun p _ s' hs' => guardedRun_updateTo hcheck _ hrooted
    (Location.isNormal_resolve List.not_mem_nil p.2) hs') hv

/-- The operations of a merger on named files. -/
inductive Call where
  | update (file : Text)
  | updateAll (patterns : Value)
  | updateTo (file target : Text)
  | updateAllTo (patterns : Value) (directory : Text)

/-- Do what is called for, with names seen from the base directory. -/
def Call.run (m : Merger) (messages : Value) : Call → Action (List FileMerge)
  | .update file => do return [← m.update (m.locate (← get).current file) messages]
  | .updateAll patterns => m.updateAll patterns messages
  | .updateTo file target => do
    let current := (← get).current
    return [← m.updateTo (m.locate current file) (m.locate current target) messages]
  | .updateAllTo patterns directory => m.updateAllTo patterns directory messages

/-- The files that a batch asks git about before it merges the first one: those that the patterns
find, or those that the destinations lead to. -/
def Call.Checks (m : Merger) (s : Session) (loc : Location) : Call → Prop
  | .update _ | .updateTo _ _ => False
  | .updateAll patterns => ∃ files, s.tree.glob (m.base s.current) patterns = .ok files ∧ loc ∈ files
  | .updateAllTo patterns directory => ∃ files,
    s.tree.glob (m.base s.current) patterns = .ok files ∧ ∃ file ∈ files,
      s.tree.walk? [] (m.destination s.current file directory).parts = some loc ∧
        s.tree.isPresent loc = true

lemma guardedRun_call (hcheck : m.options.gitCheck.truthy = true) (hrooted : s.tree.IsRooted)
    (hnormal : s.current.IsNormal) (messages : Value) (call : Call) :
    GuardedRun s s ((call.run m messages).outcome s).2 := by
  have hlocate (name : Text) : (m.locate s.current name).IsNormal :=
    Location.isNormal_resolve (Location.isNormal_resolve hnormal _) _
  cases call with
  | update file =>
    refine Action.guardedRun_bind .refl fun s' t h => ?_
    obtain ⟨rfl, rfl⟩ : s = s' ∧ s = t := by simpa using h
    exact Action.guardedRun_bind (guardedRun_update hcheck messages .refl) fun _ _ _ => .refl
  | updateTo file target =>
    refine Action.guardedRun_bind .refl fun s' t h => ?_
    obtain ⟨rfl, rfl⟩ : s = s' ∧ s = t := by simpa using h
    exact Action.guardedRun_bind
      (guardedRun_updateTo hcheck messages hrooted (hlocate target) .refl) fun _ _ _ => .refl
  | updateAll patterns =>
    exact guardedRun_updateAll hcheck messages patterns
  | updateAllTo patterns directory =>
    exact guardedRun_updateAllTo hcheck messages hrooted patterns directory

/-- A batch that checks a file which may not be overwritten changes nothing at all. -/
lemma exists_refusal_of_checks (hcheck : m.options.gitCheck.truthy = true)
    (hverbose : Options.IsLevel m.options.verbose) {messages : Value} {items : List Value}
    (hmessages : Merge.messageValues messages = .ok items) {call : Call}
    (hchecks : call.Checks m s loc) (hdirty : ¬ s.IsSafe loc) :
    ∃ f t, (call.run m messages).outcome s = (.error f, t) ∧ f.IsRefusal ∧ t.tree = s.tree := by
  have hguard (t : Session) (ht : s.Heard t) : ∃ e u, (m.guard loc).outcome t = (.error e, u) := by
    cases h : (m.guard loc).outcome t with
    | mk r u =>
      cases r with
      | error e => exact ⟨e, u, rfl⟩
      | ok _ =>
        obtain ⟨-, status, hstatus, hsafe⟩ := isSafe_of_guard hcheck h
        exact absurd ⟨status, ht.git_eq ▸ hstatus, hsafe⟩ hdirty
  -- Only batches check files before they begin, and then they check all of them.
  cases call with
  | update file => exact hchecks.elim
  | updateTo file target => exact hchecks.elim
  | updateAll patterns =>
    obtain ⟨files, hfiles, hmem⟩ := hchecks
    obtain ⟨f, t, hrun, hf, ht⟩ := Action.exists_outcome_forM_error (isQuiet_guard m)
      (fun _ _ _ _ h => isRefusal_of_guard hverbose h) hmem hguard
    refine ⟨f, t, ?_, hf, ht.tree_eq⟩
    rw [Call.run, updateAll, hmessages, Action.outcome_bind_ok (Action.outcome_ofExcept _ s),
      Action.outcome_bind_ok (outcome_find hfiles), Action.outcome_bind_error hrun]
  | updateAllTo patterns directory =>
    obtain ⟨files, hfiles, file, hmem, hwalk, hpresent⟩ := hchecks
    obtain ⟨t₁, hcount⟩ := exists_outcome_sayCount "Creating" " new po files" files s
    have ht₁ := (isQuiet_sayCount _ _ files).heard hcount
    obtain ⟨f, t, hrun, hf, ht⟩ := Action.exists_outcome_forM_error (isQuiet_guardPresent m)
      (fun _ _ _ _ h => isRefusal_of_guardPresent hverbose h)
      (List.mem_map_of_mem (f := fun file => m.destination s.current file directory) hmem)
      (s := t₁) fun u hu => by
        have htree : u.tree = s.tree := (ht₁.trans hu).tree_eq
        rw [outcome_guardPresent (htree ▸ hwalk) (htree ▸ hpresent)]
        exact hguard u (ht₁.trans hu)
    refine ⟨f, t, ?_, hf, (ht₁.trans ht).tree_eq⟩
    rw [Call.run, updateAllTo, hmessages, Action.outcome_bind_ok (Action.outcome_ofExcept _ s),
      Action.outcome_bind_ok (outcome_find hfiles), Action.outcome_bind_ok (Action.outcome_get s),
      Action.outcome_bind_ok hcount, Action.outcome_bind_error hrun]

/-- A file that a call changed was not there before, or git was asked about it before the change and
said that it may be overwritten. And a batch that is going to overwrite a file which may not be
overwritten fails before it has changed anything. -/
theorem Call.run_guarded (m : Merger) (messages : Value) (s : Session)
    (hcheck : m.options.gitCheck.truthy = true) (hrooted : s.tree.IsRooted)
    (hnormal : s.current.IsNormal) (call : Call) :
    (∀ loc, ((call.run m messages).outcome s).2.tree.content? loc ≠ s.tree.content? loc →
      s.tree.content? loc = none ∨ ∃ mid, GuardedRun s s mid ∧
        mid.tree.content? loc = s.tree.content? loc ∧ loc ∈ mid.asked.drop s.asked.length ∧
          s.IsSafe loc ∧ GuardedRun s mid ((call.run m messages).outcome s).2) ∧
    ∀ items, Merge.messageValues messages = .ok items → Options.IsLevel m.options.verbose →
      ∀ loc, call.Checks m s loc → ¬ s.IsSafe loc → ∃ f t,
        (call.run m messages).outcome s = (.error f, t) ∧ f.IsRefusal ∧ t.tree = s.tree := by
  constructor
  · intro loc hchanged
    have hrun := guardedRun_call hcheck hrooted hnormal messages call
    obtain ⟨mid, hbefore, hsame, hcleared, hafter⟩ := hrun.exists_cleared hchanged
    rcases hcleared with hnew | ⟨hasked, hsafe⟩
    · exact .inl hnew
    · exact .inr ⟨mid, hbefore, hsame, hasked, hsafe, hafter⟩
  · intro items hmessages hverbose loc hchecks hdirty
    exact exists_refusal_of_checks hcheck hverbose hmessages hchecks hdirty

/-- A directory with two catalog files, one of them with changes that are not staged. -/
def shelf : Session where
  tree :=
    { files := [([['w'], "de.po"], ByteArray.empty), ([['w'], "fr.po"], ByteArray.empty)]
      directories := [[], [['w']]] }
  current := [['w']]
  git loc := if loc = [['w'], "fr.po"] then .finished " M fr.po" 0 [] else .silent

theorem Call.run_guarded_shelf :
    ∃ f t, ((Call.updateAll (.list [.text "de.po", .text "fr.po"])).run
      ⟨.default { current := [['w']] }⟩ (.list [])).outcome shelf = (.error f, t) ∧
        f.IsRefusal ∧ t.tree = shelf.tree :=
  (Call.run_guarded ⟨.default { current := [['w']] }⟩ (.list []) shelf (by decide) (by decide)
    (by decide) (.updateAll (.list [.text "de.po", .text "fr.po"]))).2 [] rfl rfl
      [['w'], "fr.po"] ⟨[[['w'], "de.po"], [['w'], "fr.po"]], by decide +kernel, by decide⟩ (by
        rintro ⟨status, hstatus, hsafe⟩
        have h : FileStatus.ofAnswer "fr.po" (shelf.git [['w'], "fr.po"]) = .ok .modified := by
          decide +kernel
        obtain rfl : FileStatus.modified = status := Except.ok.inj (h.symm.trans hstatus)
        exact absurd hsafe (by decide))

end Merger

end MessageCatalog
