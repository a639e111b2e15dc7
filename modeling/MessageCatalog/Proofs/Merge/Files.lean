import MessageCatalog.Merge.Files
import MessageCatalog.Proofs.Catalog.Files
import MessageCatalog.Proofs.Workspace.Session

/-!
# Merging files: what each operation does

The guard asks git and changes nothing; a preview reads and changes nothing. So a merge changes
the tree in its last step only, when the result is written.
-/

namespace MessageCatalog

/-- Git says about the file that it may be overwritten. -/
def Session.IsSafe (s : Session) (loc : Location) : Prop :=
  ∃ status, FileStatus.ofAnswer (loc.getLast?.getD []) (s.git loc) = .ok status ∧
    status.isSafe = true

/-- The failures of the guard: changes that would be lost, and a git that does not answer. -/
def Failure.IsRefusal (f : Failure) : Prop := f.kind = .unsavedChanges ∨ f.kind = .gitCommand

lemma FileStatus.isRefusal_of_ofAnswer {name : Text} {answer : GitAnswer} {f : Failure}
    (h : ofAnswer name answer = .error f) : f.IsRefusal := by
  cases answer with
  | unavailable reason =>
    obtain rfl : Failure.gitUnavailable reason = f := by simpa [ofAnswer] using h
    exact .inr rfl
  | finished stdout code stderr =>
    by_cases hcode : code = 0
    · simp [ofAnswer, hcode] at h
    · obtain rfl : Failure.gitExit code stderr = f := by simpa [ofAnswer, hcode] using h
      exact .inr rfl

/-- The value can be compared with a level of detail. -/
def Options.IsLevel (v : Value) : Prop := v.number?.isSome = true

lemma Options.exists_atLeast {v : Value} (h : IsLevel v) (level : Int) :
    ∃ b, atLeast v level = .ok b := by
  obtain ⟨x, hx⟩ := Option.isSome_iff_exists.mp h
  simp [atLeast, hx]

lemma Action.exists_outcome_detail {verbose : Value} (h : Options.IsLevel verbose) (level : Int)
    (text : Text) (s : Session) : ∃ t, (detail verbose level text).outcome s = (.ok (), t) := by
  obtain ⟨b, hb⟩ := Options.exists_atLeast h level
  cases b <;> simp [hb]

/-- What a list gets at its end is not among its first members. -/
lemma List.mem_drop_of_prefix {α : Type} {xs ys zs : List α} {x : α} (h₁ : xs <+: ys)
    (h₂ : ys ++ [x] <+: zs) : x ∈ zs.drop xs.length := by
  obtain ⟨as, rfl⟩ := h₁
  obtain ⟨bs, rfl⟩ := h₂
  simp [List.append_assoc]

namespace Merger

variable {m : Merger} {loc : Location} {s t : Session}

/-! ### The guard -/

lemma isQuiet_guard (m : Merger) (loc : Location) : (m.guard loc).IsQuiet := by
  refine Action.isQuiet_bind Action.isQuiet_get fun s => ?_
  refine Action.isQuiet_bind (Action.isQuiet_detail _ _ _) fun _ => ?_
  split
  · have hask := Action.isQuiet_tryCatch (Action.isQuiet_status loc) fun f =>
      Action.isQuiet_bind (Action.isQuiet_sayAll (checkFailure (m.nameOf s.current loc) f))
        fun _ => Action.isQuiet_throw f
    refine Action.isQuiet_bind hask fun status => ?_
    split
    · exact Action.isQuiet_detail _ _ _
    · exact Action.isQuiet_bind (Action.isQuiet_sayAll _) fun _ => Action.isQuiet_throw _
  · exact Action.isQuiet_pure ()

/-- A file that passes the guard is one that git was asked about and that may be overwritten. -/
lemma isSafe_of_guard (hcheck : m.options.gitCheck.truthy = true)
    (h : (m.guard loc).outcome s = (.ok (), t)) :
    loc ∈ t.asked.drop s.asked.length ∧ s.IsSafe loc := by
  rw [guard, Action.outcome_bind, Action.outcome_get] at h
  dsimp only at h
  have h₁ := Action.isQuiet_detail m.options.verbose 1
    ("gitCheck=" ++ m.options.gitCheck.display ++ ' ' :: m.nameOf s.current loc) s
  rw [if_pos hcheck, Action.outcome_bind] at h
  split at h
  · next t₁ heq =>
    rw [heq] at h₁
    have hgit : t₁.git = s.git := h₁.git_eq
    rw [Action.outcome_bind, Action.outcome_tryCatch, Action.outcome_status] at h
    cases hstatus : FileStatus.ofAnswer (loc.getLast?.getD []) (t₁.git loc) with
    | error e => simp [hstatus, Action.outcome_bind] at h
    | ok status =>
      simp only [hstatus] at h
      split at h
      · next hsafe =>
        have h₂ := Action.isQuiet_detail m.options.verbose 1
          ("git status " ++ status.name ++ ' ' :: m.nameOf s.current loc)
            { t₁ with asked := t₁.asked ++ [loc] }
        rw [h] at h₂
        exact ⟨List.mem_drop_of_prefix h₁.asked_prefix h₂.asked_prefix,
          status, hgit ▸ hstatus, hsafe⟩
      · simp [Action.outcome_bind] at h
  · cases h

lemma isRefusal_of_guard {f : Failure} (hverbose : Options.IsLevel m.options.verbose)
    (h : (m.guard loc).outcome s = (.error f, t)) : f.IsRefusal := by
  obtain ⟨t₁, h₁⟩ := Action.exists_outcome_detail hverbose 1
    ("gitCheck=" ++ m.options.gitCheck.display ++ ' ' :: m.nameOf s.current loc) s
  rw [guard, Action.outcome_bind, Action.outcome_get] at h
  dsimp only at h
  rw [Action.outcome_bind_ok h₁] at h
  split at h
  · rw [Action.outcome_bind, Action.outcome_tryCatch, Action.outcome_status] at h
    cases hstatus : FileStatus.ofAnswer (loc.getLast?.getD []) (t₁.git loc) with
    | error e =>
      rw [hstatus] at h
      obtain ⟨rfl, -⟩ : e = f ∧ _ := by simpa [Action.outcome_bind] using h
      exact FileStatus.isRefusal_of_ofAnswer hstatus
    | ok status =>
      simp only [hstatus] at h
      split at h
      · obtain ⟨t₂, h₂⟩ := Action.exists_outcome_detail hverbose 1
          ("git status " ++ status.name ++ ' ' :: m.nameOf s.current loc)
            { t₁ with asked := t₁.asked ++ [loc] }
        rw [h₂] at h
        cases h
      · obtain ⟨rfl, -⟩ : Failure.unsavedChanges _ _ = f ∧ _ := by
          simpa [Action.outcome_bind] using h
        exact .inl rfl
  · cases h

lemma isQuiet_guardPresent (m : Merger) (path : Path) : (m.guardPresent path).IsQuiet := by
  refine Action.isQuiet_bind Action.isQuiet_tree fun t => ?_
  split
  · split
    · exact isQuiet_guard m _
    · exact Action.isQuiet_pure ()
  · exact Action.isQuiet_pure ()

/-- A path that leads to something that is there is guarded like its end. -/
lemma outcome_guardPresent {path : Path} (hwalk : s.tree.walk? [] path.parts = some loc)
    (hpresent : s.tree.isPresent loc = true) :
    (m.guardPresent path).outcome s = (m.guard loc).outcome s := by
  simp [guardPresent, Action.outcome_bind, hwalk, hpresent]

lemma isRefusal_of_guardPresent {path : Path} {f : Failure}
    (hverbose : Options.IsLevel m.options.verbose)
    (h : (m.guardPresent path).outcome s = (.error f, t)) : f.IsRefusal := by
  rw [guardPresent, Action.outcome_bind, Action.outcome_tree] at h
  dsimp only at h
  split at h
  · split at h
    · exact isRefusal_of_guard hverbose h
    · cases h
  · cases h

/-! ### Previews -/

/-- The file that the content of a file is the name of. -/
def pointee? (m : Merger) (s : Session) (loc : Location) : Option Location := do
  let bytes ← s.tree.content? loc
  let name ← (charset m.options).toOption
  Catalog.pointee? s.tree s.current bytes name

lemma pointee?_eq {bytes : ByteArray} {name : Text} (hbytes : s.tree.content? loc = some bytes)
    (hname : charset m.options = .ok name) :
    m.pointee? s loc = Catalog.pointee? s.tree s.current bytes name := by
  rw [pointee?, hbytes, hname]
  rfl

lemma pointee?_heard (h : s.Heard t) (m : Merger) (loc : Location) :
    m.pointee? t loc = m.pointee? s loc := by
  rw [pointee?, pointee?, h.tree_eq, h.current_eq]

lemma isQuiet_preview (m : Merger) (loc : Location) (messages : Value) :
    (m.preview loc messages).IsQuiet := by
  refine Action.isQuiet_bind (Action.isQuiet_ofExcept _) fun messages => ?_
  refine Action.isQuiet_bind Action.isQuiet_get fun s => ?_
  refine Action.isQuiet_bind (Action.isQuiet_say _ _) fun _ => ?_
  refine Action.isQuiet_bind (Action.isQuiet_read loc) fun bytes => ?_
  refine Action.isQuiet_bind Action.isQuiet_get fun s => ?_
  refine Action.isQuiet_bind (Action.isQuiet_ofExcept _) fun source => ?_
  refine Action.isQuiet_bind (Action.isQuiet_ofMerge _) fun report => ?_
  exact Action.isQuiet_bind (Action.isQuiet_ofExcept _) fun content => Action.isQuiet_pure _

lemma isQuiet_find (m : Merger) (patterns : Value) : (m.find patterns).IsQuiet :=
  Action.isQuiet_bind Action.isQuiet_get fun _ => Action.isQuiet_ofExcept _

lemma isQuiet_sayCount (verb count : Text) (files : List Location) :
    (sayCount verb count files).IsQuiet := by
  unfold sayCount
  split <;> exact Action.isQuiet_say _ _

lemma exists_outcome_sayCount (verb count : Text) (files : List Location) (s : Session) :
    ∃ t, (sayCount verb count files).outcome s = (.ok (), t) := by
  unfold sayCount
  split <;> exact ⟨_, Action.outcome_say _ _ s⟩

lemma outcome_find {patterns : Value} {files : List Location}
    (h : s.tree.glob (m.base s.current) patterns = .ok files) :
    (m.find patterns).outcome s = (.ok files, s) := by
  simp [find, Action.outcome_bind, h]

end Merger

end MessageCatalog
