import MessageCatalog.CommandLine.Run
import MessageCatalog.Proofs.Failure
import MessageCatalog.Proofs.Merge.Files
import MessageCatalog.Proofs.Workspace.Local

/-!
# One file at a time

The merge command treats every file as if it were the only one: a file whose merge fails is
reported and counted, and all others end up with the bytes that they get alone. That holds as long
as no merge fails in a way that the command does not expect, and no file holds the name of another
one.
-/

namespace MessageCatalog

variable {α β : Type} {loc : Location} {m : Merger} {s t : Session} {seen : Set Location}

/-! ### A merge in place is about its file -/

namespace Merger

lemma isLocalAt_guard (m : Merger) (hloc : s.tree.isFile loc) :
    (m.guard loc).IsLocalAt seen loc s := by
  refine Action.isLocalAt_get_bind (fun t ht => by rw [ht.current]) ?_
  refine Action.isLocalAt_bind hloc (Action.isLocalAt_detail _ _ _) fun _ t _ hloc => ?_
  split
  · have hask : (tryCatch (Action.status loc) fun f => do
        Action.sayAll (checkFailure (m.nameOf s.current loc) f)
        throw f).IsLocalAt seen loc t :=
      Action.isLocalAt_tryCatch hloc (Action.isLocalAt_status loc) fun f u _ hloc =>
        Action.isLocalAt_bind hloc (Action.isLocalAt_sayAll _) fun _ _ _ _ =>
          Action.isLocalAt_throw f
    refine Action.isLocalAt_bind hloc hask fun status t _ hloc => ?_
    split
    · exact Action.isLocalAt_detail _ _ _
    · exact Action.isLocalAt_bind hloc (Action.isLocalAt_sayAll _) fun _ _ _ _ =>
        Action.isLocalAt_throw _
  · exact Action.isLocalAt_pure ()

/-- A preview looks into the file, and into the one that its content is the name of. -/
lemma isLocalAt_preview (hloc : s.tree.isFile loc) (hself : loc ∈ seen)
    (hseen : ∀ l, m.pointee? s loc = some l → l ∈ seen) (messages : Value) :
    (m.preview loc messages).IsLocalAt seen loc s := by
  refine Action.isLocalAt_bind hloc (Action.isLocalAt_ofExcept _) fun values s₁ h₁ hloc => ?_
  obtain ⟨-, rfl⟩ := Prod.mk.inj h₁
  refine Action.isLocalAt_get_bind (fun t ht => by rw [ht.current]) ?_
  refine Action.isLocalAt_bind hloc (Action.isLocalAt_say _ _) fun _ s₂ h₂ hloc => ?_
  obtain ⟨-, rfl⟩ := Prod.mk.inj h₂
  refine Action.isLocalAt_bind hloc (Action.isLocalAt_read hloc hself) fun bytes s₃ h₃ hloc => ?_
  obtain ⟨hread, rfl⟩ := Prod.mk.inj h₃
  refine Action.isLocalAt_get_bind (fun t ht => ?_) ?_
  -- What the content stands for is the same wherever the files that are looked into agree.
  · have hsame (name : Text) (hname : charset m.options = .ok name) :
        Catalog.ofContent t.tree t.current bytes name =
          Catalog.ofContent s.tree s.current bytes name := by
      have hpointee := pointee?_eq (s := s) (FileTree.read_eq_ok_iff.mp hread) hname
      rw [← ht.current]
      exact (Catalog.ofContent_congr ht.isFile ht.directories fun l hl =>
        ht.content l (hseen l (hpointee.trans hl))).symm
    cases hname : charset m.options with
    | error f => rfl
    | ok name => simp only [bind, Except.bind, hsame name hname]
  · refine Action.isLocalAt_bind hloc (Action.isLocalAt_ofExcept _) fun source _ _ hloc => ?_
    refine Action.isLocalAt_bind hloc (Action.isLocalAt_ofMerge _) fun report _ _ hloc => ?_
    exact Action.isLocalAt_bind hloc (Action.isLocalAt_ofExcept _) fun content _ _ _ =>
      Action.isLocalAt_pure _

lemma isLocalAt_writeFile (m : Merger) (name : Text) (hloc : s.tree.isFile loc)
    (bytes : ByteArray) : (m.writeFile name loc bytes).IsLocalAt seen loc s := by
  unfold writeFile
  split
  · exact Action.isLocalAt_bind hloc (Action.isLocalAt_say _ _) fun _ _ _ _ =>
      Action.isLocalAt_pure false
  · exact Action.isLocalAt_bind hloc (Action.isLocalAt_say _ _) fun _ _ _ hloc =>
      Action.isLocalAt_bind hloc (Action.isLocalAt_write bytes) fun _ _ _ _ =>
        Action.isLocalAt_pure true

/-- The files that a merge into a file looks into. -/
def sees (m : Merger) (s : Session) (loc : Location) : Set Location :=
  {l | l = loc ∨ m.pointee? s loc = some l}

lemma mem_sees_self (m : Merger) (s : Session) (loc : Location) : loc ∈ m.sees s loc := .inl rfl

lemma isLocalAt_update (m : Merger) (hloc : s.tree.isFile loc) (messages : Value) :
    (m.update loc messages).IsLocalAt (m.sees s loc) loc s := by
  refine Action.isLocalAt_bind hloc (isLocalAt_guard m hloc) fun _ t ht hloc => ?_
  have hpointee := pointee?_heard ((isQuiet_guard m loc).heard ht) m loc
  refine Action.isLocalAt_bind hloc (isLocalAt_preview hloc (m.mem_sees_self s loc)
    (fun l hl => .inr (hpointee.symm.trans hl)) messages) fun r u _ hloc => ?_
  split
  · exact Action.isLocalAt_bind hloc (isLocalAt_writeFile m _ hloc _) fun _ _ _ _ =>
      Action.isLocalAt_pure _
  · exact Action.isLocalAt_bind hloc (Action.isLocalAt_say _ _) fun _ _ _ _ =>
      Action.isLocalAt_pure _

/-- Merges into files none of which holds the name of another one do not see each other. -/
lemma apart_of_pointee? {files : List Location} (hnodup : files.Nodup)
    (hfile : ∀ file ∈ files, s.tree.isFile file)
    (hplain : ∀ file ∈ files, ∀ other ∈ files, m.pointee? s file = some other → other = file) :
    Action.Apart (m.sees s) s files where
  nodup := hnodup
  isFile := hfile
  seen file hmem other hother := by
    rintro (rfl | hpointee)
    · rfl
    · exact hplain file hmem other hother hpointee

end Merger

/-! ### Files one after the other -/

namespace Session

/-- The session after an effect on each of some files. -/
def afterAll (s : Session) (e : Location → Effect) (files : List Location) : Session :=
  files.foldl (fun s file => s.after file (e file)) s

lemma notices_afterAll (s : Session) (e : Location → Effect) (files : List Location) :
    (s.afterAll e files).notices = s.notices ++ files.flatMap fun file => (e file).notices := by
  induction files generalizing s with
  | nil => simp [afterAll]
  | cons file rest ih => simpa [afterAll, after] using ih (s.after file (e file))

lemma content?_afterAll_of_notMem (s : Session) (e : Location → Effect) {files : List Location}
    (h : loc ∉ files) : (s.afterAll e files).tree.content? loc = s.tree.content? loc := by
  induction files generalizing s with
  | nil => rfl
  | cons file rest ih =>
    rw [List.mem_cons, not_or] at h
    exact (ih (s.after file (e file)) h.2).trans (content?_after_of_ne s _ h.1)

/-- A file gets what it would get from its effect on the first session. -/
lemma content?_afterAll (e : Location → Effect) {files : List Location} (hnodup : files.Nodup)
    (hloc : loc ∈ files) (hst : s.tree.content? loc = t.tree.content? loc) :
    (t.afterAll e files).tree.content? loc = (s.after loc (e loc)).tree.content? loc := by
  induction files generalizing t with
  | nil => exact absurd hloc List.not_mem_nil
  | cons file rest ih =>
    obtain ⟨hfile, hnodup⟩ := List.nodup_cons.mp hnodup
    rcases List.mem_cons.mp hloc with rfl | hrest
    · rw [afterAll, List.foldl_cons, ← afterAll, content?_afterAll_of_notMem _ e hfile]
      cases hc : (e loc).content <;> simp [after, hc, hst]
    · have hne : loc ≠ file := fun h => hfile (h ▸ hrest)
      exact ih hnodup hrest (hst.trans (content?_after_of_ne t _ hne).symm)

end Session

/-- Actions about different files do one after the other what each of them does alone. -/
lemma Action.outcome_mapM_local {f : Location → Action β} {x : Location → β}
    {e : Location → Effect} {sees : Location → Set Location} {files : List Location}
    (hfiles : Action.Apart sees s files)
    (hf : ∀ l ∈ files, ∀ t, Session.AgreeOn (sees l) s t →
      (f l).outcome t = (.ok (x l), t.after l (e l)))
    (hst : ∀ l ∈ files, Session.AgreeOn (sees l) s t) :
    (files.mapM f).outcome t = (.ok (files.map x), t.afterAll e files) := by
  induction files generalizing t with
  | nil => rfl
  | cons l rest ih =>
    rw [List.mapM_cons, outcome_bind_ok (hf l List.mem_cons_self t (hst l List.mem_cons_self)),
      outcome_bind_ok (ih hfiles.tail (fun l' h => hf l' (List.mem_cons_of_mem _ h))
        (hfiles.agreeOn_after hst (e l)))]
    rfl

/-! ### The command -/

namespace CommandLine

lemma outcome_expecting (expected : Failure → Bool) (a : Action α) (s : Session) :
    (expecting expected a).outcome s = match a.outcome s with
      | (.ok x, t) => (.ok (.ok x), t)
      | (.error f, t) => if expected f then (.ok (.error f), t) else (.error f, t) := by
  rw [expecting, Action.outcome_tryCatch, Action.outcome_map]
  cases a.outcome s with
  | mk r t =>
    cases r with
    | ok x => rfl
    | error f => cases h : expected f <;> simp [Except.map, h]

/-- The line about a file whose merge failed. -/
def failureNotice (m : Merger) (current file : Location) (f : Failure) : Notice :=
  ⟨"Error: " ++ m.nameOf current file ++ ": " ++ f.message, some .red⟩

lemma isLocalAt_mergeFile (m : Merger) (messages : Value) {file : Location}
    (hfile : s.tree.isFile file) :
    (mergeFile m none messages file).IsLocalAt (m.sees s file) file s := by
  refine Action.isLocalAt_get_bind (fun t ht => by rw [ht.current]) ?_
  have hupdate : (expecting Failure.isContained (m.update file messages)).IsLocalAt
      (m.sees s file) file s := by
    refine Action.isLocalAt_tryCatch hfile ?_ fun f t _ _ => ?_
    · rw [← bind_pure_comp]
      exact Action.isLocalAt_bind hfile (Merger.isLocalAt_update m hfile messages) fun _ _ _ _ =>
        Action.isLocalAt_pure _
    · split
      · exact Action.isLocalAt_pure _
      · exact Action.isLocalAt_throw f
  refine Action.isLocalAt_bind hfile hupdate fun merged t _ hfile => ?_
  cases merged with
  | error f =>
    exact Action.isLocalAt_bind hfile (Action.isLocalAt_say _ _) fun _ _ _ _ =>
      Action.isLocalAt_pure true
  | ok r =>
    exact Action.isLocalAt_bind hfile (Action.isLocalAt_say _ _) fun _ _ _ _ =>
      Action.isLocalAt_pure false

lemma exists_outcome_mergeFile {messages : Value} {file : Location} {r : FileMerge}
    (h : (m.update file messages).outcome s = (.ok r, t)) :
    ∃ u, (mergeFile m none messages file).outcome s = (.ok false, u) := by
  have hmerged : (expecting Failure.isContained (m.update file messages)).outcome s =
      (.ok (.ok r), t) := by rw [outcome_expecting, h]
  rw [mergeFile, Action.outcome_bind_ok (Action.outcome_get s), Action.outcome_bind_ok hmerged]
  exact ⟨_, Action.outcome_bind_ok (Action.outcome_say _ _ t)⟩

lemma outcome_mergeFile_error {messages : Value} {file : Location} {f : Failure}
    (h : (m.update file messages).outcome s = (.error f, t)) (hf : f.isContained = true) :
    (mergeFile m none messages file).outcome s = (.ok true,
      { t with notices := t.notices ++ [failureNotice m s.current file f] }) := by
  have hmerged : (expecting Failure.isContained (m.update file messages)).outcome s =
      (.ok (.error f), t) := by
    rw [outcome_expecting, h]
    exact if_pos hf
  rw [mergeFile, Action.outcome_bind_ok (Action.outcome_get s), Action.outcome_bind_ok hmerged]
  exact Action.outcome_bind_ok (Action.outcome_say _ _ t)

lemma exitCode_verdictOf (failures : List Bool) :
    (Ending.verdict (verdictOf failures)).exitCode = if true ∈ failures then 1 else 0 := by
  unfold verdictOf
  cases h : failures.countP id with
  | zero =>
    have hall := List.countP_eq_zero.mp h
    rw [if_neg fun hmem => hall true hmem rfl]
    rfl
  | succ n =>
    have hpos : 0 < failures.countP id := by omega
    obtain ⟨b, hmem, hb⟩ := List.countP_pos_iff.mp hpos
    obtain rfl : b = true := hb
    rw [if_pos hmem]
    rfl

lemma exists_outcome_mergeFiles {directory : Option Text} {messages : Value}
    {files : List Location} {failures : List Bool}
    (h : (files.mapM (mergeFile m directory messages)).outcome s = (.ok failures, t)) :
    ∃ u, (mergeFiles m directory messages files).outcome s = (.ok (verdictOf failures), u) ∧
      u.tree = t.tree ∧ t.notices <+: u.notices := by
  unfold mergeFiles
  cases files with
  | nil =>
    obtain ⟨rfl, rfl⟩ : [] = failures ∧ s = t := by simpa using h
    exact ⟨_, Action.outcome_bind_ok (Action.outcome_say _ _ s), rfl, List.prefix_append ..⟩
  | cons file rest => exact ⟨t, Action.outcome_bind_ok h, rfl, List.prefix_refl _⟩

/-- The part of one file in the command: whether its merge failed, and its effect, which tells of
the failure. -/
lemma exists_effect {messages : Value} {file : Location} (hfile : t.tree.isFile file = true)
    (hcontained : ∀ f u, (m.update file messages).outcome t = (.error f, u) →
      f.isContained = true) :
    ∃ b e, (∀ u, Session.AgreeOn (m.sees t file) t u →
        (mergeFile m none messages file).outcome u = (.ok b, u.after file e)) ∧
      (b = true ↔ ∃ f w, (m.update file messages).outcome t = (.error f, w)) ∧
      (b = false ↔ ∃ r w, (m.update file messages).outcome t = (.ok r, w)) ∧
      ∀ f w, (m.update file messages).outcome t = (.error f, w) →
        failureNotice m t.current file f ∈ e.notices := by
  obtain ⟨r, e, h⟩ := isLocalAt_mergeFile m messages hfile
  obtain ⟨r', e', h'⟩ := Merger.isLocalAt_update m hfile messages
  have hmerge := h t (.refl _ t)
  have hupdate := h' t (.refl _ t)
  cases r' with
  | ok r' =>
    obtain ⟨u, hu⟩ := exists_outcome_mergeFile hupdate
    obtain ⟨rfl, -⟩ : r = .ok false ∧ _ := by simpa [hmerge] using hu
    exact ⟨false, e, h, by simp [hupdate], by simp [hupdate], by simp [hupdate]⟩
  | error f =>
    have hfailed := outcome_mergeFile_error hupdate (hcontained f _ hupdate)
    obtain ⟨rfl, hsession⟩ := Prod.mk.inj (hmerge.symm.trans hfailed)
    have hnotices : e.notices = e'.notices ++ [failureNotice m t.current file f] := by
      simpa [Session.after] using congrArg Session.notices hsession
    exact ⟨true, e, h, by simp [hupdate], by simp [hupdate], by simp [hupdate, hnotices]⟩

lemma glob_of_prepareMerge {a : Arguments} {surroundings : MergeOptions.Surroundings}
    {messages : List Message} {files : List Location}
    (h : (prepareMerge a surroundings).outcome s = (.ok (m, messages, files), t)) :
    t.tree.glob (m.base t.current) (.list (a.words.map .text)) = .ok files := by
  obtain ⟨_, _, -, h⟩ := Action.outcome_bind_eq_ok_iff.mp h
  obtain ⟨_, _, -, h⟩ := Action.outcome_bind_eq_ok_iff.mp h
  obtain ⟨_, _, -, h⟩ := Action.outcome_bind_eq_ok_iff.mp h
  obtain ⟨_, _, -, h⟩ := Action.outcome_bind_eq_ok_iff.mp h
  obtain ⟨found, u, hfind, h⟩ := Action.outcome_bind_eq_ok_iff.mp h
  obtain ⟨⟨rfl, -, rfl⟩, rfl⟩ : (_ ∧ _ ∧ found = files) ∧ u = t := by simpa using h
  obtain ⟨s', _, hs', hfound⟩ := Action.outcome_bind_eq_ok_iff.mp hfind
  obtain ⟨rfl, rfl⟩ : _ ∧ _ := by simpa using hs'
  obtain ⟨hglob, rfl⟩ := Prod.mk.inj hfound
  exact hglob

/-- When options and messages are ready, no file that was found holds the name of another one, and
every merge that fails does so in a way that the command expects, then the command comes to a
verdict. Every file that was found has the content that it gets when it is the only one, all other
files are as they were, each failure has its line, and the exit code tells whether there was one. -/
theorem mergeMessages_isolates (a : Arguments) (surroundings : MergeOptions.Surroundings)
    (s : Session) {messages : List Message} {files : List Location}
    (hprepared : (prepareMerge a surroundings).outcome s = (.ok (m, messages, files), t))
    (hplace : a.value? .destination = none)
    (hplain : ∀ file ∈ files, ∀ other ∈ files, m.pointee? t file = some other → other = file)
    (hcontained : ∀ file ∈ files, ∀ f u,
      (m.update file (.list (messages.map Message.toValue))).outcome t = (.error f, u) →
        f.isContained = true) :
    let values := Value.list (messages.map Message.toValue)
    ∃ v u, (mergeMessages a surroundings).outcome s = (.ok v, u) ∧
      (∀ file ∈ files, u.tree.content? file =
        ((mergeFiles m none values [file]).outcome t).2.tree.content? file) ∧
      (∀ loc ∉ files, u.tree.content? loc = t.tree.content? loc) ∧
      (∀ file ∈ files, ∀ f w, (m.update file values).outcome t = (.error f, w) →
        failureNotice m t.current file f ∈ u.notices.drop t.notices.length) ∧
      ((Ending.verdict v).exitCode = 1 ↔
        ∃ file ∈ files, ∃ f w, (m.update file values).outcome t = (.error f, w)) ∧
      ((Ending.verdict v).exitCode = 0 ↔
        ∀ file ∈ files, ∃ r w, (m.update file values).outcome t = (.ok r, w)) := by
  intro values
  obtain ⟨hnodup, hfile⟩ := FileTree.nodup_glob (glob_of_prepareMerge hprepared)
  have hapart := Merger.apart_of_pointee? hnodup hfile hplain
  have hparts : ∀ file ∈ files, _ := fun file hmem =>
    exists_effect (hfile file hmem) (hcontained file hmem)
  -- Each merge has its effect, the same in all sessions that agree with `t` on what it sees, and
  -- no merge sees a file of another one; so the effects add up.
  choose! b e hrun hfails hsucceeds hnotice using hparts
  have hall := Action.outcome_mapM_local hapart hrun fun file _ => .refl _ t
  obtain ⟨u, hu, htree, hnotices⟩ := exists_outcome_mergeFiles hall
  have hexit := exitCode_verdictOf (files.map b)
  refine ⟨verdictOf (files.map b), u, ?_, ?_, ?_, ?_, ?_, ?_⟩
  · have hready : (expecting Failure.isOwn (prepareMerge a surroundings)).outcome s =
        (.ok (.ok (m, messages, files)), t) := by rw [outcome_expecting, hprepared]
    rw [mergeMessages, Action.outcome_bind_ok hready, hplace]
    exact hu
  · intro file hmem
    -- As the only file it has the same effect, which is the only one that touches it.
    have hone : ∀ l ∈ [file], l ∈ files := fun l hl => List.mem_singleton.mp hl ▸ hmem
    have halone := Action.outcome_mapM_local
      (Merger.apart_of_pointee? (List.nodup_singleton file) (fun l hl => hfile l (hone l hl))
        fun l hl l' hl' => hplain l (hone l hl) l' (hone l' hl'))
      (fun l hl => hrun l (hone l hl)) fun l _ => Session.AgreeOn.refl _ t
    obtain ⟨w, hw, hwtree, -⟩ := exists_outcome_mergeFiles halone
    rw [hw, htree, hwtree, Session.content?_afterAll e hnodup hmem rfl]
    rfl
  · intro loc hmem
    rw [htree, Session.content?_afterAll_of_notMem t e hmem]
  · intro file hmem f w hf
    obtain ⟨rest, hrest⟩ := hnotices
    rw [← hrest, Session.notices_afterAll, List.append_assoc, List.drop_left]
    exact List.mem_append_left _
      (List.mem_flatMap.mpr ⟨file, hmem, hnotice file hmem f w hf⟩)
  · rw [hexit, ite_eq_left_iff]
    simp only [zero_ne_one, imp_false, not_not, List.mem_map]
    exact exists_congr fun file => and_congr_right fun hmem => hfails file hmem
  · rw [hexit, ite_eq_right_iff]
    simp only [one_ne_zero, imp_false, List.mem_map, not_exists, not_and, Bool.not_eq_true]
    exact forall_congr' fun file => forall_congr' fun hmem => hsucceeds file hmem

/-- A source file and two catalog files, one of them with changes that are not staged. -/
def desk : Session where
  tree :=
    { files := [([['w'], "main.py"], "_(\"Open\")".toByteArray),
        ([['w'], "de.po"], ByteArray.empty), ([['w'], "fr.po"], ByteArray.empty)]
      directories := [[], [['w']]] }
  current := [['w']]
  git loc := if loc = [['w'], "fr.po"] then .finished " M fr.po" 0 [] else .silent

/-- The order to merge the messages of the source file into both catalog files. -/
def deskOrder : Arguments :=
  { words := ["de.po", "fr.po"], given := [(.source, .value "main.py")] }

/-- Whether the merges are prepared, no file holds the name of a file, all failures are contained,
and there is one. -/
def failsContained (a : Arguments) (surroundings : MergeOptions.Surroundings) (s : Session) :
    Bool :=
  match (prepareMerge a surroundings).outcome s with
  | (.ok (m, messages, files), t) =>
    let merge file := ((m.update file (.list (messages.map Message.toValue))).outcome t).1
    (files.all fun file => (m.pointee? t file).isNone) &&
      ((files.all fun file => match merge file with
        | .error f => f.isContained
        | .ok _ => true) && files.any fun file => (merge file).toOption.isNone)
  | _ => false

theorem mergeMessages_isolates_desk :
    ∃ v u, (mergeMessages deskOrder { current := [['w']] }).outcome desk = (.ok v, u) ∧
      (Ending.verdict v).exitCode = 1 := by
  have hdesk : failsContained deskOrder { current := [['w']] } desk = true := by decide +kernel
  unfold failsContained at hdesk
  split at hdesk
  · next m messages files t hprepared =>
    obtain ⟨hplain, hall, hany⟩ := by simpa only [Bool.and_eq_true_iff] using hdesk
    obtain ⟨v, u, hrun, -, -, -, hfailed, -⟩ := mergeMessages_isolates deskOrder
      { current := [['w']] } desk hprepared rfl
      (fun file hfile other _ h => by simpa [h] using List.all_eq_true.mp hplain file hfile)
      fun file hfile f w h => by simpa [h] using List.all_eq_true.mp hall file hfile
    obtain ⟨file, hfile, hnone⟩ := List.any_eq_true.mp hany
    refine ⟨v, u, hrun, hfailed.mpr ⟨file, hfile, ?_⟩⟩
    cases h : (m.update file (.list (messages.map Message.toValue))).outcome t with
    | mk r w =>
      cases r with
      | error f => exact ⟨f, w, rfl⟩
      | ok r => simp [h, Except.toOption] at hnone
  · cases hdesk

end CommandLine

end MessageCatalog
