import MessageCatalog.Proofs.Workspace.FileTree
import MessageCatalog.Proofs.Workspace.Session

/-!
# Actions about one file

An action about one file that is there sees of the tree only which files and directories there are
and what a few of the files hold, and the file is all it changes. So it does the same after other
such actions as it does before them, unless one of them changes a file that it looks at.
-/

namespace MessageCatalog

variable {α β : Type}

/-- What an action about one file adds to a session: lines, events, questions to git, and a new
content of the file. -/
structure Effect where
  notices : List Notice := []
  events : List (Event × Text) := []
  asked : List Location := []
  content : Option ByteArray := none
  deriving Inhabited

/-- One effect after the other. -/
def Effect.append (e e' : Effect) : Effect where
  notices := e.notices ++ e'.notices
  events := e.events ++ e'.events
  asked := e.asked ++ e'.asked
  content := e'.content <|> e.content

namespace FileTree

/-- Only the last content that was put into a file stays. -/
lemma put_put (t : FileTree) (loc : Location) (b b' : ByteArray) :
    (t.put loc b).put loc b' = t.put loc b' := by
  have h (files : List (Location × ByteArray)) :
      putContent loc b' (putContent loc b files) = putContent loc b' files := by
    induction files with
    | nil => simp [putContent]
    | cons f rest ih =>
      obtain ⟨l, c⟩ := f
      by_cases hl : l = loc
      · simp [putContent, hl]
      · simp [putContent, hl, ih]
  simp [put, h]

end FileTree

namespace Session

/-- The session after an effect on a file. -/
def after (s : Session) (loc : Location) (e : Effect) : Session where
  tree := match e.content with
    | some bytes => s.tree.put loc bytes
    | none => s.tree
  current := s.current
  git := s.git
  codec? := s.codec?
  notices := s.notices ++ e.notices
  events := s.events ++ e.events
  asked := s.asked ++ e.asked

/-- Nothing tells the sessions apart for an action that looks into the given files only. -/
structure AgreeOn (seen : Set Location) (s t : Session) : Prop where
  current : s.current = t.current
  git : s.git = t.git
  directories : s.tree.directories = t.tree.directories
  isFile : ∀ l, s.tree.isFile l = t.tree.isFile l
  content : ∀ l ∈ seen, s.tree.content? l = t.tree.content? l

variable {s t : Session} {loc l : Location} {e : Effect} {seen : Set Location}

@[simp] lemma after_empty (s : Session) (loc : Location) : s.after loc {} = s := by
  simp [after]

lemma after_after (s : Session) (loc : Location) (e e' : Effect) :
    (s.after loc e).after loc e' = s.after loc (e.append e') := by
  cases h : e.content <;> cases h' : e'.content <;>
    simp [after, Effect.append, h, h', FileTree.put_put]

lemma content?_after_of_ne (s : Session) (e : Effect) (h : l ≠ loc) :
    (s.after loc e).tree.content? l = s.tree.content? l := by
  cases hc : e.content <;> simp [after, hc, FileTree.content?_put_of_ne _ _ h]

lemma isFile_after (hloc : s.tree.isFile loc) (e : Effect) (l : Location) :
    (s.after loc e).tree.isFile l = s.tree.isFile l := by
  cases hc : e.content with
  | none => simp [after, hc]
  | some bytes =>
    simp only [after, hc, FileTree.isFile_put]
    by_cases h : l = loc
    · simp [h, hloc]
    · simp [h]

lemma directories_after (s : Session) (loc : Location) (e : Effect) :
    (s.after loc e).tree.directories = s.tree.directories := by
  cases hc : e.content <;> simp [after, hc, FileTree.put]

namespace AgreeOn

lemma refl (seen : Set Location) (s : Session) : AgreeOn seen s s :=
  ⟨rfl, rfl, rfl, fun _ => rfl, fun _ _ => rfl⟩

/-- The same effect on both sides keeps an agreement. -/
lemma after (h : AgreeOn seen s t) (hloc : s.tree.isFile loc) (e : Effect) :
    AgreeOn seen (s.after loc e) (t.after loc e) where
  current := h.current
  git := h.git
  directories := by rw [directories_after, directories_after, h.directories]
  isFile l := by rw [isFile_after hloc, isFile_after (h.isFile loc ▸ hloc), h.isFile]
  content l hl := by
    by_cases hne : l = loc
    · subst hne
      cases hc : e.content <;> simp [Session.after, hc, h.content l hl]
    · rw [content?_after_of_ne s e hne, content?_after_of_ne t e hne, h.content l hl]

/-- An effect on a file that is not looked at keeps an agreement. -/
lemma after_of_notMem (h : AgreeOn seen s t) (hl : t.tree.isFile l) (hseen : l ∉ seen)
    (e : Effect) : AgreeOn seen s (t.after l e) where
  current := h.current
  git := h.git
  directories := by rw [directories_after, h.directories]
  isFile l' := by rw [isFile_after hl, h.isFile]
  content l' hl' := by
    rw [content?_after_of_ne t e fun heq : l' = l => hseen (heq ▸ hl'), h.content l' hl']

end AgreeOn

lemma Heard.agreeOn (h : s.Heard t) (seen : Set Location) : AgreeOn seen s t := by
  obtain ⟨_, _, _, rfl⟩ := h
  exact ⟨rfl, rfl, rfl, fun _ => rfl, fun _ _ => rfl⟩

end Session

namespace Action

open Session

/-- In the session the action is about one file and looks into the given files only: it ends alike
and has the same effect on the file in all sessions that agree on what it looks at. -/
def IsLocalAt (seen : Set Location) (loc : Location) (s : Session) (a : Action α) : Prop :=
  ∃ r e, ∀ t, AgreeOn seen s t → a.outcome t = (r, t.after loc e)

variable {loc : Location} {seen : Set Location} {s : Session} {a : Action α}

lemma isLocalAt_of_outcome (r : Except Failure α) (e : Effect)
    (h : ∀ t, a.outcome t = (r, t.after loc e)) : IsLocalAt seen loc s a :=
  ⟨r, e, fun t _ => h t⟩

lemma isLocalAt_pure (x : α) : IsLocalAt seen loc s (pure x) :=
  isLocalAt_of_outcome (.ok x) {} fun t => by simp

lemma isLocalAt_throw (f : Failure) : IsLocalAt seen loc s (throw f : Action α) :=
  isLocalAt_of_outcome (.error f) {} fun t => by simp

lemma isLocalAt_ofExcept (r : Except Failure α) : IsLocalAt seen loc s (ofExcept r) :=
  isLocalAt_of_outcome r {} fun t => by simp

lemma isLocalAt_say (text : Text) (colour : Option Colour) :
    IsLocalAt seen loc s (say text colour) :=
  isLocalAt_of_outcome (.ok ()) { notices := [⟨text, colour⟩] } fun t => by simp [Session.after]

lemma isLocalAt_sayAll (notices : List Notice) : IsLocalAt seen loc s (sayAll notices) :=
  isLocalAt_of_outcome (.ok ()) { notices } fun t => by simp [Session.after]

lemma isLocalAt_ofMerge (o : Merge.Outcome) : IsLocalAt seen loc s (ofMerge o) :=
  isLocalAt_of_outcome o.result { notices := o.notices, events := o.events } fun t => by
    simp [Session.after]

lemma isLocalAt_status (l : Location) : IsLocalAt seen loc s (status l) := by
  refine ⟨FileStatus.ofAnswer (l.getLast?.getD []) (s.git l), { asked := [l] }, fun t h => ?_⟩
  simp [Session.after, h.git]

lemma isLocalAt_read (hloc : s.tree.isFile loc) (hseen : loc ∈ seen) :
    IsLocalAt seen loc s (read loc) := by
  obtain ⟨bytes, hbytes⟩ := Option.isSome_iff_exists.mp hloc
  refine ⟨.ok bytes, {}, fun t h => ?_⟩
  simp [FileTree.read, h.content loc hseen ▸ hbytes]

lemma isLocalAt_write (bytes : ByteArray) : IsLocalAt seen loc s (write loc bytes) := by
  have hwrite (t : Session) (h : AgreeOn seen s t) :=
    FileTree.write_congr h.isFile h.directories loc bytes
  cases hs : s.tree.write loc bytes with
  | error f =>
    refine ⟨.error f, {}, fun t h => ?_⟩
    simp [write, outcome_change, hwrite t h, hs, Except.map]
  | ok tree =>
    refine ⟨.ok (), { content := some bytes }, fun t h => ?_⟩
    simp [write, outcome_change, hwrite t h, hs, Except.map, Session.after]

lemma isLocalAt_bind {f : α → Action β} (hloc : s.tree.isFile loc) (ha : IsLocalAt seen loc s a)
    (hf : ∀ x t, a.outcome s = (.ok x, t) → t.tree.isFile loc → IsLocalAt seen loc t (f x)) :
    IsLocalAt seen loc s (a >>= f) := by
  obtain ⟨r, e, h⟩ := ha
  cases r with
  | error f => exact ⟨.error f, e, fun t ht => outcome_bind_error (h t ht)⟩
  | ok x =>
    obtain ⟨r', e', h'⟩ :=
      hf x (s.after loc e) (h s (.refl seen s)) ((isFile_after hloc e loc).symm ▸ hloc)
    refine ⟨r', e.append e', fun t ht => ?_⟩
    rw [outcome_bind_ok (h t ht), h' _ (ht.after hloc e), after_after]

lemma isLocalAt_tryCatch {handler : Failure → Action α} (hloc : s.tree.isFile loc)
    (ha : IsLocalAt seen loc s a)
    (hh : ∀ f t, a.outcome s = (.error f, t) → t.tree.isFile loc →
      IsLocalAt seen loc t (handler f)) :
    IsLocalAt seen loc s (tryCatch a handler) := by
  obtain ⟨r, e, h⟩ := ha
  cases r with
  | ok x => exact ⟨.ok x, e, fun t ht => by rw [outcome_tryCatch, h t ht]⟩
  | error f =>
    obtain ⟨r', e', h'⟩ :=
      hh f (s.after loc e) (h s (.refl seen s)) ((isFile_after hloc e loc).symm ▸ hloc)
    refine ⟨r', e.append e', fun t ht => ?_⟩
    rw [outcome_tryCatch, h t ht]
    exact (h' _ (ht.after hloc e)).trans (by rw [after_after])

/-- Of the session itself, an action about a file may use what the sessions agree on. -/
lemma isLocalAt_get_bind {f : Session → Action α} (hagree : ∀ t, AgreeOn seen s t → f t = f s)
    (hf : IsLocalAt seen loc s (f s)) : IsLocalAt seen loc s (get >>= f) := by
  obtain ⟨r, e, h⟩ := hf
  refine ⟨r, e, fun t ht => ?_⟩
  rw [outcome_bind_ok (outcome_get t), hagree t ht, h t ht]

lemma isLocalAt_detail (verbose : Value) (level : Int) (text : Text) :
    IsLocalAt seen loc s (detail verbose level text) := by
  cases h : Options.atLeast verbose level with
  | error f => exact isLocalAt_of_outcome (.error f) {} fun t => by simp [h]
  | ok b => cases b with
    | false => exact isLocalAt_of_outcome (.ok ()) {} fun t => by simp [h]
    | true =>
      exact isLocalAt_of_outcome (.ok ()) { notices := [⟨text, none⟩] } fun t => by
        simp [h, Session.after]

/-! ### One after the other -/

section Lists

variable {t : Session} {files : List Location}

/-- Checks about files that are there end as each of them does at the start. -/
lemma result_forM_local {f : Location → Action Unit} (hquiet : ∀ l, (f l).IsQuiet)
    (hlocal : ∀ l ∈ files, (f l).IsLocalAt Set.univ l s) (ht : s.Heard t) :
    ((files.forM f).outcome t).1 = files.forM fun l => ((f l).outcome s).1 := by
  induction files generalizing t with
  | nil => rfl
  | cons l rest ih =>
    obtain ⟨r, e, h⟩ := hlocal l List.mem_cons_self
    have hs := h s (.refl _ s)
    have ht' := h t (ht.agreeOn _)
    change ((f l >>= fun _ => rest.forM f).outcome t).1 =
      ((f l).outcome s).1 >>= fun _ => rest.forM fun l => ((f l).outcome s).1
    rw [hs]
    cases r with
    | error f => rw [outcome_bind_error ht']; rfl
    | ok _ =>
      rw [outcome_bind_ok ht']
      exact ih (fun l' hl' => hlocal l' (List.mem_cons_of_mem _ hl'))
        (ht.trans ((hquiet l).heard ht'))

variable {sees : Location → Set Location}

/-- The files are there, each of them once, and none of them is looked at for another one. -/
structure Apart (sees : Location → Set Location) (s : Session) (files : List Location) : Prop where
  nodup : files.Nodup
  isFile : ∀ l ∈ files, s.tree.isFile l
  seen : ∀ l ∈ files, ∀ l' ∈ files, l' ∈ sees l → l' = l

lemma Apart.tail {l : Location} {rest : List Location} (h : Apart sees s (l :: rest)) :
    Apart sees s rest where
  nodup := h.nodup.of_cons
  isFile l' hl' := h.isFile l' (List.mem_cons_of_mem _ hl')
  seen l' hl' k hk := h.seen l' (List.mem_cons_of_mem _ hl') k (List.mem_cons_of_mem _ hk)

/-- What is done to the first file is not seen by the others. -/
lemma Apart.agreeOn_after {l : Location} {rest : List Location} (h : Apart sees s (l :: rest))
    (ht : ∀ l' ∈ l :: rest, AgreeOn (sees l') s t) (e : Effect) :
    ∀ l' ∈ rest, AgreeOn (sees l') s (t.after l e) := by
  intro l' hl'
  have hagree := ht l' (List.mem_cons_of_mem _ hl')
  refine hagree.after_of_notMem (hagree.isFile l ▸ h.isFile l List.mem_cons_self) ?_ e
  intro hseen
  obtain rfl := h.seen l' (List.mem_cons_of_mem _ hl') l List.mem_cons_self hseen
  exact (List.nodup_cons.mp h.nodup).1 hl'

/-- Actions about different files that are there end as each of them does at the start. -/
lemma result_mapM_local {f : Location → Action β} (hfiles : Apart sees s files)
    (hlocal : ∀ l ∈ files, (f l).IsLocalAt (sees l) l s) (ht : ∀ l ∈ files, AgreeOn (sees l) s t) :
    ((files.mapM f).outcome t).1 = files.mapM fun l => ((f l).outcome s).1 := by
  induction files generalizing t with
  | nil => rfl
  | cons l rest ih =>
    obtain ⟨r, e, h⟩ := hlocal l List.mem_cons_self
    have hs := h s (.refl _ s)
    have ht' := h t (ht l List.mem_cons_self)
    rw [List.mapM_cons, List.mapM_cons, hs]
    cases r with
    | error f => rw [outcome_bind_error ht']; rfl
    | ok x =>
      have hrest := ih hfiles.tail (fun l' hl' => hlocal l' (List.mem_cons_of_mem _ hl'))
        (hfiles.agreeOn_after ht e)
      rw [outcome_bind_ok ht', bind_pure_comp, outcome_map, hrest]
      simp only [bind, Except.bind]
      cases rest.mapM fun l => ((f l).outcome s).1 <;> rfl

/-- Actions about different files leave each file as its own action does at the start, and all other
files as they were. -/
lemma content?_mapM_local {f : Location → Action β} (hfiles : Apart sees s files)
    (hlocal : ∀ l ∈ files, (f l).IsLocalAt (sees l) l s) (hself : ∀ l ∈ files, l ∈ sees l)
    (ht : ∀ l ∈ files, AgreeOn (sees l) s t) {ys : List β} {u : Session}
    (h : (files.mapM f).outcome t = (.ok ys, u)) :
    (∀ l ∈ files, u.tree.content? l = ((f l).outcome s).2.tree.content? l) ∧
      ∀ l ∉ files, u.tree.content? l = t.tree.content? l := by
  induction files generalizing t ys with
  | nil =>
    obtain ⟨-, rfl⟩ := Prod.mk.inj h
    exact ⟨fun l hl => absurd hl List.not_mem_nil, fun _ _ => rfl⟩
  | cons l rest ih =>
    have hl := (List.nodup_cons.mp hfiles.nodup).1
    have hagree := ht l List.mem_cons_self
    obtain ⟨r, e, hrun⟩ := hlocal l List.mem_cons_self
    rw [List.mapM_cons] at h
    obtain ⟨y, v, hv, h⟩ := outcome_bind_eq_ok_iff.mp h
    obtain ⟨ys', w, hw, h⟩ := outcome_bind_eq_ok_iff.mp h
    obtain ⟨-, rfl⟩ := Prod.mk.inj h
    obtain ⟨-, rfl⟩ := Prod.mk.inj ((hrun t hagree).symm.trans hv)
    -- The others do not see the first file, so they run as at the start and leave it alone.
    obtain ⟨hin, hout⟩ := ih hfiles.tail (fun l' hl' => hlocal l' (List.mem_cons_of_mem _ hl'))
      (fun l' hl' => hself l' (List.mem_cons_of_mem _ hl')) (hfiles.agreeOn_after ht e) hw
    constructor
    · intro l' hl'
      rcases List.mem_cons.mp hl' with rfl | hl'
      · rw [hout l' hl, hrun s (.refl _ s)]
        exact ((hagree.after (hfiles.isFile l' List.mem_cons_self) e).content l'
          (hself l' List.mem_cons_self)).symm
      · exact hin l' hl'
    · intro l' hl'
      obtain ⟨hne, hl'⟩ := not_or.mp (List.mem_cons.not.mp hl')
      rw [hout l' hl', content?_after_of_ne t e hne]

end Lists

end Action

end MessageCatalog
