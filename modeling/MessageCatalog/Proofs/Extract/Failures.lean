import MessageCatalog.Extract.Collector
import MessageCatalog.Proofs.Failure
import MessageCatalog.Proofs.Workspace.Session

/-!
# Failures of collecting

A computation avoids a class of failures if no failure of it is in the class. Of all that is done on
the way to the messages, only adding to the index fails for a conflict.
-/

namespace MessageCatalog

variable {α β : Type}

namespace Failure

variable {k : Kind} {r : Except Failure α}

/-! ### Avoiding a class -/

/-- If the computation fails, then for another reason. -/
def Avoids (k : Kind) (r : Except Failure α) : Prop := ∀ f, r = .error f → f.kind ≠ k

@[simp] lemma avoids_ok (x : α) : Avoids k (.ok x : Except Failure α) := by rintro f ⟨⟩

@[simp] lemma avoids_pure (x : α) : Avoids k (pure x : Except Failure α) := avoids_ok x

@[simp] lemma avoids_error {f : Failure} :
    Avoids k (.error f : Except Failure α) ↔ f.kind ≠ k := by
  constructor
  · intro h
    exact h f rfl
  · rintro h _ ⟨⟩
    exact h

@[simp] lemma avoids_throw {f : Failure} :
    Avoids k (throw f : Except Failure α) ↔ f.kind ≠ k := avoids_error

lemma Avoids.bind {g : α → Except Failure β} (hr : Avoids k r) (hg : ∀ x, Avoids k (g x)) :
    Avoids k (r >>= g) := by
  cases r with
  | error f => exact avoids_error.mpr (avoids_error.mp hr)
  | ok x => exact hg x

lemma avoids_mapM {g : α → Except Failure β} (hg : ∀ x, Avoids k (g x)) (xs : List α) :
    Avoids k (xs.mapM g) := by
  induction xs with
  | nil => exact avoids_pure _
  | cons x xs ih =>
    rw [List.mapM_cons]
    exact (hg x).bind fun y => ih.bind fun ys => avoids_pure _

lemma avoids_foldlM {g : β → α → Except Failure β} (hg : ∀ y x, Avoids k (g y x)) (y : β)
    (xs : List α) : Avoids k (xs.foldlM g y) := by
  induction xs generalizing y with
  | nil => exact avoids_pure _
  | cons x xs ih => exact (hg y x).bind ih

end Failure

open Failure (Avoids avoids_ok avoids_pure avoids_error avoids_throw avoids_mapM avoids_foldlM)

namespace Action

variable {k : Failure.Kind} {a : Action α}

/-- The action reads and talks only, and no failure of it is in the class. -/
structure IsMild (k : Failure.Kind) (a : Action α) : Prop where
  quiet : a.IsQuiet
  avoids : ∀ s, Avoids k (a.outcome s).1

lemma isMild_pure (x : α) : IsMild k (pure x : Action α) := ⟨isQuiet_pure x, fun _ => avoids_ok x⟩

lemma isMild_throw {f : Failure} (h : f.kind ≠ k) : IsMild k (throw f : Action α) :=
  ⟨isQuiet_throw f, fun _ => avoids_error.mpr h⟩

lemma isMild_ofExcept {r : Except Failure α} (h : Avoids k r) : IsMild k (ofExcept r) :=
  ⟨isQuiet_ofExcept r, fun _ => h⟩

lemma isMild_get : IsMild k (get : Action Session) := ⟨isQuiet_get, fun _ => avoids_ok _⟩

lemma isMild_say (text : Text) (colour : Option Colour) : IsMild k (say text colour) :=
  ⟨isQuiet_say text colour, fun _ => avoids_ok ()⟩

lemma isMild_sayAll (notices : List Notice) : IsMild k (sayAll notices) :=
  ⟨isQuiet_sayAll notices, fun _ => avoids_ok ()⟩

lemma isMild_bind {f : α → Action β} (ha : IsMild k a) (hf : ∀ x, IsMild k (f x)) :
    IsMild k (a >>= f) := by
  refine ⟨isQuiet_bind ha.quiet fun x => (hf x).quiet, fun s => ?_⟩
  have has := ha.avoids s
  rw [outcome_bind]
  cases h : a.outcome s with
  | mk r t =>
    rw [h] at has
    cases r with
    | error e => exact avoids_error.mpr (avoids_error.mp has)
    | ok x => exact (hf x).avoids t

/-- Only failures that are not in the class come to be handled. -/
lemma isMild_tryCatch {handler : Failure → Action α} (ha : IsMild k a)
    (hh : ∀ e, e.kind ≠ k → IsMild k (handler e)) : IsMild k (tryCatch a handler) := by
  have hboth (s : Session) : s.Heard ((tryCatch a handler).outcome s).2 ∧
      Avoids k ((tryCatch a handler).outcome s).1 := by
    have has := ha.avoids s
    rw [outcome_tryCatch]
    cases h : a.outcome s with
    | mk r t =>
      have hst := ha.quiet.heard h
      rw [h] at has
      cases r with
      | error e =>
        have he := hh e (avoids_error.mp has)
        exact ⟨hst.trans (he.quiet t), he.avoids t⟩
      | ok x => exact ⟨hst, avoids_ok x⟩
  exact ⟨fun s => (hboth s).1, fun s => (hboth s).2⟩

lemma isMild_detail (verbose : Value) (level : Int) (text : Text) (h : k ≠ .type) :
    IsMild k (detail verbose level text) := by
  have hlevel : Avoids k (Options.atLeast verbose level) := by
    unfold Options.atLeast
    split
    · exact avoids_ok _
    · exact avoids_error.mpr h.symm
  refine isMild_bind (isMild_ofExcept hlevel) fun b => ?_
  cases b
  · exact isMild_pure ()
  · exact isMild_say text none

end Action

/-! ### Files -/

lemma FileTree.avoids_read (t : FileTree) (loc : Location) : Avoids .conflict (t.read loc) := by
  unfold FileTree.read
  repeat' split
  all_goals first | exact avoids_ok _ | exact avoids_error.mpr nofun

lemma Glob.avoids_step (component : Text) : Avoids .conflict (Glob.step component) := by
  unfold Glob.step
  repeat' split
  all_goals first | exact avoids_ok _ | exact avoids_error.mpr nofun

lemma Glob.avoids_select (t : FileTree) (base : Location) (pattern : Text) :
    Avoids .conflict (Glob.select t base pattern) := by
  have hsearch (parts : List Text) : Avoids .conflict (Glob.search t parts) := by
    unfold Glob.search
    split
    · exact avoids_throw.mpr nofun
    · exact (avoids_mapM Glob.avoids_step parts).bind fun _ => avoids_pure _
  have hfound (parts : List Text) :
      Avoids .conflict (do return ((← Glob.search t parts).map Place.location).filter t.isFile) :=
    (hsearch parts).bind fun _ => avoids_pure _
  unfold Glob.select
  dsimp only
  split
  · split
    · exact avoids_pure _
    · exact hfound _
  · exact hfound _

lemma FileTree.avoids_glob (t : FileTree) (base : Location) (patterns : Value) :
    Avoids .conflict (t.glob base patterns) := by
  have hpatterns : Avoids .conflict (Glob.patternsOf patterns) := by
    unfold Glob.patternsOf
    split <;> first | exact avoids_ok _ | exact avoids_error.mpr nofun
  have hvalue (v : Value) : Avoids .conflict (Glob.selectValue t base v) := by
    unfold Glob.selectValue
    split
    · exact Glob.avoids_select t base _
    · exact avoids_error.mpr nofun
  refine hpatterns.bind fun ps => ?_
  split
  · exact avoids_throw.mpr nofun
  · exact (avoids_mapM hvalue ps).bind fun _ => avoids_pure _

/-! ### The keys of a file -/

lemma CommentNotes.avoids_add (rules : CommentRules) (n : CommentNotes) (c : Source.Comment) :
    Avoids .conflict (n.add rules c) := by
  have hkey (r : Regex) (s : Regex.Spot) : Avoids .conflict (CommentNotes.keyOf r s) := by
    unfold CommentNotes.keyOf
    repeat' split
    all_goals first | exact avoids_ok _ | exact avoids_error.mpr nofun
  have hdeclare (n : CommentNotes) : Avoids .conflict (n.declare rules c) := by
    unfold CommentNotes.declare
    split
    · exact avoids_ok n
    split
    · exact avoids_ok n
    · exact (hkey _ _).bind fun _ => avoids_pure _
  refine (hdeclare _).bind fun m => ?_
  split <;> exact avoids_pure _

lemma Findings.avoids_ofText (o : ExtractOptions) (rules : CommentRules) (t : Text) :
    Avoids .conflict (Findings.ofText o rules t) := by
  unfold Findings.ofText
  split
  · exact avoids_error.mpr nofun
  · exact (avoids_foldlM (CommentNotes.avoids_add rules) _ _).bind fun _ => avoids_pure _

/-! ### The messages of an index -/

lemma Index.avoids_places? (i : Index) (context key : Text) :
    Avoids .conflict (i.places? context key) := by
  unfold Index.places?
  repeat' split
  all_goals first | exact avoids_ok _ | exact avoids_error.mpr nofun

namespace Collector

variable (c : Collector)

lemma avoids_contextName : Avoids .conflict c.contextName := by
  unfold contextName
  repeat' split
  all_goals first | exact avoids_ok _ | exact avoids_error.mpr nofun

lemma avoids_message (i : Index) (context key : Text) :
    Avoids .conflict (c.message i context key) := by
  have hrefs : Avoids .conflict (i.refs context key) :=
    (i.avoids_places? context key).bind fun _ => avoids_pure _
  have hcomments : Avoids .conflict (i.comments context key) :=
    (i.avoids_places? context key).bind fun _ => avoids_pure _
  unfold message
  split
  · split
    · exact avoids_error.mpr nofun
    · exact hrefs.bind fun _ => hcomments.bind fun _ => avoids_pure _
  · split
    · exact avoids_error.mpr nofun
    · exact avoids_error.mpr nofun

lemma avoids_messages (i : Index) : Avoids .conflict (c.messages i) :=
  c.avoids_contextName.bind fun context => avoids_mapM (c.avoids_message i context) _

/-! ### Reading -/

lemma isMild_name (loc : Location) : (c.name loc).IsMild .conflict :=
  Action.isMild_bind Action.isMild_get fun _ => Action.isMild_pure _

lemma isMild_readText (encoding : Value) (loc : Location) :
    (c.readText encoding loc).IsMild .conflict := by
  have hdecode (s : Session) (name : Text) (bytes : ByteArray) :
      Avoids .conflict (s.decode name bytes) := by
    cases h : s.decode name bytes with
    | ok t => exact avoids_ok t
    | error f =>
      rcases Session.decode_eq_error h with hf | hf | ⟨hf, -⟩
      all_goals exact avoids_error.mpr (by rw [hf]; decide)
  have hread : (Action.read loc).IsMild .conflict :=
    ⟨Action.isQuiet_read loc, fun s => s.tree.avoids_read loc⟩
  unfold readText
  dsimp only
  split
  all_goals
    refine Action.isMild_bind ?_ fun name => Action.isMild_bind hread fun bytes =>
      Action.isMild_bind Action.isMild_get fun s =>
        Action.isMild_bind (Action.isMild_ofExcept (hdecode s name bytes)) fun t =>
          Action.isMild_pure _
    first
    | exact Action.isMild_pure _
    | exact Action.isMild_throw nofun

lemma isMild_passOver (what : Text) (loc : Location) (f : Failure) :
    (c.passOver what loc f).IsMild .conflict :=
  Action.isMild_bind (c.isMild_name loc) fun _ => Action.isMild_say _ _

end Collector

end MessageCatalog
