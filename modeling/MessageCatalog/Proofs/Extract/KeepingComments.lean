import MessageCatalog.Proofs.Extract.MarkedCalls

/-!
# Keeping comments

Whether comments are kept for the keys is one matter, and which keys there are is another: what
directives come to, and what calls tell, is found without a look at the comments that are kept.
-/

namespace MessageCatalog

open Source (Comment)

/-! ### Directives -/

namespace CommentNotes

variable {rules : CommentRules}

/-- What directives have come to: the declared keys with their lines, and the ignored lines. -/
structure Directives where
  declared : List (Text × Nat)
  ignored : List Nat

/-- The directives that have been noted. -/
def directives (n : CommentNotes) : Directives :=
  ⟨n.declared.map fun a => (a.key, a.line), n.ignored⟩

namespace Directives

/-- Note the key that a comment declares. -/
def declare (rules : CommentRules) (d : Directives) (c : Comment) : Except Failure Directives :=
  match rules.key with
  | none => .ok d
  | some r => match r.search c.text with
    | none => .ok d
    | some s => do return { d with declared := d.declared ++ [(← keyOf r s, c.line)] }

/-- Note the directives of a comment. -/
def add (rules : CommentRules) (d : Directives) (c : Comment) : Except Failure Directives := do
  let d ← d.declare rules c
  return if rules.ignores c then { d with ignored := c.line :: d.ignored } else d

end Directives

lemma directives_keepBy (n : CommentNotes) (c : Comment) :
    (n.keepBy rules c).directives = n.directives := by
  simp [directives, declared_keepBy, ignored_keepBy]

lemma map_directives_declare (rules : CommentRules) (n : CommentNotes) (c : Comment) :
    (n.declare rules c).map directives = n.directives.declare rules c := by
  simp only [declare, Directives.declare]
  cases rules.key with
  | none => rfl
  | some r =>
    cases hsearch : r.search c.text with
    | none => simp [hsearch, Except.map]
    | some s =>
      simp only [hsearch]
      cases keyOf r s with
      | error e => rfl
      | ok key => simp [bind, Except.bind, pure, Except.pure, Except.map, takeAt, directives, drop]

/-- What adding a comment does to the directives depends on the directives alone. -/
lemma map_directives_add (n : CommentNotes) (c : Comment) :
    (n.add rules c).map directives = n.directives.add rules c := by
  have hdeclare := map_directives_declare rules (n.keepBy rules c) c
  rw [directives_keepBy] at hdeclare
  have hadd : n.add rules c = (do
      let k ← (n.keepBy rules c).declare rules c
      if rules.ignores c then return { k.drop c.line with ignored := c.line :: k.ignored }
      else return k) := rfl
  rw [Directives.add, ← hdeclare, hadd]
  cases (n.keepBy rules c).declare rules c with
  | error e => rfl
  | ok k =>
    cases rules.ignores c <;>
      simp [bind, Except.bind, pure, Except.pure, Except.map, directives, drop]

lemma map_directives_ofComments (rules : CommentRules) (cs : List Comment) :
    (ofComments rules cs).map directives = cs.foldlM (Directives.add rules) ⟨[], []⟩ :=
  Failure.map_foldlM map_directives_add {} cs

end CommentNotes

/-! ### Calls -/

namespace Findings

variable {o : ExtractOptions} {rules : CommentRules}

/-- What is told of a file: the keys with their lines, and the warnings. -/
structure Outline where
  told : List (Text × Nat)
  warnings : List (Nat × Text)

def outline (f : Findings) : Outline := ⟨f.told, f.warnings⟩

/-- Add what a call tells, unless it ends on one of the ignored lines. -/
def Outline.addCall (o : ExtractOptions) (ignored : List Nat) (l : Outline) (c : Call) : Outline :=
  if c.isMarked o && !ignored.contains c.endLine then
    { told := l.told ++ (usable (c.keys o).keys).map (·, c.line)
      warnings := l.warnings ++ (c.keys o).warnings.map (c.line, ·) }
  else l

lemma warnings_foldl_addKey (line : Nat) (keys : List Text) (state : Findings × CommentNotes) :
    (keys.foldl (addKey line) state).1.warnings = state.1.warnings :=
  List.foldlRecOn (motive := fun s : Findings × CommentNotes => s.1.warnings = state.1.warnings)
    _ _ rfl fun _ hs _ _ => hs

lemma outline_addCall (state : Findings × CommentNotes) (c : Call) :
    (addCall o state c).1.outline = state.1.outline.addCall o state.2.ignored c ∧
      (addCall o state c).2.ignored = state.2.ignored := by
  obtain ⟨f, notes⟩ := state
  rw [addCall, Outline.addCall]
  split
  · obtain ⟨htold, hignored⟩ := told_foldl_addKey c.line (usable (c.keys o).keys)
      ({ f with warnings := f.warnings ++ (c.keys o).warnings.map (c.line, ·) }, notes)
    refine ⟨?_, hignored⟩
    rw [outline, htold, warnings_foldl_addKey]
    rfl
  · exact ⟨rfl, rfl⟩

/-- What the calls of a tree tell depends on the lines that are ignored, and on no comment. -/
lemma outline_foldl_addCall (calls : List Call) (state : Findings × CommentNotes) :
    (calls.foldl (addCall o) state).1.outline =
      calls.foldl (Outline.addCall o state.2.ignored) state.1.outline := by
  induction calls generalizing state with
  | nil => rfl
  | cons c calls ih =>
    obtain ⟨houtline, hignored⟩ := outline_addCall (o := o) state c
    rw [List.foldl_cons, List.foldl_cons, ih, houtline, hignored]

/-- What is told of a file is found from its directives and its calls. -/
lemma map_outline_ofModule (o : ExtractOptions) (rules : CommentRules) (m : Source.Module) :
    (ofModule o rules m).map outline = (do
      let d ← m.comments.foldlM (CommentNotes.Directives.add rules) ⟨[], []⟩
      return (Call.inNode m.tree).foldl (Outline.addCall o d.ignored) ⟨d.declared, []⟩) := by
  rw [← CommentNotes.map_directives_ofComments, ofModule]
  cases CommentNotes.ofComments rules m.comments with
  | error e => rfl
  | ok notes => exact congrArg Except.ok (outline_foldl_addCall _ (⟨notes.declared, []⟩, notes))

end Findings

/-! ### Options that differ in what is kept -/

/-- The options with another choice whether comments are kept. -/
def ExtractOptions.withExtract (o : ExtractOptions) (extract : Value) : ExtractOptions :=
  { o with comments := { o.comments with extract } }

/-- The rules with another choice whether comments are kept. -/
def CommentRules.withKeep (rules : CommentRules) (keep : Bool) : CommentRules := { rules with keep }

lemma CommentRules.ofOptions_withExtract (o : ExtractOptions) (extract : Value) :
    ofOptions (o.withExtract extract).comments =
      (ofOptions o.comments).map (·.withKeep extract.truthy) := by
  simp only [ofOptions, ExtractOptions.withExtract]
  cases pattern? "comments.key_regex" o.comments.keyPattern with
  | error e => rfl
  | ok key => cases pattern? "comments.ignore_regex" o.comments.ignorePattern <;> rfl

namespace Findings

/-- Look through the text of a source file as the options say. -/
def scan (o : ExtractOptions) (t : Text) : Except Failure Findings := do
  ofText o (← CommentRules.ofOptions o.comments) t

lemma map_outline_ofText_withKeep (o : ExtractOptions) (extract : Value) (rules : CommentRules)
    (keep : Bool) (t : Text) :
    (ofText (o.withExtract extract) (rules.withKeep keep) t).map outline =
      (ofText o rules t).map outline := by
  rw [ofText, ofText]
  cases Source.Module.ofText t with
  | none => rfl
  | some m => exact (map_outline_ofModule _ _ m).trans (map_outline_ofModule o rules m).symm

/-- Options that differ only in whether comments are kept have every text looked through with the
same failure, or with the same keys on the same lines and the same warnings; and the same keys are
declared and the same lines ignored by the same comments. -/
theorem scan_withExtract (o : ExtractOptions) (extract : Value) :
    (∀ t, (scan (o.withExtract extract) t).map outline = (scan o t).map outline) ∧
      ∀ cs, (do
          let rules ← CommentRules.ofOptions (o.withExtract extract).comments
          (CommentNotes.ofComments rules cs).map CommentNotes.directives) = (do
          let rules ← CommentRules.ofOptions o.comments
          (CommentNotes.ofComments rules cs).map CommentNotes.directives) := by
  have hrules := CommentRules.ofOptions_withExtract o extract
  constructor
  · intro t
    rw [scan, scan, hrules]
    cases CommentRules.ofOptions o.comments with
    | error e => rfl
    | ok rules => exact map_outline_ofText_withKeep o extract rules extract.truthy t
  · intro cs
    rw [hrules]
    cases CommentRules.ofOptions o.comments with
    | error e => rfl
    | ok rules =>
      exact (CommentNotes.map_directives_ofComments (rules.withKeep extract.truthy) cs).trans
        (CommentNotes.map_directives_ofComments rules cs).symm

end Findings

end MessageCatalog
