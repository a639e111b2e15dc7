import MessageCatalog.Proofs.Extract.DefaultRules
import MessageCatalog.Proofs.Extract.Directives
import MessageCatalog.Proofs.Extract.Visits

/-!
# What marked calls tell

A file tells the keys that its comments declare and then those of its marked calls, in the order in
which the calls are visited. A call tells the keys of one of its arguments, unless it ends on a line
that is ignored.
-/

namespace MessageCatalog

open Source (Comment Node)

lemma ExtractOptions.isMarker_iff {o : ExtractOptions} {name : Text} :
    o.isMarker name = true ↔ Value.text name ∈ o.markers := by
  rw [isMarker, List.any_eq_true]
  constructor
  · rintro ⟨m, hm, h⟩
    split at h
    · exact of_decide_eq_true h ▸ hm
    · cases h
  · intro h
    exact ⟨_, h, by simp⟩

lemma List.getElem?_eq_some_iff_append {α : Type} {xs : List α} {i : Nat} {x : α} :
    xs[i]? = some x ↔ ∃ before after, xs = before ++ x :: after ∧ before.length = i := by
  constructor
  · intro h
    obtain ⟨hi, rfl⟩ := List.getElem?_eq_some_iff.mp h
    refine ⟨xs.take i, xs.drop (i + 1), ?_, List.length_take_of_le hi.le⟩
    rw [← List.drop_eq_getElem_cons hi, List.take_append_drop]
  · rintro ⟨before, after, rfl, rfl⟩
    simp

namespace Call

variable {o : ExtractOptions} {c : Call} {n : Node} {position : Int}

/-! ### Markers and arguments -/

/-- The call of a marker: by its name, or as a member of something if the options allow it. -/
def IsMarker (o : ExtractOptions) (c : Call) : Prop :=
  ∃ id, Value.text id ∈ o.markers ∧
    (c.function = .name id ∨
      o.members.truthy = true ∧ ∃ object, c.function = .attribute object id)

/-- An argument stands at a position: so many arguments come before it, or, if the position is
negative, it is counted from the last one, which stands at `-1`. -/
def HasArgument (c : Call) (position : Int) (n : Node) : Prop :=
  ∃ before after, c.arguments = before ++ n :: after ∧
    (position = before.length ∨ position = -(after.length + 1 : Int))

lemma isMarked_iff : c.isMarked o = true ↔ c.IsMarker o := by
  unfold isMarked IsMarker
  cases c.function with
  | name id => simp [ExtractOptions.isMarker_iff]
  | «attribute» object id => simp [ExtractOptions.isMarker_iff, and_comm]
  | _ => simp

lemma argument?_eq_some_iff : c.argument? position = some n ↔ c.HasArgument position n := by
  have hindex {i : Int} : (if i < 0 then none else c.arguments[i.toNat]?) = some n ↔
      ∃ before after, c.arguments = before ++ n :: after ∧ i = before.length := by
    split
    · simp only [reduceCtorEq, false_iff]
      rintro ⟨before, -, -, hlength⟩
      omega
    · rw [List.getElem?_eq_some_iff_append]
      have hlength {before : List Node} : before.length = i.toNat ↔ i = before.length := by omega
      simp only [hlength]
  unfold argument? HasArgument
  dsimp only
  rw [hindex]
  refine exists₂_congr fun before after => and_congr_right fun hargs => ?_
  rw [hargs, List.length_append, List.length_cons]
  split <;> omega

/-- The keys that a call tells, each with the line on which the call begins: those that are known
and not empty of the argument at the position for keys. A call that is no call of a marker, ends on
an ignored line or has no such argument tells nothing. -/
structure Tells (o : ExtractOptions) (rules : CommentRules) (cs : List Comment) (c : Call)
    (found : List (Text × Nat)) : Prop where
  told : ∀ n, c.IsMarker o → ¬rules.IgnoresLine cs c.endLine → c.HasArgument o.position n →
    found = ((Keys.ofNode n).keys.reduceOption.filter (· ≠ [])).map (·, c.line)
  silent : (¬c.IsMarker o ∨ rules.IgnoresLine cs c.endLine ∨ ∀ n, ¬c.HasArgument o.position n) →
    found = []

end Call

namespace Findings

variable {o : ExtractOptions} {rules : CommentRules} {cs : List Comment}
  {state : Findings × CommentNotes}

/-! ### One call after another -/

/-- The keys that have been found, each with its line. -/
def told (f : Findings) : List (Text × Nat) := f.occurrences.map fun a => (a.key, a.line)

lemma usable_eq (ks : List (Option Text)) : usable ks = ks.reduceOption.filter (· ≠ []) := by
  induction ks with
  | nil => rfl
  | cons k ks ih => rcases k with _ | _ | ⟨c, rest⟩ <;> simp_all [usable, List.reduceOption]

/-- What a call tells that is looked at. -/
lemma tells_usable {c : Call} (hmarker : c.IsMarker o) (hline : ¬rules.IgnoresLine cs c.endLine) :
    c.Tells o rules cs ((usable (c.keys o).keys).map (·, c.line)) where
  told n _ _ hargument := by
    rw [Call.keys, Call.argument?_eq_some_iff.mpr hargument, usable_eq]
  silent := by
    rintro (hnot | hignored | hargument)
    · exact absurd hmarker hnot
    · exact absurd hignored hline
    · have hnone : c.argument? o.position = none := by
        rw [Option.eq_none_iff_forall_ne_some]
        exact fun n hn => hargument n (Call.argument?_eq_some_iff.mp hn)
      rw [Call.keys, hnone]
      rfl

lemma told_foldl_addKey (line : Nat) (keys : List Text) (state : Findings × CommentNotes) :
    (keys.foldl (addKey line) state).1.told = state.1.told ++ keys.map (·, line) ∧
      (keys.foldl (addKey line) state).2.ignored = state.2.ignored := by
  induction keys generalizing state with
  | nil => simp
  | cons key keys ih =>
    obtain ⟨htold, hignored⟩ := ih (addKey line state key)
    rw [List.foldl_cons, htold, hignored]
    simp [addKey, told, CommentNotes.takeAround, CommentNotes.drop]

/-- What is ignored when a call comes is ignored afterwards, and the keys of the call come last. -/
lemma exists_tells_addCall (hignored : ∀ line, line ∈ state.2.ignored ↔ rules.IgnoresLine cs line)
    (c : Call) : ∃ found, c.Tells o rules cs found ∧
      (addCall o state c).1.told = state.1.told ++ found ∧
      (addCall o state c).2.ignored = state.2.ignored := by
  have hlooked : (c.isMarked o && !state.2.ignored.contains c.endLine) = true ↔
      c.IsMarker o ∧ ¬rules.IgnoresLine cs c.endLine := by
    simp [Call.isMarked_iff, hignored]
  by_cases hcall : c.IsMarker o ∧ ¬rules.IgnoresLine cs c.endLine
  · have hadd : addCall o state c = (usable (c.keys o).keys).foldl (addKey c.line)
        ({ state.1 with
          warnings := state.1.warnings ++ (c.keys o).warnings.map (c.line, ·) }, state.2) :=
      if_pos (hlooked.mpr hcall)
    obtain ⟨htold, hsame⟩ := told_foldl_addKey c.line (usable (c.keys o).keys)
      ({ state.1 with
        warnings := state.1.warnings ++ (c.keys o).warnings.map (c.line, ·) }, state.2)
    rw [← hadd] at htold hsame
    exact ⟨_, tells_usable hcall.1 hcall.2, htold, hsame⟩
  · have hadd : addCall o state c = state := if_neg (hlooked.not.mpr hcall)
    refine ⟨[], ⟨fun n hmarker hline => absurd ⟨hmarker, hline⟩ hcall, fun _ => rfl⟩, ?_, ?_⟩
    · rw [hadd, List.append_nil]
    · rw [hadd]

lemma exists_tells_foldl (state : Findings × CommentNotes)
    (hignored : ∀ line, line ∈ state.2.ignored ↔ rules.IgnoresLine cs line) (calls : List Call) :
    ∃ found, List.Forall₂ (Call.Tells o rules cs) calls found ∧
      (calls.foldl (addCall o) state).1.told = state.1.told ++ found.flatten := by
  induction calls generalizing state with
  | nil => exact ⟨[], List.Forall₂.nil, by simp⟩
  | cons c calls ih =>
    obtain ⟨keys, hkeys, htold, hsame⟩ := exists_tells_addCall (o := o) hignored c
    obtain ⟨found, hfound, hrest⟩ := ih (addCall o state c) fun line => by rw [hsame, hignored]
    refine ⟨keys :: found, List.Forall₂.cons hkeys hfound, ?_⟩
    rw [List.foldl_cons, hrest, htold, List.flatten_cons, List.append_assoc]

/-- If the first group of the expression for keys takes part in every match, searching a tree and
comments succeeds. What it finds are the keys that comments declare, in the order of the comments,
and then the keys that the calls of the tree tell, each call once and in the order of their
addresses. The comments of a source file come in the order of their lines. -/
theorem ofModule_tells (o : ExtractOptions) (hkey : rules.HasKeyGroup) (m : Source.Module) :
    ∃ f, ofModule o rules m = .ok f ∧
      (∃ (visits : List (List Nat × Call)) (found : List (List (Text × Nat))),
        (visits.map Prod.fst).Pairwise (· < ·) ∧
        (∀ address c, (address, c) ∈ visits ↔ m.tree.callAt? address = some c) ∧
        List.Forall₂ (Call.Tells o rules m.comments) (visits.map Prod.snd) found ∧
        f.occurrences.map (fun a => (a.key, a.line)) =
          (m.comments.filterMap fun c => (rules.declaredKey? c).map (·, c.line)) ++
            found.flatten) ∧
      (∀ c ∈ m.comments, (rules.declaredKey? c).isSome = rules.declares c) ∧
      ∀ t, Source.Module.ofText t = some m →
        ofText o rules t = .ok f ∧ m.comments.Pairwise fun a b => a.line < b.line := by
  obtain ⟨notes, hnotes⟩ := CommentNotes.exists_ofComments_of_hasKeyGroup hkey m.comments
  have hnoted := CommentNotes.isNoted_ofComments hnotes
  obtain ⟨visits, hvisits⟩ := Call.exists_isVisit m.tree
  obtain ⟨found, hfound, htold⟩ := exists_tells_foldl (o := o) (⟨notes.declared, []⟩, notes)
    hnoted.ignored (Call.inNode m.tree)
  have hf := ofModule_eq_ok_iff (o := o).mpr ⟨notes, hnotes, rfl⟩
  refine ⟨_, hf, ⟨visits, found, hvisits.rising, hvisits.mem_iff, hvisits.calls ▸ hfound, ?_⟩,
    fun c _ => CommentRules.isSome_declaredKey? hkey c,
    fun t ht => ⟨ofText_eq_ok_iff.mpr ⟨m, ht, hf⟩, Source.Module.sorted_comments ht⟩⟩
  rw [← hnoted.keys]
  exact htold

/-- A declared key, a default value, a call in a call, and a call that is ignored. -/
def porch : Text := "# i18n-extract Bell
def ring(tone=_('Chime')):
    return _(bell + _('Knock'), x._('Hush'))
_('Draught')  # i18n-ignore-line
"

/-- The default options. -/
def doorman : ExtractOptions := { baseDir := ⟨"", []⟩ }

theorem ofModule_tells_porch : CommentRules.byDefault.HasKeyGroup ∧ ∃ m f,
    Source.Module.ofText porch = some m ∧ ofText doorman .byDefault porch = .ok f ∧
      f.told = ([("Bell", 1), ("Chime", 2), ("**", 3), ("Knock", 3)] : List (Text × Nat)) ∧
      ∃ (visits : List (List Nat × Call)) (found : List (List (Text × Nat))),
        (∀ address c, (address, c) ∈ visits ↔ m.tree.callAt? address = some c) ∧
        List.Forall₂ (Call.Tells doorman .byDefault m.comments) (visits.map Prod.snd) found ∧
        f.told = (m.comments.filterMap fun c =>
          (CommentRules.byDefault.declaredKey? c).map (·, c.line)) ++ found.flatten := by
  have hkey : CommentRules.byDefault.HasKeyGroup := CommentRules.hasKeyGroup_of_literal rfl
  obtain ⟨m, hm⟩ : ∃ m, Source.Module.ofText porch = some m :=
    Option.isSome_iff_exists.mp (by decide +kernel)
  obtain ⟨f, -, ⟨visits, found, -, hvisits, htells, hkeys⟩, -, hparsed⟩ :=
    ofModule_tells doorman hkey m
  obtain ⟨hf, -⟩ := hparsed porch hm
  have htold : (ofText doorman .byDefault porch).toOption.map told =
      some ([("Bell", 1), ("Chime", 2), ("**", 3), ("Knock", 3)] : List (Text × Nat)) := by
    decide +kernel
  rw [hf] at htold
  exact ⟨hkey, m, f, hm, hf, Option.some.inj htold, visits, found, hvisits, htells, hkeys⟩

end Findings

end MessageCatalog
