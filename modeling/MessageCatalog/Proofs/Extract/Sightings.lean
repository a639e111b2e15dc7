import MessageCatalog.Proofs.Extract.Collecting
import MessageCatalog.Proofs.Extract.Comments
import MessageCatalog.Proofs.Extract.Failures
import MessageCatalog.Proofs.Index.Sightings
import MessageCatalog.Proofs.Workspace.Path

/-!
# What source files show

What a run finds in a source file depends on the content of the file alone. A run ends well just
when every file is read, or passed over, and what the files show fits into the index.
-/

namespace MessageCatalog

variable {α β : Type}

/-! ### Steps that end well -/

namespace Collecting

/-- Whether a step ends well, and the index it ends with. It does no more to the session than to
tell it something, and it does not fail for the syntax of a source file. -/
def EndsWith (a : Collecting α) (i : Index) (s : Session) : Except Failure Index → Prop
  | .ok j => ∃ x t, a.outcome i s = (.ok x, j, t) ∧ s.Heard t
  | .error _ => ∃ e j t, a.outcome i s = (.error e, j, t) ∧ e.kind ≠ .sourceSyntax

variable {a : Collecting α} {f : α → Collecting β} {i : Index} {s : Session}
  {r : Except Failure Index}

lemma endsWith_pure (x : α) : (pure x : Collecting α).EndsWith i s (.ok i) :=
  ⟨x, s, rfl, .refl s⟩

lemma endsWith_error {e : Failure} {j : Index} {t : Session}
    (h : a.outcome i s = (.error e, j, t)) (he : e.kind ≠ .sourceSyntax) (e' : Failure) :
    a.EndsWith i s (.error e') :=
  ⟨e, j, t, h, he⟩

lemma EndsWith.of_outcome_eq {b : Collecting α} (h : a.outcome i s = b.outcome i s)
    (hb : b.EndsWith i s r) : a.EndsWith i s r := by
  unfold EndsWith at hb ⊢
  rwa [h]

/-- It does not matter for which reason a step is said to fail. -/
lemma EndsWith.congr {r' : Except Failure Index} (ha : a.EndsWith i s r)
    (h : ∀ j, r = .ok j ↔ r' = .ok j) : a.EndsWith i s r' := by
  cases r with
  | ok j =>
    rw [(h j).mp rfl]
    exact ha
  | error e => cases r' with
    | ok j => cases (h j).mpr rfl
    | error e' => exact ha

/-- A step that has ended well has ended with the index that was foretold. -/
lemma EndsWith.eq_ok (ha : a.EndsWith i s r) {x : α} {j : Index} {t : Session}
    (h : a.outcome i s = (.ok x, j, t)) : r = .ok j := by
  cases r with
  | error e =>
    obtain ⟨e', j', t', h', -⟩ := ha
    cases h'.symm.trans h
  | ok k =>
    obtain ⟨y, u, h', -⟩ := ha
    cases h'.symm.trans h
    rfl

lemma EndsWith.bind {g : Index → Except Failure Index} (ha : a.EndsWith i s r)
    (hf : ∀ x j t, s.Heard t → (f x).EndsWith j t (g j)) :
    (a >>= f).EndsWith i s (r >>= g) := by
  cases r with
  | error e =>
    obtain ⟨e', j, t, h, hkind⟩ := ha
    exact ⟨e', j, t, by rw [outcome_bind, h], hkind⟩
  | ok j =>
    obtain ⟨x, t, h, ht⟩ := ha
    have heq : (a >>= f).outcome i s = (f x).outcome j t := by rw [outcome_bind, h]
    have hrest := hf x j t ht
    show (a >>= f).EndsWith i s (g j)
    cases hg : g j with
    | error e =>
      obtain ⟨e', k, u, hu, hkind⟩ := hg ▸ hrest
      exact ⟨e', k, u, heq.trans hu, hkind⟩
    | ok k =>
      obtain ⟨y, u, hu, htu⟩ := hg ▸ hrest
      exact ⟨y, u, heq.trans hu, ht.trans htu⟩

lemma EndsWith.map (ha : a.EndsWith i s r) (f : α → β) :
    (do return f (← a)).EndsWith i s r := by
  have h : (do return f (← a)).EndsWith i s (r >>= .ok) :=
    ha.bind fun x j t _ => endsWith_pure (f x)
  rwa [Failure.bind_ok] at h

/-- An action that succeeds leaves it to the next step how all ends. -/
lemma EndsWith.after {act : Action α} {x : α} {t : Session} (hact : act.outcome s = (.ok x, t))
    (ht : s.Heard t) (hf : (f x).EndsWith i t r) : (ofAction act >>= f).EndsWith i s r := by
  have heq : (ofAction act >>= f).outcome i s = (f x).outcome i t := by
    rw [outcome_bind, outcome_ofAction, hact]
  cases r with
  | error e =>
    obtain ⟨e', j, u, hu, hkind⟩ := hf
    exact ⟨e', j, u, heq.trans hu, hkind⟩
  | ok j =>
    obtain ⟨y, u, hu, htu⟩ := hf
    exact ⟨y, u, heq.trans hu, ht.trans htu⟩

/-- A handler that only minds the syntax of source files is not called. -/
lemma EndsWith.tryCatch {handler : Failure → Collecting α} (ha : a.EndsWith i s r)
    (hh : ∀ e, e.kind ≠ .sourceSyntax → handler e = throw e) :
    (tryCatch a handler).EndsWith i s r := by
  cases r with
  | error e =>
    obtain ⟨e', j, t, h, hkind⟩ := ha
    refine ⟨e', j, t, ?_, hkind⟩
    rw [outcome_tryCatch, h]
    dsimp only
    rw [hh e' hkind, outcome_throw]
  | ok j =>
    obtain ⟨x, t, h, ht⟩ := ha
    exact ⟨x, t, by rw [outcome_tryCatch, h], ht⟩

end Collecting

open Collecting (EndsWith endsWith_pure endsWith_error)

lemma Index.avoids_add (i : Index) (context key reference : Text) (comment : Option Text) :
    Failure.Avoids .sourceSyntax (i.add context key reference comment) := by
  rw [Index.add_eq]
  split
  · split
    · exact Failure.avoids_ok _
    · exact Failure.avoids_error.mpr nofun
  · exact Failure.avoids_ok _
  · exact Failure.avoids_ok _

/-- A file that is not there, or is no file, is a matter of the file system. -/
lemma FileTree.isSystem_of_read {t : FileTree} {loc : Location} {f : Failure}
    (h : t.read loc = .error f) : f.isSystem = true := by
  unfold FileTree.read at h
  repeat' split at h
  all_goals cases h
  all_goals rfl

namespace Collector

variable (c : Collector) {context : Text} {i : Index} {s : Session} {encoding : Value}
  {loc : Location}

/-! ### The keys of a file -/

/-- The keys of a file with a name, as an index sees them. -/
def sighted (name : Text) (os : List Occurrence) : List Sighting :=
  os.map fun o => ⟨name, o.line, o.key, o.comment⟩

lemma endsWith_addOccurrence (hcontext : c.contextName = .ok context) (name : Text)
    (o : Occurrence) (i : Index) (s : Session) :
    (c.addOccurrence name o).EndsWith i s
      (i.add context o.key (Reference.ofLine name o.line) o.comment) := by
  have havoids := i.avoids_add context o.key (Reference.ofLine name o.line) o.comment
  have houtcome := c.outcome_addOccurrence name o i s
  rw [hcontext] at houtcome
  dsimp only at houtcome
  cases hadd : i.add context o.key (Reference.ofLine name o.line) o.comment with
  | error e =>
    rw [hadd] at houtcome havoids
    exact ⟨e, i, s, houtcome, Failure.avoids_error.mp havoids⟩
  | ok j =>
    rw [hadd] at houtcome
    exact ⟨(), s, houtcome, .refl s⟩

lemma endsWith_forM_addOccurrence (hcontext : c.contextName = .ok context) (name : Text)
    (os : List Occurrence) (i : Index) (s : Session) :
    (os.forM (c.addOccurrence name)).EndsWith i s (i.addAll context (sighted name os)) := by
  induction os generalizing i s with
  | nil => exact endsWith_pure ()
  | cons o os ih =>
    exact (c.endsWith_addOccurrence hcontext name o i s).bind fun _ j t _ => ih j t

lemma endsWith_detail (verbose : Value) (level : Int) (text : Text) (i : Index) (s : Session) :
    (Collecting.ofAction (Action.detail verbose level text)).EndsWith i s (do
      let _ ← Options.atLeast verbose level
      return i) := by
  have hmild := Action.isMild_detail (k := .sourceSyntax) verbose level text (by decide)
  have havoids := hmild.avoids s
  have hquiet := hmild.quiet s
  have houtcome := Collecting.outcome_ofAction (Action.detail verbose level text) i s
  rw [Action.outcome_detail] at havoids hquiet houtcome
  cases hlevel : Options.atLeast verbose level with
  | error e =>
    rw [hlevel] at havoids houtcome
    exact ⟨e, i, s, houtcome, Failure.avoids_error.mp havoids⟩
  | ok b =>
    rw [hlevel] at houtcome hquiet
    cases b <;> exact ⟨(), _, houtcome, hquiet⟩

/-- A text whose keys are found ends well if they fit in, and the level of detail is a number. -/
lemma endsWith_addText (hcontext : c.contextName = .ok context) {t : Text} {found : Findings}
    (hfound : Findings.ofText c.options c.rules t = .ok found) (loc : Location) (i : Index)
    (s : Session) :
    (c.addText loc t).EndsWith i s (do
      let j ← i.addAll context (sighted (c.nameOf s.current loc) found.occurrences)
      let _ ← Options.atLeast c.options.verbose 1
      return j) := by
  refine EndsWith.after (c.outcome_name loc s) (.refl s) ?_
  refine EndsWith.after (x := found)
    (t := { s with notices := s.notices ++ found.notices (c.nameOf s.current loc) }) ?_ ?_ ?_
  · rw [Action.outcome_bind, Action.outcome_ofExcept, hfound]
    rfl
  · exact ⟨found.notices (c.nameOf s.current loc), [], [], by simp⟩
  refine (c.endsWith_forM_addOccurrence hcontext _ _ _ _).bind fun _ j t _ => ?_
  exact (endsWith_detail _ _ _ j t).map fun _ => found.occurrences

/-! ### Files -/

/-- The name of the codec that source files are read with. -/
def codecName (c : Collector) (encoding : Value) : Except Failure Text :=
  match if encoding.truthy then encoding else c.options.encoding with
  | .text name => .ok name
  | .null => .ok "utf-8"
  | _ => .error .wrongType

/-- What reading a source file gives. -/
def content (c : Collector) (s : Session) (encoding : Value) (loc : Location) :
    Except Failure Text := do
  let name ← c.codecName encoding
  let bytes ← s.tree.read loc
  return Text.unifyLineEnds (← s.decode name bytes)

/-- Reading depends on the file tree and the codecs alone, and changes nothing. -/
lemma outcome_readText (encoding : Value) (loc : Location) (s : Session) :
    (c.readText encoding loc).outcome s = (c.content s encoding loc, s) := by
  have hbind {α β : Type} {a : Action α} {f : α → Action β} {r : Except Failure α}
      {g : α → Except Failure β} (ha : a.outcome s = (r, s))
      (hf : ∀ x, (f x).outcome s = (g x, s)) : (a >>= f).outcome s = (r >>= g, s) := by
    rw [Action.outcome_bind, ha]
    cases r with
    | error e => rfl
    | ok x => exact hf x
  unfold readText content codecName
  dsimp only
  generalize (if encoding.truthy then encoding else c.options.encoding) = chosen
  cases chosen
  case text | null =>
    exact hbind rfl fun name => hbind (Action.outcome_read loc s) fun bytes =>
      (Action.outcome_bind_ok (Action.outcome_get s)).trans
        (hbind (Action.outcome_ofExcept _ s) fun t => rfl)
  all_goals rfl

lemma content_congr {t : Session} (hread : t.tree.read loc = s.tree.read loc)
    (hcodec : t.codec? = s.codec?) : c.content t encoding loc = c.content s encoding loc := by
  simp only [content, Session.decode, hread, hcodec]

/-- The codec that source files are read with is there. -/
def HasCodec (c : Collector) (s : Session) (encoding : Value) : Prop :=
  ∃ name codec, c.codecName encoding = .ok name ∧ s.codec? name = some codec

/-- A file is not read because of the file system, its bytes or their form, unless there is no codec
to read it with. -/
lemma of_content_eq_error {f : Failure} (h : c.content s encoding loc = .error f) :
    isUnreadable f = true ∨ f.kind = .codec ∨
      (f.kind = .type ∨ f.kind = .lookup) ∧ ¬ c.HasCodec s encoding := by
  unfold content at h
  rcases Failure.bind_eq_error_iff.mp h with hname | ⟨name, hname, h⟩
  · refine .inr (.inr ⟨.inl ?_, ?_⟩)
    · unfold codecName at hname
      split at hname
      all_goals cases hname
      rfl
    · rintro ⟨name, -, hok, -⟩
      cases hname.symm.trans hok
  rcases Failure.bind_eq_error_iff.mp h with h | ⟨bytes, -, h⟩
  · exact .inl (Bool.or_eq_true_iff.mpr (.inl (FileTree.isSystem_of_read h)))
  rcases Failure.bind_eq_error_iff.mp h with h | ⟨text, -, h⟩
  · rcases Session.decode_eq_error h with hf | hf | ⟨hf, hnone⟩
    · exact .inl (Bool.or_eq_true_iff.mpr (.inr (beq_iff_eq.mpr hf)))
    · exact .inr (.inl hf)
    · refine .inr (.inr ⟨.inr hf, ?_⟩)
      rintro ⟨name', codec, hname', hsome⟩
      obtain rfl := Except.ok.inj (hname.symm.trans hname')
      cases hnone.symm.trans hsome
  · cases h

/-- The keys that a source file shows; a file that is passed over shows none. -/
def sightings (c : Collector) (s : Session) (encoding : Value) (loc : Location) :
    Except Failure (List Sighting) :=
  match c.content s encoding loc with
  | .error f => if isUnreadable f then .ok [] else .error f
  | .ok t => match Findings.ofText c.options c.rules t with
    | .error f => if f.kind = .sourceSyntax then .ok [] else .error f
    | .ok found => do
      let _ ← Options.atLeast c.options.verbose 1
      return sighted (c.nameOf s.current loc) found.occurrences

lemma outcome_passOver (what : Text) (loc : Location) (f : Failure) (s : Session) :
    ∃ t, (c.passOver what loc f).outcome s = (.ok (), t) ∧ s.Heard t :=
  ⟨_, rfl, (Action.isQuiet_bind (c.isMild_name loc).quiet fun _ => Action.isQuiet_say _ _) s⟩

/-- A file whose content has not been read is passed over, or all fails for the same reason. -/
lemma outcome_addLocation_of_error {f : Failure}
    (hcontent : c.content s encoding loc = .error f) (i : Index) :
    (c.addLocation encoding loc).outcome i s =
      (Collecting.ofAction (if isUnreadable f then do
          c.passOver "Error reading" loc f
          return 0
        else throw f)).outcome i s := by
  unfold addLocation
  rw [Collecting.outcome_bind, Collecting.outcome_ofAction, Collecting.outcome_ofAction,
    Action.outcome_tryCatch, Action.outcome_map, c.outcome_readText, hcontent]
  dsimp only [Except.map]
  by_cases hf : isUnreadable f = true
  · obtain ⟨t, hpass, -⟩ := c.outcome_passOver "Error reading" loc f s
    rw [if_pos hf, if_pos hf, Action.outcome_bind_ok hpass, Action.outcome_bind_ok hpass]
    rfl
  · rw [if_neg hf, if_neg hf, Action.outcome_throw, Action.outcome_throw]

/-- A file that cannot be read leaves the index as it is. -/
lemma outcome_addLocation_of_unreadable {f : Failure}
    (hcontent : c.content s encoding loc = .error f) (hf : isUnreadable f = true)
    (i : Index) :
    ∃ t, (c.addLocation encoding loc).outcome i s = (.ok 0, i, t) ∧ s.Heard t := by
  obtain ⟨t, hpass, ht⟩ := c.outcome_passOver "Error reading" loc f s
  refine ⟨t, ?_, ht⟩
  rw [c.outcome_addLocation_of_error hcontent, if_pos hf, Collecting.outcome_ofAction,
    Action.outcome_bind_ok hpass]
  rfl

/-- A file whose content has been read is looked through; if it cannot be parsed, it is passed
over. -/
lemma outcome_addLocation_of_content {text : Text}
    (hcontent : c.content s encoding loc = .ok text) (i : Index) :
    (c.addLocation encoding loc).outcome i s =
      (tryCatch (List.length <$> c.addText loc text) fun f => do
        if f.kind = .sourceSyntax then
          Collecting.ofAction (c.passOver "Could not parse" loc f)
          return 0
        else throw f).outcome i s := by
  unfold addLocation
  rw [Collecting.outcome_bind, Collecting.outcome_ofAction, Action.outcome_tryCatch,
    Action.outcome_map, c.outcome_readText, hcontent]
  rfl

lemma outcome_addText_error {text : Text} {f : Failure}
    (h : Findings.ofText c.options c.rules text = .error f) (loc : Location) (i : Index)
    (s : Session) : (c.addText loc text).outcome i s = (.error f, i, s) := by
  unfold addText
  rw [Collecting.outcome_bind, Collecting.outcome_ofAction, outcome_name]
  dsimp only
  rw [Collecting.outcome_bind, Collecting.outcome_ofAction, Action.outcome_bind,
    Action.outcome_ofExcept, h]

lemma outcome_length_addText_error {text : Text} {f : Failure}
    (h : Findings.ofText c.options c.rules text = .error f) (loc : Location) (i : Index)
    (s : Session) : (List.length <$> c.addText loc text).outcome i s = (.error f, i, s) := by
  rw [← bind_pure_comp, Collecting.outcome_bind, c.outcome_addText_error h]

/-- A file that cannot be parsed leaves the index as it is. -/
lemma outcome_addLocation_of_unparsed {text : Text} {f : Failure}
    (hcontent : c.content s encoding loc = .ok text)
    (hfound : Findings.ofText c.options c.rules text = .error f) (hf : f.kind = .sourceSyntax)
    (i : Index) :
    ∃ t, (c.addLocation encoding loc).outcome i s = (.ok 0, i, t) ∧ s.Heard t := by
  obtain ⟨t, hpass, ht⟩ := c.outcome_passOver "Could not parse" loc f s
  refine ⟨t, ?_, ht⟩
  rw [c.outcome_addLocation_of_content hcontent, Collecting.outcome_tryCatch,
    c.outcome_length_addText_error hfound]
  dsimp only
  rw [if_pos hf, Collecting.outcome_bind, Collecting.outcome_ofAction, hpass]
  rfl

lemma endsWith_addLocation (hcontext : c.contextName = .ok context) (encoding : Value)
    (loc : Location) (i : Index) (s : Session) :
    (c.addLocation encoding loc).EndsWith i s (do
      i.addAll context (← c.sightings s encoding loc)) := by
  cases hcontent : c.content s encoding loc with
  | error f =>
    rw [sightings, hcontent]
    dsimp only
    -- A file that cannot be read is told and adds nothing, any other failure ends the run.
    by_cases hf : isUnreadable f = true
    · obtain ⟨t, houtcome, ht⟩ := c.outcome_addLocation_of_unreadable hcontent hf i
      rw [if_pos hf]
      exact ⟨0, t, houtcome, ht⟩
    · have hkind : f.kind ≠ .sourceSyntax := by
        rcases (c.of_content_eq_error hcontent).resolve_left hf with h | ⟨h | h, -⟩
        all_goals rw [h]; decide
      rw [if_neg hf]
      refine endsWith_error (j := i) (t := s) ?_ hkind f
      rw [c.outcome_addLocation_of_error hcontent, if_neg hf, Collecting.outcome_ofAction,
        Action.outcome_throw]
  | ok text =>
    rw [sightings, hcontent]
    dsimp only
    cases hfound : Findings.ofText c.options c.rules text with
    | error f =>
      dsimp only
      -- The same holds of a text that cannot be parsed.
      by_cases hf : f.kind = .sourceSyntax
      · obtain ⟨t, houtcome, ht⟩ := c.outcome_addLocation_of_unparsed hcontent hfound hf i
        rw [if_pos hf]
        exact ⟨0, t, houtcome, ht⟩
      · rw [if_neg hf]
        refine endsWith_error (j := i) (t := s) ?_ hf f
        rw [c.outcome_addLocation_of_content hcontent, Collecting.outcome_tryCatch,
          c.outcome_length_addText_error hfound]
        dsimp only
        rw [if_neg hf, Collecting.outcome_throw]
    | ok found =>
      refine EndsWith.of_outcome_eq (c.outcome_addLocation_of_content hcontent i) ?_
      refine EndsWith.tryCatch ?_ fun e he => if_neg he
      rw [← bind_pure_comp]
      refine ((c.endsWith_addText hcontext hfound loc i s).map List.length).congr fun j => ?_
      cases hadd : i.addAll context (sighted (c.nameOf s.current loc) found.occurrences) <;>
        cases hlevel : Options.atLeast c.options.verbose 1 <;>
        simp [bind, Except.bind, pure, Except.pure, hadd]

/-! ### Several files -/

/-- What files show, one file after another. -/
def allSightings (c : Collector) (s : Session) (encoding : Value) (files : List Location) :
    Except Failure (List Sighting) := do
  return (← files.mapM (c.sightings s encoding)).flatten

lemma sightings_heard {t : Session} (h : s.Heard t) (encoding : Value) :
    c.sightings t encoding = c.sightings s encoding := by
  funext loc
  rw [sightings, sightings, c.content_congr (by rw [h.tree_eq]) h.codec?_eq, h.current_eq]

lemma allSightings_cons (s : Session) (encoding : Value) (loc : Location)
    (files : List Location) :
    c.allSightings s encoding (loc :: files) = (do
      let first ← c.sightings s encoding loc
      let rest ← c.allSightings s encoding files
      return first ++ rest) := by
  simp [allSightings]

lemma endsWith_mapM_addLocation (hcontext : c.contextName = .ok context) (encoding : Value)
    (files : List Location) (i : Index) (s : Session) :
    (files.mapM (c.addLocation encoding)).EndsWith i s (do
      i.addAll context (← c.allSightings s encoding files)) := by
  induction files generalizing i s with
  | nil => exact endsWith_pure []
  | cons loc files ih =>
    rw [List.mapM_cons]
    refine ((c.endsWith_addLocation hcontext encoding loc i s).bind
      (g := fun j => do j.addAll context (← c.allSightings s encoding files)) ?_).congr ?_
    · intro n j t ht
      have hrest := (ih j t).map (n :: ·)
      rwa [allSightings, c.sightings_heard ht] at hrest
    · intro j
      simp only [allSightings_cons, Failure.bind_eq_ok_iff, Failure.pure_eq_ok_iff]
      constructor
      · rintro ⟨k, ⟨first, hfirst, hk⟩, rest, hrest, hj⟩
        refine ⟨first ++ rest, ⟨first, hfirst, rest, hrest, rfl⟩, ?_⟩
        rw [Index.addAll_append, Failure.bind_eq_ok_iff]
        exact ⟨k, hk, hj⟩
      · rintro ⟨_, ⟨first, hfirst, rest, hrest, rfl⟩, hj⟩
        rw [Index.addAll_append, Failure.bind_eq_ok_iff] at hj
        obtain ⟨k, hk, hj⟩ := hj
        exact ⟨k, ⟨first, hfirst, hk⟩, rest, hrest, hj⟩

/-- A source file shows a key on one of its lines. -/
def Shows (c : Collector) (s : Session) (encoding : Value) (loc : Location) (p : Sighting) :
    Prop :=
  ∃ t found, c.content s encoding loc = .ok t ∧
    Findings.ofText c.options c.rules t = .ok found ∧
    ∃ o ∈ found.occurrences, p = ⟨c.nameOf s.current loc, o.line, o.key, o.comment⟩

variable {c} in
lemma mem_sightings {seen : List Sighting} (h : c.sightings s encoding loc = .ok seen)
    {p : Sighting} : p ∈ seen ↔ c.Shows s encoding loc p := by
  unfold sightings at h
  unfold Shows
  cases hcontent : c.content s encoding loc with
  | error f =>
    rw [hcontent] at h
    dsimp only at h
    split at h
    · cases h
      simp
    · cases h
  | ok t =>
    rw [hcontent] at h
    dsimp only at h
    cases hfound : Findings.ofText c.options c.rules t with
    | error f =>
      rw [hfound] at h
      dsimp only at h
      split at h
      · cases h
        simp [hfound]
      · cases h
    | ok found =>
      rw [hfound] at h
      obtain ⟨_, -, h⟩ := Failure.bind_eq_ok_iff.mp h
      obtain rfl := Failure.pure_eq_ok_iff.mp h
      simp [hfound, sighted, eq_comm]

variable {c} in
/-- Of the keys that a file shows on a line, only the first has a comment. -/
lemma firstOnly_sightings {seen : List Sighting} (h : c.sightings s encoding loc = .ok seen) :
    Sighting.FirstOnly seen := by
  unfold sightings at h
  split at h
  · split at h
    · exact Except.ok.inj h ▸ List.Pairwise.nil
    · cases h
  · split at h
    · split at h
      · exact Except.ok.inj h ▸ List.Pairwise.nil
      · cases h
    · next found hfound =>
      obtain ⟨_, -, h⟩ := Failure.bind_eq_ok_iff.mp h
      obtain rfl := Failure.pure_eq_ok_iff.mp h
      refine List.pairwise_map.mpr ((Findings.first_of_ofText hfound).imp fun hfirst heq => ?_)
      exact hfirst (Reference.ofLine_inj.mp heq).2

lemma exists_allSightings_iff {files : List Location} :
    (∃ seen, c.allSightings s encoding files = .ok seen) ↔
      ∀ loc ∈ files, ∃ seen, c.sightings s encoding loc = .ok seen := by
  induction files with
  | nil => simp [allSightings, Failure.pure_eq_ok_iff]
  | cons loc files ih =>
    rw [List.forall_mem_cons, ← ih, allSightings_cons]
    simp only [Failure.bind_eq_ok_iff, Failure.pure_eq_ok_iff]
    constructor
    · rintro ⟨_, first, hfirst, rest, hrest, rfl⟩
      exact ⟨⟨first, hfirst⟩, rest, hrest⟩
    · rintro ⟨⟨first, hfirst⟩, rest, hrest⟩
      exact ⟨_, first, hfirst, rest, hrest, rfl⟩

variable {c} in
lemma mem_allSightings {files : List Location} {seen : List Sighting}
    (h : c.allSightings s encoding files = .ok seen) {p : Sighting} :
    p ∈ seen ↔ ∃ loc ∈ files, c.Shows s encoding loc p := by
  induction files generalizing seen with
  | nil =>
    obtain rfl := Failure.pure_eq_ok_iff.mp h
    simp
  | cons loc files ih =>
    rw [allSightings_cons] at h
    obtain ⟨first, hfirst, h⟩ := Failure.bind_eq_ok_iff.mp h
    obtain ⟨rest, hrest, h⟩ := Failure.bind_eq_ok_iff.mp h
    obtain rfl := Failure.pure_eq_ok_iff.mp h
    rw [List.mem_append, mem_sightings hfirst, ih hrest]
    simp

variable {c} in
/-- Files with different names show keys at different places. -/
lemma firstOnly_allSightings {files : List Location} {seen : List Sighting}
    (hnames : (files.map (c.nameOf s.current)).Nodup)
    (h : c.allSightings s encoding files = .ok seen) : Sighting.FirstOnly seen := by
  induction files generalizing seen with
  | nil =>
    obtain rfl := Failure.pure_eq_ok_iff.mp h
    exact List.Pairwise.nil
  | cons loc files ih =>
    rw [allSightings_cons] at h
    obtain ⟨first, hfirst, h⟩ := Failure.bind_eq_ok_iff.mp h
    obtain ⟨rest, hrest, h⟩ := Failure.bind_eq_ok_iff.mp h
    obtain rfl := Failure.pure_eq_ok_iff.mp h
    rw [List.map_cons, List.nodup_cons] at hnames
    refine List.pairwise_append.mpr ⟨firstOnly_sightings hfirst, ih hnames.2 hrest, ?_⟩
    intro p hp q hq heq
    obtain ⟨_, _, -, -, o, -, rfl⟩ := (mem_sightings hfirst).mp hp
    obtain ⟨other, hother, _, _, -, -, o', -, rfl⟩ := (mem_allSightings hrest).mp hq
    have hname : c.nameOf s.current loc = c.nameOf s.current other :=
      (Reference.ofLine_inj.mp heq).1
    exact absurd (hname ▸ List.mem_map_of_mem hother) hnames.1

lemma outcome_addFiles_error {patterns : Value} {e : Failure}
    (h : s.tree.glob (c.base s.current) patterns = .error e) :
    (c.addFiles patterns encoding).outcome i s = (.error e, i, s) := by
  unfold addFiles
  rw [Collecting.outcome_bind, Collecting.outcome_ofAction,
    Action.outcome_bind_ok (Action.outcome_get s), Action.outcome_bind, Action.outcome_ofExcept, h]

/-- Telling a line is heard, and no more. -/
lemma exists_outcome_say (text : Text) (colour : Option Colour) (s : Session) :
    ∃ t, (Action.say text colour).outcome s = (.ok (), t) ∧ s.Heard t :=
  ⟨_, Action.outcome_say text colour s, Action.isQuiet_say text colour s⟩

lemma endsWith_sayCount (count : Nat) (i : Index) (s : Session) :
    (sayCount count).EndsWith i s (.ok i) := by
  obtain ⟨t, hsay, ht⟩ := exists_outcome_say
    ("Extracted " ++ Decimal.ofNat count ++ " key instances") (some .green) s
  refine ⟨(), t, ?_, ht⟩
  rw [sayCount, Collecting.outcome_ofAction, hsay]

lemma endsWith_addFile (hcontext : c.contextName = .ok context) (file : Text) :
    (c.addFile file encoding).EndsWith i s (do
      i.addAll context (← c.sightings s encoding (c.locate s.current file))) := by
  obtain ⟨t, hsay, ht⟩ := exists_outcome_say
    ("Extracting from " ++ c.nameOf s.current (c.locate s.current file)) (some .blue) s
  refine EndsWith.after (x := c.locate s.current file) (t := t) ?_ ht ?_
  · rw [Action.outcome_bind_ok (Action.outcome_get s), Action.outcome_bind, outcome_name]
    dsimp only
    rw [Action.outcome_bind_ok hsay, Action.outcome_pure]
  have hfile := (c.endsWith_addLocation hcontext encoding (c.locate s.current file) i t).bind
    (f := sayCount) fun n j u _ => endsWith_sayCount n j u
  refine hfile.congr fun j => ?_
  rw [Failure.bind_ok, c.sightings_heard ht]

lemma endsWith_addFiles (hcontext : c.contextName = .ok context) {patterns : Value}
    {files : List Location} (h : s.tree.glob (c.base s.current) patterns = .ok files) :
    (c.addFiles patterns encoding).EndsWith i s (do
      i.addAll context (← c.allSightings s encoding files)) := by
  obtain ⟨t, hsay, ht⟩ := exists_outcome_say
    ("Extracting from " ++ Decimal.ofNat files.length ++ " files") (some .blue) s
  refine EndsWith.after (x := files) (t := t) ?_ ht ?_
  · rw [Action.outcome_bind_ok (Action.outcome_get s), Action.outcome_bind,
      Action.outcome_ofExcept, h]
    dsimp only
    rw [Action.outcome_bind_ok hsay, Action.outcome_pure]
  have hfiles := (c.endsWith_mapM_addLocation hcontext encoding files i t).bind
    (f := fun ns => sayCount (ns.foldr (· + ·) 0)) fun ns j u _ => endsWith_sayCount _ j u
  refine hfiles.congr fun j => ?_
  rw [Failure.bind_ok, allSightings, allSightings, c.sightings_heard ht]

lemma outcome_collect (patterns encoding : Value) (i : Index) (s : Session) :
    (c.collect patterns encoding).outcome i s =
      match (c.addFiles patterns encoding).outcome i s with
      | (.ok _, j, t) => (c.messages j, j, t)
      | (.error e, j, t) => (.error e, j, t) := by
  unfold collect
  rw [Collecting.outcome_bind]
  cases (c.addFiles patterns encoding).outcome i s with
  | mk r state => cases r <;> rfl

/-- Collecting ends well just when the files are found, what they show can be told and fits in the
index, and messages can be made of that. -/
theorem collect_eq_ok_iff {patterns : Value} {ms : List Message} {j : Index} :
    (((c.collect patterns encoding).outcome i s).1 = .ok ms ∧
      ((c.collect patterns encoding).outcome i s).2.1 = j) ↔
    ∃ context files seen, c.contextName = .ok context ∧
      s.tree.glob (c.base s.current) patterns = .ok files ∧
      c.allSightings s encoding files = .ok seen ∧ i.addAll context seen = .ok j ∧
      c.messages j = .ok ms := by
  rw [outcome_collect]
  constructor
  · rintro ⟨hms, rfl⟩
    cases hfiles : s.tree.glob (c.base s.current) patterns with
    | error e =>
      rw [c.outcome_addFiles_error hfiles] at hms
      cases hms
    | ok files =>
      cases houtcome : (c.addFiles patterns encoding).outcome i s with
      | mk r state =>
        rw [houtcome] at hms
        cases r with
        | error e => cases hms
        | ok x =>
          have hms : c.messages state.1 = .ok ms := hms
          -- There are messages only if the context is one, so the index holds what was seen.
          obtain ⟨context, hcontext, -⟩ := Failure.bind_eq_ok_iff.mp hms
          have hfits := (c.endsWith_addFiles hcontext hfiles).eq_ok houtcome
          obtain ⟨seen, hseen, hadd⟩ := Failure.bind_eq_ok_iff.mp hfits
          exact ⟨context, files, seen, hcontext, rfl, hseen, hadd, hms⟩
  · rintro ⟨context, files, seen, hcontext, hfiles, hseen, hadd, hms⟩
    have hends : EndsWith (c.addFiles patterns encoding) i s
        (do i.addAll context (← c.allSightings s encoding files)) :=
      c.endsWith_addFiles hcontext hfiles
    have hfits : (do i.addAll context (← c.allSightings s encoding files)) = .ok j :=
      Failure.bind_eq_ok_iff.mpr ⟨seen, hseen, hadd⟩
    rw [hfits] at hends
    obtain ⟨_, t, houtcome, -⟩ := hends
    rw [houtcome]
    exact ⟨hms, rfl⟩

end Collector

end MessageCatalog
