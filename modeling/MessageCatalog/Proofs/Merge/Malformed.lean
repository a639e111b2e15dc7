import MessageCatalog.Proofs.Merge.Events
import MessageCatalog.Proofs.Reference.Grouping
import MessageCatalog.Proofs.Reference.Selection

/-!
# Malformed messages

A value is read as a message field by field, and the first field that is not as it should be is
named in the failure. Only what is no list at all, a number for instance, is not told from other
values of a wrong type when it is given for texts.
-/

namespace MessageCatalog

open Failure

/-- The value is neither nothing nor a text, and there is nothing in it that could be gone
through. -/
def Value.IsBare : Value → Prop
  | .bool _ | .int _ | .float _ | .function _ => True
  | _ => False

namespace Message

variable {v : Value} {fields : List (Text × Value)} {field : Text} {f : Failure}

/-! ### Fields -/

/-- What an object gives for a name. -/
def given (name : Text) (fields : List (Text × Value)) : Value :=
  (Value.field? name fields).getD .null

def keyOf : Value → Except Failure Text
  | .text (c :: rest) => .ok (c :: rest)
  | other => .error (.messageKey other.shown)

/-- Whatever counts as false stands for the context without name. -/
def contextOf (v : Value) : Except Failure Text :=
  match if v.truthy then v else .text [] with
  | .text t => .ok t
  | _ => .error .messageContext

/-- The fields of an object are read one after another. -/
lemma ofValue_object (fields : List (Text × Value)) : ofValue (.object fields) = do
    let key ← keyOf (given "key" fields)
    let context ← contextOf (given "context" fields)
    let refs ← textsOf "refs" (given "refs" fields)
    let comments ← textsOf "comments" (given "comments" fields)
    return { key, context, refs, comments } := by
  unfold ofValue keyOf contextOf given
  dsimp +instances only
  generalize (Value.field? "key" fields).getD .null = key
  generalize (Value.field? "context" fields).getD .null = context
  cases key with
  | text t =>
    cases t with
    | nil => rfl
    | cons c rest =>
      generalize (if context.truthy then context else .text []) = context
      cases context <;> rfl
  | _ => rfl

lemma kind_of_keyOf (h : keyOf v = .error f) : f.kind = .argument := by
  unfold keyOf at h
  split at h
  · cases h
  · cases h
    rfl

lemma kind_of_contextOf (h : contextOf v = .error f) : f.kind = .argument := by
  unfold contextOf at h
  split at h
  · cases h
  · cases h
    rfl

/-- Texts are refused for a member that is none, unless there are no members. -/
lemma textsOf_eq_error (h : textsOf field v = .error f) :
    v.IsBare ∧ f = .wrongType ∨ ∃ typeName, f = .messageStrings field typeName := by
  cases v with
  | null => cases h
  | text t => cases h
  | object fields => cases h
  | list items =>
    obtain ⟨item, -, hitem⟩ := exists_of_mapM_eq_error h
    split at hitem
    · cases hitem
    · exact .inr ⟨_, (Except.error.inj hitem).symm⟩
  | _ =>
    cases h
    exact .inl ⟨trivial, rfl⟩

lemma textsOf_eq_wrongType_iff : textsOf field v = .error .wrongType ↔ v.IsBare := by
  constructor
  · intro h
    rcases textsOf_eq_error h with ⟨hbare, -⟩ | ⟨typeName, hname⟩
    · exact hbare
    · cases hname
  · intro h
    cases v with
    | null | text | list | object => exact h.elim
    | _ => rfl

/-! ### Values -/

/-- An object that gives something bare for the references, or for the comments beside references
that can be read. Its key and its context are as they should be. -/
inductive Breaks : Value → Prop where
  | refs {fields : List (Text × Value)} {key context : Text}
      (key_eq : keyOf (given "key" fields) = .ok key)
      (context_eq : contextOf (given "context" fields) = .ok context)
      (bare : (given "refs" fields).IsBare) : Breaks (.object fields)
  | comments {fields : List (Text × Value)} {key context : Text} {refs : List Text}
      (key_eq : keyOf (given "key" fields) = .ok key)
      (context_eq : contextOf (given "context" fields) = .ok context)
      (refs_eq : textsOf "refs" (given "refs" fields) = .ok refs)
      (bare : (given "comments" fields).IsBare) : Breaks (.object fields)

/-- The first field that cannot be read gives the failure. -/
lemma ofValue_object_eq_error_iff : ofValue (.object fields) = .error f ↔
    keyOf (given "key" fields) = .error f ∨ ∃ key, keyOf (given "key" fields) = .ok key ∧
      (contextOf (given "context" fields) = .error f ∨
        ∃ context, contextOf (given "context" fields) = .ok context ∧
          (textsOf "refs" (given "refs" fields) = .error f ∨
            ∃ refs, textsOf "refs" (given "refs" fields) = .ok refs ∧
              textsOf "comments" (given "comments" fields) = .error f)) := by
  have hlast (x : Except Failure (List Text)) (g : List Text → Message) :
      (x >>= fun comments => pure (g comments)) = .error f ↔ x = .error f := by
    cases x with
    | ok comments => exact iff_of_false nofun nofun
    | error e =>
      constructor
      · intro h
        cases h
        rfl
      · intro h
        cases h
        rfl
  simp only [ofValue_object, bind_eq_error_iff, hlast]

/-- What is no message is refused with a failure of the arguments, unless it breaks. -/
lemma kind_of_ofValue (h : ofValue v = .error f) :
    f.kind = .argument ∨ f = .wrongType ∧ Breaks v := by
  cases v with
  | object fields =>
    have htexts {name : Text} {v : Value} (h : textsOf name v = .error f) :
        f.kind = .argument ∨ f = .wrongType ∧ v.IsBare := by
      rcases textsOf_eq_error h with ⟨hbare, rfl⟩ | ⟨typeName, rfl⟩
      · exact .inr ⟨rfl, hbare⟩
      · exact .inl rfl
    rcases ofValue_object_eq_error_iff.mp h with h | ⟨key, hkey, h⟩
    · exact .inl (kind_of_keyOf h)
    rcases h with h | ⟨context, hcontext, h⟩
    · exact .inl (kind_of_contextOf h)
    rcases h with h | ⟨refs, hrefs, h⟩
    · exact (htexts h).imp_right fun h => ⟨h.1, .refs hkey hcontext h.2⟩
    · exact (htexts h).imp_right fun h => ⟨h.1, .comments hkey hcontext hrefs h.2⟩
  | _ =>
    cases h
    exact .inl rfl

lemma ofValue_of_breaks (h : Breaks v) : ofValue v = .error .wrongType := by
  cases h with
  | refs hkey hcontext hbare =>
    exact ofValue_object_eq_error_iff.mpr (.inr ⟨_, hkey, .inr ⟨_, hcontext,
      .inl (textsOf_eq_wrongType_iff.mpr hbare)⟩⟩)
  | comments hkey hcontext hrefs hbare =>
    exact ofValue_object_eq_error_iff.mpr (.inr ⟨_, hkey, .inr ⟨_, hcontext,
      .inr ⟨_, hrefs, textsOf_eq_wrongType_iff.mpr hbare⟩⟩⟩)

/-- A value is a message that is read again from what it is written as, or it is refused with a
failure of the arguments, or it breaks. -/
lemma ofValue_cases (v : Value) :
    (∃ m, ofValue v = .ok m ∧ m.key ≠ [] ∧ ofValue m.toValue = .ok m) ∨
      (∃ f, ofValue v = .error f ∧ f.kind = .argument) ∨ Breaks v := by
  cases h : ofValue v with
  | ok m =>
    have hkey := key_ne_nil h
    exact .inl ⟨m, rfl, hkey, ofValue_toValue hkey⟩
  | error f =>
    rcases kind_of_ofValue h with hkind | ⟨-, hbreaks⟩
    · exact .inr (.inl ⟨f, rfl, hkind⟩)
    · exact .inr (.inr hbreaks)

end Message

/-! ### Merging malformed messages -/

lemma Reference.eq_numberTooLarge_of_comment {o : ReferenceOptions} {refs : List Text}
    {e : Failure} (h : comment o refs = .error e) : e = .numberTooLarge := by
  rcases bind_eq_error_iff.mp h with h | ⟨selected, -, h⟩
  · exact eq_numberTooLarge_of_selectFrom h
  rcases bind_eq_error_iff.mp h with h | ⟨ls, -, h⟩
  · exact eq_numberTooLarge_of_layoutFrom h
  · cases h

namespace Merge

variable {o : ReferenceOptions} {context : Text} {source : Bucket} {seen : List Text} {m : Message}
  {v : Value} {values : List Value} {steps : List (Text × Step)} {f : Failure}

/-- Merging a message fails only at a limit that is too large a number. -/
lemma mergeOne_eq_error (h : mergeOne o context source m = .error f) :
    f = .numberTooLarge ∧ ¬o.Readable := by
  have hreference {e : Entry} (h : mergeReference o m e = .error f) : f = .numberTooLarge := by
    rw [mergeReference] at h
    split at h
    · rcases bind_eq_error_iff.mp h with h | ⟨text, -, h⟩
      · exact Reference.eq_numberTooLarge_of_comment h
      · cases h
    · cases h
  refine ⟨?_, fun hlimits => ?_⟩
  · rw [mergeOne] at h
    split at h
    all_goals
      rcases bind_eq_error_iff.mp h with h | ⟨x, -, h⟩
      · exact hreference h
      · cases h
  · obtain ⟨s, hs⟩ : ∃ s, mergeOne o context source m = .ok s :=
      exists_mergeOne m (exists_mergeReference_of_readable hlimits m)
    cases hs.symm.trans h

lemma mergeValue_eq_error (h : mergeValue o context source seen v = .error f) :
    Stops seen v f ∨ f = .numberTooLarge ∧ ¬o.Readable := by
  by_cases hlimits : o.Readable
  · exact .inl ((mergeValue_eq_error_iff hlimits).mp h)
  rcases bind_eq_error_iff.mp h with h | ⟨m, hm, h⟩
  · exact .inl (.rejected h)
  by_cases hseen : seen.contains m.key = true
  · rw [if_pos hseen] at h
    obtain rfl := Except.error.inj h
    exact .inl (.repeated hm (List.contains_iff_mem.mp hseen))
  · rw [if_neg hseen] at h
    rcases bind_eq_error_iff.mp h with h | ⟨s, -, h⟩
    · exact .inr (mergeOne_eq_error h)
    · cases h

lemma kind_of_stops (h : Stops seen v f) :
    f.kind = .argument ∨ f.kind = .duplicateKey ∨ f = .wrongType ∧ Message.Breaks v := by
  cases h with
  | rejected h => exact (Message.kind_of_ofValue h).imp_right .inr
  | repeated hm hmem => exact .inr (.inl rfl)

/-- Every value is a message with a key, and is read again from what it is written as, or it is
refused with a failure of the arguments, unless it breaks, and then its type is wrong. So a merge
that can start fails at its messages only with a failure of the arguments or because of a key that
was there before, unless a message breaks or a limit on references cannot be read. -/
theorem merge_refuses_malformed {c : Catalog} {values : List Value} {o : MergeOptions}
    {order : SortOrder} {d : Detail} {source : Bucket} (hadmits : Admits o order d)
    (hsource : c.translations.get? o.context = some source) :
    (∀ v, (∃ m, Message.ofValue v = .ok m ∧ m.key ≠ [] ∧ Message.ofValue m.toValue = .ok m) ∨
      (∃ f, Message.ofValue v = .error f ∧ f.kind = .argument) ∨ Message.Breaks v) ∧
    (∀ v, Message.Breaks v → Message.ofValue v = .error .wrongType) ∧
    ∀ f, (c.merge (.list values) o).result = .error f →
      f.kind = .argument ∨ f.kind = .duplicateKey ∨
        (f = .wrongType ∧ ∃ v ∈ values, Message.Breaks v) ∨
        f = .numberTooLarge ∧ ¬o.references.Readable := by
  refine ⟨Message.ofValue_cases, fun v => Message.ofValue_of_breaks, ?_⟩
  intro f h
  have hprepare : prepare c (.list values) o = .ok (values, order, source, d) :=
    prepare_eq_ok_iff.mpr ⟨rfl, hsource, hadmits⟩
  rw [Catalog.merge, hprepare] at h
  cases hall : mergeAll o.references o.context source [] values with
  | mk steps failure =>
    simp only [mergeBucket, hall] at h
    cases failure with
    | none => cases h
    | some f' =>
      obtain rfl := Except.error.inj h
      obtain ⟨before, v, after, rfl, -, hv⟩ := (mergeAll_eq_error_iff []).mp hall
      have hmem : v ∈ before ++ v :: after := List.mem_append_right before List.mem_cons_self
      rcases mergeValue_eq_error hv with hstop | hlimit
      · rcases kind_of_stops hstop with hkind | hkind | ⟨hwrong, hbreaks⟩
        · exact .inl hkind
        · exact .inr (.inl hkind)
        · exact .inr (.inr (.inl ⟨hwrong, v, hmem, hbreaks⟩))
      · exact .inr (.inr (.inr hlimit))

/-- A number where references should be. -/
def bareReference : Value := .object [("key", .text "Open"), ("refs", .int 5)]

/-- A list where the key should be, and a number among comments. -/
def malformed : List Value :=
  [.object [("key", .list []), ("refs", .int 5)],
    .object [("key", .text "Open"), ("comments", .list [.text "a verb", .int 1])]]

theorem merge_refuses_malformed_menu :
    Message.Breaks bareReference ∧ Message.ofValue bareReference = .error .wrongType ∧
      ∃ f, (menuCatalog.merge (.list malformed) menuOptions).result = .error f ∧
        (f.kind = .argument ∨ f.kind = .duplicateKey ∨
          (f = .wrongType ∧ ∃ v ∈ malformed, Message.Breaks v) ∨
          f = .numberTooLarge ∧ ¬menuOptions.references.Readable) := by
  have hbare : Message.Breaks bareReference := .refs rfl rfl trivial
  have hfails : (menuCatalog.merge (.list malformed) menuOptions).result =
      .error (.messageKey "[]") := by
    rfl
  obtain ⟨-, hbreaks, hmerge⟩ := merge_refuses_malformed admits_menuOptions get?_menuCatalog
  exact ⟨hbare, hbreaks _ hbare, _, hfails, hmerge _ hfails⟩

end Merge

end MessageCatalog
