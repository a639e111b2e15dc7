import MessageCatalog.Extract.Collector
import MessageCatalog.Proofs.Workspace.Session

/-!
# Running steps of collecting

The outcome of a step is found from the outcomes of its parts: what happens to the index, and what
happens to the session.
-/

namespace MessageCatalog

variable {α β : Type}

namespace Collecting

@[simp] lemma outcome_pure (x : α) (i : Index) (s : Session) :
    (pure x : Collecting α).outcome i s = (.ok x, i, s) := rfl

@[simp] lemma outcome_throw (e : Failure) (i : Index) (s : Session) :
    (throw e : Collecting α).outcome i s = (.error e, i, s) := rfl

lemma outcome_bind (a : Collecting α) (f : α → Collecting β) (i : Index) (s : Session) :
    (a >>= f).outcome i s = match a.outcome i s with
      | (.ok x, j, t) => (f x).outcome j t
      | (.error e, j, t) => (.error e, j, t) := by
  simp only [outcome, bind, ExceptT.bind, ExceptT.mk, ExceptT.run, StateT.run, StateT.bind, Id.run]
  cases a i s with
  | mk r t => obtain ⟨r, j⟩ := r; cases r <;> rfl

lemma outcome_tryCatch (a : Collecting α) (handler : Failure → Collecting α) (i : Index)
    (s : Session) :
    (tryCatch a handler).outcome i s = match a.outcome i s with
      | (.ok x, j, t) => (.ok x, j, t)
      | (.error e, j, t) => (handler e).outcome j t := by
  unfold outcome tryCatch instMonadExceptOfMonadExceptOf
  simp only [tryCatchThe, MonadExceptOf.tryCatch, ExceptT.tryCatch, ExceptT.mk, ExceptT.run,
    StateT.run, bind, StateT.bind, Id.run]
  cases a i s with
  | mk r t => obtain ⟨r, j⟩ := r; cases r <;> rfl

@[simp] lemma outcome_ofAction (a : Action α) (i : Index) (s : Session) :
    (ofAction a).outcome i s = ((a.outcome s).1, i, (a.outcome s).2) := rfl

@[simp] lemma outcome_getThe (i : Index) (s : Session) :
    (getThe Index : Collecting Index).outcome i s = (.ok i, i, s) := rfl

@[simp] lemma outcome_set (i j : Index) (s : Session) :
    (set j : Collecting Unit).outcome i s = (.ok (), j, s) := rfl

end Collecting

namespace Collector

@[simp] lemma outcome_name (c : Collector) (loc : Location) (s : Session) :
    (c.name loc).outcome s = (.ok (c.nameOf s.current loc), s) := rfl

/-- Adding a key changes the index only, and not even that if it fails. -/
lemma outcome_addOccurrence (c : Collector) (name : Text) (o : Occurrence) (i : Index)
    (s : Session) :
    (c.addOccurrence name o).outcome i s = match c.contextName with
      | .error e => (.error e, i, s)
      | .ok context => match i.add context o.key (Reference.ofLine name o.line) o.comment with
        | .error e => (.error e, i, s)
        | .ok j => (.ok (), j, s) := by
  unfold addOccurrence
  rw [Collecting.outcome_bind, Collecting.outcome_ofAction, Action.outcome_ofExcept]
  cases c.contextName with
  | error e => rfl
  | ok context =>
    dsimp only
    rw [Collecting.outcome_bind, Collecting.outcome_getThe]
    dsimp only
    rw [Collecting.outcome_bind, Collecting.outcome_ofAction, Action.outcome_ofExcept,
      show name ++ ':' :: Decimal.ofNat o.line = Reference.ofLine name o.line from rfl]
    cases i.add context o.key (Reference.ofLine name o.line) o.comment <;> rfl

end Collector

end MessageCatalog
