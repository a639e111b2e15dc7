import Mathlib
import MessageCatalog.Workspace.Session

/-!
# Running actions

The outcome of an action is found from the outcomes of its parts. After these equations no proof
has to look at how an action is built.
-/

namespace MessageCatalog

variable {α β : Type}

namespace Action


/-! ### Sequences -/

@[simp] lemma outcome_pure (x : α) (s : Session) :
    (pure x : Action α).outcome s = (.ok x, s) := rfl

lemma outcome_bind (a : Action α) (f : α → Action β) (s : Session) :
    (a >>= f).outcome s = match a.outcome s with
      | (.ok x, t) => (f x).outcome t
      | (.error e, t) => (.error e, t) := by
  simp only [outcome, bind, ExceptT.bind, ExceptT.mk, ExceptT.run, StateT.run, StateT.bind, Id.run]
  cases a s with
  | mk r t => cases r <;> rfl

lemma outcome_bind_ok {a : Action α} {f : α → Action β} {s t : Session} {x : α}
    (h : a.outcome s = (.ok x, t)) : (a >>= f).outcome s = (f x).outcome t := by
  rw [outcome_bind, h]

lemma outcome_bind_error {a : Action α} {f : α → Action β} {s t : Session} {e : Failure}
    (h : a.outcome s = (.error e, t)) : (a >>= f).outcome s = (.error e, t) := by
  rw [outcome_bind, h]

lemma outcome_bind_eq_ok_iff {a : Action α} {f : α → Action β} {s u : Session} {y : β} :
    (a >>= f).outcome s = (.ok y, u) ↔
      ∃ x t, a.outcome s = (.ok x, t) ∧ (f x).outcome t = (.ok y, u) := by
  rw [outcome_bind]
  cases h : a.outcome s with
  | mk r t => cases r <;> simp

@[simp] lemma outcome_map (f : α → β) (a : Action α) (s : Session) :
    (f <$> a).outcome s = ((a.outcome s).1.map f, (a.outcome s).2) := by
  rw [← bind_pure_comp, outcome_bind]
  cases h : a.outcome s with
  | mk r t => cases r <;> rfl

@[simp] lemma outcome_throw (e : Failure) (s : Session) :
    (throw e : Action α).outcome s = (.error e, s) := rfl

lemma outcome_tryCatch (a : Action α) (handler : Failure → Action α) (s : Session) :
    (tryCatch a handler).outcome s = match a.outcome s with
      | (.ok x, t) => (.ok x, t)
      | (.error e, t) => (handler e).outcome t := by
  unfold outcome tryCatch instMonadExceptOfMonadExceptOf
  simp only [tryCatchThe, MonadExceptOf.tryCatch, ExceptT.tryCatch, ExceptT.mk, ExceptT.run,
    StateT.run, bind, StateT.bind, Id.run]
  cases a s with
  | mk r t => cases r <;> rfl

/-! ### Single actions -/

@[simp] lemma outcome_get (s : Session) : (get : Action Session).outcome s = (.ok s, s) := rfl

@[simp] lemma outcome_modify (f : Session → Session) (s : Session) :
    (modify f : Action Unit).outcome s = (.ok (), f s) := rfl

@[simp] lemma outcome_ofExcept (r : Except Failure α) (s : Session) :
    (ofExcept r).outcome s = (r, s) := rfl

/-- What goes on from a result that is there already, and ends well. -/
lemma exists_of_outcome_ofExcept_bind {r : Except Failure α} {f : α → Action β} {s : Session}
    {y : β} (h : ((ofExcept r >>= f).outcome s).1 = .ok y) :
    ∃ x, r = .ok x ∧ ((f x).outcome s).1 = .ok y := by
  rw [outcome_bind, outcome_ofExcept] at h
  cases r with
  | error e => cases h
  | ok x => exact ⟨x, rfl, h⟩

@[simp] lemma outcome_say (text : Text) (colour : Option Colour) (s : Session) :
    (say text colour).outcome s = (.ok (), { s with notices := s.notices ++ [⟨text, colour⟩] }) :=
  rfl

@[simp] lemma outcome_sayAll (notices : List Notice) (s : Session) :
    (sayAll notices).outcome s = (.ok (), { s with notices := s.notices ++ notices }) := rfl

@[simp] lemma outcome_tree (s : Session) : tree.outcome s = (.ok s.tree, s) := rfl

@[simp] lemma outcome_read (loc : Location) (s : Session) :
    (read loc).outcome s = (s.tree.read loc, s) := rfl

lemma outcome_change (f : FileTree → Except Failure FileTree) (s : Session) :
    (change f).outcome s = match f s.tree with
      | .ok t => (.ok (), { s with tree := t })
      | .error e => (.error e, s) := by
  cases h : f s.tree <;> simp [change, outcome_bind, h]

@[simp] lemma outcome_status (loc : Location) (s : Session) :
    (status loc).outcome s =
      (FileStatus.ofAnswer (loc.getLast?.getD []) (s.git loc),
        { s with asked := s.asked ++ [loc] }) := rfl

@[simp] lemma outcome_ofMerge (o : Merge.Outcome) (s : Session) :
    (ofMerge o).outcome s =
      (o.result, { s with notices := s.notices ++ o.notices, events := s.events ++ o.events }) :=
  rfl

@[simp] lemma outcome_detail (verbose : Value) (level : Int) (text : Text) (s : Session) :
    (detail verbose level text).outcome s = match Options.atLeast verbose level with
      | .ok true => (.ok (), { s with notices := s.notices ++ [⟨text, none⟩] })
      | .ok false => (.ok (), s)
      | .error e => (.error e, s) := by
  cases h : Options.atLeast verbose level with
  | error e => simp [detail, outcome_bind, h]
  | ok b => cases b <;> simp [detail, outcome_bind, h]

end Action

/-! ### Actions that only look and talk -/

/-- The second session is the first one after some lines, events and questions to git. -/
def Session.Heard (s t : Session) : Prop :=
  ∃ notices events asked, t = { s with
    notices := s.notices ++ notices
    events := s.events ++ events
    asked := s.asked ++ asked }

namespace Session.Heard

variable {s t u : Session}

lemma refl (s : Session) : Heard s s := ⟨[], [], [], by simp⟩

lemma trans (h₁ : Heard s t) (h₂ : Heard t u) : Heard s u := by
  obtain ⟨ns, es, qs, rfl⟩ := h₁
  obtain ⟨ns', es', qs', rfl⟩ := h₂
  exact ⟨ns ++ ns', es ++ es', qs ++ qs', by simp⟩

lemma tree_eq (h : Heard s t) : t.tree = s.tree := by
  obtain ⟨_, _, _, rfl⟩ := h
  rfl

lemma current_eq (h : Heard s t) : t.current = s.current := by
  obtain ⟨_, _, _, rfl⟩ := h
  rfl

lemma git_eq (h : Heard s t) : t.git = s.git := by
  obtain ⟨_, _, _, rfl⟩ := h
  rfl

lemma codec?_eq (h : Heard s t) : t.codec? = s.codec? := by
  obtain ⟨_, _, _, rfl⟩ := h
  rfl

lemma asked_prefix (h : Heard s t) : s.asked <+: t.asked := by
  obtain ⟨_, _, asked, rfl⟩ := h
  exact ⟨asked, rfl⟩

end Session.Heard

/-- Bytes are not decoded because there is no codec, or the codec does not take them. -/
lemma Session.decode_eq_error {s : Session} {name : Text} {bytes : ByteArray} {f : Failure}
    (h : s.decode name bytes = .error f) :
    f.kind = .decoding ∨ f.kind = .codec ∨ f.kind = .lookup ∧ s.codec? name = none := by
  unfold Session.decode at h
  cases hcodec : s.codec? name with
  | none =>
    rw [hcodec] at h
    exact .inr (.inr ⟨Except.error.inj h ▸ rfl, rfl⟩)
  | some codec =>
    rw [hcodec] at h
    dsimp only at h
    cases hdecode : codec.decode bytes with
    | ok t =>
      rw [hdecode] at h
      cases h
    | error fault =>
      rw [hdecode] at h
      obtain rfl := Except.error.inj h
      cases fault with
      | bytes => exact .inl rfl
      | form => exact .inr (.inl rfl)

namespace Action

/-- The action reads and talks, and changes nothing else. -/
def IsQuiet (a : Action α) : Prop := ∀ s, Session.Heard s (a.outcome s).2

lemma IsQuiet.heard {a : Action α} (ha : IsQuiet a) {s t : Session} {r : Except Failure α}
    (h : a.outcome s = (r, t)) : s.Heard t := by
  have hs := ha s
  rwa [h] at hs

lemma isQuiet_pure (x : α) : IsQuiet (pure x) := fun s => .refl s

lemma isQuiet_throw (e : Failure) : IsQuiet (throw e : Action α) := fun s => .refl s

lemma isQuiet_ofExcept (r : Except Failure α) : IsQuiet (ofExcept r) := fun s => .refl s

lemma isQuiet_get : IsQuiet (get : Action Session) := fun s => .refl s

lemma isQuiet_read (loc : Location) : IsQuiet (read loc) := fun s => .refl s

lemma isQuiet_tree : IsQuiet tree := fun s => .refl s

lemma isQuiet_say (text : Text) (colour : Option Colour) : IsQuiet (say text colour) :=
  fun s => ⟨[⟨text, colour⟩], [], [], by simp⟩

lemma isQuiet_sayAll (notices : List Notice) : IsQuiet (sayAll notices) :=
  fun s => ⟨notices, [], [], by simp⟩

lemma isQuiet_status (loc : Location) : IsQuiet (status loc) :=
  fun s => ⟨[], [], [loc], by simp⟩

lemma isQuiet_ofMerge (o : Merge.Outcome) : IsQuiet (ofMerge o) :=
  fun s => ⟨o.notices, o.events, [], by simp⟩

lemma isQuiet_bind {a : Action α} {f : α → Action β} (ha : IsQuiet a) (hf : ∀ x, IsQuiet (f x)) :
    IsQuiet (a >>= f) := by
  intro s
  rw [outcome_bind]
  cases h : a.outcome s with
  | mk r t =>
    cases r with
    | ok x => exact (ha.heard h).trans (hf x t)
    | error e => exact ha.heard h

lemma isQuiet_tryCatch {a : Action α} {handler : Failure → Action α} (ha : IsQuiet a)
    (hh : ∀ e, IsQuiet (handler e)) : IsQuiet (tryCatch a handler) := by
  intro s
  rw [outcome_tryCatch]
  cases h : a.outcome s with
  | mk r t =>
    cases r with
    | ok x => exact ha.heard h
    | error e => exact (ha.heard h).trans (hh e t)

lemma isQuiet_detail (verbose : Value) (level : Int) (text : Text) :
    IsQuiet (detail verbose level text) := by
  refine isQuiet_bind (isQuiet_ofExcept _) fun b => ?_
  cases b
  · exact isQuiet_pure ()
  · exact isQuiet_say text none

lemma isQuiet_forM {f : α → Action Unit} (hf : ∀ x, IsQuiet (f x)) (xs : List α) :
    IsQuiet (xs.forM f) := by
  induction xs with
  | nil => exact isQuiet_pure ()
  | cons x xs ih => exact isQuiet_bind (hf x) fun _ => ih

lemma isQuiet_mapM {f : α → Action β} (hf : ∀ x, IsQuiet (f x)) (xs : List α) :
    IsQuiet (xs.mapM f) := by
  induction xs with
  | nil => exact isQuiet_pure []
  | cons x xs ih =>
    rw [List.mapM_cons]
    exact isQuiet_bind (hf x) fun y => isQuiet_bind ih fun ys => isQuiet_pure (y :: ys)

/-- A check that one member fails whatever was said before stops the check of the list. -/
lemma exists_outcome_forM_error {f : α → Action Unit} {P : Failure → Prop}
    (hf : ∀ x, IsQuiet (f x)) (hP : ∀ x s t e, (f x).outcome s = (.error e, t) → P e)
    {xs : List α} {x : α} (hx : x ∈ xs) {s : Session}
    (hbad : ∀ t, s.Heard t → ∃ e u, (f x).outcome t = (.error e, u)) :
    ∃ e t, (xs.forM f).outcome s = (.error e, t) ∧ P e ∧ s.Heard t := by
  induction xs generalizing s with
  | nil => exact absurd hx List.not_mem_nil
  | cons y ys ih =>
    cases h : (f y).outcome s with
    | mk r t =>
      have hy := (hf y).heard h
      cases r with
      | error e => exact ⟨e, t, outcome_bind_error h, hP y s t e h, hy⟩
      | ok _ =>
        rcases List.mem_cons.mp hx with rfl | hx
        · obtain ⟨e, u, h'⟩ := hbad s (.refl s)
          rw [h] at h'
          cases h'
        · obtain ⟨e, u, hu, he, htu⟩ := ih hx fun u htu => hbad u (hy.trans htu)
          exact ⟨e, u, (outcome_bind_ok h).trans hu, he, hy.trans htu⟩

end Action

end MessageCatalog
