import MessageCatalog.Proofs.Extract.MarkedCalls
import MessageCatalog.Proofs.Extract.PossibleTexts
import MessageCatalog.Proofs.Text.Lines

/-!
# Keys at their places

A sum takes the first key of each operand, a formatted text goes on with its last piece, a
conjunction takes its last operand, and a call takes the argument at a position. Each of these looks
at a place of a list that could be empty. Here the search is written with a check, so that it comes
to nothing in that case. This never happens, because every expression has a key: with the check the
search finds what it finds without.
-/

namespace MessageCatalog

open Failure (bind_eq_error_iff)
open Source (Node)

namespace Keys

/-! ### Expressions -/

/-- The keys of two expressions that stand for one text after the other, each taken from its place;
nothing if there is none. -/
def join? (a b : Keys) : Option Keys :=
  if 1 < a.keys.length ∨ 1 < b.keys.length then
    some ⟨[none], a.warnings ++ b.warnings ++ [severalKeys]⟩
  else do
    let k ← a.keys[0]?
    let l ← b.keys[0]?
    return ⟨[do return (← k) ++ (← l)], a.warnings ++ b.warnings⟩

/-- The pieces of a formatted text between its fields, after some pieces: a constant text goes on
with the last piece, and a field begins another. -/
def piecesFrom? (pieces : List Text) : List Node → Option (List Text)
  | [] => some pieces
  | .text t :: rest => do
    let last ← pieces.getLast?
    piecesFrom? (pieces.dropLast ++ [last ++ t]) rest
  | _ :: rest => piecesFrom? (pieces ++ [[]]) rest

/-- The text of a formatted text, with a star between its pieces. -/
def template? (parts : List Node) : Option Text := do
  return Text.join unknownPart (← piecesFrom? [[]] parts)

mutual

/-- The keys of an expression; nothing if a place is empty that is looked at. -/
def ofNode? : Node → Option Keys
  | .sum left right => do (← ofNode? left).join? (← ofNode? right)
  | .formatted parts => known <$> template? parts
  | .choice _ body orElse => do return (← ofNode? body) ++ (← ofNode? orElse)
  | .junction true first second rest =>
    concat <$> (ofNode? first :: ofNode? second :: ofNodes? rest).mapM id
  | .junction false first second rest =>
    (ofNode? first :: ofNode? second :: ofNodes? rest).getLast?.join
  | n => some (ofNode n) -- the other forms look at no place

/-- The keys of each of several expressions. -/
def ofNodes? : List Node → List (Option Keys)
  | [] => []
  | n :: rest => ofNode? n :: ofNodes? rest

end

lemma piecesFrom?_cons_of_field {n : Node} (hn : ∀ t, n ≠ .text t) (pieces : List Text)
    (parts : List Node) : piecesFrom? pieces (n :: parts) = piecesFrom? (pieces ++ [[]]) parts := by
  cases n <;> first | rfl | exact absurd rfl (hn _)

/-- There is always a last piece, and so the pieces come to the text that is made part by part. -/
lemma exists_piecesFrom? (done : List Text) (last : Text) (parts : List Node) :
    ∃ pieces, piecesFrom? (done ++ [last]) parts = some pieces ∧
      Text.join unknownPart pieces = Text.join unknownPart (done ++ [last]) ++ template parts := by
  induction parts generalizing done last with
  | nil => exact ⟨_, rfl, by simp [template]⟩
  | cons n parts ih =>
    by_cases hn : ∃ t, n = .text t
    · obtain ⟨t, rfl⟩ := hn
      obtain ⟨pieces, hpieces, hjoin⟩ := ih done (last ++ t)
      refine ⟨pieces, ?_, ?_⟩
      · simpa [piecesFrom?] using hpieces
      · rw [hjoin, Text.join_concat_append, List.append_assoc, template]
    · push Not at hn
      obtain ⟨pieces, hpieces, hjoin⟩ := ih (done ++ [last]) []
      refine ⟨pieces, (piecesFrom?_cons_of_field hn _ _).trans hpieces, ?_⟩
      rw [hjoin, Text.join_concat _ _ (by simp), template_cons_of_field hn, List.append_nil,
        List.append_assoc]

lemma template?_eq (parts : List Node) : template? parts = some (template parts) := by
  obtain ⟨pieces, hpieces, hjoin⟩ := exists_piecesFrom? [] [] parts
  rw [List.nil_append] at hpieces hjoin
  rw [template?, hpieces]
  simp [hjoin]

/-- Every expression has a key, or one that cannot be told. -/
lemma keys_ne_nil (n : Node) : (ofNode n).keys ≠ [] := by
  induction n using Node.induction with
  | h n ih =>
    cases n with
    | sum left right =>
      rw [ofNode]
      rcases join_cases (ofNode left) (ofNode right) with h | ⟨t, u, -, -, h⟩ <;>
        exact h ▸ List.cons_ne_nil _ _
    | choice test body orElse =>
      exact List.append_ne_nil_of_left_ne_nil (ih body (by simp [Node.children])) _
    | junction isOr first second rest =>
      cases isOr with
      | true => exact List.append_ne_nil_of_left_ne_nil (ih first (by simp [Node.children])) _
      | false =>
        obtain ⟨last, hlast⟩ : ∃ last, (first :: second :: rest).getLast? = some last :=
          ⟨_, List.getLast?_eq_some_getLast (List.cons_ne_nil _ _)⟩
        rw [ofNode_and hlast]
        exact ih last (List.mem_of_getLast? hlast)
    | _ => exact List.cons_ne_nil _ _

lemma join?_of_ne_nil {a b : Keys} (ha : a.keys ≠ []) (hb : b.keys ≠ []) :
    a.join? b = some (a.join b) := by
  obtain ⟨k, ks, hk⟩ := List.exists_cons_of_ne_nil ha
  obtain ⟨l, ls, hl⟩ := List.exists_cons_of_ne_nil hb
  rw [join?, join, hk, hl]
  cases ks with
  | cons _ _ => simp
  | nil =>
    cases ls with
    | cons _ _ => simp
    | nil => cases k <;> cases l <;> rfl

/-- Without a key of the first operand the check does find a fault. -/
example : join? ⟨[], []⟩ (known "b") = none := rfl

lemma ofNodes?_eq_map (nodes : List Node) : ofNodes? nodes = nodes.map ofNode? := by
  induction nodes with
  | nil => rfl
  | cons n nodes ih => rw [ofNodes?, ih, List.map_cons]

/-- No empty place is looked at for the keys of an expression. -/
lemma ofNode?_eq (n : Node) : ofNode? n = some (ofNode n) := by
  induction n using Node.induction with
  | h n ih =>
    cases n with
    | sum left right =>
      rw [ofNode?, ofNode, ih left (by simp [Node.children]), ih right (by simp [Node.children])]
      exact join?_of_ne_nil (keys_ne_nil left) (keys_ne_nil right)
    | formatted parts =>
      rw [ofNode?, ofNode, template?_eq]
      rfl
    | choice test body orElse =>
      rw [ofNode?, ofNode, ih body (by simp [Node.children]), ih orElse (by simp [Node.children])]
      rfl
    | junction isOr first second rest =>
      have hall : ofNode? first :: ofNode? second :: ofNodes? rest =
          (ofNode first :: ofNode second :: ofNodes rest).map some := by
        rw [ofNodes?_eq_map, ofNodes_eq_map, ← List.map_cons, ← List.map_cons, ← List.map_cons,
          ← List.map_cons, List.map_map]
        exact List.map_congr_left ih
      cases isOr with
      | true =>
        have hmapM (all : List Keys) : (all.map some).mapM id = some (all.map id) :=
          List.mapM_map.trans List.mapM_pure
        rw [ofNode?, ofNode, hall, hmapM, List.map_id]
        rfl
      | false =>
        rw [ofNode?, ofNode, hall, List.getLast?_map, List.getLast?_cons_cons, List.getLast?_cons]
        rfl
    | _ => rfl

end Keys

/-! ### Calls -/

namespace Call

/-- The keys that a call can tell. The argument is taken from its place, which is looked at only if
it is one of the places of the arguments. -/
def keys? (o : ExtractOptions) (c : Call) : Option Keys :=
  let index := if o.position < 0 then c.arguments.length + o.position else o.position
  if 0 ≤ index ∧ index < c.arguments.length then do
    Keys.ofNode? (← c.arguments[index.toNat]?)
  else some ⟨[], []⟩

lemma keys?_eq (o : ExtractOptions) (c : Call) : c.keys? o = some (c.keys o) := by
  unfold keys? keys argument?
  dsimp only
  generalize (if o.position < 0 then c.arguments.length + o.position else o.position) = index
  by_cases h : 0 ≤ index ∧ index < c.arguments.length
  · rw [if_pos h, if_neg (not_lt.mpr h.1), List.getElem?_eq_getElem (by omega)]
    exact Keys.ofNode?_eq _
  · have hnone : (if index < 0 then none else c.arguments[index.toNat]?) = none := by
      split
      · rfl
      · exact List.getElem?_eq_none (by omega)
    rw [if_neg h, hnone]

end Call

/-! ### Source files -/

namespace Findings

variable {o : ExtractOptions} {rules : CommentRules} {t : Text} {m : Source.Module}

/-- Add the keys of a call; nothing if a place is empty that is looked at. -/
def addCall? (o : ExtractOptions) (state : Findings × CommentNotes) (c : Call) :
    Option (Findings × CommentNotes) :=
  let (f, notes) := state
  if c.isMarked o && !notes.ignored.contains c.endLine then do
    let found ← c.keys? o
    let f := { f with warnings := f.warnings ++ found.warnings.map (c.line, ·) }
    return (usable found.keys).foldl (addKey c.line) (f, notes)
  else some state

/-- What a source file holds that has been read; nothing if a place is empty that is looked at. -/
def ofModule? (o : ExtractOptions) (rules : CommentRules) (m : Source.Module) :
    Option (Except Failure Findings) :=
  match CommentNotes.ofComments rules m.comments with
  | .error e => some (.error e)
  | .ok notes => do
    let state ← (Call.inNode m.tree).foldlM (addCall? o) (⟨notes.declared, []⟩, notes)
    return .ok state.1

/-- What the text of a source file holds; nothing if a place is empty that is looked at. -/
def ofText? (o : ExtractOptions) (rules : CommentRules) (t : Text) :
    Option (Except Failure Findings) :=
  match Source.Module.ofText t with
  | none => some (.error .sourceSyntax)
  | some m => ofModule? o rules m

lemma addCall?_eq (state : Findings × CommentNotes) (c : Call) :
    addCall? o state c = some (addCall o state c) := by
  rw [addCall?, addCall, Call.keys?_eq]
  split <;> rfl

lemma ofModule?_eq (o : ExtractOptions) (rules : CommentRules) (m : Source.Module) :
    ofModule? o rules m = some (ofModule o rules m) := by
  have hcalls (state : Findings × CommentNotes) (calls : List Call) :
      calls.foldlM (addCall? o) state = some (calls.foldl (addCall o) state) := by
    rw [show addCall? o = fun state c => pure (addCall o state c) from
      funext fun state => funext fun c => addCall?_eq state c]
    exact List.foldlM_pure
  rw [ofModule?, ofModule]
  cases CommentNotes.ofComments rules m.comments with
  | error e => rfl
  | ok notes =>
    dsimp only
    rw [hcalls]
    rfl

lemma ofText?_eq (o : ExtractOptions) (rules : CommentRules) (t : Text) :
    ofText? o rules t = some (ofText o rules t) := by
  rw [ofText?, ofText]
  cases Source.Module.ofText t with
  | none => rfl
  | some m => exact ofModule?_eq o rules m

/-- The search through a file that can be parsed fails only for a comment. -/
lemma ofText_eq_error_iff {e : Failure} (h : Source.Module.ofText t = some m) :
    ofText o rules t = .error e ↔ CommentNotes.ofComments rules m.comments = .error e := by
  rw [ofText, h]
  dsimp only
  rw [ofModule, bind_eq_error_iff]
  refine or_iff_left ?_
  rintro ⟨notes, -, hreturn⟩
  cases hreturn

/-- Each expression has a key, or one that cannot be told, so its keys are found where they are
looked for, and the search through any text comes to the same with and without the check. If the
text can be parsed, only a comment can make the search fail, whatever the arguments of the calls
are; and the search succeeds if the first group of the expression for keys takes part in every
match. -/
theorem places_are_filled :
    (∀ n : Node, (Keys.ofNode n).keys ≠ [] ∧ Keys.ofNode? n = some (Keys.ofNode n)) ∧
      ∀ (o : ExtractOptions) (rules : CommentRules) (t : Text),
        ofText? o rules t = some (ofText o rules t) ∧
          ∀ m, Source.Module.ofText t = some m →
            (∀ e, ofText? o rules t = some (.error e) ↔
              CommentNotes.ofComments rules m.comments = .error e) ∧
            (rules.HasKeyGroup → ∃ f, ofText? o rules t = some (.ok f)) := by
  refine ⟨fun n => ⟨Keys.keys_ne_nil n, Keys.ofNode?_eq n⟩, fun o rules t =>
    ⟨ofText?_eq o rules t, fun m hm => ⟨fun e => ?_, fun hkey => ?_⟩⟩⟩
  · rw [ofText?_eq, Option.some.injEq]
    exact ofText_eq_error_iff hm
  · obtain ⟨notes, hnotes⟩ := CommentNotes.exists_ofComments_of_hasKeyGroup hkey m.comments
    have hfound := ofModule_eq_ok_iff (o := o).mpr ⟨notes, hnotes, rfl⟩
    exact ⟨_, by rw [ofText?_eq, ofText_eq_ok_iff.mpr ⟨m, hm, hfound⟩]⟩

/-- Sums of several keys, of keys that cannot be told and of formatted texts, a conjunction, and
calls without an argument. -/
def mill : Text := "_(f'{a}b' + ('c' and f'd{e}') + 'f')
_('g' + (1 if h else [i]))
_(-2 + 'j', *k)
_(), _(**l)
_('m' or 'n' or 'o')
"

theorem places_are_filled_mill : CommentRules.byDefault.HasKeyGroup ∧
    (∃ m, Source.Module.ofText mill = some m) ∧
    ∃ f, ofText? doorman .byDefault mill = some (.ok f) ∧
      f.told = ([("*bd*f", 1), ("m", 5), ("n", 5), ("o", 5)] : List (Text × Nat)) ∧
      f.warnings = ([(2, "Unsupported constant: int"), (2, "Unsupported node: List"),
        (2, Keys.severalKeys), (3, "Unsupported node: UnaryOp")] : List (Nat × Text)) := by
  have hkey : CommentRules.byDefault.HasKeyGroup := CommentRules.hasKeyGroup_of_literal rfl
  have hfound : (ofText doorman .byDefault mill).toOption.map (fun f => (f.told, f.warnings)) =
      some (([("*bd*f", 1), ("m", 5), ("n", 5), ("o", 5)] : List (Text × Nat)),
        ([(2, "Unsupported constant: int"), (2, "Unsupported node: List"),
          (2, Keys.severalKeys), (3, "Unsupported node: UnaryOp")] : List (Nat × Text))) := by
    decide +kernel
  obtain ⟨f, hf⟩ := Failure.exists_of_isSome (x := ofText doorman .byDefault mill) (by
    rw [← Option.isSome_map, hfound]
    rfl)
  obtain ⟨m, hm, -⟩ := ofText_eq_ok_iff.mp hf
  rw [hf] at hfound
  obtain ⟨htold, hwarnings⟩ := Prod.mk.inj (Option.some.inj hfound)
  obtain ⟨hsame, hparsed⟩ := places_are_filled.2 doorman .byDefault mill
  obtain ⟨g, hg⟩ := (hparsed m hm).2 hkey
  obtain rfl : f = g := by simpa [hsame, hf] using hg
  exact ⟨hkey, ⟨m, hm⟩, f, hg, htold, hwarnings⟩

end Findings

end MessageCatalog
