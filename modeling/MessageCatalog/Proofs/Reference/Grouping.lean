import MessageCatalog.Proofs.Reference

/-!
# How references are grouped into lines

The lines of a reference comment are filled greedily: every reference goes into the group before it
as long as the limits on lines allow. There is only one way to group references like that.
-/

namespace MessageCatalog.Reference

open Failure Text

/-! ### Greedy groups -/

section Greedy

variable {α : Type} {fits : List α → Prop} {x : α} {xs g g' : List α} {groups groups' : List (List α)}

/-- A list is cut into groups that fit, none of them empty, so that no group could also have held
the first element of the group after it. -/
structure IsGreedy (fits : List α → Prop) (xs : List α) (groups : List (List α)) : Prop where
  flatten : groups.flatten = xs
  ne_nil : ∀ g ∈ groups, g ≠ []
  fit : ∀ g ∈ groups, fits g
  full : groups.IsChain fun g h => ∀ x ∈ h.head?, ¬fits (g ++ [x])

lemma isGreedy_nil (fits : List α → Prop) : IsGreedy fits [] [] where
  flatten := rfl
  ne_nil := List.forall_mem_nil _
  fit := List.forall_mem_nil _
  full := List.isChain_nil

lemma isGreedy_singleton (hne : g ≠ []) (hfits : fits g) : IsGreedy fits g [g] where
  flatten := by simp
  ne_nil := by simpa using hne
  fit := by simpa using hfits
  full := List.isChain_singleton g

/-- The list begins as its first group does. -/
lemma IsGreedy.head?_eq (h : IsGreedy fits (x :: xs) groups) :
    ∀ g ∈ groups.head?, g.head? = some x := by
  intro g hg
  obtain ⟨rest, rfl⟩ := List.head?_eq_some_iff.mp hg
  have hne : g ≠ [] := h.ne_nil g List.mem_cons_self
  have hflatten : g ++ rest.flatten = x :: xs := h.flatten
  rw [← List.head?_append_of_ne_nil g hne, hflatten, List.head?_cons]

/-- A group that cannot hold the next element stands before greedy groups of the rest. -/
lemma IsGreedy.cons (h : IsGreedy fits (x :: xs) groups) (hne : g ≠ []) (hfits : fits g)
    (hfull : ¬fits (g ++ [x])) : IsGreedy fits (g ++ x :: xs) (g :: groups) where
  flatten := by rw [List.flatten_cons, h.flatten]
  ne_nil := List.forall_mem_cons.mpr ⟨hne, h.ne_nil⟩
  fit := List.forall_mem_cons.mpr ⟨hfits, h.fit⟩
  full := by
    refine List.isChain_cons.mpr ⟨?_, h.full⟩
    intro g' hg' y hy
    rw [h.head?_eq g' hg', Option.mem_some_iff] at hy
    rwa [← hy]

lemma IsGreedy.tail (h : IsGreedy fits xs (g :: groups)) : IsGreedy fits groups.flatten groups where
  flatten := rfl
  ne_nil := fun g' hg' => h.ne_nil g' (List.mem_cons_of_mem g hg')
  fit := fun g' hg' => h.fit g' (List.mem_cons_of_mem g hg')
  full := h.full.tail

/-- Nothing longer than the first group fits at the start of the list. -/
lemma IsGreedy.prefix_of_fits (hfits : ∀ {g h : List α}, g <+: h → fits h → fits g)
    (h : IsGreedy fits xs (g :: groups)) (hg' : g' <+: xs) (hfits' : fits g') : g' <+: g := by
  have hflatten : g ++ groups.flatten = xs := h.flatten
  have hg : g <+: xs := ⟨_, hflatten⟩
  rcases List.prefix_or_prefix_of_prefix hg' hg with hle | ⟨more, rfl⟩
  · exact hle
  cases more with
  | nil => simp
  | cons y more =>
    -- the next group begins with an element that the first one could have held
    exfalso
    rw [← hflatten, List.prefix_append_right_inj] at hg'
    obtain ⟨tail, htail⟩ := hg'
    have hrest : IsGreedy fits (y :: (more ++ tail)) groups := by
      rw [← List.cons_append, htail]
      exact h.tail
    cases groups with
    | nil => cases htail
    | cons next groups =>
      have hfull := (List.isChain_cons_cons.mp h.full).1
      refine hfull y (hrest.head?_eq next rfl) (hfits ?_ hfits')
      exact ⟨more, by simp⟩

/-- There is one way to group greedily, if with a group every beginning of it fits. -/
theorem IsGreedy.unique (hfits : ∀ {g h : List α}, g <+: h → fits h → fits g)
    (h : IsGreedy fits xs groups) (h' : IsGreedy fits xs groups') : groups = groups' := by
  induction groups generalizing xs groups' with
  | nil =>
    cases groups' with
    | nil => rfl
    | cons g' groups' =>
      have hempty : g' ++ groups'.flatten = [] := h'.flatten.trans h.flatten.symm
      exact absurd (List.append_eq_nil_iff.mp hempty).1 (h'.ne_nil g' List.mem_cons_self)
  | cons g groups ih =>
    cases groups' with
    | nil =>
      have hempty : g ++ groups.flatten = [] := h.flatten.trans h'.flatten.symm
      exact absurd (List.append_eq_nil_iff.mp hempty).1 (h.ne_nil g List.mem_cons_self)
    | cons g' groups' =>
      have hsame : g ++ groups.flatten = g' ++ groups'.flatten := h.flatten.trans h'.flatten.symm
      have hle : g <+: g' :=
        h'.prefix_of_fits hfits ⟨_, h.flatten⟩ (h.fit g List.mem_cons_self)
      have hge : g' <+: g :=
        h.prefix_of_fits hfits ⟨_, h'.flatten⟩ (h'.fit g' List.mem_cons_self)
      obtain rfl : g = g' := hle.eq_of_length_le hge.length_le
      have hrest : groups.flatten = groups'.flatten := List.append_cancel_left hsame
      have htail := h'.tail
      rw [← hrest] at htail
      rw [ih h.tail htail]

end Greedy

/-! ### Groups of references -/

variable {o : ReferenceOptions} {ref : Text} {refs g g' : List Text}

/-- The line of a group of references. -/
def lineOf (g : List Text) : Text := Text.join " " g

@[simp] lemma lineOf_singleton (ref : Text) : lineOf [ref] = ref := join_singleton _ ref

lemma lineOf_concat (hg : g ≠ []) (ref : Text) : lineOf (g ++ [ref]) = lineOf g ++ ' ' :: ref := by
  rw [lineOf, join_concat _ _ hg, List.append_assoc]
  rfl

lemma lineOf_ne_nil (hg : g ≠ []) (hrefs : [] ∉ g) : lineOf g ≠ [] := by
  obtain ⟨ref, rest, rfl⟩ := List.exists_cons_of_ne_nil hg
  apply join_ne_nil (t := ref) List.mem_cons_self
  rintro rfl
  exact hrefs List.mem_cons_self

lemma length_lineOf_le (h : g <+: g') : (lineOf g).length ≤ (lineOf g').length := by
  obtain ⟨more, rfl⟩ := h
  induction more using List.reverseRecOn with
  | nil => simp
  | append_singleton more ref ih =>
    rw [← List.append_assoc]
    by_cases hempty : g ++ more = []
    · obtain ⟨rfl, rfl⟩ := List.append_eq_nil_iff.mp hempty
      simp [lineOf]
    · rw [lineOf_concat hempty, List.length_append]
      exact ih.trans (Nat.le_add_right _ _)

/-- The limits on lines allow a line of the references. A single reference is always allowed. -/
structure Fits (o : ReferenceOptions) (g : List Text) : Prop where
  few : (g.length : ℕ∞) ≤ max 1 (Limit.cap o.perLine)
  short : 2 ≤ g.length → ((lineOf g).length : ℕ∞) ≤ Limit.cap o.lineLength

lemma fits_singleton (o : ReferenceOptions) (ref : Text) : Fits o [ref] where
  few := by simp
  short := by simp

lemma Fits.of_prefix (hle : g <+: g') (h : Fits o g') : Fits o g where
  few := le_trans (by exact_mod_cast hle.length_le) h.few
  short := by
    intro htwo
    refine le_trans ?_ (h.short (htwo.trans hle.length_le))
    exact_mod_cast length_lineOf_le hle

/-- One more reference is allowed as long as neither limit is passed. -/
lemma fits_concat_iff (hg : g ≠ []) :
    Fits o (g ++ [ref]) ↔ ¬Limit.cap o.perLine < ((g.length + 1 : ℕ) : ℕ∞) ∧
      ¬Limit.cap o.lineLength < (((lineOf g).length + ref.length + 1 : ℕ) : ℕ∞) := by
  have hpos : 0 < g.length := List.length_pos_of_ne_nil hg
  have hlength : (g ++ [ref]).length = g.length + 1 := by simp
  have hline : (lineOf (g ++ [ref])).length = (lineOf g).length + ref.length + 1 := by
    rw [lineOf_concat hg, List.length_append, List.length_cons, Nat.add_assoc]
  have hmany : ¬((g.length + 1 : ℕ) : ℕ∞) ≤ 1 := by
    rw [not_le]
    exact_mod_cast Nat.succ_lt_succ hpos
  rw [not_lt, not_lt]
  constructor
  · rintro ⟨hfew, hshort⟩
    rw [hlength, le_max_iff] at hfew
    rw [hlength, hline] at hshort
    exact ⟨hfew.resolve_left hmany, hshort (Nat.succ_le_succ hpos)⟩
  · rintro ⟨hfew, hshort⟩
    refine ⟨?_, fun _ => ?_⟩
    · rw [hlength]
      exact le_max_of_le_right hfew
    · rwa [hline]

/-! ### Filling lines -/

/-- A line that is begun is full when the limits do not allow the next reference in it. -/
lemma isFull_lineOf (hg : g ≠ []) {full : Bool}
    (h : isFull o (lineOf g) g.length ref = .ok full) : full = true ↔ ¬Fits o (g ++ [ref]) := by
  obtain ⟨-, h⟩ := isFull_eq_ok_iff.mp h
  rw [fits_concat_iff hg]
  split at h
  · next hmany =>
    rw [h]
    exact iff_of_true rfl fun hroom => hroom.1 hmany
  · next hfew =>
    rw [if_neg (mt List.length_eq_zero_iff.mp hg)] at h
    rw [← h.2, decide_eq_true_iff, not_and_not_right]
    exact ⟨fun hlong _ => hlong, fun hlong => hlong hfew⟩

/-- Lines are filled with greedy groups, of which the first one goes on with what is begun. -/
lemma exists_isGreedy_of_layoutFrom {ls : List Text}
    (h : layoutFrom o (lineOf g) g.length refs = .ok ls) (hfits : g ≠ [] → Fits o g)
    (hrefs : [] ∉ g ++ refs) :
    ∃ groups, ls = groups.map lineOf ∧ IsGreedy (Fits o) (g ++ refs) groups := by
  induction refs generalizing g ls with
  | nil =>
    obtain rfl := Except.ok.inj h
    rw [List.append_nil] at hrefs ⊢
    by_cases hg : g = []
    · subst hg
      exact ⟨[], rfl, isGreedy_nil _⟩
    · refine ⟨[g], ?_, isGreedy_singleton hg (hfits hg)⟩
      rw [if_neg (by simpa using lineOf_ne_nil hg hrefs)]
      rfl
  | cons ref refs ih =>
    obtain ⟨full, hfull, h⟩ := bind_eq_ok_iff.mp h
    have hsingle : ref :: refs = [ref] ++ refs := rfl
    by_cases hg : g = []
    · -- nothing is begun, so the reference begins the first group
      subst hg
      rw [if_neg (by simp [lineOf])] at h
      refine ih (g := [ref]) ?_ (fun _ => fits_singleton o ref) hrefs
      rwa [lineOf_singleton]
    have hline : (lineOf g).isEmpty = false := by
      rw [List.isEmpty_eq_false_iff]
      exact lineOf_ne_nil hg fun hmem => hrefs (List.mem_append_left _ hmem)
    rw [hline, Bool.not_false, Bool.and_true] at h
    split at h
    · next hroom =>
      obtain ⟨rest, hrest, h⟩ := bind_eq_ok_iff.mp h
      obtain rfl := pure_eq_ok_iff.mp h
      -- the line is full, so the group is closed and the reference begins the next one
      have hnext : [] ∉ [ref] ++ refs := fun hmem => hrefs (List.mem_append_right g hmem)
      obtain ⟨groups, rfl, hgroups⟩ :=
        ih (g := [ref]) (by rwa [lineOf_singleton]) (fun _ => fits_singleton o ref) hnext
      exact ⟨g :: groups, rfl, hgroups.cons hg (hfits hg) ((isFull_lineOf hg hfull).mp hroom)⟩
    · next hroom =>
      -- there is room, so the group goes on with the reference
      have hmore : Fits o (g ++ [ref]) :=
        not_not.mp fun hnot => hroom ((isFull_lineOf hg hfull).mpr hnot)
      rw [if_pos (List.length_pos_of_ne_nil hg)] at h
      rw [hsingle, ← List.append_assoc] at hrefs ⊢
      refine ih ?_ (fun _ => hmore) hrefs
      rwa [lineOf_concat hg, List.length_append, List.length_singleton]

/-- Filling lines fails only at a limit that is too large a number. -/
lemma eq_numberTooLarge_of_layoutFrom {line : Text} {count : ℕ} {e : Failure}
    (h : layoutFrom o line count refs = .error e) : e = .numberTooLarge := by
  have hfull : ∀ {line count ref}, isFull o line count ref = .error e → e = .numberTooLarge := by
    intro line count ref h
    rcases bind_eq_error_iff.mp h with h | ⟨many, -, h⟩
    · exact Limit.countExceeds_eq_error h
    split at h
    · cases h
    split at h
    · cases h
    · exact Limit.countExceeds_eq_error h
  induction refs generalizing line count with
  | nil => cases h
  | cons ref refs ih =>
    rcases bind_eq_error_iff.mp h with h | ⟨full, -, h⟩
    · exact hfull h
    split at h
    · rcases bind_eq_error_iff.mp h with h | ⟨rest, -, h⟩
      · exact ih h
      · cases h
    · exact ih h

/-- The limits that are looked at to lay out the references can be read. That on the length of
lines is looked at only where a line could hold a second reference. -/
def CanLayOut (o : ReferenceOptions) (refs : List Text) : Prop :=
  refs = [] ∨ Limit.IsReadable o.perLine ∧
    (refs.length ≤ 1 ∨ Limit.cap o.perLine ≤ 1 ∨ Limit.IsReadable o.lineLength)

lemma exists_layout_iff : (∃ ls, layout o refs = .ok ls) ↔ CanLayOut o refs := by
  constructor
  · rintro ⟨ls, h⟩
    cases refs with
    | nil => exact .inl rfl
    | cons ref refs =>
      obtain ⟨full, hfull, h⟩ := bind_eq_ok_iff.mp h
      refine .inr ⟨(isFull_eq_ok_iff.mp hfull).1, ?_⟩
      cases refs with
      | nil => exact .inl le_rfl
      | cons second refs =>
        refine .inr ?_
        rw [if_neg (by simp)] at h
        obtain ⟨full, hfull, -⟩ := bind_eq_ok_iff.mp h
        obtain ⟨-, hsecond⟩ := isFull_eq_ok_iff.mp hfull
        split at hsecond
        · next hmany => exact .inl (ENat.lt_natCast_add_one_iff.mp (by exact_mod_cast hmany))
        · exact .inr hsecond.1
  · rintro (rfl | ⟨hperLine, hone | hlength⟩)
    · exact ⟨[], rfl⟩
    · cases refs with
      | nil => exact ⟨[], rfl⟩
      | cons ref refs =>
        obtain rfl : refs = [] := by simpa using hone
        obtain ⟨full, hfull⟩ := exists_isFull [] 0 ref hperLine (.inl rfl)
        obtain ⟨ls, hls⟩ : ∃ ls, layoutFrom o ([] ++ ref) 1 [] = .ok ls := ⟨_, rfl⟩
        refine ⟨ls, bind_eq_ok_iff.mpr ⟨full, hfull, ?_⟩⟩
        rw [if_neg (by simp)]
        exact hls
    · exact exists_layoutFrom hperLine hlength [] 0 refs

/-- If the limits can be read that are looked at, the lines are those of greedy groups: the groups
hold the references in their order, no group is larger than the limit on references or makes a line
longer than the limit on its length unless it is a single reference, and no group could also have
held the first reference of the next one. There are no other groups like that. Otherwise laying out
fails. -/
theorem layout_spec (o : ReferenceOptions) (hrefs : ∀ ref ∈ refs, ref ≠ []) :
    (CanLayOut o refs →
      ∃ groups, layout o refs = .ok (groups.map lineOf) ∧ IsGreedy (Fits o) refs groups ∧
        ∀ groups', IsGreedy (Fits o) refs groups' → groups' = groups) ∧
    (¬CanLayOut o refs → layout o refs = .error .numberTooLarge) := by
  rw [← exists_layout_iff]
  constructor
  · rintro ⟨ls, h⟩
    have hempty : [] ∉ [] ++ refs := fun hmem => hrefs [] hmem rfl
    obtain ⟨groups, rfl, hgroups⟩ :=
      exists_isGreedy_of_layoutFrom (g := []) h (fun hne => absurd rfl hne) hempty
    exact ⟨groups, h, hgroups, fun groups' h' => h'.unique Fits.of_prefix hgroups⟩
  · intro hnone
    cases h : layout o refs with
    | ok ls => exact absurd ⟨ls, h⟩ hnone
    | error e => rw [eq_numberTooLarge_of_layoutFrom h]

/-- At most two references and thirteen characters on a line. -/
def narrow : ReferenceOptions := { perLine := .int 2, lineLength := .int 13 }

/-- The limit on references of a line is beyond the range of double precision. -/
def boundless : ReferenceOptions := { perLine := .int (10 ^ 309 : ℕ) }

def trail : List Text := ["a.py:1", "b.py:2", "src/catalog.py:3", "c.py:4"]

/-- The first line has reached both limits, and the second one is too long. -/
def trailGroups : List (List Text) := [["a.py:1", "b.py:2"], ["src/catalog.py:3"], ["c.py:4"]]

lemma isGreedy_trailGroups : IsGreedy (Fits narrow) trail trailGroups := by
  have hperLine : Limit.cap narrow.perLine = (2 : ℕ) := Limit.cap_int 2
  have hlength : Limit.cap narrow.lineLength = (13 : ℕ) := Limit.cap_int 13
  have hfits {ref : Text} {g : List Text} (hg : g ≠ []) : Fits narrow (g ++ [ref]) ↔
      ¬2 < g.length + 1 ∧ ¬13 < (lineOf g).length + ref.length + 1 := by
    rw [fits_concat_iff hg, hperLine, hlength, ENat.natCast_lt_natCast, ENat.natCast_lt_natCast]
  refine ⟨rfl, by decide, ?_, ?_⟩
  · have hfirst : Fits narrow (["a.py:1"] ++ ["b.py:2"]) := (hfits (by simp)).mpr (by decide)
    simp only [trailGroups, List.forall_mem_cons]
    exact ⟨hfirst, fits_singleton _ _, fits_singleton _ _, List.forall_mem_nil _⟩
  · refine .cons_cons ?_ (.cons_cons ?_ (.singleton _))
    · rintro ref ⟨⟩
      rw [hfits (by simp)]
      decide
    · rintro ref ⟨⟩
      rw [hfits (by simp)]
      decide

theorem layout_spec_trail : (∀ ref ∈ trail, ref ≠ []) ∧
    layout narrow trail = .ok ["a.py:1 b.py:2", "src/catalog.py:3", "c.py:4"] ∧
      layout boundless trail = .error .numberTooLarge := by
  have hrefs : ∀ ref ∈ trail, ref ≠ [] := by decide
  have hperLine : Limit.IsReadable narrow.perLine := by
    rintro n ⟨⟩
    decide +kernel
  have hlength : Limit.IsReadable narrow.lineLength := by
    rintro n ⟨⟩
    decide +kernel
  have hlarge : ¬Limit.IsReadable boundless.perLine := fun h => absurd (h _ rfl) (by decide +kernel)
  obtain ⟨groups, hlayout, -, hunique⟩ :=
    (layout_spec narrow hrefs).1 (.inr ⟨hperLine, .inr (.inr hlength)⟩)
  rw [← hunique _ isGreedy_trailGroups] at hlayout
  refine ⟨hrefs, hlayout, (layout_spec boundless hrefs).2 ?_⟩
  rintro (h | ⟨h, -⟩)
  · cases h
  · exact hlarge h

end MessageCatalog.Reference
