import MessageCatalog.Extract.Keys
import MessageCatalog.Proofs.Extract.Visits

/-!
# What an argument can be

What an argument of a call comes to is known to the running program only: a call, a name or an
attribute can be any text, and so can a field of a formatted text. The keys of an argument have a
star in each such place. Read as patterns they fit all that the argument can be.
-/

namespace MessageCatalog

open Source (Node)

namespace Source.Node

/-- What a part of a formatted text can be: a constant text is itself, and a field is a text that is
not known. -/
inductive PartCanBe (unknown : Set Text) : Node → Text → Prop
  | text (t : Text) : PartCanBe unknown (.text t) t
  | field {n : Node} {t : Text} : (∀ u, n ≠ .text u) → t ∈ unknown → PartCanBe unknown n t

/-- The texts that an expression can be, if a text that is not known is one of `unknown`. -/
inductive CanBe (unknown : Set Text) : Node → Text → Prop
  | text (t : Text) : CanBe unknown (.text t) t
  | sum {left right : Node} {t u : Text} :
      CanBe unknown left t → CanBe unknown right u → CanBe unknown (.sum left right) (t ++ u)
  | formatted {parts : List Node} {ts : List Text} :
      List.Forall₂ (PartCanBe unknown) parts ts → CanBe unknown (.formatted parts) ts.flatten
  | body {test body orElse : Node} {t : Text} :
      CanBe unknown body t → CanBe unknown (.choice test body orElse) t
  | orElse {test body orElse : Node} {t : Text} :
      CanBe unknown orElse t → CanBe unknown (.choice test body orElse) t
  | disjunct {first second n : Node} {rest : List Node} {t : Text} :
      n ∈ first :: second :: rest → CanBe unknown n t →
        CanBe unknown (.junction true first second rest) t
  | conjunct {first second n : Node} {rest : List Node} {t : Text} :
      (first :: second :: rest).getLast? = some n → CanBe unknown n t →
        CanBe unknown (.junction false first second rest) t
  | call {line endLine : Nat} {function : Node} {arguments keywords : List Node} {t : Text} :
      t ∈ unknown → CanBe unknown (.call line endLine function arguments keywords) t
  | name {id t : Text} : t ∈ unknown → CanBe unknown (.name id) t
  | «attribute» {object : Node} {id t : Text} :
      t ∈ unknown → CanBe unknown (.attribute object id) t

end Source.Node

namespace Keys

/-! ### Keys as patterns -/

/-- The text fits the pattern: a star stands for any text, and another character for itself. -/
inductive Fits : Text → Text → Prop
  | nil : Fits [] []
  | star {pattern t : Text} (u : Text) : Fits pattern t → Fits ('*' :: pattern) (u ++ t)
  | char {c : Char} {pattern t : Text} : c ≠ '*' → Fits pattern t → Fits (c :: pattern) (c :: t)

namespace Fits

lemma refl (t : Text) : Fits t t := by
  induction t with
  | nil => exact nil
  | cons c t ih =>
    by_cases hc : c = '*'
    · subst hc
      exact star ['*'] ih
    · exact char hc ih

lemma append {k l t u : Text} (hk : Fits k t) (hl : Fits l u) : Fits (k ++ l) (t ++ u) := by
  induction hk with
  | nil => exact hl
  | star v _ ih =>
    rw [List.cons_append, List.append_assoc]
    exact star v ih
  | char hc _ ih => exact char hc ih

lemma unknownPart (t : Text) : Fits unknownPart t := by
  rw [show Keys.unknownPart = ['*'] from rfl, ← List.append_nil t]
  exact star t nil

end Fits

/-! ### Formatted texts -/

lemma template_cons_of_field {n : Node} (hn : ∀ u, n ≠ .text u) (parts : List Node) :
    template (n :: parts) = unknownPart ++ template parts := by
  cases n <;> first | rfl | exact absurd rfl (hn _)

lemma fits_template {unknown : Set Text} {parts : List Node} {ts : List Text}
    (h : List.Forall₂ (Node.PartCanBe unknown) parts ts) : Fits (template parts) ts.flatten := by
  induction h with
  | nil => exact .nil
  | cons hpart _ ih =>
    cases hpart with
    | text => exact (Fits.refl _).append ih
    | field hn _ =>
      rw [template_cons_of_field hn]
      exact (Fits.unknownPart _).append ih

lemma flatten_eq_template {parts : List Node} {ts : List Text}
    (h : List.Forall₂ (Node.PartCanBe {unknownPart}) parts ts) : ts.flatten = template parts := by
  induction h with
  | nil => rfl
  | cons hpart _ ih =>
    cases hpart with
    | text => rw [List.flatten_cons, ih, template]
    | field hn ht =>
      rw [List.flatten_cons, ih, template_cons_of_field hn, Set.mem_singleton_iff.mp ht]

lemma exists_flatten_eq_template (parts : List Node) :
    ∃ ts, List.Forall₂ (Node.PartCanBe {unknownPart}) parts ts ∧ ts.flatten = template parts := by
  induction parts with
  | nil => exact ⟨[], .nil, rfl⟩
  | cons n parts ih =>
    obtain ⟨ts, hts, heq⟩ := ih
    by_cases hn : ∃ u, n = .text u
    · obtain ⟨u, rfl⟩ := hn
      exact ⟨u :: ts, .cons (.text u) hts, by simp [heq, template]⟩
    · push Not at hn
      refine ⟨unknownPart :: ts, .cons (.field hn rfl) hts, ?_⟩
      rw [template_cons_of_field hn, ← heq, List.flatten_cons]

/-! ### The keys of compound expressions -/

variable {n : Node} {k : Option Text}

lemma mem_keys_append {a b : Keys} : k ∈ (a ++ b).keys ↔ k ∈ a.keys ∨ k ∈ b.keys :=
  List.mem_append

lemma mem_keys_concat {all : List Keys} : k ∈ (concat all).keys ↔ ∃ a ∈ all, k ∈ a.keys := by
  induction all with
  | nil => simp [concat]
  | cons a all ih =>
    rw [concat, List.foldr_cons]
    exact mem_keys_append.trans (by simp [← ih, concat])

/-- Two expressions have a key together just when each has one key, which is known. -/
lemma join_cases (a b : Keys) :
    (a.join b).keys = [none] ∨
      ∃ t u, a.keys = [some t] ∧ b.keys = [some u] ∧ (a.join b).keys = [some (t ++ u)] := by
  unfold join
  split
  · next t u ha hb => exact Or.inr ⟨t, u, ha, hb, rfl⟩
  · exact Or.inl rfl
  · exact Or.inl rfl

lemma ofNodes_eq_map (nodes : List Node) : ofNodes nodes = nodes.map ofNode := by
  induction nodes with
  | nil => rfl
  | cons n nodes ih => rw [ofNodes, ih, List.map_cons]

lemma mem_keys_or {first second : Node} {rest : List Node} :
    k ∈ (ofNode (.junction true first second rest)).keys ↔
      ∃ n ∈ first :: second :: rest, k ∈ (ofNode n).keys := by
  rw [ofNode, mem_keys_concat, ofNodes_eq_map, ← List.map_cons, ← List.map_cons]
  simp only [List.mem_map, exists_exists_and_eq_and]

lemma ofNode_and {first second last : Node} {rest : List Node}
    (h : (first :: second :: rest).getLast? = some last) :
    ofNode (.junction false first second rest) = ofNode last := by
  rw [ofNode, ofNodes_eq_map, List.getLast?_map]
  rw [List.getLast?_cons_cons, List.getLast?_cons] at h
  rw [← Option.some.inj h]
  cases rest.getLast? <;> rfl

/-! ### Keys and possible texts -/

/-- A key is what the expression can be if all that is not known is a star. -/
lemma canBe_of_mem_keys {key : Text} (h : some key ∈ (ofNode n).keys) :
    n.CanBe {unknownPart} key := by
  induction n using Node.induction generalizing key with
  | h n ih =>
    cases n with
    | text t =>
      obtain rfl : key = t := by simpa [ofNode, known] using h
      exact .text key
    | constant type => simp [ofNode, unknown] at h
    | name id => exact .name (by simpa [ofNode, known] using h)
    | «attribute» object id => exact .attribute (by simpa [ofNode, known] using h)
    | call line endLine function arguments keywords =>
      exact .call (by simpa [ofNode, known] using h)
    | sum left right =>
      rw [ofNode] at h
      rcases join_cases (ofNode left) (ofNode right) with hnone | ⟨t, u, ht, hu, hsum⟩
      · simp [hnone] at h
      · obtain rfl : key = t ++ u := by simpa [hsum] using h
        exact .sum (ih left (by simp [Node.children]) (by simp [ht]))
          (ih right (by simp [Node.children]) (by simp [hu]))
    | formatted parts =>
      obtain rfl : key = template parts := by simpa [ofNode, known] using h
      obtain ⟨ts, hts, heq⟩ := exists_flatten_eq_template parts
      exact heq ▸ .formatted hts
    | choice test body orElse =>
      rw [ofNode] at h
      rcases mem_keys_append.mp h with h | h
      · exact .body (ih body (by simp [Node.children]) h)
      · exact .orElse (ih orElse (by simp [Node.children]) h)
    | junction isOr first second rest =>
      -- A disjunction has the keys of all its parts, a conjunction those of the last one.
      cases isOr with
      | true =>
        obtain ⟨n, hn, h⟩ := mem_keys_or.mp h
        exact .disjunct hn (ih n hn h)
      | false =>
        obtain ⟨last, hlast⟩ : ∃ last, (first :: second :: rest).getLast? = some last :=
          ⟨_, List.getLast?_eq_some_getLast (List.cons_ne_nil _ _)⟩
        rw [ofNode_and hlast] at h
        exact .conjunct hlast (ih last (List.mem_of_getLast? hlast) h)
    | other form nodes => simp [ofNode, unknown] at h

/-- If every key can be told, no text is missing that the expression can be with stars. -/
lemma mem_keys_of_canBe {key : Text} (h : n.CanBe {unknownPart} key)
    (hknown : none ∉ (ofNode n).keys) : some key ∈ (ofNode n).keys := by
  induction h with
  | text t => simp [ofNode, known]
  | @sum left right t u _ _ iht ihu =>
    rw [ofNode] at hknown ⊢
    rcases join_cases (ofNode left) (ofNode right) with hnone | ⟨t', u', ht, hu, hsum⟩
    · simp [hnone] at hknown
    · obtain rfl : t = t' := by simpa [ht] using iht (by simp [ht])
      obtain rfl : u = u' := by simpa [hu] using ihu (by simp [hu])
      simp [hsum]
  | formatted hparts => simp [ofNode, known, flatten_eq_template hparts]
  | body _ ih =>
    rw [ofNode, mem_keys_append] at hknown ⊢
    exact Or.inl (ih fun hnone => hknown (Or.inl hnone))
  | orElse _ ih =>
    rw [ofNode, mem_keys_append] at hknown ⊢
    exact Or.inr (ih fun hnone => hknown (Or.inr hnone))
  | disjunct hn _ ih =>
    rw [mem_keys_or] at hknown ⊢
    exact ⟨_, hn, ih fun hnone => hknown ⟨_, hn, hnone⟩⟩
  | conjunct hlast _ ih =>
    rw [ofNode_and hlast] at hknown ⊢
    exact ih hknown
  | call ht | name ht | «attribute» ht => simpa [ofNode, known] using ht

/-- All that an expression can be fits something that it can be with stars. -/
lemma exists_fits_of_canBe {unknown : Set Text} {t : Text} (h : n.CanBe unknown t) :
    ∃ key, n.CanBe {unknownPart} key ∧ Fits key t := by
  induction h with
  | text t => exact ⟨t, .text t, .refl t⟩
  | sum _ _ iht ihu =>
    obtain ⟨k, hk, ht⟩ := iht
    obtain ⟨l, hl, hu⟩ := ihu
    exact ⟨k ++ l, .sum hk hl, ht.append hu⟩
  | @formatted parts ts hparts =>
    obtain ⟨stars, hstars, heq⟩ := exists_flatten_eq_template parts
    exact ⟨_, .formatted hstars, heq ▸ fits_template hparts⟩
  | body _ ih =>
    obtain ⟨k, hk, ht⟩ := ih
    exact ⟨k, .body hk, ht⟩
  | orElse _ ih =>
    obtain ⟨k, hk, ht⟩ := ih
    exact ⟨k, .orElse hk, ht⟩
  | disjunct hn _ ih =>
    obtain ⟨k, hk, ht⟩ := ih
    exact ⟨k, .disjunct hn hk, ht⟩
  | conjunct hlast _ ih =>
    obtain ⟨k, hk, ht⟩ := ih
    exact ⟨k, .conjunct hlast hk, ht⟩
  | call _ => exact ⟨_, .call rfl, .unknownPart _⟩
  | name _ => exact ⟨_, .name rfl, .unknownPart _⟩
  | «attribute» _ => exact ⟨_, .attribute rfl, .unknownPart _⟩

/-- If each key of an expression can be told, then all that the expression can be fits a key, and
the keys are just what it can be if a star is put for all that is not known. -/
theorem ofNode_covers (h : none ∉ (ofNode n).keys) :
    (∀ t, n.CanBe Set.univ t → ∃ key, some key ∈ (ofNode n).keys ∧ Fits key t) ∧
      ∀ key, some key ∈ (ofNode n).keys ↔ n.CanBe {unknownPart} key := by
  refine ⟨fun t ht => ?_, fun key => ⟨canBe_of_mem_keys, fun hkey => mem_keys_of_canBe hkey h⟩⟩
  obtain ⟨key, hkey, hfits⟩ := exists_fits_of_canBe ht
  exact ⟨key, mem_keys_of_canBe hkey h, hfits⟩

/-- An argument of several forms: `f'Good {part}, ' + title if named else greet() or 'Hi*'`. -/
def greeting : Node :=
  .choice (.name "named")
    (.sum (.formatted [.text "Good ", .other .field [.name "part"], .text ", "]) (.name "title"))
    (.junction true (.call 1 1 (.name "greet") [] []) (.text "Hi*") [])

theorem ofNode_covers_greeting :
    (ofNode greeting).keys = ([some "Good *, *", some "*", some "Hi*"] : List (Option Text)) ∧
      none ∉ (ofNode greeting).keys ∧
      (greeting.CanBe Set.univ "Good morning, Eve" ∧
        ∃ key, some key ∈ (ofNode greeting).keys ∧ Fits key "Good morning, Eve") ∧
      ∀ key, some key ∈ (ofNode greeting).keys ↔ greeting.CanBe {unknownPart} key := by
  have hknown : none ∉ (ofNode greeting).keys := by decide
  obtain ⟨hfits, hkeys⟩ := ofNode_covers hknown
  have hparts : List.Forall₂ (Node.PartCanBe Set.univ)
      [.text "Good ", .other .field [.name "part"], .text ", "] ["Good ", "morning", ", "] :=
    .cons (.text _) (.cons (.field nofun trivial) (.cons (.text _) .nil))
  have hbe : greeting.CanBe Set.univ "Good morning, Eve" :=
    .body (.sum (.formatted hparts) (.name (t := "Eve") trivial))
  exact ⟨rfl, hknown, ⟨hbe, hfits _ hbe⟩, hkeys⟩

end Keys

end MessageCatalog
