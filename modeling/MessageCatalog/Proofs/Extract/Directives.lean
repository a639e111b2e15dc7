import MessageCatalog.Extract.Occurrences
import MessageCatalog.Proofs.Failure

/-!
# Comments that are directives

A comment that declares a key, or that has calls ignored, is a directive. Noting the comments of a
file declares the keys of the one kind, in the order of the comments, and collects the lines of the
other.
-/

namespace MessageCatalog

open Failure (bind_eq_ok_iff pure_eq_ok_iff)
open Source (Comment)

namespace CommentRules

variable {rules : CommentRules} {c : Comment}

/-- Whether a comment declares a key. -/
def declares (rules : CommentRules) (c : Comment) : Bool := rules.key.any fun r => r.occursIn c.text

/-- Whether a comment has the calls that end on its line ignored. -/
def ignores (rules : CommentRules) (c : Comment) : Bool :=
  rules.ignore.any fun r => r.occursIn c.text

def isDirective (rules : CommentRules) (c : Comment) : Bool := rules.declares c || rules.ignores c

/-- The key that a comment declares: what the first group of the expression has matched, without
the blanks around it. -/
def declaredKey? (rules : CommentRules) (c : Comment) : Option Text := do
  let s ← (← rules.key).search c.text
  return (← s.group? 1).trim

/-- The first group of the expression for keys takes part in every match. -/
def HasKeyGroup (rules : CommentRules) : Prop :=
  ∀ r, rules.key = some r → ∀ t s, r.search t = some s → (s.group? 1).isSome = true

/-- A line holds a comment that has calls ignored. -/
def IgnoresLine (rules : CommentRules) (cs : List Comment) (line : Nat) : Prop :=
  ∃ c ∈ cs, c.line = line ∧ rules.ignores c = true

lemma declares_iff : rules.declares c = true ↔
    ∃ r s, rules.key = some r ∧ r.search c.text = some s := by
  rw [declares]
  cases rules.key with
  | none => simp
  | some r => simp [Regex.occursIn, Option.isSome_iff_exists]

lemma declaredKey?_eq_some_iff {key : Text} : rules.declaredKey? c = some key ↔
    ∃ r s t, rules.key = some r ∧ r.search c.text = some s ∧ s.group? 1 = some t ∧
      t.trim = key := by
  simp [declaredKey?, Option.bind_eq_some_iff]

lemma declaredKey?_eq_none (h : rules.declares c = false) : rules.declaredKey? c = none := by
  rw [Option.eq_none_iff_forall_ne_some]
  intro key hkey
  obtain ⟨r, s, -, hr, hs, -⟩ := declaredKey?_eq_some_iff.mp hkey
  rw [declares_iff.mpr ⟨r, s, hr, hs⟩] at h
  cases h

/-- A comment that declares a key tells it, if the group is never left out. -/
lemma isSome_declaredKey? (h : rules.HasKeyGroup) (c : Comment) :
    (rules.declaredKey? c).isSome = rules.declares c := by
  cases hdeclares : rules.declares c with
  | false => rw [declaredKey?_eq_none hdeclares, Option.isSome_none]
  | true =>
    obtain ⟨r, s, hr, hs⟩ := declares_iff.mp hdeclares
    obtain ⟨t, ht⟩ := Option.isSome_iff_exists.mp (h r hr _ s hs)
    rw [declaredKey?_eq_some_iff.mpr ⟨r, s, t, hr, hs, ht, rfl⟩, Option.isSome_some]

end CommentRules

namespace CommentNotes

variable {rules : CommentRules} {n m : CommentNotes} {c : Comment} {cs : List Comment}

/-! ### One comment -/

lemma mem_kept_drop {line : Nat} : c ∈ (n.drop line).kept ↔ c ∈ n.kept ∧ c.line ≠ line := by
  simp [drop]

lemma keyOf_eq_ok_iff {r : Regex} {s : Regex.Spot} {key : Text} :
    keyOf r s = .ok key ↔ ∃ t, s.group? 1 = some t ∧ t.trim = key := by
  unfold keyOf
  cases s.group? 1 with
  | none => simp only [reduceCtorEq, false_and, exists_false, iff_false]; split <;> simp
  | some t => simp

/-- What declaring the key of a comment does. -/
lemma declare_cases (h : n.declare rules c = .ok m) :
    rules.declares c = false ∧ m = n ∨
      ∃ key, rules.declares c = true ∧ rules.declaredKey? c = some key ∧
        m = { (n.drop (c.line - 1)).drop c.line with
          declared := n.declared ++ [⟨key, c.line, n.at? (c.line - 1)⟩] } := by
  unfold declare at h
  split at h
  · next hkey => exact Or.inl ⟨by simp [CommentRules.declares, hkey], (Except.ok.inj h).symm⟩
  · next r hkey =>
    split at h
    · next hsearch =>
      refine Or.inl ⟨?_, (Except.ok.inj h).symm⟩
      simp [CommentRules.declares, hkey, Regex.occursIn, hsearch]
    · next s hsearch =>
      obtain ⟨key, hkeyOf, h⟩ := bind_eq_ok_iff.mp h
      obtain ⟨t, ht, rfl⟩ := keyOf_eq_ok_iff.mp hkeyOf
      refine Or.inr ⟨_, CommentRules.declares_iff.mpr ⟨r, s, hkey, hsearch⟩, ?_,
        (pure_eq_ok_iff.mp h).symm⟩
      exact CommentRules.declaredKey?_eq_some_iff.mpr ⟨r, s, t, hkey, hsearch, ht, rfl⟩

/-- The notes with a comment kept, if comments are kept at all. -/
def keepBy (rules : CommentRules) (n : CommentNotes) (c : Comment) : CommentNotes :=
  if rules.keep then n.keep c else n

lemma declared_keepBy (n : CommentNotes) (c : Comment) :
    (n.keepBy rules c).declared = n.declared := by
  unfold keepBy
  split <;> rfl

lemma ignored_keepBy (n : CommentNotes) (c : Comment) :
    (n.keepBy rules c).ignored = n.ignored := by
  unfold keepBy
  split <;> rfl

lemma mem_kept_keepBy {d : Comment} :
    d ∈ (n.keepBy rules c).kept ↔ d ∈ n.kept ∨ rules.keep = true ∧ d = c := by
  unfold keepBy
  split
  · next h => simp [keep, h, or_comm]
  · next h => simp [h]

/-- What adding a comment does: the key it declares comes last and takes the comment on the line
before with it, and the comment itself stays for calls unless it is a directive. -/
structure IsAdded (rules : CommentRules) (n : CommentNotes) (c : Comment) (m : CommentNotes) :
    Prop where
  declared : rules.declares c = false ∧ m.declared = n.declared ∨
    ∃ key, rules.declares c = true ∧ rules.declaredKey? c = some key ∧
      m.declared = n.declared ++ [⟨key, c.line, (n.keepBy rules c).at? (c.line - 1)⟩]
  kept : ∀ d, d ∈ m.kept ↔ (d ∈ n.kept ∨ rules.keep = true ∧ d = c) ∧
    (rules.declares c = true → d.line ≠ c.line - 1 ∧ d.line ≠ c.line) ∧
    (rules.ignores c = true → d.line ≠ c.line)
  ignored : ∀ line, line ∈ m.ignored ↔ line ∈ n.ignored ∨ rules.ignores c = true ∧ line = c.line

lemma isAdded_of_add (h : n.add rules c = .ok m) : IsAdded rules n c m := by
  obtain ⟨k, hk, h⟩ := bind_eq_ok_iff.mp h
  have hdeclared : rules.declares c = false ∧ k.declared = n.declared ∨
      ∃ key, rules.declares c = true ∧ rules.declaredKey? c = some key ∧
        k.declared = n.declared ++ [⟨key, c.line, (n.keepBy rules c).at? (c.line - 1)⟩] := by
    rw [← declared_keepBy n c]
    rcases declare_cases hk with ⟨hnot, rfl⟩ | ⟨key, hdeclares, hkey, rfl⟩
    · exact Or.inl ⟨hnot, rfl⟩
    · exact Or.inr ⟨key, hdeclares, hkey, rfl⟩
  have hkept (d : Comment) : d ∈ k.kept ↔ (d ∈ n.kept ∨ rules.keep = true ∧ d = c) ∧
      (rules.declares c = true → d.line ≠ c.line - 1 ∧ d.line ≠ c.line) := by
    rw [← mem_kept_keepBy]
    rcases declare_cases hk with ⟨hnot, rfl⟩ | ⟨key, hdeclares, hkey, rfl⟩
    · simp [hnot, keepBy]
    · simp [hdeclares, mem_kept_drop, keepBy, and_assoc]
  have hignored : k.ignored = n.ignored := by
    rw [← ignored_keepBy n c]
    rcases declare_cases hk with ⟨-, rfl⟩ | ⟨key, -, -, rfl⟩ <;> rfl
  split at h
  · next hignores =>
    obtain rfl := pure_eq_ok_iff.mp h
    have hignores : rules.ignores c = true := hignores
    refine ⟨hdeclared, fun d => ?_, fun line => ?_⟩
    · rw [show d ∈ ({ k.drop c.line with ignored := c.line :: k.ignored } : CommentNotes).kept ↔
        d ∈ (k.drop c.line).kept from Iff.rfl, mem_kept_drop, hkept]
      simp [hignores, and_assoc]
    · simp [hignores, hignored, or_comm]
  · next hignores =>
    obtain rfl := pure_eq_ok_iff.mp h
    have hignores : ¬rules.ignores c = true := hignores
    refine ⟨hdeclared, fun d => ?_, fun line => ?_⟩
    · rw [hkept]
      simp [hignores]
    · simp [hignores, hignored]

lemma exists_declare (h : rules.HasKeyGroup) (n : CommentNotes) (c : Comment) :
    ∃ m, n.declare rules c = .ok m := by
  unfold declare
  split
  · exact ⟨_, rfl⟩
  · next r hkey =>
    split
    · exact ⟨_, rfl⟩
    · next s hsearch =>
      obtain ⟨t, ht⟩ := Option.isSome_iff_exists.mp (h r hkey _ s hsearch)
      exact ⟨_, bind_eq_ok_iff.mpr ⟨_, keyOf_eq_ok_iff.mpr ⟨t, ht, rfl⟩, rfl⟩⟩

lemma exists_add_of_hasKeyGroup (h : rules.HasKeyGroup) (n : CommentNotes) (c : Comment) :
    ∃ m, n.add rules c = .ok m := by
  obtain ⟨k, hk⟩ := exists_declare h (n.keepBy rules c) c
  by_cases hignores : rules.ignores c = true
  · exact ⟨_, bind_eq_ok_iff.mpr ⟨k, hk, if_pos hignores⟩⟩
  · exact ⟨_, bind_eq_ok_iff.mpr ⟨k, hk, if_neg hignores⟩⟩

/-! ### All comments -/

lemma ofComments_concat (rules : CommentRules) (cs : List Comment) (c : Comment) :
    ofComments rules (cs ++ [c]) = ofComments rules cs >>= fun n => n.add rules c := by
  rw [ofComments, List.foldlM_append]
  simp [ofComments]

/-- The comments of a file can be noted if every key that is declared can be told. -/
lemma exists_ofComments_of_hasKeyGroup (h : rules.HasKeyGroup) (cs : List Comment) :
    ∃ n, ofComments rules cs = .ok n := by
  induction cs using List.reverseRecOn with
  | nil => exact ⟨{}, rfl⟩
  | append_singleton cs c ih =>
    obtain ⟨n, hn⟩ := ih
    obtain ⟨m, hm⟩ := exists_add_of_hasKeyGroup h n c
    exact ⟨m, ofComments_concat rules cs c ▸ bind_eq_ok_iff.mpr ⟨n, hn, hm⟩⟩

/-- The keys that comments have declared, in their order, and the lines that are ignored. -/
structure IsNoted (rules : CommentRules) (cs : List Comment) (n : CommentNotes) : Prop where
  keys : n.declared.map (fun o => (o.key, o.line)) =
    cs.filterMap fun c => (rules.declaredKey? c).map (·, c.line)
  lines : n.declared.map (·.line) = (cs.filter rules.declares).map (·.line)
  ignored : ∀ line, line ∈ n.ignored ↔ rules.IgnoresLine cs line

lemma IsNoted.add (h : IsNoted rules cs n) (hadd : IsAdded rules n c m) :
    IsNoted rules (cs ++ [c]) m where
  keys := by
    rw [List.filterMap_append, ← h.keys]
    rcases hadd.declared with ⟨hnot, hm⟩ | ⟨key, -, hkey, hm⟩
    · simp [hm, CommentRules.declaredKey?_eq_none hnot]
    · simp [hm, hkey]
  lines := by
    rw [List.filter_append, List.map_append, ← h.lines]
    rcases hadd.declared with ⟨hnot, hm⟩ | ⟨key, hdeclares, -, hm⟩
    · simp [hm, hnot]
    · simp [hm, hdeclares]
  ignored line := by
    rw [hadd.ignored, h.ignored]
    simp only [CommentRules.IgnoresLine, List.mem_append, List.mem_singleton]
    grind

lemma isNoted_ofComments (h : ofComments rules cs = .ok n) : IsNoted rules cs n := by
  induction cs using List.reverseRecOn generalizing n with
  | nil =>
    obtain rfl := pure_eq_ok_iff.mp h
    exact ⟨rfl, rfl, by simp [CommentRules.IgnoresLine]⟩
  | append_singleton cs c ih =>
    rw [ofComments_concat] at h
    obtain ⟨k, hk, h⟩ := bind_eq_ok_iff.mp h
    exact (ih hk).add (isAdded_of_add h)

end CommentNotes

end MessageCatalog
