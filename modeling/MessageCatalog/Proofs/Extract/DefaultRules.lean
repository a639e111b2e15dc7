import MessageCatalog.Proofs.Extract.Comments
import MessageCatalog.Proofs.Regex

/-!
# The default meaning of comments

By default a comment declares the rest of its line as a key. Comments are trimmed, so the rest of
a line is never empty, and a file that can be parsed shows keys that are not empty.
-/

namespace MessageCatalog

open Regex (literal anyChar exists_of_search exists_of_ends_literal)
open Source (Comment)

namespace CommentRules

variable {rules : CommentRules} {c : Comment}

/-- A group behind plain letters takes part in every match. -/
lemma hasKeyGroup_of_literal {letters : Text} {r : Regex}
    (h : rules.key = some (literal letters (.group 1 r))) : rules.HasKeyGroup := by
  intro r' hr t s hs
  obtain rfl := Option.some.inj (h.symm.trans hr)
  obtain ⟨_, _, -, hends⟩ := exists_of_search hs
  obtain ⟨u, -, -, hends⟩ := exists_of_ends_literal hends
  rw [Regex.ends, List.head?_map] at hends
  obtain ⟨v, -, rfl⟩ := Option.map_eq_some_iff.mp hends
  simp [Regex.Spot.close, Regex.Spot.group?]

/-- The expression that declares keys by default. -/
def defaultKey : Regex := literal "i18n-extract " (.group 1 (.repeated 1 none false anyChar))

/-- The default meaning of comments. -/
def byDefault : CommentRules := ⟨true, some defaultKey, Regex.ofText? "i18n-ignore-line"⟩

lemma ofOptions_default : ofOptions {} = .ok byDefault := rfl

lemma key_of_ofOptions (h : ofOptions {} = .ok rules) : rules.key = some defaultKey := by
  rw [ofOptions_default] at h
  obtain rfl := Except.ok.inj h
  rfl

/-- A key that is declared by default is not empty. -/
lemma ne_nil_of_declaredKey? (hkey : rules.key = some defaultKey)
    (hc : Text.trim c.text = c.text ∧ '\n' ∉ c.text) {key : Text}
    (h : rules.declaredKey? c = some key) : key ≠ [] := by
  obtain ⟨r, s, t, hr, hs, hgroup, rfl⟩ := declaredKey?_eq_some_iff.mp h
  obtain rfl := Option.some.inj (hkey.symm.trans hr)
  obtain ⟨before, rest, hrest, hends⟩ := exists_of_search hs
  obtain ⟨u, hu, -, hends⟩ := exists_of_ends_literal hends
  have hsuffix : u.rest <:+ c.text := hu.trans hrest
  have hline : '\n' ∉ u.rest := fun hmem => hc.2 (hsuffix.subset hmem)
  obtain ⟨hrest, hne⟩ := Regex.group?_of_ends hline hends
  obtain rfl := Option.some.inj (hgroup.symm.trans hrest)
  intro hblank
  -- the last character of a trimmed text is not blank
  have hlast := (Text.noTrailingBlank_of_trim hc.1).suffix hsuffix
  rw [← Text.trimLeft_trimRight, Text.trimRight_eq_self hlast, Text.trimLeft,
    List.dropWhile_eq_nil_iff] at hblank
  have hfalse := hlast _ (List.getLast_mem_getLast? hne)
  rw [hblank _ (List.getLast_mem hne)] at hfalse
  cases hfalse

end CommentRules

/-- No comment makes noting the comments of a file fail. -/
lemma CommentNotes.exists_ofComments {rules : CommentRules}
    (hkey : rules.key = some CommentRules.defaultKey) {cs : List Comment}
    (hcs : ∀ c ∈ cs, Text.trim c.text = c.text ∧ '\n' ∉ c.text) :
    ∃ m, ofComments rules cs = .ok m ∧ ∀ o ∈ m.declared, o.key ≠ [] := by
  obtain ⟨m, hm⟩ :=
    exists_ofComments_of_hasKeyGroup (CommentRules.hasKeyGroup_of_literal hkey) cs
  refine ⟨m, hm, fun o ho => ?_⟩
  have hmem : (o.key, o.line) ∈ cs.filterMap fun c => (rules.declaredKey? c).map (·, c.line) :=
    (isNoted_ofComments hm).keys ▸ List.mem_map_of_mem ho
  obtain ⟨c, hc, hdeclared⟩ := List.mem_filterMap.mp hmem
  obtain ⟨key, hdeclared, hpair⟩ := Option.map_eq_some_iff.mp hdeclared
  obtain ⟨rfl, -⟩ := Prod.mk.inj hpair
  exact CommentRules.ne_nil_of_declaredKey? hkey (hcs c hc) hdeclared

namespace Findings

variable {o : ExtractOptions} {rules : CommentRules}

/-- No key that has been found is empty. -/
def HasKeys (f : Findings) : Prop := ∀ a ∈ f.occurrences, a.key ≠ []

/-- The keys of a call are not empty. -/
lemma HasKeys.addCall {state : Findings × CommentNotes} (h : HasKeys state.1) (c : Call) :
    HasKeys (addCall o state c).1 := by
  have husable (ks : List (Option Text)) : ∀ key ∈ usable ks, key ≠ [] := by
    intro key hkey
    obtain ⟨k, -, hk⟩ := List.mem_filterMap.mp hkey
    split at hk
    · exact Option.some.inj hk ▸ List.cons_ne_nil _ _
    · cases hk
  unfold Findings.addCall
  dsimp only
  split
  · refine List.foldlRecOn (motive := fun state : Findings × CommentNotes => HasKeys state.1)
      _ _ h ?_
    intro state hstate key hkey a ha
    rcases List.mem_append.mp ha with ha | ha
    · exact hstate a ha
    · obtain rfl := List.mem_singleton.mp ha
      exact husable _ key hkey
  · exact h

/-- A file that can be parsed shows its keys, and none of them is empty. -/
theorem exists_ofText (hkey : rules.key = some CommentRules.defaultKey) {t : Text}
    (h : (Source.Module.ofText t).isSome = true) :
    ∃ found, ofText o rules t = .ok found ∧ found.HasKeys := by
  obtain ⟨m, hm⟩ := Option.isSome_iff_exists.mp h
  obtain ⟨notes, hnotes, hdeclared⟩ :=
    CommentNotes.exists_ofComments hkey fun c hc => Source.Module.trim_comment hm hc
  have hstart : HasKeys ⟨notes.declared, []⟩ := hdeclared
  refine ⟨((Call.inNode m.tree).foldl (Findings.addCall o) (⟨notes.declared, []⟩, notes)).1, ?_,
    ?_⟩
  · exact ofText_eq_ok_iff.mpr ⟨m, hm, ofModule_eq_ok_iff.mpr ⟨notes, hnotes, rfl⟩⟩
  · exact List.foldlRecOn (motive := fun state : Findings × CommentNotes => HasKeys state.1) _ _
      hstart fun _ hstate c _ => hstate.addCall c

end Findings

end MessageCatalog
