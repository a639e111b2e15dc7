import Mathlib
import MessageCatalog.Regex.Basic

/-!
# What a search finds

A search ends where a match from some place of the text ends first. An expression that begins with
plain letters goes on behind them, and a greedy repetition of any characters goes on to the end of
the line.
-/

namespace MessageCatalog.Regex

variable {r : Regex} {s u : Spot} {t : Text}

/-! ### Searching -/

lemma exists_of_searchFrom {before : Option Char} (h : r.searchFrom before t = some u) :
    ∃ before rest, rest <:+ t ∧ (r.ends ⟨before, rest, []⟩).head? = some u := by
  induction t generalizing before with
  | nil => exact ⟨before, [], List.suffix_rfl, h⟩
  | cons c t ih =>
    rw [searchFrom] at h
    split at h
    · next s hs => exact ⟨before, c :: t, List.suffix_rfl, Option.some.inj h ▸ hs⟩
    · obtain ⟨before', rest, hrest, hends⟩ := ih h
      exact ⟨before', rest, hrest.trans (List.suffix_cons c t), hends⟩

/-- What is found is the preferred match from some place of the text. -/
lemma exists_of_search (h : r.search t = some u) :
    ∃ before rest, rest <:+ t ∧ (r.ends ⟨before, rest, []⟩).head? = some u :=
  exists_of_searchFrom h

/-! ### Plain letters -/

/-- An expression after plain letters. -/
def literal (letters : Text) (r : Regex) : Regex :=
  letters.foldr (fun c r => .seq (.one false [.char c]) r) r

/-- A match goes on behind the plain letters. -/
lemma exists_of_ends_literal {letters : Text} (h : ((literal letters r).ends s).head? = some u) :
    ∃ t : Spot, t.rest <:+ s.rest ∧ t.groups = s.groups ∧ (r.ends t).head? = some u := by
  induction letters generalizing s with
  | nil => exact ⟨s, List.suffix_rfl, rfl, h⟩
  | cons c letters ih =>
    have hends : (literal (c :: letters) r).ends s =
        ((Regex.one false [.char c]).ends s).flatMap (literal letters r).ends := rfl
    rw [hends, ends, Spot.next?] at h
    cases hrest : s.rest with
    | nil => simp [hrest] at h
    | cons d rest =>
      rw [hrest] at h
      dsimp only at h
      split at h
      · rw [List.flatMap_singleton] at h
        obtain ⟨t, ht, hgroups, hends⟩ := ih h
        exact ⟨t, ht.trans (List.suffix_cons d rest), hgroups, hends⟩
      · simp at h

/-! ### Greedy repetitions -/

/-- Any character but a line feed. -/
def anyChar : Regex := .one true [.char '\n']

lemma ends_anyChar {c : Char} {rest : Text} (hrest : s.rest = c :: rest) (hc : c ≠ '\n') :
    anyChar.ends s = [{ s with before := some c, rest }] := by
  simp [anyChar, ends, Spot.next?, hrest, hc]

/-- The preferred end of a greedy repetition is the end of the line. -/
lemma head?_repetitions_anyChar {fuel : Nat} (hfuel : s.rest.length < fuel)
    (hline : '\n' ∉ s.rest) :
    ∃ u, (repetitions anyChar.ends false fuel 0 none s).head? = some u ∧ u.rest = [] ∧
      u.groups = s.groups := by
  induction fuel generalizing s with
  | zero => omega
  | succ fuel ih =>
    cases hrest : s.rest with
    | nil =>
      have hends : anyChar.ends s = [] := by simp [anyChar, ends, Spot.next?, hrest]
      exact ⟨s, by simp [repetitions, hends], hrest, rfl⟩
    | cons c rest =>
      rw [hrest, List.mem_cons, not_or] at hline
      rw [hrest, List.length_cons] at hfuel
      obtain ⟨u, hu, hend, hgroups⟩ :=
        ih (s := { s with before := some c, rest }) (by simpa using hfuel) hline.2
      refine ⟨u, ?_, hend, hgroups⟩
      simp [repetitions, ends_anyChar hrest (Ne.symm hline.1), hrest, hu]

/-- A repetition of at least one time begins with one. -/
lemma repetitions_one (step : Spot → List Spot) (few : Bool) (fuel : Nat) (s : Spot) :
    repetitions step few (fuel + 1) 1 none s =
      (step s).flatMap (repetitions step few fuel 0 none) := by
  rw [repetitions]
  simp

/-- A group around a greedy repetition of at least one character takes the rest of the line. -/
lemma group?_of_ends {number : Nat} (hline : '\n' ∉ s.rest)
    (h : ((Regex.group number (.repeated 1 none false anyChar)).ends s).head? = some u) :
    u.group? number = some s.rest ∧ s.rest ≠ [] := by
  rw [ends, List.head?_map, ends] at h
  obtain ⟨v, hv, rfl⟩ := Option.map_eq_some_iff.mp h
  cases hrest : s.rest with
  | nil =>
    have hends : anyChar.ends s = [] := by simp [anyChar, ends, Spot.next?, hrest]
    simp [repetitions, hends] at hv
  | cons c rest =>
    rw [hrest, List.mem_cons, not_or] at hline
    have hfuel : rest.length < s.rest.length + 1 := by simp [hrest]
    obtain ⟨u, hu, hend, -⟩ := head?_repetitions_anyChar
      (s := { s with before := some c, rest }) hfuel hline.2
    have hends := ends_anyChar hrest (Ne.symm hline.1)
    rw [repetitions_one, hends, List.flatMap_singleton, hu] at hv
    obtain rfl := Option.some.inj hv
    simp [Spot.close, Spot.group?, hend, hrest]

end MessageCatalog.Regex
