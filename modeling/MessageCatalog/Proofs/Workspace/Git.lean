import MessageCatalog.Proofs.Merge.Files
import MessageCatalog.Proofs.Text.Lines
import MessageCatalog.Proofs.Text.Search
import MessageCatalog.Text.Escape

/-!
# What git writes about a file

About a file with changes git writes a line: two columns, and the path of the file. Characters that
ASCII does not print are written as escapes, and the path then stands between quotation marks. A
name that git writes as it is cannot be missed in the line, so that the guard is never passed by
mistake; a name with other letters is not found there, and the file counts as clean.
-/

namespace MessageCatalog

/-! ### The report of git -/

namespace GitReport

/-- Characters that git writes as they are: those that ASCII prints, but no quotation mark and no
backslash. -/
def isPlain (c : Char) : Bool := 0x20 ≤ c.toNat && c.toNat < 0x7f && c != '"' && c != '\\'

/-- The letter behind a backslash for a character that has one. -/
def letter? (c : Char) : Option Char := if c = '\x07' then some 'a' else Text.escapeLetter? c

/-- A byte as three octal digits behind a backslash. -/
def octal (b : UInt8) : Text :=
  '\\' :: [b.toNat / 64, b.toNat / 8 % 8, b.toNat % 8].map fun d => Char.ofNat (0x30 + d)

def spelledChar (c : Char) : Text :=
  if isPlain c then [c]
  else match letter? c with
    | some letter => ['\\', letter]
    | none => (String.utf8EncodeChar c).flatMap octal

/-- A path as git writes it: between quotation marks, unless it has only plain characters and no
blank. -/
def spelled (path : Text) : Text :=
  if path.all fun c => isPlain c && c != ' ' then path
  else '"' :: path.flatMap spelledChar ++ ['"']

/-- The letters for what was done to a file. -/
def columnLetters : List Char := [' ', 'M', 'T', 'A', 'D', 'R', 'C', 'U', '?', '!']

/-- A column for the index and one for the working tree. -/
def IsColumns (columns : Text) : Prop :=
  columns.length = 2 ∧ columns.all columnLetters.contains = true

instance (columns : Text) : Decidable (IsColumns columns) := inferInstanceAs (Decidable (_ ∧ _))

/-- What git writes about one file, whose path begins at the top of the working tree. -/
def line (columns : Text) (path : Location) : Text :=
  columns ++ ' ' :: spelled (Text.join "/" path)

/-! ### Characters of the report -/

/-- Characters that ASCII prints. -/
def IsPrinted (c : Char) : Prop := 0x20 ≤ c.toNat ∧ c.toNat < 0x7f

lemma isPrinted_of_isPlain {c : Char} (h : isPlain c = true) : IsPrinted c := by
  simp only [isPlain, Bool.and_eq_true, decide_eq_true_eq] at h
  exact h.1.1

lemma isPrinted_of_letter? {c letter : Char} (h : letter? c = some letter) : IsPrinted letter := by
  unfold letter? at h
  split at h
  · obtain rfl := Option.some.inj h
    exact ⟨by decide, by decide⟩
  · unfold Text.escapeLetter? at h
    split at h <;> cases h <;> exact ⟨by decide, by decide⟩

lemma isPrinted_of_mem_octal {b : UInt8} {c : Char} (h : c ∈ octal b) : IsPrinted c := by
  have hdigit (d : Nat) (hd : d < 8) : IsPrinted (Char.ofNat (0x30 + d)) := by
    have hall : ∀ d < 8, 0x20 ≤ (Char.ofNat (0x30 + d)).toNat ∧
        (Char.ofNat (0x30 + d)).toNat < 0x7f := by decide
    exact hall d hd
  have hb : b.toNat < 256 := b.toNat_lt
  simp only [octal, List.map_cons, List.map_nil, List.mem_cons, List.not_mem_nil, or_false] at h
  rcases h with rfl | rfl | rfl | rfl
  · exact ⟨by decide, by decide⟩
  · exact hdigit _ (by omega)
  · exact hdigit _ (by omega)
  · exact hdigit _ (by omega)

lemma isPrinted_of_mem_spelledChar {c d : Char} (h : d ∈ spelledChar c) : IsPrinted d := by
  unfold spelledChar at h
  split at h
  · next hplain =>
    rw [List.mem_singleton.mp h]
    exact isPrinted_of_isPlain hplain
  · split at h
    · next letter hletter =>
      rcases List.mem_cons.mp h with rfl | h
      · exact ⟨by decide, by decide⟩
      · rw [List.mem_singleton.mp h]
        exact isPrinted_of_letter? hletter
    · obtain ⟨b, -, h⟩ := List.mem_flatMap.mp h
      exact isPrinted_of_mem_octal h

lemma isPrinted_of_mem_spelled {path : Text} {c : Char} (h : c ∈ spelled path) : IsPrinted c := by
  unfold spelled at h
  split at h
  · next hplain =>
    have hc := List.all_eq_true.mp hplain c h
    exact isPrinted_of_isPlain (Bool.and_eq_true_iff.mp hc).1
  · rcases List.mem_append.mp h with h | h
    · rcases List.mem_cons.mp h with rfl | h
      · exact ⟨by decide, by decide⟩
      · obtain ⟨d, -, h⟩ := List.mem_flatMap.mp h
        exact isPrinted_of_mem_spelledChar h
    · rw [List.mem_singleton.mp h]
      exact ⟨by decide, by decide⟩

variable {columns name stderr : Text} {dirs : Location}

lemma isPrinted_of_mem_line (hcolumns : IsColumns columns) {path : Location} {c : Char}
    (h : c ∈ line columns path) : IsPrinted c := by
  rcases List.mem_append.mp h with h | h
  · have hall : columnLetters.all (fun d => 0x20 ≤ d.toNat && d.toNat < 0x7f) = true := by decide
    have hc := List.all_eq_true.mp hcolumns.2 c h
    simpa [IsPrinted] using List.all_eq_true.mp hall c (List.contains_iff_mem.mp hc)
  · rcases List.mem_cons.mp h with rfl | h
    · exact ⟨by decide, by decide⟩
    · exact isPrinted_of_mem_spelled h

/-! ### Finding the file -/

lemma flatMap_spelledChar {t : Text} (h : t.all isPlain = true) : t.flatMap spelledChar = t := by
  induction t with
  | nil => rfl
  | cons c t ih =>
    obtain ⟨hc, ht⟩ := Bool.and_eq_true_iff.mp h
    rw [List.flatMap_cons, spelledChar, if_pos hc, ih ht]
    rfl

/-- The last component stands at the end of a path. -/
lemma suffix_join (dirs : Location) (name : Text) : name <:+ Text.join "/" (dirs ++ [name]) := by
  induction dirs with
  | nil => simp
  | cons dir dirs ih =>
    cases dirs with
    | nil =>
      rw [List.singleton_append, Text.join_cons_cons, Text.join_singleton]
      exact List.suffix_append _ _
    | cons dir' dirs =>
      rw [List.cons_append, List.cons_append, Text.join_cons_cons]
      exact ih.trans (List.suffix_append _ _)

/-- A name of plain characters can be read in the line about the file, whatever the directories
on the way to it are called. -/
lemma isInfix_line (hname : name.all isPlain = true) (columns : Text) (dirs : Location) :
    name <:+: line columns (dirs ++ [name]) := by
  obtain ⟨front, hfront⟩ := suffix_join dirs name
  have hspelled : name <:+: spelled (Text.join "/" (dirs ++ [name])) := by
    unfold spelled
    rw [← hfront]
    split
    · exact (List.suffix_append front name).isInfix
    · rw [List.flatMap_append, flatMap_spelledChar hname, ← List.cons_append]
      exact List.infix_append _ _ _
  exact hspelled.trans ((List.suffix_cons _ _).trans (List.suffix_append _ _)).isInfix

lemma splitOn_line (hcolumns : IsColumns columns) (path : Location) :
    Text.splitOn '\n' (line columns path ++ ['\n']) = [line columns path, []] := by
  have hline : '\n' ∉ line columns path := fun h =>
    absurd (isPrinted_of_mem_line hcolumns h).1 (by decide)
  rw [Text.splitOn_append_sep hline]
  rfl

/-- The answer about a file whose name git writes as it is: what the columns stand for. -/
lemma ofAnswer_line (hname : name.all isPlain = true) (hcolumns : IsColumns columns)
    (dirs : Location) (stderr : Text) :
    FileStatus.ofAnswer name (.finished (line columns (dirs ++ [name]) ++ ['\n']) 0 stderr) =
      .ok (FileStatus.ofColumns columns) := by
  have hsigma : Char.ofNat 0x3a3 ∉ name := fun h =>
    absurd (List.all_eq_true.mp hname _ h) (by decide)
  have hfound : Text.contains (Text.lower name) (Text.lower (line columns (dirs ++ [name]))) =
      true :=
    Text.contains_iff_isInfix.mpr (Text.lower_isInfix hsigma (isInfix_line hname columns dirs))
  have htake : (line columns (dirs ++ [name])).take 2 = columns := by
    rw [line, ← hcolumns.1, List.take_left]
  rw [FileStatus.ofAnswer, if_pos rfl, splitOn_line hcolumns, FileStatus.ofLines]
  simp only [List.find?_cons, hfound, htake]

/-- A name with a letter outside ASCII is not found in the line about the file. -/
lemma ofAnswer_line_of_not_ascii (hname : ∃ c ∈ Text.lower name, 0x80 ≤ c.toNat)
    (hcolumns : IsColumns columns) (path : Location) (stderr : Text) :
    FileStatus.ofAnswer name (.finished (line columns path ++ ['\n']) 0 stderr) = .ok .clean := by
  obtain ⟨c, hc, hascii⟩ := hname
  have hmissed {t : Text} (ht : ∀ d ∈ t, IsPrinted d) :
      Text.contains (Text.lower name) (Text.lower t) = false := by
    rw [← Bool.not_eq_true]
    intro h
    have hmem := (Text.contains_iff_isInfix.mp h).subset hc
    have hlt := Text.toNat_lt_of_mem_lower (fun d hd => (ht d hd).2.trans (by decide)) c hmem
    exact absurd hascii (Nat.not_le_of_lt hlt)
  have hline : Text.contains (Text.lower name) (Text.lower (line columns path)) = false :=
    hmissed fun d hd => isPrinted_of_mem_line hcolumns hd
  have hrest := hmissed (t := []) (by simp)
  rw [FileStatus.ofAnswer, if_pos rfl, splitOn_line hcolumns, FileStatus.ofLines]
  simp only [List.find?_cons, hline, hrest, List.find?_nil]

end GitReport

/-! ### What columns stand for -/

namespace FileStatus

variable {columns : Text}

lemma ofColumns_ne_clean : ofColumns columns ≠ .clean := by
  unfold ofColumns
  split_ifs <;> exact FileStatus.noConfusion

lemma eq_of_ofColumns_eq_staged (h : ofColumns columns = .staged) : columns = "M ".toList := by
  unfold ofColumns at h
  split_ifs at h with _ hstaged
  exact hstaged

lemma eq_of_ofColumns_eq_added (h : ofColumns columns = .added) : columns = "A ".toList := by
  unfold ofColumns at h
  split_ifs at h with _ _ hadded
  exact hadded

lemma isSafe_ofColumns (hstaged : columns ≠ "M ".toList) (hadded : columns ≠ "A ".toList) :
    (ofColumns columns).isSafe = false := by
  unfold ofColumns
  rw [if_neg hstaged, if_neg hadded]
  split <;> rfl

end FileStatus

namespace Merger

variable {m : Merger} {loc : Location} {s : Session}

/-- The guard refuses a file in a state that is not safe, and changes nothing. -/
lemma exists_outcome_guard_error {status : FileStatus} (hcheck : m.options.gitCheck.truthy = true)
    (hstatus : FileStatus.ofAnswer (loc.getLast?.getD []) (s.git loc) = .ok status)
    (hdirty : status.isSafe = false) :
    ∃ f t, (m.guard loc).outcome s = (.error f, t) ∧ t.tree = s.tree ∧
      (Options.IsLevel m.options.verbose →
        f = .unsavedChanges status.name (m.nameOf s.current loc)) := by
  cases hguard : (m.guard loc).outcome s with
  | mk r t =>
    have htree := ((isQuiet_guard m loc).heard hguard).tree_eq
    cases r with
    | ok _ =>
      obtain ⟨-, status', hstatus', hsafe⟩ := isSafe_of_guard hcheck hguard
      obtain rfl : status = status' := Except.ok.inj (hstatus.symm.trans hstatus')
      exact absurd hsafe (by rw [hdirty]; exact Bool.false_ne_true)
    | error f =>
      refine ⟨f, t, rfl, htree, fun hverbose => ?_⟩
      obtain ⟨u, hu⟩ := Action.exists_outcome_detail hverbose 1
        ("gitCheck=" ++ m.options.gitCheck.display ++ ' ' :: m.nameOf s.current loc) s
      have hgit : u.git = s.git := ((Action.isQuiet_detail _ _ _).heard hu).git_eq
      rw [guard, Action.outcome_bind_ok (Action.outcome_get s)] at hguard
      dsimp only at hguard
      rw [Action.outcome_bind_ok hu, if_pos hcheck, Action.outcome_bind, Action.outcome_tryCatch,
        Action.outcome_status, hgit, hstatus] at hguard
      simpa [hdirty, Action.outcome_bind, eq_comm] using congrArg Prod.fst hguard

/-- Git writes a line about a file. If it writes the name as it is, the answer is not that the file
is clean, it is staged or added only where the columns say so, and for all other columns the guard
refuses the file. If the name has a letter outside ASCII, git escapes it and the answer is always
that the file is clean. -/
theorem guard_reported (m : Merger) (s : Session) {top dirs : Location}
    {name columns stderr : Text} (hcolumns : GitReport.IsColumns columns)
    (hreport : s.git (top ++ dirs ++ [name]) =
      .finished (GitReport.line columns (dirs ++ [name]) ++ ['\n']) 0 stderr) :
    (name.all GitReport.isPlain = true →
      ∃ status, FileStatus.ofAnswer name (s.git (top ++ dirs ++ [name])) = .ok status ∧
        status ≠ .clean ∧ (status = .staged → columns = "M ".toList) ∧
        (status = .added → columns = "A ".toList) ∧
        (m.options.gitCheck.truthy = true → columns ≠ "M ".toList → columns ≠ "A ".toList →
          ∃ f t, (m.guard (top ++ dirs ++ [name])).outcome s = (.error f, t) ∧ t.tree = s.tree ∧
            (Options.IsLevel m.options.verbose → f = .unsavedChanges status.name
              (m.nameOf s.current (top ++ dirs ++ [name]))))) ∧
    ((∃ c ∈ Text.lower name, 0x80 ≤ c.toNat) →
      FileStatus.ofAnswer name (s.git (top ++ dirs ++ [name])) = .ok .clean) := by
  rw [hreport]
  constructor
  · intro hname
    have hstatus := GitReport.ofAnswer_line hname hcolumns dirs stderr
    refine ⟨FileStatus.ofColumns columns, hstatus, FileStatus.ofColumns_ne_clean,
      FileStatus.eq_of_ofColumns_eq_staged, FileStatus.eq_of_ofColumns_eq_added, ?_⟩
    intro hcheck hstaged hadded
    refine exists_outcome_guard_error hcheck ?_ (FileStatus.isSafe_ofColumns hstaged hadded)
    rw [List.getLast?_concat, Option.getD_some, hreport]
    exact hstatus
  · intro hname
    exact GitReport.ofAnswer_line_of_not_ascii hname hcolumns (dirs ++ [name]) stderr

/-- A catalog file with changes, below a directory whose name git escapes. -/
def annex : Session where
  current := [['w']]
  git _ := .finished (GitReport.line "MM" ["größe", "De 1.po"] ++ ['\n']) 0 []

theorem guard_reported_annex :
    GitReport.IsColumns "MM" ∧
      ∃ t, (guard ⟨.default { current := [['w']] }⟩ [['w'], "größe", "De 1.po"]).outcome annex =
        (.error (.unsavedChanges "modified" "größe/De 1.po"), t) ∧ t.tree = annex.tree := by
  have hcolumns : GitReport.IsColumns "MM" := by decide
  have hreport : annex.git ([['w']] ++ [("größe" : Text)] ++ [("De 1.po" : Text)]) =
      .finished (GitReport.line "MM" ([("größe" : Text)] ++ [("De 1.po" : Text)]) ++ ['\n']) 0 [] :=
    rfl
  obtain ⟨status, hstatus, -, -, -, hguard⟩ :=
    (guard_reported ⟨.default { current := [['w']] }⟩ annex hcolumns hreport).1 (by decide +kernel)
  have hmodified : FileStatus.ofAnswer "De 1.po" (annex.git [['w'], "größe", "De 1.po"]) =
      .ok .modified := GitReport.ofAnswer_line (by decide +kernel) hcolumns [("größe" : Text)] []
  obtain rfl : FileStatus.modified = status := Except.ok.inj (hmodified.symm.trans hstatus)
  obtain ⟨f, t, hrun, htree, hf⟩ := hguard rfl (by decide) (by decide)
  obtain rfl := hf rfl
  exact ⟨hcolumns, t, hrun, htree⟩

end Merger

end MessageCatalog
