import MessageCatalog.Proofs.Reference.Line
import MessageCatalog.Proofs.Workspace.Path

/-!
# Relative paths as texts

The path of a file relative to a base directory, read again and taken from that directory, is the
file. So the text of such a path tells the file, also where the number of a line comes after it.
-/

namespace MessageCatalog

namespace Location

variable {base file : Location}

lemma follow_append (loc : Location) (parts more : List Text) :
    loc.follow (parts ++ more) = (loc.follow parts).follow more :=
  List.foldl_append

/-- Going along a path seen from another one is going along both. -/
lemma resolve_append (current : Location) (p q : Path) :
    current.resolve (p.append q) = (current.resolve p).resolve q := by
  by_cases hq : q.isAbsolute = true
  · rw [Path.append, if_pos hq, resolve, resolve, if_pos hq, if_pos hq]
  · rw [Path.append, if_neg hq]
    conv_rhs => rw [resolve, if_neg hq]
    by_cases hp : p.isAbsolute = true
    · have hroot : (Path.mk p.root (p.parts ++ q.parts)).isAbsolute = true := hp
      rw [resolve, resolve, if_pos hp, if_pos hroot, follow_append]
    · have hroot : ¬(Path.mk p.root (p.parts ++ q.parts)).isAbsolute = true := hp
      rw [resolve, resolve, if_neg hp, if_neg hroot, follow_append]

/-- The name of a location leads to it from everywhere. -/
lemma IsProper.resolve_toText (h : file.IsProper) (current : Location) :
    current.resolve (Path.ofText file.toText) = file := by
  rw [Path.ofText_toText_location h]
  exact follow_of_isNormal h.1 []

/-- The steps to a file go up just when it is not below the directory. -/
lemma IsNormal.up_mem_stepsTo_iff (h : file.IsNormal) :
    ['.', '.'] ∈ stepsTo base file ↔ ¬base <+: file := by
  constructor
  · rintro hup ⟨way, rfl⟩
    rw [stepsTo_append] at hup
    exact h (List.mem_append_right base hup)
  · intro hnot
    induction base, file using stepsTo.induct with
    | case1 base a file ih =>
      rw [stepsTo, if_pos rfl]
      refine ih (fun hmem => h (List.mem_cons_of_mem a hmem)) ?_
      rwa [← List.prefix_cons_inj a]
    | case2 a base b file hne =>
      rw [stepsTo, if_neg hne, List.replicate_succ]
      exact List.mem_append_left _ List.mem_cons_self
    | case3 base file hshort =>
      cases base with
      | nil => exact absurd List.nil_prefix hnot
      | cons a base =>
        rw [stepsTo.eq_2 _ _ hshort, List.length_cons, List.replicate_succ]
        exact List.mem_append_left _ List.mem_cons_self

end Location

namespace Path

open Location

variable {base file : Location}

/-- The text of the path of a file relative to a directory, both of which are given by name. -/
def relativeName (current base file : Location) : Text :=
  relativeText current (ofText base.toText) (ofText file.toText)

lemma relativeName_eq (current : Location) (hbase : base.IsProper) (hfile : file.IsProper) :
    relativeName current base file = (file.relativeTo base).toText := by
  have habsolute : (ofText file.toText).isAbsolute = true := by
    rw [ofText_toText_location hfile]
    rfl
  rw [relativeName, relativeText, if_pos habsolute, hbase.resolve_toText, hfile.resolve_toText]

/-- The path of a file relative to a directory, taken from that directory, is the file. So the
relative paths of different files are different, and so are their references to lines; and such a
path goes up just when the file is not below the directory. -/
theorem relativeName_leads_back (current : Location) (hbase : base.IsProper) :
    (∀ file : Location, file.IsProper → current.resolve
        ((ofText base.toText).append (ofText (relativeName current base file))) = file) ∧
      (∀ file other : Location, file.IsProper → other.IsProper → file ≠ other →
        relativeName current base file ≠ relativeName current base other ∧
          ∀ line line', Reference.ofLine (relativeName current base file) line ≠
            Reference.ofLine (relativeName current base other) line') ∧
      ∀ file : Location, file.IsProper →
        (['.', '.'] ∈ (ofText (relativeName current base file)).parts ↔ ¬base <+: file) := by
  refine ⟨?_, ?_, ?_⟩
  · intro file hfile
    rw [relativeName_eq current hbase hfile, resolve_append, hbase.resolve_toText]
    exact resolve_ofText_relativeTo hfile base
  · intro file other hfile hother hne
    rw [relativeName_eq current hbase hfile, relativeName_eq current hbase hother]
    have hnames : (file.relativeTo base).toText ≠ (other.relativeTo base).toText :=
      fun heq => hne (hfile.eq_of_toText_relativeTo hother heq)
    refine ⟨hnames, ?_⟩
    intro line line' heq
    exact hnames (Reference.ofLine_inj.mp heq).1
  · intro file hfile
    rw [relativeName_eq current hbase hfile, relativeTo,
      ofText_toText fun part => hfile.isComponent_of_mem_stepsTo]
    exact hfile.1.up_mem_stepsTo_iff

/-- A directory, and a file in one beside it whose name begins with that of the directory. -/
theorem relativeName_leads_back_annex :
    IsProper ["home", "ann"] ∧ IsProper ["home", "annex", "a.py"] ∧
      relativeName [] ["home", "ann"] ["home", "annex", "a.py"] = "../annex/a.py" ∧
      resolve [] ((ofText "/home/ann").append (ofText "../annex/a.py")) =
        ["home", "annex", "a.py"] := by
  have hbase : IsProper ["home", "ann"] := by decide
  have hfile : IsProper ["home", "annex", "a.py"] := by decide
  have hname : relativeName [] ["home", "ann"] ["home", "annex", "a.py"] = "../annex/a.py" := by
    decide
  refine ⟨hbase, hfile, hname, ?_⟩
  rw [← hname]
  exact (relativeName_leads_back [] hbase).1 _ hfile

end Path

end MessageCatalog
