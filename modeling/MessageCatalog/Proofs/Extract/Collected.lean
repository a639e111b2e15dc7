import MessageCatalog.Proofs.Extract.CommentText
import MessageCatalog.Proofs.Extract.Gathered
import MessageCatalog.Proofs.Merge.Legible

/-!
# Messages that were collected

Collected messages can be handed to a merge as they are. Their comments are comments of the source
files, their references begin with the names of these files, and as long as the source files stay
the same, collecting again gives the same messages.
-/

namespace MessageCatalog

open Failure Text

namespace Collector

variable {c : Collector} {patterns encoding : Value} {s u : Session} {ms : List Message}
  {files : List Location}

/-! ### What messages are made of -/

lemma key_ne_nil_of_collect (h : ((c.collect patterns encoding).outcome .empty s).1 = .ok ms) :
    ∀ m ∈ ms, m.key ≠ [] := by
  obtain ⟨context, files, seen, hcontext, -, -, hj, hms⟩ := c.collect_eq_ok_iff.mp ⟨h, rfl⟩
  have hj := (Index.describes_empty context).addAll hj
  obtain ⟨hseen, rfl⟩ := (messages_eq_ok_iff hj hcontext).mp hms
  intro m hm
  obtain ⟨key, hkey, rfl⟩ := List.mem_map.mp hm
  obtain ⟨p, hp, rfl⟩ := (hj.keys key).mp hkey
  exact (hseen p hp).1

/-- Collected messages are the ones that a merge reads. -/
theorem reads_of_collect (h : ((c.collect patterns encoding).outcome .empty s).1 = .ok ms) :
    Merge.Reads (.list (ms.map Message.toValue)) ms := by
  obtain ⟨-, -, hnodup, -⟩ := gathers_of_collect h
  exact Merge.reads_list (key_ne_nil_of_collect h) hnodup

/-- The source file is read as a text and parsed. -/
def ReadsSource (c : Collector) (s : Session) (encoding : Value) (loc : Location) (t : Text)
    (source : Source.Module) : Prop :=
  c.content s encoding loc = .ok t ∧ Source.Module.ofText t = some source

/-- A comment of a collected message quotes comments of a source file. -/
theorem exists_quotes_of_comment
    (h : ((c.collect patterns encoding).outcome .empty s).1 = .ok ms)
    (hfiles : s.tree.glob (c.base s.current) patterns = .ok files) {m : Message} (hm : m ∈ ms)
    {comment : Text} (hcomment : comment ∈ m.comments) :
    comment ≠ [] ∧ ∃ loc ∈ files, ∃ t source, c.ReadsSource s encoding loc t source ∧
      Quotes comment source.comments := by
  obtain ⟨files', hfiles', -, -, hgathers⟩ := gathers_of_collect h
  obtain rfl := Except.ok.inj (hfiles.symm.trans hfiles')
  obtain ⟨-, places, commentAt, hg⟩ := hgathers m hm
  rw [hg.comments] at hcomment
  obtain ⟨⟨file, line⟩, -, hat⟩ := List.mem_filterMap.mp hcomment
  obtain ⟨seen, ⟨loc, hloc, t, f, hcontent, hf, a, ha, hp⟩, hseen⟩ :=
    (hg.commentAt_eq file line comment).mp hat
  obtain ⟨source, hsource⟩ := Findings.exists_module hf
  unfold Index.nonempty at hseen
  split at hseen
  · obtain rfl := Option.some.inj hseen
    exact ⟨List.cons_ne_nil _ _, loc, hloc, t, source, ⟨hcontent, hsource⟩,
      Findings.quotes_of_ofText hsource hf ha (congrArg Sighting.comment hp).symm⟩
  · cases hseen

/-- A reference of a collected message leads to a file by its name. -/
lemma exists_name_of_ref (h : ((c.collect patterns encoding).outcome .empty s).1 = .ok ms)
    (hfiles : s.tree.glob (c.base s.current) patterns = .ok files) {m : Message} (hm : m ∈ ms)
    {ref : Text} (href : ref ∈ m.refs) :
    ∃ loc ∈ files, ∃ line, ref = Reference.ofLine (c.nameOf s.current loc) line := by
  obtain ⟨files', hfiles', -, -, hgathers⟩ := gathers_of_collect h
  obtain rfl := Except.ok.inj (hfiles.symm.trans hfiles')
  obtain ⟨-, places, commentAt, hg⟩ := hgathers m hm
  rw [hg.refs] at href
  obtain ⟨⟨file, line⟩, hplace, rfl⟩ := List.mem_map.mp href
  obtain ⟨comment, loc, hloc, _, _, -, -, o, -, hp⟩ := (hg.mem_places file line).mp hplace
  obtain ⟨rfl, -⟩ := Sighting.mk.inj hp
  exact ⟨loc, hloc, line, rfl⟩

/-! ### Sources that stay the same -/

/-- The second session has the source files of the first one, as they are, and its codecs. -/
structure HasSources (c : Collector) (patterns : Value) (s u : Session) : Prop where
  current : u.current = s.current
  codecs : u.codec? = s.codec?
  glob : u.tree.glob (c.base s.current) patterns = s.tree.glob (c.base s.current) patterns
  read : ∀ files, s.tree.glob (c.base s.current) patterns = .ok files →
    ∀ loc ∈ files, u.tree.read loc = s.tree.read loc

lemma sightings_congr {loc : Location} (hcurrent : u.current = s.current)
    (hcodec : u.codec? = s.codec?) (hread : u.tree.read loc = s.tree.read loc) :
    c.sightings u encoding loc = c.sightings s encoding loc := by
  rw [sightings, sightings, c.content_congr hread hcodec, hcurrent]

/-- Collecting from the same source files gives the same messages. -/
theorem HasSources.collect (hu : c.HasSources patterns s u)
    (h : ((c.collect patterns encoding).outcome .empty s).1 = .ok ms) :
    ((c.collect patterns encoding).outcome .empty u).1 = .ok ms := by
  obtain ⟨context, files, seen, hcontext, hfiles, hseen, hj, hms⟩ :=
    c.collect_eq_ok_iff.mp ⟨h, rfl⟩
  have hsame : c.allSightings u encoding files = c.allSightings s encoding files := by
    have hmapM : files.mapM (c.sightings u encoding) = files.mapM (c.sightings s encoding) :=
      mapM_congr fun loc hloc =>
        sightings_congr hu.current hu.codecs (hu.read files hfiles loc hloc)
    rw [allSightings, allSightings, hmapM]
  refine (c.collect_eq_ok_iff.mpr
    ⟨context, files, seen, hcontext, ?_, hsame.trans hseen, hj, hms⟩).1
  rw [hu.current, hu.glob, hfiles]

end Collector

end MessageCatalog
