import MessageCatalog.Proofs.Extract.DefaultRules
import MessageCatalog.Proofs.Extract.Gathered
import MessageCatalog.Proofs.Merge.Files

/-!
# Source files that cannot be used

A file that cannot be read, has bytes that stand for no character, or cannot be parsed adds nothing
to the index and does not stop a run. So the messages are those of the files that can be used, and
with the default meaning of comments a run over such files gives messages. This does not hold of a
file with bytes that are as a whole no text of the codec: such a file stops the run.
-/

namespace MessageCatalog

namespace Collector

variable {c : Collector} {encoding : Value} {loc : Location} {s : Session}

/-! ### Files that are passed over -/

/-- Whether a source file can be read, decoded and parsed. -/
def isUsable (c : Collector) (s : Session) (encoding : Value) (loc : Location) : Bool :=
  match c.content s encoding loc with
  | .ok text => (Source.Module.ofText text).isSome
  | .error _ => false

/-- Whether the bytes of a source file are as a whole no text of the codec. -/
def isRefused (c : Collector) (s : Session) (encoding : Value) (loc : Location) : Bool :=
  match c.content s encoding loc with
  | .ok _ => false
  | .error f => f.kind == .codec

lemma not_isUnreadable_of_kind {f : Failure} (hf : f.kind = .codec) : ¬ isUnreadable f = true := by
  simp [isUnreadable, Failure.isSystem, hf]

/-- What is wrong with a file that cannot be used and is not refused: it is not read, or else not
parsed. -/
lemma HasCodec.of_not_isUsable (h : c.HasCodec s encoding)
    (hloc : c.isUsable s encoding loc = false) (hform : c.isRefused s encoding loc = false) :
    (∃ f, c.content s encoding loc = .error f ∧ Collector.isUnreadable f = true) ∨
      ∃ text f, c.content s encoding loc = .ok text ∧
        Findings.ofText c.options c.rules text = .error f ∧ f.kind = .sourceSyntax := by
  cases hcontent : c.content s encoding loc with
  | error f =>
    refine .inl ⟨f, rfl, (c.of_content_eq_error hcontent).resolve_right ?_⟩
    rintro (hf | ⟨-, hnone⟩)
    · simp [isRefused, hcontent, hf] at hform
    · exact hnone h
  | ok text =>
    have hparse : Source.Module.ofText text = none := by
      simpa [isUsable, hcontent] using hloc
    refine .inr ⟨text, .sourceSyntax, rfl, ?_, rfl⟩
    rw [Findings.ofText, hparse]

/-- A file that cannot be used and is not refused leaves the index as it is, and the run goes on. -/
lemma HasCodec.outcome_addLocation (h : c.HasCodec s encoding)
    (hloc : c.isUsable s encoding loc = false) (hform : c.isRefused s encoding loc = false)
    (i : Index) :
    ∃ t, (c.addLocation encoding loc).outcome i s = (.ok 0, i, t) ∧ s.Heard t := by
  rcases h.of_not_isUsable hloc hform with ⟨f, hcontent, hf⟩ | ⟨text, f, hcontent, hfound, hf⟩
  · exact c.outcome_addLocation_of_unreadable hcontent hf i
  · exact c.outcome_addLocation_of_unparsed hcontent hfound hf i

/-- A file that is refused stops the run. -/
lemma exists_outcome_addLocation_of_isRefused (h : c.isRefused s encoding loc = true) (i : Index) :
    ∃ f, f.kind = .codec ∧ (c.addLocation encoding loc).outcome i s = (.error f, i, s) := by
  unfold isRefused at h
  cases hcontent : c.content s encoding loc with
  | ok text => simp [hcontent] at h
  | error f =>
    have hf : f.kind = .codec := by simpa [hcontent] using h
    refine ⟨f, hf, ?_⟩
    rw [c.outcome_addLocation_of_error hcontent, if_neg (not_isUnreadable_of_kind hf),
      Collecting.outcome_ofAction, Action.outcome_throw]

lemma isRefused_eq_false_of_sightings {seen : List Sighting}
    (h : c.sightings s encoding loc = .ok seen) : c.isRefused s encoding loc = false := by
  unfold sightings at h
  unfold isRefused
  cases hcontent : c.content s encoding loc with
  | ok text => rfl
  | error f =>
    rw [hcontent] at h
    refine beq_eq_false_iff_ne.mpr fun hf => ?_
    dsimp only at h
    rw [if_neg (not_isUnreadable_of_kind hf)] at h
    cases h

lemma HasCodec.sightings_eq_nil (h : c.HasCodec s encoding)
    (hloc : c.isUsable s encoding loc = false) (hform : c.isRefused s encoding loc = false) :
    c.sightings s encoding loc = .ok [] := by
  rcases h.of_not_isUsable hloc hform with ⟨f, hcontent, hf⟩ | ⟨text, f, hcontent, hfound, hf⟩
  · rw [sightings, hcontent]
    exact if_pos hf
  · rw [sightings, hcontent]
    dsimp only
    rw [hfound]
    exact if_pos hf

/-- What files show is what those that can be used show. -/
lemma HasCodec.allSightings_filter (h : c.HasCodec s encoding) {files : List Location}
    (hform : ∀ loc ∈ files, c.isRefused s encoding loc = false) :
    c.allSightings s encoding (files.filter (c.isUsable s encoding)) =
      c.allSightings s encoding files := by
  induction files with
  | nil => rfl
  | cons loc files ih =>
    obtain ⟨hloc, hrest⟩ := List.forall_mem_cons.mp hform
    rw [allSightings_cons, List.filter_cons]
    split
    · rw [allSightings_cons, ih hrest]
    · next husable =>
      rw [h.sightings_eq_nil (by simpa using husable) hloc, ih hrest]
      cases c.allSightings s encoding files <;> rfl

/-- From the files that can be used the same messages are collected, whatever the index holds at
the start. -/
lemma HasCodec.collect_eq_ok_iff_filter (h : c.HasCodec s encoding) {patterns patterns' : Value}
    {files : List Location} (hfiles : s.tree.glob (c.base s.current) patterns = .ok files)
    (hfiles' : s.tree.glob (c.base s.current) patterns' =
      .ok (files.filter (c.isUsable s encoding)))
    (hform : ∀ loc ∈ files, c.isRefused s encoding loc = false) (i : Index) (ms : List Message) :
    ((c.collect patterns encoding).outcome i s).1 = .ok ms ↔
      ((c.collect patterns' encoding).outcome i s).1 = .ok ms := by
  have hcollect {patterns patterns' : Value} {files files' : List Location}
      (hfiles : s.tree.glob (c.base s.current) patterns = .ok files)
      (hfiles' : s.tree.glob (c.base s.current) patterns' = .ok files')
      (hsightings : c.allSightings s encoding files' = c.allSightings s encoding files)
      (hms : ((c.collect patterns encoding).outcome i s).1 = .ok ms) :
      ((c.collect patterns' encoding).outcome i s).1 = .ok ms := by
    obtain ⟨context, found, seen, hcontext, hfound, hseen, hj, hms⟩ :=
      c.collect_eq_ok_iff.mp ⟨hms, rfl⟩
    obtain rfl := Except.ok.inj (hfiles.symm.trans hfound)
    exact (c.collect_eq_ok_iff.mpr ⟨context, files', seen, hcontext, hfiles',
      hsightings.trans hseen, hj, hms⟩).1
  exact ⟨hcollect hfiles hfiles' (h.allSightings_filter hform),
    hcollect hfiles' hfiles (h.allSightings_filter hform).symm⟩

/-! ### Runs with the default meaning of comments -/

/-- Only a file that can be used shows keys. -/
lemma isUsable_of_shows {p : Sighting} (h : c.Shows s encoding loc p) :
    c.isUsable s encoding loc = true := by
  obtain ⟨text, found, hcontent, hfound, -⟩ := h
  cases hparse : Source.Module.ofText text with
  | none =>
    rw [Findings.ofText, hparse] at hfound
    cases hfound
  | some m => simp [isUsable, hcontent, hparse]

section Default

variable {o : ExtractOptions} (hc : Collector.ofOptions o = .ok c) (hcomments : o.comments = {})

include hc in
lemma options_of_ofOptions : c.options = o := by
  obtain ⟨rules, -, h⟩ := Failure.bind_eq_ok_iff.mp hc
  exact Failure.pure_eq_ok_iff.mp h ▸ rfl

include hc hcomments in
lemma key_of_ofOptions : c.rules.key = some CommentRules.defaultKey := by
  obtain ⟨rules, hrules, h⟩ := Failure.bind_eq_ok_iff.mp hc
  rw [hcomments] at hrules
  exact Failure.pure_eq_ok_iff.mp h ▸ CommentRules.key_of_ofOptions hrules

include hc hcomments in
/-- Of every file that is not refused it can be told what it shows. -/
lemma HasCodec.exists_sightings (h : c.HasCodec s encoding) (hverbose : Options.IsLevel o.verbose)
    (hform : c.isRefused s encoding loc = false) :
    ∃ seen, c.sightings s encoding loc = .ok seen := by
  cases hloc : c.isUsable s encoding loc with
  | false => exact ⟨[], h.sightings_eq_nil hloc hform⟩
  | true =>
    unfold isUsable at hloc
    rw [sightings]
    split at hloc
    · next text hcontent =>
      obtain ⟨found, hfound, -⟩ := Findings.exists_ofText (o := c.options)
        (key_of_ofOptions hc hcomments) hloc
      obtain ⟨b, hb⟩ := Options.exists_atLeast hverbose 1
      rw [hcontent]
      dsimp only
      rw [hfound]
      dsimp only
      rw [options_of_ofOptions hc, hb]
      exact ⟨_, rfl⟩
    · cases hloc

include hc hcomments in
lemma key_ne_nil_of_shows {p : Sighting} (h : c.Shows s encoding loc p) : p.key ≠ [] := by
  have husable := isUsable_of_shows h
  obtain ⟨text, found, hcontent, hfound, a, ha, rfl⟩ := h
  have hparse : (Source.Module.ofText text).isSome = true := by
    rwa [isUsable, hcontent] at husable
  obtain ⟨found', hfound', hkeys⟩ := Findings.exists_ofText (o := c.options)
    (key_of_ofOptions hc hcomments) hparse
  obtain rfl := Except.ok.inj (hfound'.symm.trans hfound)
  exact hkeys a ha

include hc hcomments in
/-- A run gives messages just when no file is refused. -/
lemma HasCodec.exists_collect {context : Text} (h : c.HasCodec s encoding)
    (hcontext : o.context = .text context) (hverbose : Options.IsLevel o.verbose)
    (hproper : s.tree.IsProper) {patterns : Value} {files : List Location}
    (hfiles : s.tree.glob (c.base s.current) patterns = .ok files) :
    (∃ ms, ((c.collect patterns encoding).outcome .empty s).1 = .ok ms) ↔
      ∀ loc ∈ files, c.isRefused s encoding loc = false := by
  have hname : c.contextName = .ok context := by
    rw [contextName, options_of_ofOptions hc, hcontext]
  rw [exists_collect_iff hproper]
  constructor
  · rintro ⟨context', files', -, hfiles', hseen, -⟩ loc hloc
    obtain rfl := Except.ok.inj (hfiles.symm.trans hfiles')
    obtain ⟨seen, hseen⟩ := hseen loc hloc
    exact isRefused_eq_false_of_sightings hseen
  · intro hform
    refine ⟨context, files, hname, hfiles, fun loc hloc => ?_,
      fun loc _ p hp => ⟨key_ne_nil_of_shows hc hcomments hp, context, ?_⟩⟩
    · exact h.exists_sightings hc hcomments hverbose (hform loc hloc)
    · rw [options_of_ofOptions hc, hcontext]

end Default

/-- Files none of which can be used give no message. -/
lemma collect_eq_nil {patterns : Value} {files : List Location} {ms : List Message}
    (hfiles : s.tree.glob (c.base s.current) patterns = .ok files)
    (hnone : files.filter (c.isUsable s encoding) = [])
    (hms : ((c.collect patterns encoding).outcome .empty s).1 = .ok ms) : ms = [] := by
  obtain ⟨found, hfound, -, hkeys, -⟩ := gathers_of_collect hms
  obtain rfl := Except.ok.inj (hfiles.symm.trans hfound)
  refine List.eq_nil_iff_forall_not_mem.mpr fun m hm => ?_
  obtain ⟨loc, hloc, p, hp, -⟩ := (hkeys m.key).mp (List.mem_map_of_mem hm)
  have hmem : loc ∈ files.filter (c.isUsable s encoding) :=
    List.mem_filter.mpr ⟨hloc, isUsable_of_shows hp⟩
  simp [hnone] at hmem

/-- Whatever the codec, a file that cannot be used and is not refused leaves the index as it is, and
a file that is refused stops the run. Where no file is refused, the messages are those of the files
that can be used, and none if there is no such file; from any index these files alone give the same
messages. With the default meaning of comments, a run gives messages just when no file is
refused. -/
theorem collect_usable (hcodec : c.HasCodec s encoding) (hproper : s.tree.IsProper)
    (hrooted : s.tree.IsRooted) {patterns : Value} {files : List Location}
    (hfiles : s.tree.glob (c.base s.current) patterns = .ok files) :
    let usable := files.filter (c.isUsable s encoding)
    let names : Value := .list (usable.map fun loc => .text loc.toText)
    ((∀ loc ∈ files, c.isRefused s encoding loc = false) →
      (∀ ms, ((c.collect patterns encoding).outcome .empty s).1 = .ok ms → usable = [] → ms = []) ∧
      (usable ≠ [] → ∀ ms, ((c.collect patterns encoding).outcome .empty s).1 = .ok ms ↔
        ((c.collect names encoding).outcome .empty s).1 = .ok ms) ∧
      ∀ patterns', s.tree.glob (c.base s.current) patterns' = .ok usable → ∀ i ms,
        ((c.collect patterns encoding).outcome i s).1 = .ok ms ↔
          ((c.collect patterns' encoding).outcome i s).1 = .ok ms) ∧
    (∀ loc, c.isUsable s encoding loc = false → c.isRefused s encoding loc = false → ∀ i, ∃ t,
      (c.addLocation encoding loc).outcome i s = (.ok 0, i, t) ∧ s.Heard t) ∧
    (∀ loc, c.isRefused s encoding loc = true → ∀ i, ∃ f, f.kind = .codec ∧
      (c.addLocation encoding loc).outcome i s = (.error f, i, s)) ∧
    ∀ o context, Collector.ofOptions o = .ok c → o.comments = {} → o.context = .text context →
      Options.IsLevel o.verbose →
      ((∃ ms, ((c.collect patterns encoding).outcome .empty s).1 = .ok ms) ↔
        ∀ loc ∈ files, c.isRefused s encoding loc = false) := by
  intro usable names
  refine ⟨fun hform => ⟨fun ms hms hnone => collect_eq_nil hfiles hnone hms, fun hsome => ?_, ?_⟩,
    ?_, ?_, ?_⟩
  · obtain ⟨hnodup, hthere⟩ := FileTree.nodup_glob hfiles
    have hnames := FileTree.glob_names hproper hrooted (c.base s.current) hsome (hnodup.filter _)
      fun loc hloc => hthere loc (List.mem_filter.mp hloc).1
    exact hcodec.collect_eq_ok_iff_filter hfiles hnames hform .empty
  · exact fun patterns' hfiles' => hcodec.collect_eq_ok_iff_filter hfiles hfiles' hform
  · exact fun loc hloc hform i => hcodec.outcome_addLocation hloc hform i
  · exact fun loc hform i => exists_outcome_addLocation_of_isRefused hform i
  · exact fun o context hc hcomments hcontext hverbose =>
      hcodec.exists_collect hc hcomments hcontext hverbose hproper hfiles

/-- A source file, one that is not in the charset, and one that is not a program. -/
def bench : Session where
  tree :=
    { files := [([['w'], "a.py"], "_('x')".toByteArray), ([['w'], "b.py"], ⟨#[0xff]⟩),
        ([['w'], "c.py"], "_('y'".toByteArray)]
      directories := [[], [['w']]] }
  current := [['w']]

/-- A collector with the default options. -/
def reader : Collector where
  options := { baseDir := ⟨"", []⟩ }
  rules := ⟨true, some CommentRules.defaultKey, Regex.ofText? "i18n-ignore-line"⟩

theorem collect_usable_bench :
    let patterns : Value := .list [.text "c.py", .text "b.py", .text "a.py"]
    Collector.ofOptions reader.options = .ok reader ∧ reader.HasCodec bench .null ∧
      bench.tree.IsProper ∧ bench.tree.IsRooted ∧
      ∃ ms, ((reader.collect patterns .null).outcome .empty bench).1 = .ok ms ∧
        ms.map Message.key = (["x"] : List Text) ∧
        ((reader.collect (.list [.text "/w/a.py"]) .null).outcome .empty bench).1 = .ok ms := by
  have hc : Collector.ofOptions reader.options = .ok reader := rfl
  have hcodec : reader.HasCodec bench .null := ⟨"utf-8", .ofCharset .utf8, rfl, rfl⟩
  have hproper : bench.tree.IsProper := by decide
  have hrooted : bench.tree.IsRooted := by decide
  have hfiles : bench.tree.glob (reader.base bench.current)
      (.list [.text "c.py", .text "b.py", .text "a.py"]) =
        .ok [[['w'], "c.py"], [['w'], "b.py"], [['w'], "a.py"]] := by rfl
  have hform : ∀ loc ∈ ([[['w'], "c.py"], [['w'], "b.py"], [['w'], "a.py"]] : List Location),
      reader.isRefused bench .null loc = false := by decide +kernel
  obtain ⟨hfiltered, -, -, hcollect⟩ := collect_usable hcodec hproper hrooted hfiles
  obtain ⟨-, hnames, -⟩ := hfiltered hform
  obtain ⟨ms, hms⟩ := (hcollect _ _ hc rfl rfl rfl).mpr hform
  have husable : ([[['w'], "c.py"], [['w'], "b.py"], [['w'], "a.py"]] : List Location).filter
      (reader.isUsable bench .null) = [[['w'], "a.py"]] := by decide +kernel
  rw [husable] at hnames
  have hkeys : (((reader.collect (.list [.text "c.py", .text "b.py", .text "a.py"]) .null).outcome
      .empty bench).1.toOption.map (List.map Message.key)) = some (["x"] : List Text) := by
    decide +kernel
  rw [hms] at hkeys
  exact ⟨hc, hcodec, hproper, hrooted, ms, hms, Option.some.inj hkeys, (hnames (by simp) ms).mp hms⟩

/-- Read with a codec that asks for a mark, the file is refused, and no messages are given. -/
example : reader.isRefused bench (.text "utf-16") [['w'], "a.py"] = true ∧
    (((reader.collect (.list [.text "a.py"]) (.text "utf-16")).outcome .empty
      bench).1.toOption.isNone) = true := by
  decide +kernel

end Collector

end MessageCatalog
