import MessageCatalog.Proofs.Extract.Gathered

/-!
# The order of source files

Files may be named in any order. The keys come in another order then, but the messages are the same:
the same keys, each with the same references and the same comments.
-/

namespace MessageCatalog

namespace Collector

variable {c : Collector} {encoding : Value} {s : Session}

/-- What ends well with the files in one order ends well with them in another. -/
lemma exists_collect_perm (hs : s.tree.IsProper) {items items' : List Value}
    (h : items.Perm items')
    (hms : ∃ ms, ((c.collect (.list items) encoding).outcome .empty s).1 = .ok ms) :
    ∃ ms, ((c.collect (.list items') encoding).outcome .empty s).1 = .ok ms := by
  obtain ⟨context, files, hcontext, hfiles, hsightings, hkeys⟩ := (exists_collect_iff hs).mp hms
  obtain ⟨files', hfiles', hperm⟩ := FileTree.glob_perm h hfiles
  refine (exists_collect_iff hs).mpr ⟨context, files', hcontext, hfiles', ?_, ?_⟩
  · exact fun loc hloc => hsightings loc (hperm.mem_iff.mpr hloc)
  · exact fun loc hloc => hkeys loc (hperm.mem_iff.mpr hloc)

/-- Messages that gather the same are the same, up to their order. -/
lemma perm_of_gathers {ms ms' : List Message} {saw : Sighting → Prop}
    (hnodup : (ms.map Message.key).Nodup) (hnodup' : (ms'.map Message.key).Nodup)
    (hkeys : ∀ key, key ∈ ms.map Message.key ↔ key ∈ ms'.map Message.key)
    (hms : ∀ m ∈ ms, c.options.context = .text m.context ∧ m.Gathers saw)
    (hms' : ∀ m ∈ ms', c.options.context = .text m.context ∧ m.Gathers saw) : ms.Perm ms' := by
  have hsub {ms ms' : List Message}
      (hkeys : ∀ key, key ∈ ms.map Message.key → key ∈ ms'.map Message.key)
      (hms : ∀ m ∈ ms, c.options.context = .text m.context ∧ m.Gathers saw)
      (hms' : ∀ m ∈ ms', c.options.context = .text m.context ∧ m.Gathers saw) : ms ⊆ ms' := by
    intro m hm
    obtain ⟨m', hm', hkey⟩ := List.mem_map.mp (hkeys m.key (List.mem_map_of_mem hm))
    obtain ⟨hcontext, hgathers⟩ := hms m hm
    obtain ⟨hcontext', hgathers'⟩ := hms' m' hm'
    have hcontexts := Value.text.inj (hcontext.symm.trans hcontext')
    rwa [hgathers.eq hgathers' hkey.symm hcontexts]
  refine (List.perm_ext_iff_of_nodup hnodup.of_map hnodup'.of_map).mpr fun m => ⟨?_, ?_⟩
  · exact fun hm => hsub (fun key => (hkeys key).mp) hms hms' hm
  · exact fun hm => hsub (fun key => (hkeys key).mpr) hms' hms hm

/-- Collecting from files does not depend on their order: with the files in another order it ends
well just as well, and then gives the same messages up to their order. Each key that a file shows
has one message, with the references to all places where the key was seen in rising order, and the
comments at these places in that order. -/
theorem collect_perm (c : Collector) (encoding : Value) {items items' : List Value}
    (h : items.Perm items') {s : Session} (hs : s.tree.IsProper) :
    ((∃ ms, ((c.collect (.list items) encoding).outcome .empty s).1 = .ok ms) ↔
      ∃ ms, ((c.collect (.list items') encoding).outcome .empty s).1 = .ok ms) ∧
    ∀ ms, ((c.collect (.list items) encoding).outcome .empty s).1 = .ok ms →
      (∀ ms', ((c.collect (.list items') encoding).outcome .empty s).1 = .ok ms' →
        ms.Perm ms') ∧
      ∃ files, s.tree.glob (c.base s.current) (.list items) = .ok files ∧
        (ms.map Message.key).Nodup ∧
        (∀ key, key ∈ ms.map Message.key ↔
          ∃ loc ∈ files, ∃ p, c.Shows s encoding loc p ∧ p.key = key) ∧
        ∀ m ∈ ms, c.options.context = .text m.context ∧
          m.Gathers fun p => ∃ loc ∈ files, c.Shows s encoding loc p := by
  refine ⟨⟨exists_collect_perm hs h, exists_collect_perm hs h.symm⟩, fun ms hms => ⟨?_, ?_⟩⟩
  · intro ms' hms'
    obtain ⟨files, hfiles, hnodup, hkeys, hgathers⟩ := gathers_of_collect hms
    obtain ⟨_, hfiles', hnodup', hkeys', hgathers'⟩ := gathers_of_collect hms'
    obtain ⟨files', hfound, hperm⟩ := FileTree.glob_perm h hfiles
    obtain rfl := Except.ok.inj (hfound.symm.trans hfiles')
    simp only [← hperm.mem_iff] at hkeys' hgathers'
    exact perm_of_gathers hnodup hnodup' (fun key => (hkeys key).trans (hkeys' key).symm)
      hgathers hgathers'
  · exact gathers_of_collect hms

/-- Two source files with the same keys in different orders. -/
def shelf : Session where
  tree :=
    { files := [([['w'], "a.py"], "_('x')#1\n_('y')".toByteArray),
        ([['w'], "b.py"], "_('y')\n_('x')#2".toByteArray)]
      directories := [[], [['w']]] }
  current := [['w']]

theorem collect_perm_shelf :
    shelf.tree.IsProper ∧ ∃ ms ms',
      ((keeper.collect (.list [.text "a.py", .text "b.py"]) .null).outcome .empty shelf).1 =
        .ok ms ∧
      ((keeper.collect (.list [.text "b.py", .text "a.py"]) .null).outcome .empty shelf).1 =
        .ok ms' ∧
      ms.map Message.key = (["x", "y"] : List Text) ∧
      ms'.map Message.key = (["y", "x"] : List Text) ∧ ms.Perm ms' := by
  have hproper : shelf.tree.IsProper := by decide
  have hok (names : List Value) (keys : List Text)
      (h : ((keeper.collect (.list names) .null).outcome .empty shelf).1.toOption.map
        (List.map Message.key) = some keys) :
      ∃ ms, ((keeper.collect (.list names) .null).outcome .empty shelf).1 = .ok ms ∧
        ms.map Message.key = keys := by
    cases hr : ((keeper.collect (.list names) .null).outcome .empty shelf).1 with
    | error e =>
      rw [hr] at h
      cases h
    | ok ms =>
      rw [hr] at h
      exact ⟨ms, rfl, Option.some.inj h⟩
  obtain ⟨ms, hms, hkeys⟩ := hok [.text "a.py", .text "b.py"] ["x", "y"] (by decide +kernel)
  obtain ⟨ms', hms', hkeys'⟩ := hok [.text "b.py", .text "a.py"] ["y", "x"] (by decide +kernel)
  obtain ⟨-, h⟩ := collect_perm keeper .null
    (List.Perm.swap (Value.text "b.py") (Value.text "a.py") []) hproper
  exact ⟨hproper, ms, ms', hms, hms', hkeys, hkeys', (h ms hms).1 ms' hms'⟩

end Collector

end MessageCatalog
