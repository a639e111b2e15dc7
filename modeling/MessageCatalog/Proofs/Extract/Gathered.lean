import MessageCatalog.Proofs.Extract.Conflict
import MessageCatalog.Proofs.Extract.Sightings
import MessageCatalog.Proofs.Reference.Order

/-!
# Messages gathered from sightings

A message gathers what was seen of its key: its references are the places in rising order, and its
comments are those at the places. So it is determined by what was seen, whatever the order in which
that was put into the index.
-/

namespace MessageCatalog

namespace Message

/-- The message has a reference to every place where its key was seen, in rising order, and the
comments at the places in that order; an empty comment does not count. -/
structure GathersAt (m : Message) (saw : Sighting → Prop) (places : List (Text × Nat))
    (commentAt : Text × Nat → Option Text) : Prop where
  refs : m.refs = places.map fun p => Reference.ofLine p.1 p.2
  comments : m.comments = places.filterMap commentAt
  mem_places : ∀ file line, (file, line) ∈ places ↔ ∃ comment, saw ⟨file, line, m.key, comment⟩
  commentAt_eq : ∀ file line text, commentAt (file, line) = some text ↔
    ∃ comment, saw ⟨file, line, m.key, comment⟩ ∧ Index.nonempty comment = some text
  rising : m.refs.Pairwise fun a b => Reference.compare a b = .lt
  byLine : (∀ p ∈ places, p.2 < 10 ^ Decimal.maxDigits) → places.Pairwise Reference.Precedes

/-- The message gathers all that was seen of its key. -/
def Gathers (m : Message) (saw : Sighting → Prop) : Prop :=
  ∃ places commentAt, m.GathersAt saw places commentAt

/-- What was seen determines the message of a key. -/
lemma Gathers.eq {m m' : Message} {saw : Sighting → Prop} (h : m.Gathers saw)
    (h' : m'.Gathers saw) (hkey : m.key = m'.key) (hcontext : m.context = m'.context) :
    m = m' := by
  obtain ⟨places, commentAt, h⟩ := h
  obtain ⟨places', commentAt', h'⟩ := h'
  have hmem : ∀ p, p ∈ places ↔ p ∈ places' := fun p => by
    rw [h.mem_places, h'.mem_places, hkey]
  have hcommentAt : commentAt = commentAt' := by
    funext p
    refine Option.ext fun text => ?_
    rw [h.commentAt_eq, h'.commentAt_eq, hkey]
  have hrefs : m.refs = m'.refs := by
    refine Reference.eq_of_pairwise_compare h.rising h'.rising fun ref => ?_
    rw [h.refs, h'.refs, List.mem_map, List.mem_map]
    simp only [hmem]
  have hinj : Function.Injective fun p : Text × Nat => Reference.ofLine p.1 p.2 :=
    fun p q heq => Prod.ext_iff.mpr (Reference.ofLine_inj.mp heq)
  have hplaces : places = places' := hinj.list_map (h.refs.symm.trans (hrefs.trans h'.refs))
  have hcomments : m.comments = m'.comments := by
    rw [h.comments, h'.comments, hplaces, hcommentAt]
  cases m
  cases m'
  simp_all

end Message

/-- What was seen of a key at a place. -/
lemma Sighting.exists_at_iff {seen : List Sighting} {file key : Text} {line : Nat}
    {P : Option Text → Prop} :
    (∃ p ∈ seen, p.key = key ∧ p.reference = Reference.ofLine file line ∧ P p.comment) ↔
      ∃ comment, ⟨file, line, key, comment⟩ ∈ seen ∧ P comment := by
  constructor
  · rintro ⟨⟨file', line', _, comment⟩, hp, rfl, heq, hcomment⟩
    obtain ⟨rfl, rfl⟩ := Reference.ofLine_inj.mp heq
    exact ⟨comment, hp, hcomment⟩
  · rintro ⟨comment, hp, hcomment⟩
    exact ⟨_, hp, rfl, rfl, hcomment⟩

namespace Index

variable {i : Index} {context key : Text} {seen : List Sighting}

/-- The message of a key of an index. -/
def gathered (i : Index) (context key : Text) : Message where
  key := key
  context := context
  refs := Reference.sort (i.placesOf context key).keys
  comments := (Reference.sort (i.placesOf context key).keys).filterMap (i.stored context key)

@[simp] lemma gathered_key (i : Index) (context key : Text) :
    (i.gathered context key).key = key := rfl

lemma Describes.gathers (h : i.Describes context seen) (key : Text) :
    (i.gathered context key).Gathers (· ∈ seen) := by
  have hplace : ∀ ref ∈ (i.placesOf context key).keys, ∃ file line,
      ref = Reference.ofLine file line := by
    intro ref href
    obtain ⟨p, -, -, rfl⟩ := (h.places key ref).mp href
    exact ⟨p.file, p.line, rfl⟩
  -- All references were written from places, and sorting them brings in no others.
  have hrange : Reference.sort (i.placesOf context key).keys ∈
      Set.range (List.map fun p : Text × Nat => Reference.ofLine p.1 p.2) := by
    rw [Set.range_list_map]
    intro ref href
    obtain ⟨file, line, rfl⟩ := hplace ref (Reference.mem_sort.mp href)
    exact ⟨(file, line), rfl⟩
  obtain ⟨places, hplaces⟩ := hrange
  have hrising : (Reference.sort (i.placesOf context key).keys).Pairwise
      fun a b => Reference.compare a b = .lt :=
    Reference.pairwise_sort (i.placesOf context key).distinct hplace
  refine ⟨places, fun p => i.stored context key (Reference.ofLine p.1 p.2), hplaces.symm, ?_, ?_,
    ?_, hrising, ?_⟩
  · rw [gathered, ← hplaces, List.filterMap_map]
    rfl
  · intro file line
    have hmem : (file, line) ∈ places ↔
        Reference.ofLine file line ∈ (i.placesOf context key).keys := by
      rw [← Reference.mem_sort, ← hplaces, List.mem_map]
      constructor
      · intro hp
        exact ⟨_, hp, rfl⟩
      · rintro ⟨p, hp, heq⟩
        obtain ⟨rfl, rfl⟩ := Reference.ofLine_inj.mp heq
        exact hp
    rw [hmem, h.places]
    simpa using Sighting.exists_at_iff (P := fun _ => True)
  · intro file line text
    dsimp only
    rw [h.comments]
    exact Sighting.exists_at_iff (P := fun comment => nonempty comment = some text)
  · intro hbound
    rw [← hplaces, List.pairwise_map] at hrising
    exact hrising.imp_of_mem fun hp hq hlt =>
      (Reference.compare_ofLine_eq_lt_iff (hbound _ hp) (hbound _ hq)).mp hlt

end Index

namespace Collector

variable {c : Collector} {i : Index} {context : Text} {seen : List Sighting}

/-- A key can be made a message if it is not empty and the context is a text. -/
lemma message_eq_ok_iff {key : Text} (hkey : key ∈ i.keys context) {m : Message} :
    c.message i context key = .ok m ↔
      (key ≠ [] ∧ ∃ t, c.options.context = .text t) ∧ i.gathered context key = m := by
  unfold message
  cases key with
  | nil => simp [Failure.bind_eq_ok_iff]
  | cons ch key =>
    rw [Index.refs_eq hkey, Index.comments_eq hkey]
    cases hcontext : c.options.context with
    | text t => simp [bind, Except.bind, pure, Except.pure, Index.gathered]
    | _ => simp

/-- The messages of an index that describes what was seen. -/
lemma messages_eq_ok_iff (h : i.Describes context seen) (hcontext : c.contextName = .ok context)
    {ms : List Message} :
    c.messages i = .ok ms ↔
      (∀ p ∈ seen, p.key ≠ [] ∧ ∃ t, c.options.context = .text t) ∧
        (i.keys context).map (i.gathered context) = ms := by
  have hmessages : c.messages i = (i.keys context).mapM (c.message i context) := by
    rw [messages, hcontext]
    rfl
  rw [hmessages, Failure.mapM_eq_ok_iff_map fun key hkey _ => message_eq_ok_iff hkey]
  refine and_congr_left fun _ => ?_
  constructor
  · intro hkeys p hp
    exact hkeys p.key ((h.keys _).mpr ⟨p, hp, rfl⟩)
  · intro hseen key hkey
    obtain ⟨p, hp, rfl⟩ := (h.keys key).mp hkey
    exact hseen p hp

/-! ### Collecting -/

variable {s : Session} {patterns encoding : Value}

/-- What an empty index comes to describe. -/
lemma exists_describes (hs : s.tree.IsProper) {files : List Location}
    (hfiles : s.tree.glob (c.base s.current) patterns = .ok files)
    (hseen : c.allSightings s encoding files = .ok seen) (context : Text) :
    ∃ j, Index.empty.addAll context seen = .ok j ∧ j.Describes context seen := by
  obtain ⟨hnodup, hthere⟩ := FileTree.nodup_glob hfiles
  have hempty := Index.describes_empty context
  obtain ⟨j, hj⟩ := hempty.exists_addAll
    (firstOnly_allSightings (c.nodup_names hs hnodup hthere) hseen)
  exact ⟨j, hj, hempty.addAll hj⟩

/-- Collecting into an empty index ends well just when the files are found and can each be told
what they show, and each key that they show can be made a message. -/
theorem exists_collect_iff (hs : s.tree.IsProper) :
    (∃ ms, ((c.collect patterns encoding).outcome .empty s).1 = .ok ms) ↔
      ∃ context files, c.contextName = .ok context ∧
        s.tree.glob (c.base s.current) patterns = .ok files ∧
        (∀ loc ∈ files, ∃ seen, c.sightings s encoding loc = .ok seen) ∧
        ∀ loc ∈ files, ∀ p, c.Shows s encoding loc p →
          p.key ≠ [] ∧ ∃ t, c.options.context = .text t := by
  constructor
  · rintro ⟨ms, hms⟩
    obtain ⟨context, files, seen, hcontext, hfiles, hseen, hj, hms⟩ :=
      c.collect_eq_ok_iff.mp ⟨hms, rfl⟩
    have hj := (Index.describes_empty context).addAll hj
    refine ⟨context, files, hcontext, hfiles, c.exists_allSightings_iff.mp ⟨seen, hseen⟩, ?_⟩
    intro loc hloc p hp
    exact ((messages_eq_ok_iff hj hcontext).mp hms).1 p
      ((mem_allSightings hseen).mpr ⟨loc, hloc, hp⟩)
  · rintro ⟨context, files, hcontext, hfiles, hsightings, hkeys⟩
    obtain ⟨seen, hseen⟩ := c.exists_allSightings_iff.mpr hsightings
    obtain ⟨j, hj, hdescribes⟩ := exists_describes hs hfiles hseen context
    have hms := (messages_eq_ok_iff hdescribes hcontext).mpr ⟨fun p hp => ?_, rfl⟩
    · exact ⟨_, (c.collect_eq_ok_iff.mpr ⟨context, files, seen, hcontext, hfiles, hseen, hj, hms⟩).1⟩
    · obtain ⟨loc, hloc, hp⟩ := (mem_allSightings hseen).mp hp
      exact hkeys loc hloc p hp

/-- The messages that are collected into an empty index: one for each key that the files show, and
each gathers all that the files show of its key. -/
theorem gathers_of_collect {ms : List Message}
    (h : ((c.collect patterns encoding).outcome .empty s).1 = .ok ms) :
    ∃ files, s.tree.glob (c.base s.current) patterns = .ok files ∧
      (ms.map Message.key).Nodup ∧
      (∀ key, key ∈ ms.map Message.key ↔
        ∃ loc ∈ files, ∃ p, c.Shows s encoding loc p ∧ p.key = key) ∧
      ∀ m ∈ ms, c.options.context = .text m.context ∧
        m.Gathers fun p => ∃ loc ∈ files, c.Shows s encoding loc p := by
  obtain ⟨context, files, seen, hcontext, hfiles, hseen, hj, hms⟩ :=
    c.collect_eq_ok_iff.mp ⟨h, rfl⟩
  generalize ((c.collect patterns encoding).outcome .empty s).2.1 = j at hj hms
  have hj : j.Describes context seen := (Index.describes_empty context).addAll hj
  obtain ⟨htexts, rfl⟩ := (messages_eq_ok_iff hj hcontext).mp hms
  have hsaw : (· ∈ seen) = fun p => ∃ loc ∈ files, c.Shows s encoding loc p :=
    funext fun p => propext (mem_allSightings hseen)
  have hkeys : ((j.keys context).map (j.gathered context)).map Message.key = j.keys context := by
    rw [List.map_map]
    exact List.map_id _
  refine ⟨files, hfiles, ?_, fun key => ?_, fun m hm => ?_⟩
  · rw [hkeys, Index.keys_eq]
    exact OrderedMap.distinct _
  · rw [hkeys, hj.keys]
    simp only [mem_allSightings hseen]
    constructor
    · rintro ⟨p, ⟨loc, hloc, hp⟩, hpkey⟩
      exact ⟨loc, hloc, p, hp, hpkey⟩
    · rintro ⟨loc, hloc, p, hp, hpkey⟩
      exact ⟨p, ⟨loc, hloc, hp⟩, hpkey⟩
  · obtain ⟨key, hkey, rfl⟩ := List.mem_map.mp hm
    obtain ⟨p, hp, -⟩ := (hj.keys key).mp hkey
    obtain ⟨-, t, ht⟩ := htexts p hp
    obtain rfl : t = context := by simpa [contextName, ht] using hcontext
    exact ⟨ht, hsaw ▸ hj.gathers key⟩

end Collector

end MessageCatalog
