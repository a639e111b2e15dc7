import Mathlib
import MessageCatalog.Text.Charset
import MessageCatalog.Proofs.Failure

/-!
# Charsets: reading what was written

What is written in a charset is read from it again, and from every other one in which the bytes
stand for the same characters, such as bytes of ASCII. Whether a text can be written depends on its
characters alone.
-/

namespace MessageCatalog

lemma toList_byteArray (bytes : ByteArray) : bytes.toList = bytes.data.toList := by
  have hloop : ∀ (i : Nat) (r : List UInt8),
      ByteArray.toList.loop bytes i r = r.reverse ++ bytes.data.toList.drop i := by
    intro i r
    fun_induction ByteArray.toList.loop bytes i r with
    | case1 i r hi ih =>
      have hlt : i < bytes.data.toList.length := by simpa using hi
      have hget : bytes.get! i = bytes.data.toList[i] := by
        simp [ByteArray.get!, hi]
      rw [ih, List.drop_eq_getElem_cons hlt, hget]
      simp
    | case2 i r hi =>
      have hle : bytes.data.toList.length ≤ i := by simpa using hi
      rw [List.drop_eq_nil_of_le hle, List.append_nil]
  exact hloop 0 []

namespace Charset

/-- What is written in the first charset can be read from the second one. -/
def ReadBy (cs cs' : Charset) : Prop := cs = cs' ∨ cs = .ascii

instance (cs cs' : Charset) : Decidable (cs.ReadBy cs') :=
  inferInstanceAs (Decidable (_ ∨ _))

/-! ### Single bytes -/

/-- Each byte with a character of its own is found there, and none is a byte of ASCII. -/
lemma exceptions_spec (cs : Charset) : ∀ e ∈ cs.exceptions,
    cs.exceptions.lookup e.1 = some e.2 ∧ 0x80 ≤ e.1 ∧ e.1 < 0x100 := by
  cases cs <;> decide

lemma byteBound_spec (cs : Charset) : 0x80 ≤ cs.byteBound ∧ cs.byteBound ≤ 0x100 := by
  cases cs <;> decide

lemma toNat_toUInt8 {n : Nat} (h : n < 0x100) : n.toUInt8.toNat = n := by
  simpa using h

/-- A byte that stands for a character is read as this character. -/
lemma charOf?_of_byteOf? {cs : Charset} {c : Char} {b : UInt8} (h : cs.byteOf? c = some b) :
    cs.charOf? b.toNat = some c := by
  unfold byteOf? at h
  unfold charOf?
  split at h
  · rename_i e he
    obtain ⟨hlookup, -, hlt⟩ := cs.exceptions_spec e (List.mem_of_find?_eq_some he)
    have hcode : e.2 = some c.toNat := by simpa using List.find?_some he
    obtain rfl := Option.some.inj h
    rw [toNat_toUInt8 hlt, hlookup, hcode]
    simp
  · split at h
    · rename_i hfree
      obtain ⟨hlt, hnone⟩ := hfree
      obtain rfl := Option.some.inj h
      rw [toNat_toUInt8 (hlt.trans_le cs.byteBound_spec.2), Option.isNone_iff_eq_none.mp hnone]
      simp [hlt]
    · cases h

lemma byteOf?_ascii {c : Char} {b : UInt8} (h : byteOf? .ascii c = some b) :
    c.toNat < 0x80 ∧ b = c.toNat.toUInt8 := by
  unfold byteOf? at h
  split at h
  · rename_i e he
    exact absurd (List.mem_of_find?_eq_some he) List.not_mem_nil
  · split at h
    · rename_i hfree
      exact ⟨hfree.1, (Option.some.inj h).symm⟩
    · cases h

/-- The bytes of ASCII stand for the same characters everywhere. -/
lemma charOf?_ascii (cs : Charset) {c : Char} {b : UInt8} (h : byteOf? .ascii c = some b) :
    cs.charOf? b.toNat = some c := by
  obtain ⟨hlt, rfl⟩ := byteOf?_ascii h
  have hnone : cs.exceptions.lookup c.toNat = none := by
    rw [List.lookup_eq_none_iff]
    intro e he
    have hbound := (cs.exceptions_spec e he).2.1
    have hne : c.toNat ≠ e.1 := by omega
    simpa using hne
  rw [toNat_toUInt8 (by omega), charOf?, hnone]
  simp [hlt.trans_le cs.byteBound_spec.1]

/-! ### Texts -/

lemma mapM_option_eq_some_iff {α β : Type} {f : α → Option β} {xs : List α} {ys : List β} :
    xs.mapM f = some ys ↔ List.Forall₂ (fun x y => f x = some y) xs ys := by
  induction xs generalizing ys with
  | nil => simp [eq_comm]
  | cons x xs ih =>
    rw [List.mapM_cons, List.forall₂_cons_left_iff]
    simp only [Option.bind_eq_bind, Option.bind_eq_some_iff, Option.pure_def, Option.some.injEq, ih]
    constructor
    · rintro ⟨y, hy, ys', hys, rfl⟩
      exact ⟨y, ys', hy, hys, rfl⟩
    · rintro ⟨y, ys', hy, hys, rfl⟩
      exact ⟨y, hy, ys', hys, rfl⟩

lemma encode_eq_some_iff {cs : Charset} (h : cs ≠ .utf8) {t : Text} {bytes : ByteArray} :
    cs.encode t = some bytes ↔
      List.Forall₂ (fun c b => cs.byteOf? c = some b) t bytes.data.toList := by
  have hencode : cs.encode t = (t.mapM cs.byteOf?).map fun bs => ⟨bs.toArray⟩ := by
    cases cs with
    | utf8 => exact absurd rfl h
    | _ => rfl
  rw [hencode, Option.map_eq_some_iff, ← mapM_option_eq_some_iff]
  constructor
  · rintro ⟨bs, hbs, rfl⟩
    simpa using hbs
  · intro hbs
    exact ⟨_, hbs, by simp⟩

lemma decode_eq_some_iff {cs : Charset} (h : cs ≠ .utf8) {t : Text} {bytes : ByteArray} :
    cs.decode bytes = some t ↔
      List.Forall₂ (fun b c => cs.charOf? b.toNat = some c) bytes.data.toList t := by
  have hdecode : cs.decode bytes = bytes.toList.mapM fun b => cs.charOf? b.toNat := by
    cases cs with
    | utf8 => exact absurd rfl h
    | _ => rfl
  rw [hdecode, toList_byteArray, mapM_option_eq_some_iff]

/-- Bytes of ASCII are the UTF-8 form of their characters. -/
lemma utf8Encode_of_ascii {t : Text} {bs : List UInt8}
    (h : List.Forall₂ (fun c b => byteOf? .ascii c = some b) t bs) :
    List.utf8Encode t = ⟨bs.toArray⟩ := by
  induction h with
  | nil => rfl
  | @cons c b t bs hcb _ ih =>
    obtain ⟨hlt, rfl⟩ := byteOf?_ascii hcb
    have hsize : c.utf8Size = 1 := Char.utf8Size_eq_one_iff.mpr (by
      rw [UInt32.le_iff_toNat_le]
      exact Nat.le_of_lt_succ hlt)
    have hchar : String.utf8EncodeChar c = [c.toNat.toUInt8] :=
      String.utf8EncodeChar_eq_singleton hsize
    rw [List.utf8Encode_cons, List.utf8Encode_singleton, hchar, ih]
    ext1
    simp

/-- What is written in a charset is read from every charset that reads it. -/
theorem ReadBy.decode {cs cs' : Charset} (h : cs.ReadBy cs') {t : Text} {bytes : ByteArray}
    (hbytes : cs.encode t = some bytes) : cs'.decode bytes = some t := by
  have hutf8 : ∀ {bytes}, Charset.encode .utf8 t = some bytes →
      Charset.decode .utf8 bytes = some t := by
    intro bytes hbytes
    have hcodec := decode_encode_utf8 t
    rwa [hbytes] at hcodec
  rcases h with rfl | rfl
  · by_cases hcs : cs = .utf8
    · subst hcs
      exact hutf8 hbytes
    · rw [encode_eq_some_iff hcs] at hbytes
      rw [decode_eq_some_iff hcs]
      exact hbytes.flip.imp fun _ _ => charOf?_of_byteOf?
  · rw [encode_eq_some_iff (by decide)] at hbytes
    by_cases hcs : cs' = .utf8
    · subst hcs
      have hencode : encode .utf8 t = some (List.utf8Encode t) := rfl
      rw [utf8Encode_of_ascii hbytes] at hencode
      exact hutf8 hencode
    · rw [decode_eq_some_iff hcs]
      exact hbytes.flip.imp fun _ _ => charOf?_ascii cs'

/-- A text whose characters all stand in one that can be written can be written. -/
theorem exists_encode_of_subset {cs : Charset} {t t' : Text} {bytes : ByteArray}
    (h : cs.encode t = some bytes) (hsub : t' ⊆ t) : ∃ bytes', cs.encode t' = some bytes' := by
  by_cases hcs : cs = .utf8
  · subst hcs
    exact ⟨_, rfl⟩
  · rw [encode_eq_some_iff hcs] at h
    have hall : ∀ c ∈ t', ∃ b, cs.byteOf? c = some b := by
      intro c hc
      obtain ⟨b, -, hb⟩ := Failure.exists_of_forall₂ h.flip (hsub hc)
      exact ⟨b, hb⟩
    clear h hsub
    induction t' with
    | nil => exact ⟨⟨#[]⟩, (encode_eq_some_iff hcs).mpr List.Forall₂.nil⟩
    | cons c t' ih =>
      obtain ⟨b, hb⟩ := hall c List.mem_cons_self
      obtain ⟨bytes', hbytes'⟩ := ih fun d hd => hall d (List.mem_cons_of_mem c hd)
      rw [encode_eq_some_iff hcs] at hbytes'
      exact ⟨⟨(b :: bytes'.data.toList).toArray⟩,
        (encode_eq_some_iff hcs).mpr (List.Forall₂.cons hb (by simpa using hbytes'))⟩

/-- A text that is not empty has bytes. -/
lemma isEmpty_of_encode {cs : Charset} {t : Text} {bytes : ByteArray} (ht : t ≠ [])
    (h : cs.encode t = some bytes) : bytes.isEmpty = false := by
  have hread : cs.decode bytes = some t := ReadBy.decode (Or.inl rfl) h
  by_contra hempty
  have hsize : bytes.size = 0 := by simpa [ByteArray.isEmpty] using hempty
  obtain rfl : bytes = .empty := by simpa using hsize
  have hnone : cs.decode .empty = some [] := by cases cs <;> decide +kernel
  rw [hnone] at hread
  exact ht (Option.some.inj hread).symm

/-! ### Bytes of ASCII -/

lemma byteOf?_ascii_of_lt {cs : Charset} {c : Char} {b : UInt8} (h : cs.byteOf? c = some b)
    (hb : b.toNat < 0x80) : byteOf? .ascii c = some b := by
  unfold byteOf? at h
  split at h
  · rename_i e he
    obtain ⟨-, hle, hlt⟩ := cs.exceptions_spec e (List.mem_of_find?_eq_some he)
    obtain rfl := Option.some.inj h
    rw [toNat_toUInt8 hlt] at hb
    omega
  · split at h
    · rename_i hfree
      obtain rfl := Option.some.inj h
      rw [toNat_toUInt8 (hfree.1.trans_le cs.byteBound_spec.2)] at hb
      simp [byteOf?, exceptions, byteBound, hb]
    · cases h

/-- The UTF-8 form of a character of more than one byte has no byte of ASCII in front. -/
lemma toNat_lt_of_utf8EncodeChar {c : Char}
    (h : ∀ b ∈ String.utf8EncodeChar c, b.toNat < 0x80) : c.toNat < 0x80 := by
  by_contra hge
  have hv : ¬ c.val.toNat ≤ 127 := by
    intro hle
    exact hge (Nat.lt_succ_of_le hle)
  rw [String.utf8EncodeChar] at h
  simp only [hv, if_false] at h
  split_ifs at h
  all_goals
    have hfirst := h _ List.mem_cons_self
    rw [UInt8.toNat_ofNat'] at hfirst
    omega

lemma ascii_of_utf8Encode {t : Text} (h : ∀ b ∈ (List.utf8Encode t).data.toList, b.toNat < 0x80) :
    ∀ c ∈ t, c.toNat < 0x80 := by
  induction t with
  | nil => simp
  | cons c t ih =>
    rw [List.utf8Encode_cons, List.utf8Encode_singleton] at h
    have hbytes : ∀ b ∈ String.utf8EncodeChar c ++ (List.utf8Encode t).data.toList,
        b.toNat < 0x80 := by simpa using h
    rw [List.forall_mem_append] at hbytes
    exact List.forall_mem_cons.mpr ⟨toNat_lt_of_utf8EncodeChar hbytes.1, ih hbytes.2⟩

/-- Bytes of ASCII are written for the same text in ASCII. -/
theorem ascii_of_encode {cs : Charset} {t : Text} {bytes : ByteArray} (h : cs.encode t = some bytes)
    (hlt : ∀ b ∈ bytes.data.toList, b.toNat < 0x80) : Charset.encode .ascii t = some bytes := by
  by_cases hcs : cs = .utf8
  · subst hcs
    obtain rfl : List.utf8Encode t = bytes := Option.some.inj h
    have hall := ascii_of_utf8Encode hlt
    have hbytes : List.Forall₂ (fun c b => byteOf? .ascii c = some b) t
        (t.map fun c => c.toNat.toUInt8) := by
      rw [List.forall₂_map_right_iff, List.forall₂_same]
      intro c hc
      simp [byteOf?, exceptions, byteBound, hall c hc]
    rw [encode_eq_some_iff (by decide), utf8Encode_of_ascii hbytes]
    simpa using hbytes
  · rw [encode_eq_some_iff hcs] at h
    rw [encode_eq_some_iff (by decide)]
    generalize bytes.data.toList = bs at h hlt
    induction h with
    | nil => exact .nil
    | cons hb _ ih =>
      obtain ⟨hfirst, hrest⟩ := List.forall_mem_cons.mp hlt
      exact .cons (byteOf?_ascii_of_lt hb hfirst) (ih hrest)

/-- Both charsets have single bytes, and these bytes stand for the same characters in both. -/
def SameChars (cs cs' : Charset) (bytes : ByteArray) : Prop :=
  cs ≠ .utf8 ∧ cs' ≠ .utf8 ∧ ∀ b ∈ bytes.data.toList, cs'.charOf? b.toNat = cs.charOf? b.toNat

lemma SameChars.decode {cs cs' : Charset} {bytes : ByteArray} (h : cs.SameChars cs' bytes)
    {t : Text} (hbytes : cs.encode t = some bytes) : cs'.decode bytes = some t := by
  obtain ⟨hcs, hcs', hsame⟩ := h
  rw [encode_eq_some_iff hcs] at hbytes
  rw [decode_eq_some_iff hcs']
  generalize bytes.data.toList = bs at hbytes hsame
  induction hbytes with
  | nil => exact .nil
  | cons hb _ ih =>
    obtain ⟨hfirst, hrest⟩ := List.forall_mem_cons.mp hsame
    exact .cons (hfirst.trans (charOf?_of_byteOf? hb)) (ih hrest)

/-- The bytes that were written in the first charset are read from the second one. -/
def Rereads (cs cs' : Charset) (bytes : ByteArray) : Prop :=
  cs.ReadBy cs' ∨ (∀ b ∈ bytes.data.toList, b.toNat < 0x80) ∨ cs.SameChars cs' bytes

/-! ### Names of charsets -/

lemma encodeNamed_eq_ok_iff {name t : Text} {bytes : ByteArray} :
    encodeNamed name t = .ok bytes ↔ ∃ cs, ofName name = .ok cs ∧ cs.encode t = some bytes := by
  rw [encodeNamed, Failure.bind_eq_ok_iff]
  refine exists_congr fun cs => and_congr_right fun _ => ?_
  cases cs.encode t with
  | none =>
    constructor
    · intro h
      cases h
    · intro h
      cases h
  | some bytes' => exact Failure.pure_eq_ok_iff.trans Option.some_inj.symm

/-- A text is read by the name of a charset that reads what was written. -/
lemma decodeNamed_of_decode {name t : Text} {bytes : ByteArray} {cs : Charset}
    (hname : ofName name = .ok cs) (hbytes : bytes.isEmpty = false)
    (hread : cs.decode bytes = some t) : decodeNamed name bytes = .ok t := by
  rw [decodeNamed, hbytes, hname]
  simp only [bind, Except.bind, hread]
  rfl

/-- Names of one charset mean the same bytes. -/
lemma rereads_of_ofName {name name' : Text} {cs : Charset} (h : ofName name = .ok cs)
    (h' : ofName name' = .ok cs) (bytes : ByteArray) (written read : Charset)
    (hwritten : ofName name = .ok written) (hread : ofName name' = .ok read) :
    written.Rereads read bytes := by
  obtain rfl := Except.ok.inj (h.symm.trans hwritten)
  obtain rfl := Except.ok.inj (h'.symm.trans hread)
  exact Or.inl (Or.inl rfl)

/-- A text that is written in a charset is read by the name of one that reads its bytes. -/
theorem Rereads.decodeNamed {cs cs' : Charset} {bytes : ByteArray} (h : cs.Rereads cs' bytes)
    {name t : Text} (hname : ofName name = .ok cs') (ht : t ≠ [])
    (hbytes : cs.encode t = some bytes) : Charset.decodeNamed name bytes = .ok t := by
  refine decodeNamed_of_decode hname (isEmpty_of_encode ht hbytes) ?_
  rcases h with hread | hascii | hsame
  · exact hread.decode hbytes
  · exact ReadBy.decode (Or.inr rfl) (ascii_of_encode hbytes hascii)
  · exact hsame.decode hbytes

end Charset

end MessageCatalog
