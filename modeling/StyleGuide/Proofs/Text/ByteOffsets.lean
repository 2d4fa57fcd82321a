import Mathlib.Data.List.Basic

/-!
# Texts at byte offsets

A text can be read byte by byte and cut at byte offsets. Both may be impossible: there is no byte behind
the last one, and a text is only cut between its characters. `At s i cs` says that an offset stands
between characters and which of them are behind it; `Stands s i cs` allows for the middle of a character
as well, and for what is behind the text, so that every offset stands somewhere. The first byte of a
character tells whether it is a given ASCII character, and no other byte of a character looks like one.
-/

namespace StyleGuide.Text

/-- What cannot be done with offsets. -/
inductive OffsetFault where
  /-- There is no byte at the offset. -/
  | noByte (offset : Nat)
  /-- The offsets are no boundaries of characters, or come in the wrong order. -/
  | noSlice (start stop : Nat)
  /-- A count would fall below zero. -/
  | underflow
deriving DecidableEq, Repr

def bytes (s : String) : List UInt8 :=
  s.toByteArray.data.toList

def byteAt (s : String) (i : Nat) : Except OffsetFault UInt8 :=
  match (bytes s)[i]? with
  | some b => .ok b
  | none => .error (.noByte i)

def IsBoundary (s : String) (i : Nat) : Prop :=
  String.Pos.Raw.IsValid s ⟨i⟩

instance (s : String) (i : Nat) : Decidable (IsBoundary s i) :=
  inferInstanceAs (Decidable (String.Pos.Raw.IsValid s ⟨i⟩))

def slice (s : String) (start stop : Nat) : Except OffsetFault String :=
  if h : IsBoundary s start ∧ IsBoundary s stop ∧ start ≤ stop then
    .ok (s.extract ⟨⟨start⟩, h.1⟩ ⟨⟨stop⟩, h.2.1⟩)
  else .error (.noSlice start stop)

def decrement : Nat → Except OffsetFault Nat
  | 0 => .error .underflow
  | n + 1 => .ok n

/-- At the offset the characters `cs` are left of the text. -/
def At (s : String) (i : Nat) (cs : List Char) : Prop :=
  ∃ before : String, s = before ++ String.ofList cs ∧ i = before.utf8ByteSize

/-- Where a reader of bytes can stand that has the characters `cs` still to read: before them, inside
the character before them, or, with none to read, behind the text. -/
inductive Stands (s : String) : Nat → List Char → Prop
  | before {i cs} (h : At s i cs) : Stands s i cs
  | inside {i c cs k} (h : At s i (c :: cs)) (hk : k + 1 < c.utf8Size) : Stands s (i + (k + 1)) cs
  | behind {i} (h : s.utf8ByteSize ≤ i) : Stands s i []

variable {s : String} {i : Nat} {c : Char} {cs read : List Char}

/-! ## Bytes of characters -/

theorem length_bytes (s : String) : (bytes s).length = s.utf8ByteSize := by
  rw [bytes, Array.length_toList]
  exact String.size_toByteArray

theorem lt_size_of_byteAt {b : UInt8} (h : byteAt s i = .ok b) : i < s.utf8ByteSize := by
  rw [byteAt] at h
  split at h
  · next hbyte =>
    rw [← length_bytes]
    exact (List.getElem?_eq_some_iff.mp hbyte).1
  · cases h

theorem bytes_append (s t : String) : bytes (s ++ t) = bytes s ++ bytes t := by
  rw [bytes, String.toByteArray_append, ByteArray.data_append, Array.toList_append]
  rfl

theorem bytes_ofList (cs : List Char) :
    bytes (String.ofList cs) = cs.flatMap String.utf8EncodeChar := by
  rw [bytes, String.toByteArray_ofList, List.utf8Encode, List.toList_data_toByteArray]

theorem size_cons (c : Char) (cs : List Char) :
    (String.ofList (c :: cs)).utf8ByteSize = c.utf8Size + (String.ofList cs).utf8ByteSize := by
  rw [String.ofList_cons, String.utf8ByteSize_append, String.utf8ByteSize_singleton]

theorem size_eq_zero : (String.ofList cs).utf8ByteSize = 0 ↔ cs = [] := by
  rw [String.utf8ByteSize_eq_zero_iff, String.ofList_eq_empty_iff]

theorem utf8Size_of_ascii (h : c.toNat < 128) : c.utf8Size = 1 := by
  rw [Char.utf8Size_eq_one_iff, UInt32.le_iff_toNat_le]
  exact Nat.le_of_lt_succ h

theorem utf8EncodeChar_of_ascii (h : c.toNat < 128) : String.utf8EncodeChar c = [c.toUInt8] := by
  rw [String.utf8EncodeChar_eq_singleton (utf8Size_of_ascii h), Char.toUInt8_val]

/-- The bytes of a character that is not ASCII are not ASCII. -/
theorem le_of_mem_utf8EncodeChar (h : 128 ≤ c.toNat) :
    ∀ b ∈ String.utf8EncodeChar c, 128 ≤ b.toNat := by
  have hwide : ¬ c.toNat ≤ 127 := Nat.not_le.mpr h
  simp only [String.utf8EncodeChar, Char.toNat_val, hwide, if_false]
  split_ifs <;>
    simp only [List.forall_mem_cons, UInt8.toNat_ofNat', List.not_mem_nil, false_imp_iff,
      implies_true, and_true] <;>
    omega

theorem toNat_toUInt8 (h : c.toNat < 128) : c.toUInt8.toNat = c.toNat := by
  rw [← Char.toUInt8_val, UInt32.toNat_toUInt8, Char.toNat_val]
  omega

/-- No byte of a character that is not ASCII looks like an ASCII character. -/
theorem ne_toUInt8 {b : UInt8} (hb : 128 ≤ b.toNat) {x : Char} (hx : x.toNat < 128) :
    b ≠ x.toUInt8 := by
  rintro rfl
  rw [toNat_toUInt8 hx] at hb
  omega

/-- The first byte of a character shows whether it is a given ASCII character, and the others are
not ASCII. -/
theorem exists_utf8EncodeChar (c : Char) :
    ∃ b more, String.utf8EncodeChar c = b :: more ∧ (∀ m ∈ more, 128 ≤ m.toNat) ∧
      ∀ x : Char, x.toNat < 128 → (b = x.toUInt8 ↔ c = x) := by
  rcases Nat.lt_or_ge c.toNat 128 with hc | hc
  · refine ⟨c.toUInt8, [], utf8EncodeChar_of_ascii hc, by simp, fun x hx ↦ ?_⟩
    rw [← UInt8.toNat_inj, toNat_toUInt8 hc, toNat_toUInt8 hx, Char.toNat_inj]
  · obtain ⟨b, more, hbytes⟩ : ∃ b more, String.utf8EncodeChar c = b :: more := by
      apply List.exists_cons_of_ne_nil
      rw [← List.length_pos_iff, String.length_utf8EncodeChar]
      exact c.utf8Size_pos
    have hwide := le_of_mem_utf8EncodeChar hc
    rw [hbytes, List.forall_mem_cons] at hwide
    refine ⟨b, more, hbytes, hwide.2, fun x hx ↦ ⟨fun hb ↦ ?_, ?_⟩⟩
    · exact absurd hb (ne_toUInt8 hwide.1 hx)
    · rintro rfl
      omega

/-! ## Where characters begin -/

theorem at_ofList (cs : List Char) : At (String.ofList cs) 0 cs :=
  ⟨"", String.empty_append.symm, rfl⟩

theorem at_start (s : String) : At s 0 s.toList :=
  ⟨"", by rw [String.ofList_toList, String.empty_append], rfl⟩

theorem at_end (s : String) : At s s.utf8ByteSize [] :=
  ⟨s, by rw [String.ofList_nil, String.append_empty], rfl⟩

namespace At

theorem behind (h : At s i (read ++ cs)) : At s (i + (String.ofList read).utf8ByteSize) cs := by
  obtain ⟨before, rfl, rfl⟩ := h
  refine ⟨before ++ String.ofList read, ?_, String.utf8ByteSize_append.symm⟩
  rw [String.ofList_append, String.append_assoc]

theorem next (h : At s i (c :: cs)) : At s (i + c.utf8Size) cs := by
  have hread : At s i ([c] ++ cs) := h
  simpa using hread.behind

theorem size_eq (h : At s i cs) : i + (String.ofList cs).utf8ByteSize = s.utf8ByteSize := by
  obtain ⟨before, rfl, rfl⟩ := h
  exact String.utf8ByteSize_append.symm

theorem eq_size (h : At s i []) : i = s.utf8ByteSize :=
  h.size_eq

theorem offset_eq {j : Nat} (h : At s i cs) (h' : At s j cs) : i = j :=
  Nat.add_right_cancel (h.size_eq.trans h'.size_eq.symm)

theorem lt_size (h : At s i (c :: cs)) : i < s.utf8ByteSize := by
  have hsize := h.size_eq
  rw [size_cons] at hsize
  have hpos := c.utf8Size_pos
  omega

theorem isBoundary (h : At s i cs) : IsBoundary s i := by
  obtain ⟨before, rfl, rfl⟩ := h
  exact String.Pos.Raw.isValid_iff_exists_append.mpr ⟨before, String.ofList cs, rfl, rfl⟩

theorem extract_toByteArray (h : At s i (read ++ cs)) :
    s.toByteArray.extract i (i + (String.ofList read).utf8ByteSize) =
      (String.ofList read).toByteArray := by
  obtain ⟨before, rfl, rfl⟩ := h
  rw [String.ofList_append, String.toByteArray_append, String.toByteArray_append]
  simp only [← String.size_toByteArray]
  nth_rewrite 1 [← Nat.add_zero before.toByteArray.size]
  rw [ByteArray.extract_append_size_add, ByteArray.extract_append_eq_left rfl]

theorem slice_eq (h : At s i (read ++ cs)) :
    slice s i (i + (String.ofList read).utf8ByteSize) = .ok (String.ofList read) := by
  have hbounds : IsBoundary s i ∧ IsBoundary s (i + (String.ofList read).utf8ByteSize) ∧
      i ≤ i + (String.ofList read).utf8ByteSize :=
    ⟨h.isBoundary, h.behind.isBoundary, Nat.le_add_right ..⟩
  rw [slice, dif_pos hbounds]
  congr 1
  exact String.toByteArray_inj.mp (String.toByteArray_extract.trans h.extract_toByteArray)

theorem slice_rest (h : At s i cs) : slice s i s.utf8ByteSize = .ok (String.ofList cs) := by
  have hread : At s i (cs ++ []) := by rwa [List.append_nil]
  rw [← h.size_eq]
  exact hread.slice_eq

theorem drop_bytes (h : At s i cs) : (bytes s).drop i = cs.flatMap String.utf8EncodeChar := by
  obtain ⟨before, rfl, rfl⟩ := h
  rw [bytes_append, bytes_ofList, ← length_bytes, List.drop_left]

/-- At a character there is a byte, and it shows whether the character is a given ASCII one. -/
theorem exists_byteAt (h : At s i (c :: cs)) :
    ∃ b, byteAt s i = .ok b ∧ ∀ x : Char, x.toNat < 128 → (b = x.toUInt8 ↔ c = x) := by
  obtain ⟨b, more, hbytes, -, hb⟩ := exists_utf8EncodeChar c
  refine ⟨b, ?_, hb⟩
  rw [byteAt, ← Nat.add_zero i, ← List.getElem?_drop, h.drop_bytes, List.flatMap_cons, hbytes]
  rfl

/-- A given ASCII character is looked for by its byte. -/
theorem getElem?_bytes_eq_iff (h : At s i cs) {x : Char} (hx : x.toNat < 128) :
    (bytes s)[i]? = some x.toUInt8 ↔ cs.head? = some x := by
  rw [← Nat.add_zero i, ← List.getElem?_drop, h.drop_bytes]
  cases cs with
  | nil => simp
  | cons c cs =>
    obtain ⟨b, more, hbytes, -, hb⟩ := exists_utf8EncodeChar c
    rw [List.flatMap_cons, hbytes]
    simpa using hb x hx

/-- Behind the first byte of a character come its other bytes, none of them ASCII. -/
theorem exists_byteAt_inside (h : At s i (c :: cs)) {k : Nat} (hk : k + 1 < c.utf8Size) :
    ∃ b, byteAt s (i + (k + 1)) = .ok b ∧ 128 ≤ b.toNat := by
  obtain ⟨b, more, hbytes, hwide, -⟩ := exists_utf8EncodeChar c
  rw [← String.length_utf8EncodeChar, hbytes, List.length_cons] at hk
  have hk : k < more.length := Nat.lt_of_succ_lt_succ hk
  refine ⟨more[k], ?_, hwide _ (List.getElem_mem hk)⟩
  rw [byteAt, ← List.getElem?_drop, h.drop_bytes, List.flatMap_cons, hbytes, List.cons_append,
    List.getElem?_cons_succ, List.getElem?_append_left hk, List.getElem?_eq_getElem hk]

end At

namespace Stands

/-- A reader that has passed a byte of a character has the characters behind it still to read. -/
theorem passed (h : At s i (c :: cs)) {k : Nat} (hk : k < c.utf8Size) :
    Stands s (i + (k + 1)) cs := by
  rcases Nat.lt_or_eq_of_le (Nat.succ_le_of_lt hk) with hlt | heq
  · exact .inside h hlt
  · rw [← Nat.succ_eq_add_one, heq]
    exact .before h.next

theorem next (h : At s i (c :: cs)) : Stands s (i + 1) cs :=
  passed h c.utf8Size_pos

/-- A reader that goes on by two bytes passes a character and some of the one behind it. -/
theorem next_two (h : At s i (c :: cs)) (hc : c.utf8Size = 1) : Stands s (i + 2) (cs.drop 1) := by
  have hnext : At s (i + 1) cs := hc ▸ h.next
  cases cs with
  | nil => exact .behind (hnext.eq_size ▸ Nat.le_succ _)
  | cons d cs => exact next hnext

theorem eq_nil (h : Stands s i cs) (hend : s.utf8ByteSize ≤ i) : cs = [] := by
  cases h with
  | before h =>
    cases cs with
    | nil => rfl
    | cons c cs => exact absurd h.lt_size (Nat.not_lt.mpr hend)
  | inside h hk =>
    have hsize := h.next.size_eq
    omega
  | behind => rfl

theorem of_at (h : At s i cs) {j : Nat} (hij : i ≤ j) : ∃ after, Stands s j after := by
  induction cs generalizing i with
  | nil => exact ⟨[], .behind (h.eq_size ▸ hij)⟩
  | cons c cs ih =>
    rcases Nat.lt_or_ge j (i + c.utf8Size) with hlt | hle
    · obtain ⟨k, rfl⟩ := Nat.exists_eq_add_of_le hij
      cases k with
      | zero => exact ⟨c :: cs, .before h⟩
      | succ k => exact ⟨cs, .inside h (Nat.lt_of_add_lt_add_left hlt)⟩
    · exact ih h.next hle

end Stands

/-- Every offset is one at which a reader of bytes can stand. -/
theorem exists_stands (s : String) (i : Nat) : ∃ cs, Stands s i cs :=
  Stands.of_at (at_start s) (Nat.zero_le i)

/-- An ASCII byte is a character of its own. -/
theorem exists_at_of_byteAt {x : Char} (hx : x.toNat < 128) (h : byteAt s i = .ok x.toUInt8) :
    ∃ cs, At s i (x :: cs) := by
  obtain ⟨cs, hstands⟩ := exists_stands s i
  cases hstands with
  | behind hend => exact absurd (lt_size_of_byteAt h) (Nat.not_lt.mpr hend)
  | inside hat hk =>
    obtain ⟨b, hbyte, hb⟩ := hat.exists_byteAt_inside hk
    exact absurd (Except.ok.inj (hbyte.symm.trans h)) (ne_toUInt8 hb hx)
  | before hat =>
    cases cs with
    | nil => exact absurd (lt_size_of_byteAt h) (Nat.not_lt.mpr (Nat.le_of_eq hat.eq_size.symm))
    | cons c cs =>
      obtain ⟨b, hbyte, hb⟩ := hat.exists_byteAt
      obtain rfl := (hb x hx).mp (Except.ok.inj (hbyte.symm.trans h))
      exact ⟨cs, hat⟩

end StyleGuide.Text
