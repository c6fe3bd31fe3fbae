/-!
# Byte offsets

Positions in a text are offsets in bytes of its UTF-8 form. A text is a list of characters, so an
offset is a sum of character sizes, and the offsets that fall between two characters are exactly
those at which `splitAtOffset?` succeeds.

* `splitAtOffset?_byteLength`: splitting after a known first part gives that part back.
* `append_of_splitAtOffset?`: a split loses nothing and its first part has the length asked for.
* `isBoundary_eq_isSome`: the test for such an offset agrees with the split.
-/

namespace MarkupGate

/-- The number of bytes of a text in UTF-8. -/
def byteLength : List Char → Nat
  | [] => 0
  | c :: cs => c.utf8Size + byteLength cs

@[simp] theorem byteLength_nil : byteLength [] = 0 := rfl

@[simp] theorem byteLength_cons (c : Char) (cs : List Char) :
    byteLength (c :: cs) = c.utf8Size + byteLength cs := rfl

@[simp] theorem byteLength_append (s t : List Char) :
    byteLength (s ++ t) = byteLength s + byteLength t := by
  induction s with
  | nil => simp
  | cons c cs ih => simp [ih, Nat.add_assoc]

/-- The parts of a text before and after a byte offset; nothing when the offset lies inside a
character or past the end. -/
def splitAtOffset? : Nat → List Char → Option (List Char × List Char)
  | 0, s => some ([], s)
  | _ + 1, [] => none
  | n + 1, c :: cs =>
    if c.utf8Size ≤ n + 1 then
      (splitAtOffset? (n + 1 - c.utf8Size) cs).map fun (before, after) => (c :: before, after)
    else none

theorem splitAtOffset?_byteLength (s t : List Char) :
    splitAtOffset? (byteLength s) (s ++ t) = some (s, t) := by
  induction s with
  | nil => simp [splitAtOffset?]
  | cons c cs ih =>
    obtain ⟨n, hn⟩ : ∃ n, c.utf8Size + byteLength cs = n + 1 :=
      ⟨c.utf8Size + byteLength cs - 1, by have := c.utf8Size_pos; omega⟩
    have hle : c.utf8Size ≤ n + 1 := by omega
    have hsub : n + 1 - c.utf8Size = byteLength cs := by omega
    simp [hn, splitAtOffset?, hle, hsub, ih]

theorem append_of_splitAtOffset? {n : Nat} {s before after : List Char}
    (h : splitAtOffset? n s = some (before, after)) :
    before ++ after = s ∧ byteLength before = n := by
  induction s generalizing n before with
  | nil => cases n <;> simp_all [splitAtOffset?]
  | cons c cs ih =>
    cases n with
    | zero => simp_all [splitAtOffset?]
    | succ n =>
      by_cases hle : c.utf8Size ≤ n + 1
      · simp only [splitAtOffset?, hle, if_true, Option.map_eq_some_iff] at h
        obtain ⟨⟨b, a⟩, hba, heq⟩ := h
        cases heq
        obtain ⟨hs, hl⟩ := ih hba
        refine ⟨by simp [hs], ?_⟩
        simp [hl]
        omega
      · simp [splitAtOffset?, hle] at h

/-- Whether an offset falls between two characters of a text, or at one of its ends. -/
def isBoundary : List Char → Nat → Bool
  | _, 0 => true
  | [], _ + 1 => false
  | c :: cs, n + 1 => c.utf8Size ≤ n + 1 && isBoundary cs (n + 1 - c.utf8Size)

theorem isBoundary_eq_isSome (s : List Char) (n : Nat) :
    isBoundary s n = (splitAtOffset? n s).isSome := by
  induction s generalizing n with
  | nil => cases n <;> rfl
  | cons c cs ih =>
    cases n with
    | zero => rfl
    | succ n => by_cases h : c.utf8Size ≤ n + 1 <;> simp [isBoundary, splitAtOffset?, h, ih]

/-- A half-open range of byte offsets. -/
structure Span where
  /-- the offset of its first byte -/
  start : Nat
  /-- the offset just past its last byte -/
  stop : Nat
  deriving DecidableEq, Repr

namespace Span

/-- Whether an offset lies in the range. -/
def contains (r : Span) (offset : Nat) : Bool := r.start ≤ offset && offset < r.stop

/-- The range of `text` when it begins at `start`. -/
def ofText (start : Nat) (text : List Char) : Span := ⟨start, start + byteLength text⟩

end Span

end MarkupGate
