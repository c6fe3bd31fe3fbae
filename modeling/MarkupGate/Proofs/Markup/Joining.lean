import MarkupGate.Proofs.Markup.Order

/-!
# Reading joined texts

Behind a tag that opens no opaque content, a text is read as if nothing stood in front of it: the
pieces of the whole are those of the front and those of the back. What the tokens of the back say
stays the same, and all their places move by the length of the front.

* `lex_append`: behind a definite piece the pieces of two texts are joined.
* `Tokens.ofLocated_append_shift`: the inventory of pieces and of others moved behind them.
* `tokenize_append`: the inventory of two texts, where the first ends in a tag.
-/

namespace MarkupGate

/-! ## Pieces of joined texts -/

/-- Lists of pieces can be joined behind a definite piece. -/
theorem Spelled.append {ps qs : List Piece} (hps : Spelled ps) (hqs : Spelled qs)
    (hlast : ∀ p ∈ ps.getLast?, p.isDefinite) : Spelled (ps ++ qs) := by
  induction ps with
  | nil => exact hqs
  | cons p ps ih =>
    obtain ⟨hread, hspelled⟩ := hps
    cases ps with
    | nil => exact ⟨hread.of_isDefinite (hlast p rfl) _, hqs⟩
    | cons q ps =>
      have hrest := ih hspelled (by simpa using hlast)
      refine ⟨hread.congr ?_, hrest⟩
      exact SameFront.of_readsBefore hspelled.1 hrest.1

/-- Behind a definite piece, what follows is cut as it would be on its own. -/
theorem lex_append {a : List Char} (b : List Char) (hlast : ∀ p ∈ (lex a).getLast?, p.isDefinite) :
    lex (a ++ b) = lex a ++ lex b := by
  have h := ((spelled_lex a).append (spelled_lex b) hlast).lex_eq
  rwa [List.flatMap_append, flatMap_source_lex, flatMap_source_lex] at h

/-! ## Moving -/

/-- The range moved on by some bytes. -/
def Span.shift (n : Nat) (r : Span) : Span := ⟨n + r.start, n + r.stop⟩

/-- The item moved on by some bytes. -/
def Located.shift {α : Type} (n : Nat) (x : Located α) : Located α := ⟨n + x.start, x.item⟩

/-- The attribute moved on by some bytes. -/
def Attr.shift (n : Nat) (a : Attr) : Attr :=
  { a with
    nameEnd := n + a.nameEnd
    value := a.value.map fun v => { v with start := n + v.start } }

/-- The tag moved on by some bytes. -/
def Tag.shift (n : Nat) (t : Tag) : Tag :=
  { t with
    start := n + t.start
    stop := n + t.stop
    nameEnd := n + t.nameEnd
    attrs := t.attrs.map (Attr.shift n) }

/-- The run of text moved on by some bytes. -/
def TextRun.shift (n : Nat) (r : TextRun) : TextRun := { r with start := n + r.start }

/-- The body moved on by some bytes and behind some tags. -/
def RawBlock.shift (n tags : Nat) (b : RawBlock) : RawBlock :=
  { b with tag := tags + b.tag, start := n + b.start }

theorem locate_add {α : Type} (written : α → List Char) (n start : Nat) (xs : List α) :
    locate written (n + start) xs = (locate written start xs).map (Located.shift n) := by
  induction xs generalizing start with
  | nil => rfl
  | cons x xs ih => simp [locate, Located.shift, Nat.add_assoc, ih]

theorem WrittenAttr.place_add (a : WrittenAttr) (n start : Nat) :
    a.place (n + start) = (a.place start).shift n := by
  cases h : a.value <;> simp [place, Attr.shift, h, Nat.add_assoc]

theorem OpenTag.place_add (t : OpenTag) (n start : Nat) :
    t.place (n + start) = (t.place start).shift n := by
  have hattr : ∀ p : Located TagPart,
      TagPart.attr? (p.shift n) = (TagPart.attr? p).map (Attr.shift n) := by
    rintro ⟨start, _ | a⟩
    · rfl
    · exact congrArg some (a.place_add n start)
  have hattrs : (locate TagPart.source (n + (start + 1 + byteLength t.name)) t.parts).filterMap
        TagPart.attr?
      = ((locate TagPart.source (start + 1 + byteLength t.name) t.parts).filterMap
        TagPart.attr?).map (Attr.shift n) := by
    rw [locate_add, List.filterMap_map, List.map_filterMap]
    exact List.filterMap_congr fun p _ => hattr p
  rw [place, place, Tag.shift, ← hattrs]
  simp only [Nat.add_assoc]

namespace Piece

theorem tag?_shift (n : Nat) (p : Located Piece) :
    tag? (p.shift n) = (tag? p).map (Tag.shift n) := by
  obtain ⟨start, item⟩ := p
  cases item with
  | openTag t content => exact congrArg some (t.place_add n start)
  | closeTag name trailing => simp [tag?, Located.shift, Tag.shift, Nat.add_assoc]
  | _ => rfl

theorem text?_shift (n : Nat) (p : Located Piece) :
    text? (p.shift n) = (text? p).map (TextRun.shift n) := by
  obtain ⟨start, item⟩ := p
  cases item with
  | openTag t content =>
    by_cases h : t.opensTextOnly && !content.isEmpty <;>
      simp [text?, Located.shift, TextRun.shift, Nat.add_assoc, h]
  | _ => rfl

theorem raw?_shift (n tags i : Nat) (p : Located Piece) :
    raw? (p.shift n) (tags + i) = (raw? p i).map (RawBlock.shift n tags) := by
  obtain ⟨start, item⟩ := p
  cases item with
  | openTag t content =>
    by_cases h : t.opensRaw <;> simp [raw?, Located.shift, RawBlock.shift, Nat.add_assoc, h]
  | _ => rfl

end Piece

/-! ## The inventory of joined pieces -/

namespace Tokens

/-- The bodies of code among pieces that begin behind some tags. -/
def rawFrom (tags : Nat) (pieces : List (Located Piece)) : List RawBlock :=
  ((pieces.filter fun p => (Piece.tag? p).isSome).zipIdx tags).filterMap fun x =>
    Piece.raw? x.1 x.2

theorem rawFrom_add (n tags i : Nat) (pieces : List (Located Piece)) :
    rawFrom (tags + i) (pieces.map (Located.shift n))
      = (rawFrom i pieces).map (RawBlock.shift n tags) := by
  induction pieces generalizing i with
  | nil => rfl
  | cons p pieces ih =>
    cases ht : Piece.tag? p with
    | none =>
      have ht' : Piece.tag? (p.shift n) = none := by rw [Piece.tag?_shift, ht]; rfl
      simpa [rawFrom, ht, ht'] using ih i
    | some t =>
      have ht' : Piece.tag? (p.shift n) = some (t.shift n) := by rw [Piece.tag?_shift, ht]; rfl
      have hrest := ih (i + 1)
      rw [← Nat.add_assoc] at hrest
      simp only [rawFrom] at hrest
      cases hr : Piece.raw? p i <;>
        simp [rawFrom, ht, ht', Piece.raw?_shift, hr, hrest]

theorem rawFrom_append (tags : Nat) (ps qs : List (Located Piece)) :
    rawFrom tags (ps ++ qs)
      = rawFrom tags ps ++ rawFrom (tags + (ps.filterMap Piece.tag?).length) qs := by
  have hlength : (ps.filter fun p => (Piece.tag? p).isSome).length
      = (ps.filterMap Piece.tag?).length := by
    rw [List.length_filterMap_eq_countP, List.countP_eq_length_filter]
  rw [rawFrom, List.filter_append, List.zipIdx_append, List.filterMap_append, hlength]
  rfl

/-- The inventory behind some bytes and some tags. -/
def shift (n tags : Nat) (u : Tokens) : Tokens where
  doctype := u.doctype.map (Span.shift n)
  tags := u.tags.map (Tag.shift n)
  text := u.text.map (TextRun.shift n)
  raw := u.raw.map (RawBlock.shift n tags)

/-- Two inventories joined: only the first document type counts. -/
def append (t u : Tokens) : Tokens where
  doctype := t.doctype.or u.doctype
  tags := t.tags ++ u.tags
  text := t.text ++ u.text
  raw := t.raw ++ u.raw

/-- The inventory of pieces and of others that are moved behind them. -/
theorem ofLocated_append_shift (n : Nat) (ps qs : List (Located Piece)) :
    ofLocated (ps ++ qs.map (Located.shift n))
      = (ofLocated ps).append ((ofLocated qs).shift n (ofLocated ps).tags.length) := by
  have hdoctype : ∀ o : Option (Located Piece),
      (o.map (Located.shift n)).map (fun p => Span.ofText p.start p.item.source)
        = (o.map fun p => Span.ofText p.start p.item.source).map (Span.shift n) := by
    rintro (_ | p)
    · rfl
    · simp [Located.shift, Span.ofText, Span.shift, Nat.add_assoc]
  have hfind : (qs.map (Located.shift n)).find? (fun p => p.item.isDoctype)
      = (qs.find? fun p => p.item.isDoctype).map (Located.shift n) := by
    rw [List.find?_map]
    rfl
  have hraw : rawFrom 0 (ps ++ qs.map (Located.shift n))
      = rawFrom 0 ps ++ (rawFrom 0 qs).map (RawBlock.shift n (ps.filterMap Piece.tag?).length) := by
    rw [rawFrom_append, Nat.zero_add, ← rawFrom_add, Nat.add_zero]
  have htags : (qs.map (Located.shift n)).filterMap Piece.tag?
      = (qs.filterMap Piece.tag?).map (Tag.shift n) := by
    rw [List.filterMap_map, List.map_filterMap]
    exact List.filterMap_congr fun p _ => Piece.tag?_shift n p
  have htext : (qs.map (Located.shift n)).filterMap Piece.text?
      = (qs.filterMap Piece.text?).map (TextRun.shift n) := by
    rw [List.filterMap_map, List.map_filterMap]
    exact List.filterMap_congr fun p _ => Piece.text?_shift n p
  rw [ofLocated, append, shift]
  congr 1
  · rw [List.find?_append, Option.map_or, hfind, hdoctype]
    rfl
  · rw [List.filterMap_append, htags]
    rfl
  · rw [List.filterMap_append, htext]
    rfl

end Tokens

/-! ## Texts that end in a tag -/

/-- A text that ends in a tag ends in its piece, which is definite unless the tag opens an opaque
element. -/
theorem isDefinite_of_tag_at_end {a : List Char} {t : Tag} (ht : t ∈ (tokenize a).tags)
    (hend : t.stop = byteLength a)
    (hopen : t.kind = .opening → t.selfClosing = false → isOpaqueName t.name = false) :
    ∀ p ∈ (lex a).getLast?, p.isDefinite := by
  have hpieces : InOrder (locate Piece.source 0 (lex a)) 0 (byteLength a) := Document.inOrder a
  obtain ⟨p, hp, hpt⟩ := List.mem_filterMap.1 ht
  obtain ⟨before, behind, hsplit⟩ := List.append_of_mem hp
  obtain ⟨-, hlt, hle⟩ := Piece.tag?_range hpt
  have hpstop := hpieces.stop_le p hp
  -- Nothing can stand behind the end of the text.
  have hnil : behind = [] := by
    apply List.eq_nil_iff_forall_not_mem.2
    intro q hq
    have hqmem : q ∈ locate Piece.source 0 (lex a) := by simp [hsplit, hq]
    have hbehind := (hsplit ▸ hpieces).before_behind.2 q hq
    have := hpieces.start_lt_stop hqmem
    have := hpieces.stop_le q hqmem
    omega
  have hlex : (lex a).getLast? = some p.item := by
    rw [← map_item_locate Piece.source 0 (lex a), hsplit, hnil]
    simp
  rw [hlex]
  rintro _ ⟨⟩
  obtain ⟨start, item⟩ := p
  cases item with
  | openTag u content =>
    cases hpt
    rw [Piece.isDefinite, Bool.not_eq_true', Bool.eq_false_iff]
    intro hopens
    obtain ⟨hself, hname⟩ := opensOpaque_iff.1 hopens
    have := hopen rfl hself
    simp [OpenTag.place, hname] at this
  | closeTag name trailing => rfl
  | _ => cases hpt

/-- Behind a tag that opens no opaque element a text is read as if it stood alone: the inventory of
the whole is that of the front, and behind it that of the back, moved by the length of the front. -/
theorem tokenize_append {a : List Char} {t : Tag} (hlast : (tokenize a).tags.getLast? = some t)
    (hend : t.stop = byteLength a)
    (hopen : t.kind = .opening → t.selfClosing = false → isOpaqueName t.name = false)
    (b : List Char) :
    tokenize (a ++ b)
      = (tokenize a).append ((tokenize b).shift (byteLength a) (tokenize a).tags.length) := by
  have hdefinite := isDefinite_of_tag_at_end (List.mem_of_getLast? hlast) hend hopen
  have hplace : locate Piece.source 0 (lex (a ++ b))
      = locate Piece.source 0 (lex a)
        ++ (locate Piece.source 0 (lex b)).map (Located.shift (byteLength a)) := by
    rw [lex_append b hdefinite, locate_append, flatMap_source_lex, Nat.zero_add, ← locate_add,
      Nat.add_zero]
  rw [tokenize, hplace, Tokens.ofLocated_append_shift]
  rfl

/-- A title with a letter of two bytes, and a `head` tag. -/
def titledHead : List Char := "<!doctype html><title>é</title><head>".toList

/-- A second document type does not count behind `titledHead`, and a style has the fourth tag. -/
theorem tokenize_append_titledHead :
    (tokenize titledHead).tags.getLast?
        = some ⟨"head".toList, .opening, 32, byteLength titledHead, 37, false, []⟩
      ∧ tokenize (titledHead ++ "é<!doctype x><style>a</style>".toList)
        = (tokenize titledHead).append ((tokenize "é<!doctype x><style>a</style>".toList).shift
          (byteLength titledHead) (tokenize titledHead).tags.length)
      ∧ (tokenize (titledHead ++ "é<!doctype x><style>a</style>".toList)).doctype = some ⟨0, 15⟩
      ∧ (tokenize (titledHead ++ "é<!doctype x><style>a</style>".toList)).raw
        = [⟨3, 59, "a".toList⟩] := by
  have hlast : (tokenize titledHead).tags.getLast?
      = some ⟨"head".toList, .opening, 32, byteLength titledHead, 37, false, []⟩ := by
    decide +kernel
  refine ⟨hlast, ?_, by decide +kernel, by decide +kernel⟩
  exact tokenize_append hlast rfl (by decide) "é<!doctype x><style>a</style>".toList

end MarkupGate
