import MarkupGate.Proofs.Markup.Accounting
import MarkupGate.Proofs.Markup.Moving

/-!
# Opaque content

What stands in a script, a style, a text area or a title is not looked into: whatever it looks like, it
ends where the element is closed for the first time, and no other token begins in it. So it can be
replaced by any other content that ends there. Nothing else in the text is read differently, and what
stands behind the content moves by as much as the content gets longer or shorter.

* `Closes`, `ContentEnds`, `Divides`: where the content of an element ends, in terms of the text alone.
* `readOpaque_eq_iff`: the reader of opaque content stops there.
* `Tokens.Encloses`: what an inventory says of the content, and what it does not say.
* `Tokens.without`, `Tokens.push`: the rest of the inventory, and the rest moved.
* `tokenize_exchange`: the inventories before and behind an exchange of the content.
* `tokenize_opaque`: opaque content of any element of any text.
-/

namespace MarkupGate

/-! ## Where content ends -/

/-- Whether an element of a name is closed at the front of a text: by `</` and its name in any case, with
no further name character behind it. -/
def Closes (name s : List Char) : Prop :=
  ∃ written behind, s = '<' :: '/' :: (written ++ behind) ∧ sameIgnoringCase written name
    ∧ behind.head?.all (!isNameChar ·)

/-- Whether the content of an element of a name ends in front of a text: it is closed there for the first
time, or it is never closed and nothing follows. -/
structure ContentEnds (name content rest : List Char) : Prop where
  /-- the element is not closed before -/
  first : ∀ back, back <:+ content → back ≠ [] → ¬Closes name (back ++ rest)
  /-- it is closed there, or not at all -/
  closed : rest = [] ∨ Closes name rest

/-- Whether a text divides into what ends with an open tag, the content of its element, and the rest. -/
structure Divides (source : List Char) (t : Tag) (front content rest : List Char) : Prop where
  /-- together the three are the text -/
  source_eq : source = front ++ (content ++ rest)
  /-- the first ends with the tag -/
  stop_eq : byteLength front = t.stop
  /-- the second ends where its element does -/
  ends : ContentEnds t.name content rest

theorem closes_iff {name s : List Char} : Closes name s ↔ closesElement name s := by
  simp [closesElement_iff, Closes, sameIgnoringCase]

/-- Opaque content is read to its end. -/
theorem readOpaque_eq_iff {name content rest : List Char} :
    readOpaque name (content ++ rest) = (content, rest) ↔ ContentEnds name content rest := by
  induction content with
  | nil =>
    have hends : ContentEnds name [] rest ↔ rest = [] ∨ Closes name rest :=
      ⟨fun h => h.closed, fun h => ⟨fun back hback hne => absurd (List.suffix_nil.1 hback) hne, h⟩⟩
    rw [hends, closes_iff, List.nil_append]
    cases rest with
    | nil => simp [readOpaque]
    | cons c cs => by_cases h : closesElement name (c :: cs) <;> simp [readOpaque, h]
  | cons c cs ih =>
    have hends : ContentEnds name (c :: cs) rest
        ↔ ¬Closes name (c :: cs ++ rest) ∧ ContentEnds name cs rest := by
      constructor
      · intro h
        exact ⟨h.first _ (List.suffix_refl _) (by simp),
          fun back hback => h.first back (hback.trans (List.suffix_cons c cs)), h.closed⟩
      · rintro ⟨hfirst, h⟩
        refine ⟨fun back hback hne => ?_, h.closed⟩
        rcases List.suffix_cons_iff.1 hback with rfl | hback
        · exact hfirst
        · exact h.first back hback hne
    rw [hends, ← ih, closes_iff, List.cons_append, readOpaque]
    by_cases h : closesElement name (c :: (cs ++ rest))
    · simp [h]
    · simp [h, Prod.ext_iff]

/-- The content of an element is known by where it begins. -/
theorem Divides.unique {source front content rest front' content' rest' : List Char} {t : Tag}
    (h : Divides source t front content rest) (h' : Divides source t front' content' rest') :
    front' = front ∧ content' = content ∧ rest' = rest := by
  obtain ⟨rfl, hbehind⟩ := append_inj_of_byteLength (h'.source_eq.symm.trans h.source_eq)
    (h'.stop_eq.trans h.stop_eq.symm)
  have hread := readOpaque_eq_iff.2 h.ends
  rw [← hbehind, readOpaque_eq_iff.2 h'.ends] at hread
  cases hread
  exact ⟨rfl, rfl, rfl⟩

/-! ## Other content -/

/-- Pieces keep being read in front of others that begin alike. -/
theorem Spelled.congr {ps qs qs' : List Piece} (h : Spelled (ps ++ qs)) (h' : Spelled qs')
    (hfront : SameFront (qs.flatMap Piece.source) (qs'.flatMap Piece.source)) : Spelled (ps ++ qs') := by
  induction ps with
  | nil => exact h'
  | cons p ps ih =>
    obtain ⟨hread, hspelled⟩ := h
    refine ⟨hread.congr ?_, ih hspelled⟩
    cases ps with
    | nil => exact hfront
    | cons q ps => exact SameFront.of_readsBefore hspelled.1 (ih hspelled).1

/-- The content of an opaque element can be exchanged. -/
theorem lex_exchange {source content other : List Char} {A B : List Piece} {t : OpenTag}
    (hlex : lex source = A ++ .openTag t content :: B) (hopens : t.opensOpaque)
    (hother : ContentEnds (asciiLower t.name) other (B.flatMap Piece.source)) :
    lex ((A ++ .openTag t other :: B).flatMap Piece.source) = A ++ .openTag t other :: B := by
  have hspelled := hlex ▸ spelled_lex source
  obtain ⟨hread, hB⟩ := hspelled.of_append
  obtain ⟨hcomplete, ⟨c, cs, hname, hc⟩, -⟩ := Piece.openTag_readsBefore_iff.1 hread
  have hread' : (Piece.openTag t other).ReadsBefore (B.flatMap Piece.source) := by
    refine Piece.openTag_readsBefore_iff.2 ⟨hcomplete, ⟨c, cs, hname, hc⟩, ?_⟩
    rw [if_pos hopens]
    exact readOpaque_eq_iff.2 hother
  have hspelled' : Spelled (.openTag t other :: B) := ⟨hread', hB⟩
  -- What stands before the tag is read as before, since the same bracket and letter follow it.
  refine (hspelled.congr hspelled' ?_).lex_eq
  simp only [List.flatMap_cons, Piece.source, OpenTag.source, hname, List.cons_append]
  exact SameFront.of_letter hc _ _

/-! ## Inventories of an element and its surroundings -/

theorem Span.contains_ofText_eq_false {start n : Nat} {s : List Char} :
    (Span.ofText start s).contains n = false ↔ n < start ∨ start + byteLength s ≤ n := by
  rw [contains, Bool.and_eq_false_iff, decide_eq_false_iff_not, decide_eq_false_iff_not, Nat.not_le,
    Nat.not_lt]
  rfl

namespace Tokens

/-- Whether all that an inventory lists begins at certain offsets. -/
structure Begins (P : Nat → Prop) (u : Tokens) : Prop where
  doctype : ∀ r ∈ u.doctype, P r.start
  tags : ∀ t ∈ u.tags, P t.start
  text : ∀ r ∈ u.text, P r.start
  raw : ∀ b ∈ u.raw, P b.start

/-- What an inventory says of the content of the opaque element that its tag of an index opens. -/
structure Encloses (u : Tokens) (i : Nat) (t : Tag) (content : List Char) : Prop where
  /-- the tag opens the element -/
  tag : u.tags[i]? = some t
  /-- no tag begins in the content -/
  tags : ∀ v ∈ u.tags, (Span.ofText t.stop content).contains v.start = false
  /-- nor does the document type -/
  doctype : ∀ r ∈ u.doctype, (Span.ofText t.stop content).contains r.start = false
  /-- nor does code of another tag -/
  code : ∀ b ∈ u.raw, (Span.ofText t.stop content).contains b.start → b.tag = i
  /-- the code of the tag is the content, for an element of code -/
  raw : u.raw.filter (fun b => b.tag = i) = if isRawName t.name then [⟨i, t.stop, content⟩] else []
  /-- the text in the content is all of it, for an element of text that is not empty -/
  text : u.text.filter (fun r => (Span.ofText t.stop content).contains r.start)
    = if isTextOnlyName t.name && !content.isEmpty then [⟨t.stop, content⟩] else []

/-- The inventory without the code of the tag of an index and the text in a range. -/
def without (u : Tokens) (i : Nat) (r : Span) : Tokens :=
  { u with
    text := u.text.filter fun x => !r.contains x.start
    raw := u.raw.filter fun b => b.tag ≠ i }

/-- The inventory with all that begins from one offset on moved to another offset. -/
def push (u : Tokens) (start start' : Nat) : Tokens :=
  let g (offset : Nat) : Nat := start' + (offset - start)
  { doctype := u.doctype.map fun r => if start ≤ r.start then r.move g else r
    tags := u.tags.map fun t => if start ≤ t.start then t.move g else t
    text := u.text.map fun r => if start ≤ r.start then r.move g else r
    raw := u.raw.map fun b => if start ≤ b.start then b.move g else b }

/-- The inventory of an opaque element: the open tag, which has some index, and the content. -/
def ofElement (i : Nat) (t : Tag) (content : List Char) : Tokens where
  doctype := none
  tags := [t]
  text := if isTextOnlyName t.name && !content.isEmpty then [⟨t.stop, content⟩] else []
  raw := if isRawName t.name then [⟨i, t.stop, content⟩] else []

theorem without_append (u v : Tokens) (i : Nat) (r : Span) :
    (u.append v).without i r = (u.without i r).append (v.without i r) := by
  simp [without, append]

theorem push_append (u v : Tokens) (start start' : Nat) :
    (u.append v).push start start' = (u.push start start').append (v.push start start') := by
  simp [push, append, Option.map_or]

section

variable {u : Tokens} {i start start' : Nat} {t : Tag}

theorem without_eq_self {r : Span} (htext : u.Begins fun n => r.contains n = false)
    (hraw : ∀ b ∈ u.raw, b.tag ≠ i) : u.without i r = u := by
  have htext : u.text.filter (fun x => !r.contains x.start) = u.text :=
    List.filter_eq_self.2 fun x hx => by simp [htext.text x hx]
  have hraw : u.raw.filter (fun b => b.tag ≠ i) = u.raw :=
    List.filter_eq_self.2 fun b hb => by simp [hraw b hb]
  rw [without, htext, hraw]

theorem Begins.filter_text {r : Span} (h : u.Begins fun n => r.contains n = false) :
    u.text.filter (fun x => r.contains x.start) = [] := by
  rw [List.filter_eq_nil_iff]
  intro x hx
  simp [h.text x hx]

theorem filter_raw_eq_nil (h : ∀ b ∈ u.raw, b.tag ≠ i) : u.raw.filter (fun b => b.tag = i) = [] := by
  rw [List.filter_eq_nil_iff]
  intro b hb
  simpa using h b hb

/-- What begins before is not moved. -/
theorem push_eq_self (h : u.Begins (· < start)) : u.push start start' = u := by
  have hkeep {α : Type} (begins : α → Nat) (f : α → α) {l : List α} (hl : ∀ x ∈ l, begins x < start) :
      (l.map fun x => if start ≤ begins x then f x else x) = l :=
    (List.map_congr_left fun x hx => if_neg (Nat.not_le.2 (hl x hx))).trans l.map_id
  have hdoctype : (u.doctype.map fun r => if start ≤ r.start
      then r.move (fun offset => start' + (offset - start)) else r) = u.doctype := by
    cases hr : u.doctype with
    | none => rfl
    | some r => exact congrArg some (if_neg (Nat.not_le.2 (h.doctype r hr)))
  rw [push, hdoctype, hkeep Tag.start _ h.tags, hkeep TextRun.start _ h.text,
    hkeep RawBlock.start _ h.raw]

/-- What is moved behind some bytes is moved behind others. -/
theorem push_shift (u : Tokens) (start start' tags : Nat) :
    (u.shift start tags).push start start' = u.shift start' tags := by
  have hattr (a : Attr) : (a.shift start).move (fun x => start' + (x - start)) = a.shift start' := by
    simp [Attr.shift, Attr.move, Function.comp_def]
  simp only [push, shift, Option.map_map, List.map_map, Function.comp_def]
  congr 1 <;> congr 1 <;> funext x <;> refine (if_pos (Nat.le_add_right _ _)).trans ?_
  · simp [Span.shift, Span.move]
  · simp [Tag.shift, Tag.move, hattr]
  · simp [TextRun.shift, TextRun.move]
  · simp [RawBlock.shift, RawBlock.move]

theorem begins_shift (u : Tokens) (n tags : Nat) : (u.shift n tags).Begins (n ≤ ·) where
  doctype := by simp [shift, Span.shift]
  tags := by simp [shift, Tag.shift]
  text := by simp [shift, TextRun.shift]
  raw := by simp [shift, RawBlock.shift]

/-- Behind some tags, code belongs to none of them. -/
theorem le_tag_of_mem_shift {u : Tokens} {n tags : Nat} {b : RawBlock} (h : b ∈ (u.shift n tags).raw) :
    tags ≤ b.tag := by
  obtain ⟨b, -, rfl⟩ := List.mem_map.1 h
  exact Nat.le_add_right _ _

theorem Begins.imp {P Q : Nat → Prop} (h : u.Begins P) (hPQ : ∀ n, P n → Q n) : u.Begins Q where
  doctype r hr := hPQ _ (h.doctype r hr)
  tags t ht := hPQ _ (h.tags t ht)
  text r hr := hPQ _ (h.text r hr)
  raw b hb := hPQ _ (h.raw b hb)

end

/-! ## An element in a text -/

/-- Whether an inventory lists only what begins before a tag, which has an index behind its tags. -/
structure Precedes (u : Tokens) (i : Nat) (t : Tag) : Prop where
  begins : u.Begins (· ≤ t.start)
  length : u.tags.length = i
  raw : ∀ b ∈ u.raw, b.tag < i

section

variable {front back : Tokens} {i : Nat} {t : Tag}

/-- Nothing in front of a tag begins in the content of its element. -/
theorem Precedes.outside (h : front.Precedes i t) (ht : t.start < t.stop) (content : List Char) :
    front.Begins fun n => (Span.ofText t.stop content).contains n = false :=
  h.begins.imp fun n hn => Span.contains_ofText_eq_false.2 (by omega)

/-- Nor does anything behind the content. -/
theorem outside_shift (u : Tokens) (t : Tag) (content : List Char) (tags : Nat) :
    (u.shift (t.stop + byteLength content) tags).Begins fun n =>
      (Span.ofText t.stop content).contains n = false :=
  (u.begins_shift _ tags).imp fun n hn => Span.contains_ofText_eq_false.2 (by omega)

theorem contains_stop (t : Tag) {content : List Char} (h : content ≠ []) :
    (Span.ofText t.stop content).contains t.stop := by
  have := byteLength_pos h
  rw [← Bool.not_eq_false, Span.contains_ofText_eq_false]
  omega

/-- Without its content, an element is its open tag. -/
theorem without_ofElement (i : Nat) (t : Tag) (content : List Char) :
    (ofElement i t content).without i (.ofText t.stop content) = ⟨none, [t], [], []⟩ := by
  simp only [without, ofElement, mk.injEq, true_and]
  refine ⟨?_, by split <;> simp⟩
  split
  · rename_i hown
    have hne : content ≠ [] := by simp_all
    simp [contains_stop t hne]
  · rfl

/-- The text in the content of an element is the content, if the element holds text. -/
theorem filter_text_ofElement (i : Nat) (t : Tag) (content : List Char) :
    (ofElement i t content).text.filter (fun r => (Span.ofText t.stop content).contains r.start)
      = (ofElement i t content).text := by
  rw [List.filter_eq_self]
  intro r hr
  simp only [ofElement] at hr
  split at hr
  · rename_i hown
    have hne : content ≠ [] := by simp_all
    obtain rfl := List.mem_singleton.1 hr
    exact contains_stop t hne
  · cases hr

/-- The code of the tag of an element is all the code of the element. -/
theorem filter_raw_ofElement (i : Nat) (t : Tag) (content : List Char) :
    (ofElement i t content).raw.filter (fun b => b.tag = i) = (ofElement i t content).raw := by
  simp only [ofElement]
  split <;> simp

/-- An inventory that is put together around an element says of its content what it should. -/
theorem encloses_element (hfront : front.Precedes i t) (ht : t.start < t.stop) (back : Tokens)
    (content : List Char) :
    ((front.append (ofElement i t content)).append
      (back.shift (t.stop + byteLength content) (i + 1))).Encloses i t content := by
  have hbefore := hfront.outside ht content
  have hbehind := outside_shift back t content (i + 1)
  have hself : (Span.ofText t.stop content).contains t.start = false :=
    Span.contains_ofText_eq_false.2 (by omega)
  have hindex : ∀ b ∈ (back.shift (t.stop + byteLength content) (i + 1)).raw, b.tag ≠ i :=
    fun b hb => Nat.ne_of_gt (le_tag_of_mem_shift hb)
  generalize back.shift (t.stop + byteLength content) (i + 1) = behind at hbehind hindex
  refine ⟨?_, ?_, ?_, ?_, ?_, ?_⟩
  · simp [append, ofElement, ← hfront.length]
  · intro v hv
    simp only [append, ofElement, List.mem_append, List.mem_singleton] at hv
    rcases hv with (hv | rfl) | hv
    · exact hbefore.tags v hv
    · exact hself
    · exact hbehind.tags v hv
  · intro r hr
    simp only [append, ofElement, Option.or_none, Option.mem_def] at hr
    rcases Option.or_eq_some_iff.1 hr with hr | ⟨-, hr⟩
    · exact hbefore.doctype r hr
    · exact hbehind.doctype r hr
  · intro b hb hin
    simp only [append, List.mem_append] at hb
    rcases hb with (hb | hb) | hb
    · simp [hbefore.raw b hb] at hin
    · rw [← filter_raw_ofElement] at hb
      simpa using (List.mem_filter.1 hb).2
    · simp [hbehind.raw b hb] at hin
  · simp only [append, List.filter_append]
    rw [filter_raw_eq_nil fun b hb => Nat.ne_of_lt (hfront.raw b hb), filter_raw_ofElement,
      filter_raw_eq_nil hindex, List.nil_append, List.append_nil]
    rfl
  · simp only [append, List.filter_append]
    rw [hbefore.filter_text, filter_text_ofElement, hbehind.filter_text, List.nil_append,
      List.append_nil]
    rfl

/-- Around an element, nothing depends on the content but how far it reaches. -/
theorem without_push_element (hfront : front.Precedes i t) (ht : t.start < t.stop) (back : Tokens)
    (content other : List Char) :
    (((front.append (ofElement i t content)).append
        (back.shift (t.stop + byteLength content) (i + 1))).without i
          (.ofText t.stop content)).push (t.stop + byteLength content) (t.stop + byteLength other)
      = ((front.append (ofElement i t other)).append
        (back.shift (t.stop + byteLength other) (i + 1))).without i (.ofText t.stop other) := by
  have hkeep (content : List Char) :
      ((front.append (ofElement i t content)).append
          (back.shift (t.stop + byteLength content) (i + 1))).without i (.ofText t.stop content)
        = (front.append ⟨none, [t], [], []⟩).append
          (back.shift (t.stop + byteLength content) (i + 1)) := by
    rw [without_append, without_append, without_ofElement,
      without_eq_self (hfront.outside ht content) fun b hb => Nat.ne_of_lt (hfront.raw b hb),
      without_eq_self (outside_shift back t content _) fun b hb => Nat.ne_of_gt (le_tag_of_mem_shift hb)]
  have hfront : front.Begins (· < t.stop + byteLength content) :=
    hfront.begins.imp fun n hn => by omega
  have htag : (⟨none, [t], [], []⟩ : Tokens).Begins (· < t.stop + byteLength content) :=
    ⟨by simp, by simp; omega, by simp, by simp⟩
  rw [hkeep, hkeep, push_append, push_append, push_eq_self hfront, push_eq_self htag, push_shift]

end

/-- The inventory of some pieces. -/
def ofPieces (ps : List Piece) : Tokens := ofLocated (locate Piece.source 0 ps)

/-- The inventory of pieces behind others. -/
theorem ofPieces_append (ps qs : List Piece) :
    ofPieces (ps ++ qs) = (ofPieces ps).append
      ((ofPieces qs).shift (byteLength (ps.flatMap Piece.source)) (ofPieces ps).tags.length) := by
  have hplace : locate Piece.source 0 (ps ++ qs) = locate Piece.source 0 ps
      ++ (locate Piece.source 0 qs).map (Located.shift (byteLength (ps.flatMap Piece.source))) := by
    rw [locate_append, Nat.zero_add, ← locate_add, Nat.add_zero]
  rw [ofPieces, hplace, ofLocated_append_shift]
  rfl

/-- The inventory of an opaque element alone. -/
theorem shift_ofPieces_openTag {u : OpenTag} (hopens : u.opensOpaque) (content : List Char)
    (start i : Nat) :
    (ofPieces [.openTag u content]).shift start i = ofElement i (u.place start) content := by
  obtain ⟨hself, -⟩ := opensOpaque_iff.1 hopens
  have hplace := u.place_add start 0
  have hstop : start + byteLength u.source = (u.place start).stop := rfl
  have hname : (u.place start).name = asciiLower u.name := rfl
  have hraw : u.opensRaw = isRawName (asciiLower u.name) := by simp [OpenTag.opensRaw, hself]
  have htext : u.opensTextOnly = isTextOnlyName (asciiLower u.name) := by
    simp [OpenTag.opensTextOnly, hself]
  simp only [ofPieces, locate, ofLocated, shift, ofElement, hname, ← hstop, ← hraw, ← htext, mk.injEq]
  refine ⟨rfl, ?_, ?_, ?_⟩
  · simp [Piece.tag?, ← hplace]
  · cases hown : u.opensTextOnly && !content.isEmpty <;>
      simp [Piece.text?, hown, TextRun.shift]
  · cases hown : u.opensRaw <;> simp [Piece.tag?, Piece.raw?, hown, RawBlock.shift]

theorem start_le_of_text? {p : Located Piece} {r : TextRun} (h : Piece.text? p = some r) :
    r.start ≤ p.stop := by
  obtain ⟨start, item⟩ := p
  cases item with
  | text content =>
    cases h
    exact Nat.le_add_right _ _
  | openTag u content =>
    simp only [Piece.text?] at h
    split at h <;> cases h
    simp [Located.stop, Piece.source]
  | _ => cases h

theorem raw?_spec {p : Located Piece} {i : Nat} {b : RawBlock} (h : Piece.raw? p i = some b) :
    b.tag = i ∧ b.start ≤ p.stop := by
  obtain ⟨start, item⟩ := p
  cases item with
  | openTag u content =>
    simp only [Piece.raw?] at h
    split at h <;> cases h
    simp [Located.stop, Piece.source]
  | _ => cases h

/-- What stands in front of a tag is listed before it. -/
theorem precedes_ofPieces (ps : List Piece) (u : OpenTag) :
    (ofPieces ps).Precedes (ofPieces ps).tags.length
      (u.place (byteLength (ps.flatMap Piece.source))) := by
  have hstop {p : Located Piece} (hp : p ∈ locate Piece.source 0 ps) :
      p.stop ≤ byteLength (ps.flatMap Piece.source) := by
    obtain ⟨before, behind, hsplit⟩ := List.append_of_mem hp
    obtain ⟨ys, zs, rfl, -, hstart, -⟩ := locate_split hsplit
    simp [Located.stop, hstart]
  have hcode {b : RawBlock} (hb : b ∈ (ofPieces ps).raw) :
      b.start ≤ byteLength (ps.flatMap Piece.source) ∧ b.tag < (ofPieces ps).tags.length := by
    obtain ⟨⟨p, j⟩, hmem, hpb⟩ := List.mem_filterMap.1 hb
    obtain ⟨rfl, hstart⟩ := raw?_spec hpb
    have hp := (List.mem_filter.1 (List.fst_mem_of_mem_zipIdx hmem)).1
    refine ⟨Nat.le_trans hstart (hstop hp), ?_⟩
    have := List.snd_lt_of_mem_zipIdx hmem
    rwa [← List.countP_eq_length_filter, ← List.length_filterMap_eq_countP] at this
  refine ⟨⟨fun r hr => ?_, fun t ht => ?_, fun r hr => ?_, fun b hb => (hcode hb).1⟩, rfl,
    fun b hb => (hcode hb).2⟩
  · obtain ⟨p, hp, rfl⟩ := Option.map_eq_some_iff.1 hr
    exact Nat.le_trans (Nat.le_add_right _ _) (hstop (List.mem_of_find?_eq_some hp))
  · obtain ⟨p, hp, hpt⟩ := List.mem_filterMap.1 ht
    obtain ⟨-, hlt, hle⟩ := Piece.tag?_range hpt
    exact Nat.le_trans (Nat.le_of_lt hlt) (Nat.le_trans hle (hstop hp))
  · obtain ⟨p, hp, hpr⟩ := List.mem_filterMap.1 hr
    exact Nat.le_trans (start_le_of_text? hpr) (hstop hp)

/-- The inventory of pieces around an opaque element. -/
theorem ofPieces_element {A B : List Piece} {u : OpenTag} (hopens : u.opensOpaque)
    (content : List Char) :
    let t := u.place (byteLength (A.flatMap Piece.source))
    let i := (ofPieces A).tags.length
    ofPieces (A ++ .openTag u content :: B) = ((ofPieces A).append (ofElement i t content)).append
      ((ofPieces B).shift (t.stop + byteLength content) (i + 1)) := by
  intro t i
  have hsplit : A ++ .openTag u content :: B = A ++ [.openTag u content] ++ B := by simp
  have hlength : byteLength ((A ++ [Piece.openTag u content]).flatMap Piece.source)
      = t.stop + byteLength content := by
    simp [t, OpenTag.place, Piece.source, Nat.add_assoc]
  have htags : ((ofPieces A).append (ofElement i t content)).tags.length = i + 1 := by
    simp [append, ofElement, i]
  rw [hsplit, ofPieces_append, ofPieces_append A, shift_ofPieces_openTag hopens, hlength, htags]

end Tokens

/-! ## Opaque elements of a text -/

/-- The pieces around an open tag that is known by its index. -/
theorem exists_of_getElem?_tags {source : List Char} {i : Nat} {t : Tag}
    (ht : (tokenize source).tags[i]? = some t) (hopen : t.isOpen) :
    ∃ A u content B, lex source = A ++ .openTag u content :: B
      ∧ t = u.place (byteLength (A.flatMap Piece.source)) ∧ (Tokens.ofPieces A).tags.length = i := by
  obtain ⟨hi, rfl⟩ := List.getElem?_eq_some_iff.1 ht
  have htags := List.take_append_drop i (tokenize source).tags
  rw [List.drop_eq_getElem_cons hi] at htags
  obtain ⟨front, behind, hfront, htake, hbehind⟩ := List.filterMap_eq_append_iff.1 htags.symm
  obtain ⟨skipped, p, back, rfl, hskipped, hp, -⟩ := List.filterMap_eq_cons_iff.1 hbehind
  rw [← List.append_assoc] at hfront
  obtain ⟨A, B, hlex, hA, hstart, -⟩ := locate_split hfront
  -- The tags before the index are those of the pieces before the tag.
  have hlength : (Tokens.ofPieces A).tags.length = i := by
    have hnone : skipped.filterMap Piece.tag? = [] := List.filterMap_eq_nil_iff.2 hskipped
    have htagsA : (Tokens.ofPieces A).tags = (tokenize source).tags.take i := by
      rw [← htake, Tokens.ofPieces, ← hA, Tokens.ofLocated, List.filterMap_append, hnone,
        List.append_nil]
    rw [htagsA, List.length_take_of_le (Nat.le_of_lt hi)]
  obtain ⟨start, item⟩ := p
  cases item with
  | openTag u content =>
    refine ⟨A, u, content, B, hlex, ?_, hlength⟩
    rw [← Nat.zero_add (byteLength _), ← hstart]
    exact (Option.some.inj hp).symm
  | closeTag name trailing =>
    rw [← Option.some.inj hp] at hopen
    cases hopen
  | _ => cases hp

/-- Around opaque content, the inventory of a text does not depend on it, and says of it what it is. -/
theorem tokenize_exchange {source content : List Char} {A B : List Piece} {u : OpenTag}
    (hlex : lex source = A ++ .openTag u content :: B) (hopens : u.opensOpaque) (other : List Char)
    (hother : ContentEnds (asciiLower u.name) other (B.flatMap Piece.source)) :
    let t := u.place (byteLength (A.flatMap Piece.source))
    let i := (Tokens.ofPieces A).tags.length
    let exchanged := (A ++ .openTag u other :: B).flatMap Piece.source
    (tokenize exchanged).Encloses i t other
      ∧ (tokenize exchanged).without i (.ofText t.stop other)
        = ((tokenize source).without i (.ofText t.stop content)).push
          (t.stop + byteLength content) (t.stop + byteLength other) := by
  intro t i exchanged
  have hlt : t.start < t.stop := by
    have : 0 < byteLength u.source := byteLength_pos (by simp [OpenTag.source])
    simp only [t, OpenTag.place]
    omega
  have hfront := Tokens.precedes_ofPieces A u
  have hsource : tokenize source = Tokens.ofPieces (A ++ .openTag u content :: B) := by
    rw [← hlex]
    rfl
  have hexchanged : tokenize exchanged = Tokens.ofPieces (A ++ .openTag u other :: B) := by
    rw [← lex_exchange hlex hopens hother]
    rfl
  rw [hsource, hexchanged, Tokens.ofPieces_element hopens, Tokens.ofPieces_element hopens]
  exact ⟨Tokens.encloses_element hfront hlt _ other,
    (Tokens.without_push_element hfront hlt _ content other).symm⟩

/-- The content of a script, a style, a text area or a title is opaque: it ends where the element is
closed for the first time, and no tag, document type or other code begins in it; all of it is the code of
the tag or, unless it is empty, one run of text. With any other content that ends there, the rest of the
inventory stays as it is, and what begins behind the content moves with its end. -/
theorem tokenize_opaque (source : List Char) (i : Nat) (t : Tag)
    (ht : (tokenize source).tags[i]? = some t) (hopen : t.isOpen) (hself : t.selfClosing = false)
    (hname : isOpaqueName t.name) :
    (∃ front content rest, Divides source t front content rest)
      ∧ ∀ front content rest, Divides source t front content rest →
        (tokenize source).Encloses i t content
          ∧ ∀ other, ContentEnds t.name other rest →
            (tokenize (front ++ (other ++ rest))).Encloses i t other
              ∧ (tokenize (front ++ (other ++ rest))).without i (.ofText t.stop other)
                = ((tokenize source).without i (.ofText t.stop content)).push
                  (t.stop + byteLength content) (t.stop + byteLength other) := by
  obtain ⟨A, u, content, B, hlex, rfl, rfl⟩ := exists_of_getElem?_tags ht hopen
  have hopens : u.opensOpaque := opensOpaque_iff.2 ⟨hself, hname⟩
  obtain ⟨-, -, hread⟩ := Piece.openTag_readsBefore_iff.1 (hlex ▸ spelled_lex source).of_append.1
  rw [if_pos hopens, readOpaque_eq_iff] at hread
  have hwhole (content : List Char) : (A ++ .openTag u content :: B).flatMap Piece.source
      = A.flatMap Piece.source ++ u.source ++ (content ++ B.flatMap Piece.source) := by
    simp [Piece.source]
  have hdivides : Divides source (u.place (byteLength (A.flatMap Piece.source)))
      (A.flatMap Piece.source ++ u.source) content (B.flatMap Piece.source) := by
    refine ⟨?_, byteLength_append _ _, hread⟩
    rw [← hwhole, ← hlex, flatMap_source_lex]
  refine ⟨⟨_, _, _, hdivides⟩, fun front content' rest h => ?_⟩
  obtain ⟨rfl, rfl, rfl⟩ := hdivides.unique h
  have hsame := (tokenize_exchange hlex hopens content' hread).1
  rw [hwhole, ← hdivides.source_eq] at hsame
  refine ⟨hsame, fun other hother => ?_⟩
  rw [← hwhole]
  exact tokenize_exchange hlex hopens other hother

/-- The open tag of a title behind a `p` tag. -/
def oddTitleTag : Tag := ⟨"title".toList, .opening, 3, 10, 9, false, []⟩

/-- A title goes on behind what only looks like its end, and what looks like an image in its place is
text as well. -/
theorem tokenize_opaque_oddTitle :
    (tokenize "<p><Title>a</title-b</TITLE\n>c<p>".toList).tags[1]? = some oddTitleTag
      ∧ oddTitleTag.isOpen ∧ oddTitleTag.selfClosing = false ∧ isOpaqueName oddTitleTag.name
      ∧ Divides "<p><Title>a</title-b</TITLE\n>c<p>".toList oddTitleTag "<p><Title>".toList
        "a</title-b".toList "</TITLE\n>c<p>".toList
      ∧ ContentEnds oddTitleTag.name "<img é='</titl".toList "</TITLE\n>c<p>".toList
      ∧ (tokenize "<p><Title>a</title-b</TITLE\n>c<p>".toList).Encloses 1 oddTitleTag
        "a</title-b".toList
      ∧ (tokenize "<p><Title><img é='</titl</TITLE\n>c<p>".toList).Encloses 1 oddTitleTag
        "<img é='</titl".toList
      ∧ (tokenize "<p><Title><img é='</titl</TITLE\n>c<p>".toList).without 1 ⟨10, 25⟩
        = ((tokenize "<p><Title>a</title-b</TITLE\n>c<p>".toList).without 1 ⟨10, 20⟩).push 20 25 := by
  have ht : (tokenize "<p><Title>a</title-b</TITLE\n>c<p>".toList).tags[1]? = some oddTitleTag := by
    decide +kernel
  have hdivides : Divides "<p><Title>a</title-b</TITLE\n>c<p>".toList oddTitleTag
      "<p><Title>".toList "a</title-b".toList "</TITLE\n>c<p>".toList :=
    ⟨by decide +kernel, by decide +kernel, readOpaque_eq_iff.1 (by decide +kernel)⟩
  have hother : ContentEnds oddTitleTag.name "<img é='</titl".toList "</TITLE\n>c<p>".toList :=
    readOpaque_eq_iff.1 (by decide +kernel)
  obtain ⟨-, hall⟩ := tokenize_opaque _ 1 oddTitleTag ht rfl rfl (by decide +kernel)
  obtain ⟨hsame, hexchange⟩ := hall _ _ _ hdivides
  obtain ⟨hnew, hrest⟩ := hexchange _ hother
  have hsource : "<p><Title>".toList ++ ("<img é='</titl".toList ++ "</TITLE\n>c<p>".toList)
      = "<p><Title><img é='</titl</TITLE\n>c<p>".toList := by decide +kernel
  rw [hsource] at hnew hrest
  exact ⟨ht, rfl, rfl, by decide +kernel, hdivides, hother, hsame, hnew, hrest⟩

end MarkupGate
