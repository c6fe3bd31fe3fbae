import MarkupGate.Proofs.Markup.Order
import MarkupGate.Proofs.Revision.Tag

/-!
# Reading what was written

Markup in its plainest form is a list of nodes: open tags in small letters with values in double
quotes, close tags, and text without a bracket. Written out one behind another, the nodes are read
again as they were, whatever the values hold.

* `SimpleAttr.written_readsBefore`: an attribute ends where the next one or the end of its tag
  begins.
* `spelled_map_piece`: each node is a piece of the text, if no text stands behind a text.
* `tokenize_source`: the tags and texts that are read are those of the nodes.
-/

namespace MarkupGate

/-! ## Nodes -/

/-- The characters of plain names: small letters, digits and `:`, `_`, `.`, `-`. -/
def isSmallNameChar (c : Char) : Bool :=
  c.isLower || c.isDigit || c = ':' || c = '_' || c = '.' || c = '-'

/-- A name of an element in its plain form. -/
structure SimpleName where
  /-- the letter it begins with -/
  first : Char
  /-- the characters behind it -/
  others : List Char
  isLower_first : first.isLower
  small_others : ∀ c ∈ others, isSmallNameChar c

/-- The characters of the name. -/
def SimpleName.text (n : SimpleName) : List Char := n.first :: n.others

/-- An attribute in its plain form: boolean, or with a value that goes between double quotes. -/
structure SimpleAttr where
  /-- its name -/
  name : List Char
  /-- its value, if it has one -/
  value : Option (List Char)
  name_ne_nil : name ≠ []
  small_name : ∀ c ∈ name, isSmallNameChar c
  no_quote : ∀ v ∈ value, '"' ∉ v

/-- The attribute with a space in front of it. -/
def SimpleAttr.source (a : SimpleAttr) : List Char :=
  ' ' :: a.name ++ (a.value.map fun v => '=' :: '"' :: v ++ ['"']).getD []

/-- A node of a page. -/
inductive Node where
  /-- an open tag whose content, if it has any, is markup -/
  | openTag (name : SimpleName) (attrs : List SimpleAttr) (selfClosing : Bool)
      (transparent : isOpaqueName name.text = false)
  /-- a close tag -/
  | closeTag (name : SimpleName)
  /-- a run of text -/
  | text (content : List Char) (ne_nil : content ≠ []) (no_bracket : '<' ∉ content)

/-- What a tag says, and its range. -/
structure TagReading where
  /-- its range -/
  span : Span
  /-- the lower-cased name -/
  name : List Char
  /-- whether it opens or closes -/
  kind : TagKind
  /-- whether it ends in a slash and a bracket -/
  selfClosing : Bool
  /-- what its attributes say -/
  contents : List AttrContent
  deriving DecidableEq

/-- What the tag says, and its range. -/
def Tag.reading (t : Tag) : TagReading :=
  ⟨⟨t.start, t.stop⟩, t.name, t.kind, t.selfClosing, t.contents⟩

namespace Node

/-- The node as it is written. -/
def source : Node → List Char
  | openTag name attrs selfClosing _ =>
    '<' :: name.text ++ attrs.flatMap SimpleAttr.source
      ++ if selfClosing then ['/', '>'] else ['>']
  | closeTag name => '<' :: '/' :: name.text ++ ['>']
  | text content _ _ => content

/-- Whether the node is a run of text. -/
def isText : Node → Bool
  | text _ _ _ => true
  | _ => false

/-- What the tag of a node says, if it has one. -/
def tag? (n : Located Node) : Option TagReading :=
  match n.item with
  | openTag name attrs selfClosing _ =>
    some {
      span := .ofText n.start n.item.source
      name := name.text
      kind := .opening
      selfClosing := selfClosing
      contents := attrs.map fun a => (a.name, a.value.map fun v => (.doubleQuoted, v)) }
  | closeTag name => some ⟨.ofText n.start n.item.source, name.text, .closing, false, []⟩
  | text _ _ _ => none

/-- The text of a node, if it is one. -/
def text? (n : Located Node) : Option TextRun :=
  match n.item with
  | text content _ _ => some ⟨n.start, content⟩
  | _ => none

end Node

/-! ## Names -/

theorem isNameChar_of_small {c : Char} (h : isSmallNameChar c) : isNameChar c := by
  simp only [isSmallNameChar, Bool.or_eq_true, decide_eq_true_eq] at h
  rcases h with ((((h | h) | rfl) | rfl) | rfl) | rfl
  · simp [isNameChar, Char.isAlphanum, Char.isAlpha, h]
  · simp [isNameChar, Char.isAlphanum, h]
  all_goals decide

theorem asciiLower_of_small {s : List Char} (h : ∀ c ∈ s, isSmallNameChar c) :
    asciiLower s = s := by
  induction s with
  | nil => rfl
  | cons c cs ih =>
    have hc : c.toLower = c := by
      have hc := h c (by simp)
      simp only [isSmallNameChar, Bool.or_eq_true, decide_eq_true_eq] at hc
      rcases hc with ((((hc | hc) | rfl) | rfl) | rfl) | rfl
      · simpa [asciiLower] using asciiLower_of_isLower (s := [c]) (by simpa using hc)
      · simp only [Char.isDigit, Bool.and_eq_true, decide_eq_true_eq] at hc
        simp only [Char.toLower]
        grind
      all_goals decide
    have hcs := ih fun d hd => h d (List.mem_cons_of_mem _ hd)
    simp only [asciiLower, List.map_cons, hc] at hcs ⊢
    rw [hcs]

namespace SimpleName

variable (n : SimpleName)

theorem isSmallNameChar_text : ∀ c ∈ n.text, isSmallNameChar c := by
  intro c hc
  rcases List.mem_cons.1 hc with rfl | hc
  · simp [isSmallNameChar, n.isLower_first]
  · exact n.small_others c hc

theorem isNameChar_text : ∀ c ∈ n.text, isNameChar c :=
  fun c hc => isNameChar_of_small (n.isSmallNameChar_text c hc)

theorem asciiLower_text : asciiLower n.text = n.text := asciiLower_of_small n.isSmallNameChar_text

theorem exists_letter : ∃ c cs, n.text = c :: cs ∧ c.isAlpha :=
  ⟨n.first, n.others, rfl, by simp [Char.isAlpha, n.isLower_first]⟩

end SimpleName

/-! ## Attributes -/

/-- Whether an attribute with or without a value ends in front of a text. -/
structure EndsAttr (rest : List Char) : Prop where
  /-- a name does not go on -/
  name : readAttrName rest = ([], rest)
  /-- no value follows -/
  noValue : (rest.dropWhile isMarkupSpace).head? ≠ some '='

/-- The end of a tag ends an attribute. -/
theorem endsAttr_endingOf (selfClosing : Bool) : EndsAttr (endingOf selfClosing) := by
  cases selfClosing <;> exact ⟨by decide, by decide⟩

namespace SimpleAttr

/-- The attribute as a reader of tags sees it. -/
def written (a : SimpleAttr) : WrittenAttr :=
  ⟨a.name, a.value.map fun v => ⟨[], [], .doubleQuoted, v⟩⟩

/-- The parts of a tag that the attribute makes. -/
def parts (a : SimpleAttr) : List TagPart := [.filler [' '], .attr a.written]

variable (a : SimpleAttr)

theorem source_parts : a.parts.flatMap TagPart.source = a.source := by
  cases h : a.value <;>
    simp [parts, source, written, TagPart.source, WrittenAttr.source, WrittenValue.source,
      WrittenValue.lead, ValueForm.quote, h]

theorem content_written :
    a.written.content = (a.name, a.value.map fun v => (.doubleQuoted, v)) := by
  cases h : a.value <;>
    simp [written, WrittenAttr.content, h, asciiLower_of_small a.small_name]

/-- The next attribute ends an attribute: it begins with a space, and its name with a name
character. -/
theorem endsAttr_source (rest : List Char) : EndsAttr (a.source ++ rest) := by
  obtain ⟨c, cs, hname⟩ := List.exists_cons_of_ne_nil a.name_ne_nil
  have hc := isNameChar_of_small (a.small_name c (by simp [hname]))
  refine ⟨rfl, ?_⟩
  have hspace : isMarkupSpace ' ' = true := rfl
  simp [source, hname, isMarkupSpace_of_isNameChar hc, hspace,
    isNameChar_ne hc (d := '=') (by decide)]

/-- The attribute is read where attributes end behind it. -/
theorem written_readsBefore {rest : List Char} (hrest : EndsAttr rest) :
    (TagPart.attr a.written).ReadsBefore rest := by
  have hname : ∀ c ∈ a.name, isNameChar c := fun c hc => isNameChar_of_small (a.small_name c hc)
  refine TagPart.attr_readsBefore_iff.2 ⟨?_, ?_⟩
  · obtain ⟨c, cs, hcs⟩ := List.exists_cons_of_ne_nil a.name_ne_nil
    exact ⟨c, cs, hcs, beginsAttr_of_isNameChar (hname c (by simp [hcs]))⟩
  · cases hv : a.value with
    | none =>
      refine ⟨?_, ?_⟩
      · simpa [WrittenAttr.valueSource, written, hv] using readAttrName_append hname hrest.name
      · simp only [written, hv]
        exact hrest.noValue
    | some v =>
      refine ⟨?_, ?_⟩
      · simp only [WrittenAttr.valueSource, written, hv]
        exact readAttrName_append hname rfl
      · simpa [written, hv, ValueAdmitted, ValueForm.Admits, ValueForm.quote, isMarkupSpace]
          using a.no_quote v (by simp [hv])

end SimpleAttr

/-! ## Tags and texts -/

/-- Attributes are read one behind another, up to the end of the tag. -/
theorem partsRead_attrs (attrs : List SimpleAttr) (selfClosing : Bool) :
    PartsRead (attrs.flatMap SimpleAttr.parts) (endingOf selfClosing)
      ∧ EndsAttr (attrs.flatMap SimpleAttr.source ++ endingOf selfClosing) := by
  induction attrs with
  | nil => exact ⟨trivial, endsAttr_endingOf selfClosing⟩
  | cons a attrs ih =>
    obtain ⟨hread, hends⟩ := ih
    have hsource : (attrs.flatMap SimpleAttr.parts).flatMap TagPart.source
        = attrs.flatMap SimpleAttr.source := by
      simp only [List.flatMap_assoc, SimpleAttr.source_parts]
    constructor
    · refine ⟨⟨rfl, rfl⟩, a.written_readsBefore ?_, hread⟩
      exact hsource ▸ hends
    · rw [List.flatMap_cons, List.append_assoc]
      exact a.endsAttr_source _

/-- Text without a bracket goes on up to markup or to the end. -/
theorem readText_append {content rest : List Char} (hcontent : '<' ∉ content)
    (hrest : rest = [] ∨ beginsMarkup rest) : readText (content ++ rest) = (content, rest) := by
  induction content with
  | nil =>
    rcases hrest with rfl | hrest
    · rfl
    · cases rest with
      | nil => rfl
      | cons c cs => rw [List.nil_append, readText, if_pos hrest]
  | cons c cs ih =>
    obtain ⟨hc, hcs⟩ : '<' ≠ c ∧ '<' ∉ cs := by simpa using hcontent
    rw [List.cons_append, readText, beginsMarkup_of_ne hc.symm, ih hcs]
    rfl

namespace Node

/-- The piece of text that the node is. -/
def piece : Node → Piece
  | openTag name attrs selfClosing _ =>
    .openTag ⟨name.text, attrs.flatMap SimpleAttr.parts, selfClosing⟩ []
  | closeTag name => .closeTag name.text []
  | text content _ _ => .text content

theorem source_piece (n : Node) : n.piece.source = n.source := by
  cases n with
  | openTag name attrs selfClosing htransparent =>
    simp [piece, source, Piece.source, OpenTag.source, OpenTag.ending, List.flatMap_assoc,
      SimpleAttr.source_parts]
  | closeTag name => simp [piece, source, Piece.source]
  | text content hne hbracket => rfl

/-- A node is read in front of others, a text only in front of a tag. -/
theorem readsBefore {n : Node} {rest : List Char}
    (hrest : n.isText → rest = [] ∨ beginsMarkup rest) : n.piece.ReadsBefore rest := by
  cases n with
  | openTag name attrs selfClosing htransparent =>
    obtain ⟨hread, hends⟩ := partsRead_attrs attrs selfClosing
    refine Piece.openTag_readsBefore_iff.2
      ⟨⟨name.isNameChar_text, ?_, hread⟩, name.exists_letter, ?_⟩
    · cases attrs with
      | nil => cases selfClosing <;> rfl
      | cons a attrs => rfl
    · have hopens :
          ¬(OpenTag.mk name.text (attrs.flatMap SimpleAttr.parts) selfClosing).opensOpaque :=
        fun h => by simp [opensOpaque_iff, name.asciiLower_text, htransparent] at h
      rw [if_neg hopens]
  | closeTag name =>
    exact Piece.closeTag_readsBefore_iff.2
      ⟨name.exists_letter, name.isNameChar_text, rfl, by simp⟩
  | text content hne hbracket =>
    exact Piece.text_readsBefore_iff.2 ⟨hne, readText_append hbracket (hrest rfl)⟩

theorem isText_piece (n : Node) : n.piece.isText = n.isText := by cases n <;> rfl

end Node

/-- Whether two nodes can stand one behind the other: they are not both text. -/
def Node.Separate (m n : Node) : Prop := ¬(m.isText ∧ n.isText)

/-- The nodes are the pieces of what they write. -/
theorem spelled_map_piece {nodes : List Node} (h : nodes.IsChain Node.Separate) :
    Spelled (nodes.map Node.piece) := by
  induction nodes with
  | nil => trivial
  | cons n nodes ih =>
    have hrest := ih h.tail
    refine ⟨Node.readsBefore fun htext => ?_, hrest⟩
    cases nodes with
    | nil => exact .inl rfl
    | cons m nodes =>
      have hm : m.isText = false := by
        simpa [Node.Separate, htext] using (List.isChain_cons_cons.1 h).1
      right
      rw [List.map_cons, List.flatMap_cons, hrest.1.beginsMarkup_eq, m.isText_piece, hm]
      rfl

/-! ## Reading nodes -/

namespace Node

theorem locate_map_piece (start : Nat) (nodes : List Node) :
    locate Piece.source start (nodes.map piece)
      = (locate source start nodes).map fun n => ⟨n.start, n.item.piece⟩ := by
  induction nodes generalizing start with
  | nil => rfl
  | cons n nodes ih => simp [locate, ih, source_piece]

theorem contents_openTag (name : List Char) (attrs : List SimpleAttr) (selfClosing : Bool) :
    (OpenTag.mk name (attrs.flatMap SimpleAttr.parts) selfClosing).contents
      = attrs.map fun a => (a.name, a.value.map fun v => (.doubleQuoted, v)) := by
  simp only [OpenTag.contents]
  induction attrs with
  | nil => rfl
  | cons a attrs ih =>
    have hparts : a.parts.filterMap TagPart.content? = [a.written.content] := rfl
    rw [List.flatMap_cons, List.filterMap_append, ih, hparts, a.content_written]
    rfl

theorem reading_tag? (n : Located Node) :
    (Piece.tag? ⟨n.start, n.item.piece⟩).map Tag.reading = tag? n := by
  obtain ⟨start, item⟩ := n
  cases item with
  | openTag name attrs selfClosing htransparent =>
    have hsource := source_piece (openTag name attrs selfClosing htransparent)
    simp only [piece, Piece.source, List.append_nil] at hsource
    have hcontents := contents_openTag name.text attrs selfClosing
    rw [← OpenTag.map_content_place _ start] at hcontents
    simp only [Piece.tag?, piece, Option.map_some, Tag.reading, Tag.contents, hcontents, tag?,
      ← hsource]
    simp [OpenTag.place, Span.ofText, name.asciiLower_text]
  | closeTag name =>
    simp [Piece.tag?, piece, Tag.reading, Tag.contents, tag?, name.asciiLower_text, Span.ofText,
      ← source_piece]
  | text content hne hbracket => rfl

theorem text?_piece (n : Located Node) : Piece.text? ⟨n.start, n.item.piece⟩ = text? n := by
  obtain ⟨start, item⟩ := n
  cases item with
  | openTag name attrs selfClosing htransparent => simp [Piece.text?, piece, text?]
  | closeTag name => rfl
  | text content hne hbracket => rfl

theorem raw?_piece (n : Located Node) (i : Nat) : Piece.raw? ⟨n.start, n.item.piece⟩ i = none := by
  obtain ⟨start, item⟩ := n
  cases item with
  | openTag name attrs selfClosing htransparent =>
    have hraw : isRawName (asciiLower name.text) = false := by
      rw [name.asciiLower_text]
      simpa [isOpaqueName] using (Bool.or_eq_false_iff.1 htransparent).1
    simp [Piece.raw?, piece, OpenTag.opensRaw, hraw]
  | closeTag name => rfl
  | text content hne hbracket => rfl

theorem isDoctype_piece (n : Node) : n.piece.isDoctype = false := by cases n <;> rfl

end Node

/-- What is read of written nodes are the nodes: their tags, which say what they said, and their
texts, all in place; no document type and no code. -/
theorem tokenize_source {nodes : List Node} (h : nodes.IsChain Node.Separate) :
    (tokenize (nodes.flatMap Node.source)).doctype = none
      ∧ (tokenize (nodes.flatMap Node.source)).raw = []
      ∧ (tokenize (nodes.flatMap Node.source)).tags.map Tag.reading
        = (locate Node.source 0 nodes).filterMap Node.tag?
      ∧ (tokenize (nodes.flatMap Node.source)).text
        = (locate Node.source 0 nodes).filterMap Node.text? := by
  have hsource : (nodes.map Node.piece).flatMap Piece.source = nodes.flatMap Node.source := by
    rw [List.flatMap_map]
    exact List.flatMap_congr fun n _ => n.source_piece
  have hlex : lex (nodes.flatMap Node.source) = nodes.map Node.piece := by
    rw [← hsource, (spelled_map_piece h).lex_eq]
  rw [tokenize, hlex, Node.locate_map_piece]
  refine ⟨?_, ?_, ?_, ?_⟩
  · simp [Tokens.ofLocated, Node.isDoctype_piece]
  · refine List.filterMap_eq_nil_iff.2 ?_
    rintro ⟨p, i⟩ hp
    obtain ⟨hp, -⟩ := List.mem_filter.1 (List.fst_mem_of_mem_zipIdx hp)
    obtain ⟨n, -, rfl⟩ := List.mem_map.1 hp
    exact Node.raw?_piece n i
  · simp only [Tokens.ofLocated, List.filterMap_map, List.map_filterMap]
    exact List.filterMap_congr fun n _ => Node.reading_tag? n
  · simp only [Tokens.ofLocated, List.filterMap_map]
    exact List.filterMap_congr fun n _ => Node.text?_piece n

/-- A link whose title looks like the end of its tag, and a text. -/
def trickyLink : List Node :=
  [.openTag ⟨'a', [], rfl, by simp⟩
      [⟨"title".toList, some "</a> \x7b'é/>".toList, by decide, List.all_eq_true.1 (by decide),
          by decide⟩,
        ⟨"download".toList, none, by decide, List.all_eq_true.1 (by decide), by decide⟩]
      false rfl,
    .text "> é ".toList (by decide) (by decide)]

theorem tokenize_source_trickyLink :
    trickyLink.IsChain Node.Separate
      ∧ trickyLink.flatMap Node.source = "<a title=\"</a> \x7b'é/>\" download>> é ".toList
      ∧ (tokenize (trickyLink.flatMap Node.source)).doctype = none
      ∧ (tokenize (trickyLink.flatMap Node.source)).raw = []
      ∧ (tokenize (trickyLink.flatMap Node.source)).tags.map Tag.reading
        = [⟨⟨0, 32⟩, "a".toList, .opening, false,
          [("title".toList, some (.doubleQuoted, "</a> \x7b'é/>".toList)),
            ("download".toList, none)]⟩]
      ∧ (tokenize (trickyLink.flatMap Node.source)).text = [⟨32, "> é ".toList⟩] := by
  have hchain : trickyLink.IsChain Node.Separate := by
    refine .cons_cons ?_ (.singleton _)
    simp [Node.Separate, Node.isText]
  exact ⟨hchain, by decide, tokenize_source hchain⟩

end MarkupGate
