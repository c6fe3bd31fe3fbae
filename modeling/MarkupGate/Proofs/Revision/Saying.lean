import MarkupGate.Proofs.Markup.Joining
import MarkupGate.Proofs.Revision.Tag

/-!
# Documents that say the same

Two documents say the same if their tags correspond one by one, each with the attributes of its
counterpart in the same order, and if their texts and their scripts and styles hold the same
characters. Only places may differ. `Document.SaysBut` leaves open what exactly is asked of a tag and
its counterpart, so that single tags can be allowed to differ in a known way.

* `setAttr`: the attributes of a tag once one of them has been given a value.
* `Tag.KeptBut`: only some tags differ from their counterparts.
* `Document.saysBut_of_pieces`: the relation of two documents follows piece by piece.
-/

namespace MarkupGate

/-! ## Attributes -/

/-- The attributes with a value given to the first one of a name; where there is none, one is put in
front. -/
def setAttr (name : List Char) (value : ValueForm × List Char) (attrs : List AttrContent) :
    List AttrContent :=
  if attrs.any fun c => c.1 = name then
    attrs.replaceF fun c => if c.1 = name then some (name, some value) else none
  else (name, some value) :: attrs

section

variable {name : List Char} {value : ValueForm × List Char} {attrs front behind : List AttrContent}
  {c : AttrContent}

theorem setAttr_of_absent (h : ∀ c ∈ attrs, c.1 ≠ name) :
    setAttr name value attrs = (name, some value) :: attrs := by
  have hnone : ¬attrs.any fun c => c.1 = name := by
    rw [List.any_eq_true]
    rintro ⟨c, hc, hname⟩
    exact h c hc (by simpa using hname)
  rw [setAttr, if_neg hnone]

theorem setAttr_of_first (hfront : ∀ c ∈ front, c.1 ≠ name) (hc : c.1 = name) :
    setAttr name value (front ++ c :: behind) = front ++ (name, some value) :: behind := by
  rw [setAttr, if_pos (by simp [hc])]
  induction front with
  | nil => simp [List.replaceF, hc]
  | cons d front ih =>
    have hd : d.1 ≠ name := hfront d (by simp)
    simp [List.replaceF, hd, ih fun e he => hfront e (List.mem_cons_of_mem _ he)]

/-- Every list of attributes has the first one of a name or none. -/
theorem absent_or_first (name : List Char) (attrs : List AttrContent) :
    (∀ c ∈ attrs, c.1 ≠ name) ∨ ∃ front c behind, attrs = front ++ c :: behind
      ∧ (∀ d ∈ front, d.1 ≠ name) ∧ c.1 = name := by
  induction attrs with
  | nil => exact .inl nofun
  | cons d attrs ih =>
    by_cases hd : d.1 = name
    · exact .inr ⟨[], d, attrs, rfl, nofun, hd⟩
    · rcases ih with h | ⟨front, c, behind, rfl, hfront, hc⟩
      · exact .inl (List.forall_mem_cons.2 ⟨hd, h⟩)
      · exact .inr ⟨d :: front, c, behind, rfl, List.forall_mem_cons.2 ⟨hd, hfront⟩, hc⟩

/-- The attribute that was given the value is the first of its name. -/
theorem find?_setAttr (name : List Char) (value : ValueForm × List Char) (attrs : List AttrContent) :
    (setAttr name value attrs).find? (fun c => c.1 = name) = some (name, some value) := by
  rcases absent_or_first name attrs with h | ⟨front, c, behind, rfl, hfront, hc⟩
  · simp [setAttr_of_absent h]
  · rw [setAttr_of_first hfront hc, List.find?_append, List.find?_eq_none.2 (by simpa using hfront)]
    simp

/-- All other attributes are what they were. -/
theorem filter_setAttr (name : List Char) (value : ValueForm × List Char)
    (attrs : List AttrContent) :
    (setAttr name value attrs).filter (fun c => c.1 ≠ name) = attrs.filter fun c => c.1 ≠ name := by
  rcases absent_or_first name attrs with h | ⟨front, c, behind, rfl, hfront, hc⟩
  · simp [setAttr_of_absent h]
  · rw [setAttr_of_first hfront hc, List.filter_append, List.filter_append]
    simp [hc]

end

/-! ## Tags -/

/-- Whether a tag is like another one, with these attributes. -/
structure Tag.Says (t' t : Tag) (contents : List AttrContent) : Prop where
  name : t'.name = t.name
  kind : t'.kind = t.kind
  selfClosing : t'.selfClosing = t.selfClosing
  contents : t'.contents = contents

/-- A tag whose attributes are unchanged. -/
theorem Tag.Says.alike {t t' : Tag} (h : t'.Says t t.contents) (unread : List String) :
    t.Alike unread t' :=
  ⟨h.name, h.kind, h.selfClosing, by rw [h.contents], by
    rw [Tag.value?_eq, Tag.value?_eq, Tag.map_content_attr?, Tag.map_content_attr?, h.contents]⟩

/-- What a tag says does not depend on its place. -/
theorem OpenTag.same_place (t : OpenTag) (start start' : Nat) :
    (t.place start').Says (t.place start) (t.place start).contents := by
  refine ⟨rfl, rfl, rfl, ?_⟩
  rw [Tag.contents, Tag.contents, map_content_place, map_content_place]

/-- Whether a tag says what another one does, but for an attribute with such a value. -/
def Tag.SaysWith (t : Tag) (name : String) (P : ValueForm → List Char → Prop) (t' : Tag) : Prop :=
  ∃ form text, P form text ∧ t'.Says t (setAttr name.toList (form, text) t.contents)

namespace Tag.SaysWith

variable {t t' : Tag} {name : String} {P : ValueForm → List Char → Prop}

theorem name_kind (h : t.SaysWith name P t') : t'.name = t.name ∧ t'.kind = t.kind := by
  obtain ⟨_, _, -, hsaid⟩ := h
  exact ⟨hsaid.name, hsaid.kind⟩

/-- The first attribute of the name has such a value. -/
theorem of_find? (h : t.SaysWith name P t') {form : ValueForm} {text : List Char}
    (hfind : t'.contents.find? (fun c => c.1 = name.toList)
      = some (name.toList, some (form, text))) : P form text := by
  obtain ⟨_, _, hP, hsaid⟩ := h
  rw [hsaid.contents, find?_setAttr] at hfind
  cases hfind
  exact hP

theorem attr? (h : t.SaysWith name P t') :
    ∃ a v, t'.attr? name = some a ∧ a.value = some v ∧ P v.form v.text := by
  obtain ⟨form, text, hP, hsaid⟩ := h
  have hattr := Tag.map_content_attr? t' name
  rw [hsaid.contents, find?_setAttr] at hattr
  obtain ⟨a, ha, hcontent⟩ := Option.map_eq_some_iff.1 hattr
  obtain ⟨v, hv, hvalue⟩ := Option.map_eq_some_iff.1 (congrArg Prod.snd hcontent)
  cases hvalue
  exact ⟨a, v, ha, hv, hP⟩

end Tag.SaysWith

/-- Whether a tag says what it should if its counterpart is one of some tags, and otherwise what its
counterpart says. -/
structure Tag.KeptBut (Edited : Tag → Prop) (Q : Tag → Tag → Prop) (t t' : Tag) : Prop where
  edited : Edited t → Q t t'
  kept : ¬Edited t → t'.Says t t.contents

/-! ## Documents -/

/-- Whether the tags of a document correspond to those of another one, in order and one by one, and
its texts and its bodies of code are those of the other one. -/
structure Document.SaysBut (R : Tag → Tag → Prop) (d d' : Document) : Prop where
  /-- each tag stands in the relation to its counterpart -/
  tags : List.Forall₂ R d.tags d'.tags
  /-- the texts are the same -/
  text : d'.tokens.text.map TextRun.text = d.tokens.text.map TextRun.text
  /-- the bodies of code are the same, and belong to the same tags -/
  raw : d'.tokens.raw.map (fun b => (b.tag, b.text)) = d.tokens.raw.map fun b => (b.tag, b.text)

/-- Whether a placed piece says what another one says, but for its tag. -/
structure Piece.SaysBut (R : Tag → Tag → Prop) (p p' : Located Piece) : Prop where
  tag : Option.Rel R (tag? p) (tag? p')
  text : (text? p').map TextRun.text = (text? p).map TextRun.text
  raw : (raw? p' 0).map RawBlock.text = (raw? p 0).map RawBlock.text

variable {R : Tag → Tag → Prop}

/-- The text and the code that belong to a tag do not depend on its place and its attributes. -/
theorem Piece.text_openTag (t : OpenTag) (content : List Char) (start : Nat) :
    (text? ⟨start, .openTag t content⟩).map TextRun.text
        = (if t.opensTextOnly && !content.isEmpty then some content else none)
      ∧ (raw? ⟨start, .openTag t content⟩ 0).map RawBlock.text
        = if t.opensRaw then some content else none := by
  constructor
  · simp only [text?]
    split <;> rfl
  · simp only [raw?]
    split <;> rfl

theorem Piece.SaysBut.isSome_tag? {p p' : Located Piece} (h : SaysBut R p p') :
    (tag? p').isSome = (tag? p).isSome := by
  have htag := h.tag
  revert htag
  generalize tag? p = o
  generalize tag? p' = o'
  rintro (_ | _) <;> rfl

/-- The bodies of code of corresponding pieces. -/
theorem rawFrom_of_saysBut {ps ps' : List (Located Piece)} (h : List.Forall₂ (Piece.SaysBut R) ps ps')
    (tags : Nat) : (Tokens.rawFrom tags ps').map (fun b => (b.tag, b.text))
      = (Tokens.rawFrom tags ps).map fun b => (b.tag, b.text) := by
  have hbody : ∀ (p : Located Piece) (i : Nat), (Piece.raw? p i).map (fun b => (b.tag, b.text))
      = ((Piece.raw? p 0).map RawBlock.text).map fun s => (i, s) := fun p i => by
    rw [Piece.raw?_eq, Option.map_map, Option.map_map]
    rfl
  induction h generalizing tags with
  | nil => rfl
  | @cons p p' ps ps' hp _ ih =>
    have hsome := hp.isSome_tag?
    cases htag : (Piece.tag? p).isSome with
    | false => simpa [Tokens.rawFrom, htag, hsome] using ih tags
    | true =>
      have hraw := (hbody p' tags).trans ((congrArg _ hp.raw).trans (hbody p tags).symm)
      have ih := ih (tags + 1)
      simp only [Tokens.rawFrom] at ih
      cases hp : Piece.raw? p tags <;> cases hp' : Piece.raw? p' tags <;>
        simp_all [Tokens.rawFrom]

/-- Documents say the same if their pieces do, one by one. -/
theorem Document.saysBut_of_pieces {d d' : Document} (hd : d.Sound) (hd' : d'.Sound)
    (h : List.Forall₂ (Piece.SaysBut R) d.pieces d'.pieces) : d.SaysBut R d' := by
  have htexts : ∀ {ps ps' : List (Located Piece)}, List.Forall₂ (Piece.SaysBut R) ps ps' →
      (ps'.filterMap Piece.text?).map TextRun.text = (ps.filterMap Piece.text?).map TextRun.text := by
    intro ps ps' h
    induction h with
    | nil => rfl
    | @cons p p' _ _ hp _ ih =>
      have htext := hp.text
      cases hp : Piece.text? p <;> cases hp' : Piece.text? p' <;> simp_all
  constructor
  · rw [hd.tags_eq, hd'.tags_eq]
    exact List.rel_filterMap (fun _ _ hp => hp.tag) h
  · rw [hd.text_eq, hd'.text_eq]
    exact htexts h
  · rw [hd.tokens, hd'.tokens]
    exact rawFrom_of_saysBut h 0

/-- The first tag of a name has a counterpart, and that is the first one too. -/
theorem Document.SaysBut.exists_firstOpen? {d d' : Document} {Edited : Tag → Prop}
    {Q : Tag → Tag → Prop} (h : d.SaysBut (Tag.KeptBut Edited Q) d') 
    (hQ : ∀ t t', Q t t' → t'.name = t.name ∧ t'.kind = t.kind) {name : String} {t : Tag}
    (ht : d.firstOpen? name = some t) :
    ∃ t', d'.firstOpen? name = some t' ∧ Tag.KeptBut Edited Q t t' := by
  have hfind : ∀ {l l' : List Tag}, List.Forall₂ (Tag.KeptBut Edited Q) l l' →
      l.find? (fun t => t.isOpen && t.name = name.toList) = some t →
      ∃ t', l'.find? (fun t => t.isOpen && t.name = name.toList) = some t' ∧ Tag.KeptBut Edited Q t t' := by
    intro l l' h
    induction h with
    | nil => nofun
    | @cons u u' _ _ hu _ ih =>
      obtain ⟨hname, hkind⟩ : u'.name = u.name ∧ u'.kind = u.kind := by
        by_cases hedited : Edited u
        · exact hQ u u' (hu.edited hedited)
        · exact ⟨(hu.kept hedited).name, (hu.kept hedited).kind⟩
      have hsame : (u'.isOpen && decide (u'.name = name.toList))
          = (u.isOpen && decide (u.name = name.toList)) := by
        rw [Tag.isOpen, Tag.isOpen, hname, hkind]
      rw [List.find?_cons, List.find?_cons, hsame]
      split
      · rintro ⟨⟩
        exact ⟨u', rfl, hu⟩
      · exact ih
  exact hfind h.tags ht

end MarkupGate
