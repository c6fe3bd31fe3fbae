import Mathlib
import MarkupGate.Page.Link
import MarkupGate.Page.Script

/-!
# Tags that say the same

What the rules read of a tag is its name, its kind and what its attributes say; where these stand in
the text matters to repairs alone. Two tags are `Alike` if they say the same in all attributes but
those of some names, and agree on whether there is any `content`. Every question about other
attributes then has the same answer for both.
-/

namespace MarkupGate

/-- What an attribute says: its lower-cased name, and its value with the way it is delimited. -/
abbrev AttrContent := List Char × Option (ValueForm × List Char)

/-- What an attribute says. -/
def Attr.content (a : Attr) : AttrContent := (a.name, a.value.map fun v => (v.form, v.text))

/-- What an attribute says, as it was written. -/
def WrittenAttr.content (a : WrittenAttr) : AttrContent :=
  (asciiLower a.name, a.value.map fun v => (v.form, v.text))

/-- What a part of a tag says. -/
def TagPart.content? : TagPart → Option AttrContent
  | filler _ => none
  | attr a => some a.content

/-- What the attributes of a tag say. -/
def OpenTag.contents (t : OpenTag) : List AttrContent := t.parts.filterMap TagPart.content?

theorem WrittenAttr.content_place (a : WrittenAttr) (start : Nat) :
    (a.place start).content = a.content := by
  cases h : a.value <;> simp [Attr.content, content, place, h]

theorem map_content_locate (start : Nat) (ps : List TagPart) :
    ((locate TagPart.source start ps).filterMap TagPart.attr?).map Attr.content
      = ps.filterMap TagPart.content? := by
  induction ps generalizing start with
  | nil => rfl
  | cons p ps ih =>
    cases p <;> simp [locate, TagPart.attr?, TagPart.content?, ih, WrittenAttr.content_place,
      List.filterMap_cons]

/-- What a tag says does not depend on its place. -/
theorem OpenTag.map_content_place (t : OpenTag) (start : Nat) :
    (t.place start).attrs.map Attr.content = t.contents :=
  map_content_locate _ t.parts

namespace Tag

/-- What the attributes of the tag say. -/
def contents (t : Tag) : List AttrContent := t.attrs.map Attr.content

theorem map_content_attr? (t : Tag) (name : String) :
    (t.attr? name).map Attr.content = t.contents.find? fun c => c.1 = name.toList := by
  rw [attr?, contents, List.find?_map]
  rfl

theorem value?_eq (t : Tag) (name : String) :
    t.value? name
      = ((t.attr? name).map Attr.content).bind fun c => c.2.map Prod.snd := by
  rw [value?]
  cases t.attr? name with
  | none => rfl
  | some a => cases h : a.value <;> simp [Attr.content, h]

theorem hasAttr_eq (t : Tag) (name : String) :
    t.hasAttr name = ((t.attr? name).map Attr.content).isSome := by
  rw [hasAttr, Option.isSome_map]

/-- Whether two tags say the same but for some attributes. -/
structure Alike (unread : List String) (t t' : Tag) : Prop where
  name : t'.name = t.name
  kind : t'.kind = t.kind
  selfClosing : t'.selfClosing = t.selfClosing
  contents : t'.contents.filter (fun c => c.1 ∉ unread.map String.toList)
    = t.contents.filter fun c => c.1 ∉ unread.map String.toList
  missing : isMissing (t'.value? "content") = isMissing (t.value? "content")

namespace Alike

variable {unread : List String} {t t' : Tag}

/-- The first attribute of a name that is read says the same. -/
theorem content_attr? (h : Alike unread t t') {name : String} (hname : name ∉ unread) :
    (t'.attr? name).map Attr.content = (t.attr? name).map Attr.content := by
  have hfind : ∀ u : Tag, u.contents.find? (fun c => c.1 = name.toList)
      = (u.contents.filter fun c => c.1 ∉ unread.map String.toList).find?
        fun c => c.1 = name.toList := by
    intro u
    rw [List.find?_filter]
    congr 1
    funext c
    by_cases hc : c.1 = name.toList <;> simp [hc, hname, String.toList_inj]
  rw [map_content_attr?, map_content_attr?, hfind t, hfind t', h.contents]

theorem value? (h : Alike unread t t') {name : String} (hname : name ∉ unread) :
    t'.value? name = t.value? name := by
  rw [value?_eq, value?_eq, h.content_attr? hname]

theorem hasAttr (h : Alike unread t t') {name : String} (hname : name ∉ unread) :
    t'.hasAttr name = t.hasAttr name := by
  rw [hasAttr_eq, hasAttr_eq, h.content_attr? hname]

theorem isOpen (h : Alike unread t t') : t'.isOpen = t.isOpen := by rw [Tag.isOpen, h.kind]; rfl

theorem isClose (h : Alike unread t t') : t'.isClose = t.isClose := by rw [Tag.isClose, h.kind]; rfl

theorem isChildless (h : Alike unread t t') : t'.isChildless = t.isChildless := by
  rw [Tag.isChildless, Tag.isChildless, h.selfClosing, h.name]

theorem awaitsCloser (h : Alike unread t t') : t'.awaitsCloser = t.awaitsCloser := by
  rw [Tag.awaitsCloser, Tag.awaitsCloser, h.isOpen, h.isChildless]

theorem depthBehind (h : Alike unread t t') (name : List Char) (depth : Nat) :
    t'.depthBehind name depth = t.depthBehind name depth := by
  rw [Tag.depthBehind, Tag.depthBehind, h.name, h.isClose, h.isChildless]

end Alike

end Tag

theorem AttrValue.isExpression_of_form {v v' : AttrValue} (h : v'.form = v.form) :
    v'.isExpression = v.isExpression := by
  rw [isExpression, isExpression, h]

namespace Tag.Alike

variable {unread : List String} {t t' : Tag}

/-- Neither tag has an attribute that is read, neither has a value for it, or both have the same. -/
theorem attr_cases (h : Alike unread t t') {name : String} (hname : name ∉ unread) :
    (t.attr? name = none ∧ t'.attr? name = none)
      ∨ (∃ a a', t.attr? name = some a ∧ t'.attr? name = some a' ∧ a.value = none ∧ a'.value = none)
      ∨ ∃ a a' v v', t.attr? name = some a ∧ t'.attr? name = some a' ∧ a.value = some v
        ∧ a'.value = some v' ∧ v'.form = v.form ∧ v'.text = v.text := by
  have hcontent := h.content_attr? hname
  cases ha : t.attr? name with
  | none => exact .inl ⟨rfl, by simpa [ha] using hcontent⟩
  | some a =>
    obtain ⟨a', ha', hsame⟩ : ∃ a', t'.attr? name = some a' ∧ a'.content = a.content := by
      simpa [ha] using hcontent
    have hvalue := congrArg Prod.snd hsame
    simp only [Attr.content] at hvalue
    cases hv : a.value with
    | none => exact .inr (.inl ⟨a, a', rfl, ha', hv, by simpa [hv] using hvalue⟩)
    | some v =>
      obtain ⟨v', hv', hform, htext⟩ : ∃ v', a'.value = some v' ∧ v'.form = v.form
          ∧ v'.text = v.text := by
        simpa [hv] using hvalue
      exact .inr (.inr ⟨a, a', v, v', rfl, ha', hv, hv', hform, htext⟩)

/-- Links that say the same lead to the same kind of site. -/
theorem opensExternalTab (h : Alike unread t t') (htarget : "target" ∉ unread)
    (hhref : "href" ∉ unread) : t'.opensExternalTab = t.opensExternalTab := by
  rw [Tag.opensExternalTab, Tag.opensExternalTab, h.name, h.value? htarget]
  obtain ⟨ha, ha'⟩ | ⟨a, a', ha, ha', hv, hv'⟩ | ⟨a, a', v, v', ha, ha', hv, hv', hform, htext⟩ :=
    h.attr_cases hhref
  · simp [ha, ha']
  · simp [ha, ha', hv, hv', Attr.isExpression, Attr.text]
  · simp [ha, ha', hv, hv', Attr.isExpression, Attr.text, AttrValue.isExpression_of_form hform, htext]

/-- Links that say the same lack the same tokens. -/
theorem missingRel (h : Alike unread t t') (htarget : "target" ∉ unread)
    (hhref : "href" ∉ unread) (hrel : "rel" ∉ unread) : t'.missingRel = t.missingRel := by
  rw [Tag.missingRel, Tag.missingRel, h.opensExternalTab htarget hhref]
  obtain ⟨ha, ha'⟩ | ⟨a, a', ha, ha', hv, hv'⟩ | ⟨a, a', v, v', ha, ha', hv, hv', hform, htext⟩ :=
    h.attr_cases hrel
  · simp [ha, ha']
  · simp [ha, ha', hv, hv', Attr.isExpression, Attr.text]
  · simp [ha, ha', hv, hv', Attr.isExpression, Attr.text, AttrValue.isExpression_of_form hform, htext]

end Tag.Alike

end MarkupGate
