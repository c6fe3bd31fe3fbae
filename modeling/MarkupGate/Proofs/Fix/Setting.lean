import MarkupGate.Proofs.Fix.TagEdit
import MarkupGate.Proofs.Markup.Rereading
import MarkupGate.Proofs.Revision.Saying

/-!
# Setting an attribute

A repair of a tag sets one attribute: it puts it in behind the name of a tag that has none of its name,
gives a value to a boolean one, or writes another value in place of the one that was there. `Puts` says
how the new tag is written; `Sets` is what follows for what it says, if it is read as it was written.

* `Puts.respells`: it is, wherever the old tag is complete, if the new value fits its form.
* `Puts.exists_of_read`: whatever is read instead, the reader gets to the new value.
-/

namespace MarkupGate

/-- Whether a tag says a text in one attribute and otherwise what another tag says. -/
structure OpenTag.Sets (t' t : OpenTag) (attr : String) (form : ValueForm) (text : List Char) :
    Prop where
  name : t'.name = t.name
  selfClosing : t'.selfClosing = t.selfClosing
  others : t'.contents.filter (fun c => c.1 ≠ attr.toList)
    = t.contents.filter fun c => c.1 ≠ attr.toList
  first : t'.contents.find? (fun c => c.1 = attr.toList) = some (attr.toList, some (form, text))

namespace OpenTag

variable {t t' : OpenTag} {name : String} {form : ValueForm} {text : List Char} {v : WrittenValue}

theorem sets_prepend (t : OpenTag) (name : String) (text : List Char)
    (hname : asciiLower name.toList = name.toList) :
    (t.prepend name.toList text).Sets t name .doubleQuoted text := by
  refine ⟨rfl, rfl, ?_, ?_⟩
  · rw [contents_prepend, hname]
    simp
  · rw [contents_prepend, hname]
    simp

namespace Sets

/-- Other attributes say what they said. -/
theorem find?_other (h : t'.Sets t name form text) {other : List Char} (hne : other ≠ name.toList) :
    t'.contents.find? (fun c => c.1 = other) = t.contents.find? fun c => c.1 = other := by
  have hfind : ∀ l : List AttrContent, l.find? (fun c => c.1 = other)
      = (l.filter fun c => c.1 ≠ name.toList).find? fun c => c.1 = other := by
    intro l
    rw [List.find?_filter]
    congr 1
    funext c
    by_cases hc : c.1 = other <;> simp [hc, hne]
  rw [hfind, hfind t.contents, h.others]

theorem content_attr?_other (h : t'.Sets t name form text) (start start' : Nat) (other : String)
    (hne : other ≠ name) : ((t'.place start').attr? other).map Attr.content
      = ((t.place start).attr? other).map Attr.content := by
  have hne : other.toList ≠ name.toList := fun heq => hne (String.toList_inj.1 heq)
  rw [Tag.map_content_attr?, Tag.map_content_attr?, Tag.contents, Tag.contents, map_content_place,
    map_content_place, h.find?_other hne]

theorem value?_other (h : t'.Sets t name form text) (start start' : Nat) (other : String)
    (hne : other ≠ name) : (t'.place start').value? other = (t.place start).value? other := by
  rw [Tag.value?_eq, Tag.value?_eq, h.content_attr?_other start start' other hne]

/-- The attribute that is set. -/
theorem attr? (h : t'.Sets t name form text) (start' : Nat) :
    ∃ a v, (t'.place start').attr? name = some a ∧ a.value = some v ∧ v.form = form
      ∧ v.text = text := by
  have hmap := Tag.map_content_attr? (t'.place start') name
  rw [Tag.contents, map_content_place, h.first] at hmap
  obtain ⟨a, ha, hcontent⟩ := Option.map_eq_some_iff.1 hmap
  obtain ⟨v, hv, hvalue⟩ := Option.map_eq_some_iff.1 (congrArg Prod.snd hcontent)
  exact ⟨a, v, ha, hv, congrArg Prod.fst hvalue, congrArg Prod.snd hvalue⟩

/-- A tag with an attribute set is a revision of the tag. -/
theorem revised (h : t'.Sets t name form text) {kind : FixKind} (hname : name ∈ kind.writes)
    (hmissing : isMissing ((t'.place 0).value? "content") = isMissing ((t.place 0).value? "content"))
    (content : List Char) :
    Piece.Revised kind.writes (.openTag t content) (.openTag t' content) := by
  have hfilter : ∀ l : List AttrContent, l.filter (fun c => c.1 ∉ kind.writes.map String.toList)
      = (l.filter fun c => c.1 ≠ name.toList).filter
          fun c => c.1 ∉ kind.writes.map String.toList := by
    intro l
    rw [List.filter_filter]
    apply List.filter_congr
    intro c _
    by_cases hc : c.1 = name.toList
    · have : name.toList ∈ kind.writes.map String.toList := List.mem_map_of_mem hname
      simp [hc, this]
    · simp [hc]
  exact .tag content h.name h.selfClosing (by rw [hfilter, hfilter t.contents, h.others]) hmissing

end Sets

/-! ## How attributes are set -/

/-- A tag in which an attribute has a new value: the attribute is put in where there was none of its
name, or the first one of its name is given the value. -/
inductive Puts (t : OpenTag) (name : String) : WrittenValue → OpenTag → Prop
  | new {text : List Char} (habsent : ∀ c ∈ t.contents, c.1 ≠ name.toList) (hne : name.toList ≠ [])
      (hplain : ∀ c ∈ name.toList, isPlainChar c) (hlower : asciiLower name.toList = name.toList) :
      t.Puts name ⟨[], [], .doubleQuoted, text⟩ (t.prepend name.toList text)
  | given {ps qs : List TagPart} {w : WrittenAttr} {v : WrittenValue}
      (hparts : t.parts = ps ++ .attr w :: qs)
      (hfirst : ∀ c ∈ ps.filterMap TagPart.content?, c.1 ≠ name.toList)
      (hname : w.content.1 = name.toList) (htakes : w.Takes v) :
      t.Puts name v (t.withParts (ps ++ .attr ⟨w.name, some v⟩ :: qs))

/-- A tag without an attribute says nothing of its name. -/
theorem absent_of_attr? {start : Nat} (h : (t.place start).attr? name = none) :
    ∀ c ∈ t.contents, c.1 ≠ name.toList := by
  have hfind := Tag.map_content_attr? (t.place start) name
  rw [h, Tag.contents, map_content_place] at hfind
  simpa using List.find?_eq_none.1 hfind.symm

namespace Puts

theorem contents (h : t.Puts name v t') :
    t'.contents = setAttr name.toList (v.form, v.text) t.contents := by
  cases h with
  | new habsent hne hplain hlower => rw [contents_prepend, hlower, setAttr_of_absent habsent]
  | given hparts hfirst hname htakes =>
    rename_i ps qs w
    have hnew : (t.withParts (ps ++ .attr ⟨w.name, some v⟩ :: qs)).parts
        = ps ++ .attr ⟨w.name, some v⟩ :: qs := rfl
    rw [contents_of_parts hparts, contents_of_parts hnew, setAttr_of_first hfirst hname, ← hname]
    rfl

/-- The new tag says what it should. -/
theorem placed (h : t.Puts name v t') (start start' : Nat) : (t'.place start').Says (t.place start)
    (setAttr name.toList (v.form, v.text) (t.place start).contents) := by
  have hcontents := h.contents
  rw [← map_content_place t' start', ← map_content_place t start] at hcontents
  cases h <;> exact ⟨rfl, rfl, rfl, hcontents⟩

theorem sets (h : t.Puts name v t') : t'.Sets t name v.form v.text := by
  have hothers := filter_setAttr name.toList (v.form, v.text) t.contents
  have hfirst := find?_setAttr name.toList (v.form, v.text) t.contents
  rw [← h.contents] at hothers hfirst
  cases h <;> exact ⟨rfl, rfl, hothers, hfirst⟩

/-- The new tag is read as it was written, if the value fits its form. -/
theorem respells (h : t.Puts name v t') (hfits : v.form.Fits v.text) : t'.Respells t := by
  cases h with
  | new habsent hne hplain hlower =>
    exact t.respells_prepend hne (fun c hc => isNameChar_of_isPlainChar (hplain c hc)) hfits
  | given hparts hfirst hname htakes => exact respells_replace hparts (htakes.replaces hfits)

/-- Whatever is read where the new tag stands, it has the attribute, with what is read of its value. -/
theorem exists_of_read (h : t.Puts name v t') (hcomplete : t.Complete) {u : OpenTag}
    {rest r : List Char} (hread : readOpenTag (t'.source.tail ++ rest) = some (u, r)) :
    ∃ form text s r', u.contents.find? (fun c => c.1 = name.toList)
        = some (name.toList, some (form, text))
      ∧ readValueText ((v.form.quote ++ v.text ++ v.form.quote ++ s).dropWhile isMarkupSpace)
        = some (form, text, r') := by
  -- The attributes in front of the new one have other names.
  have hfound : ∀ {ps behind : List TagPart} {attrName : List Char} {v' : WrittenValue},
      u.parts = ps ++ .attr ⟨attrName, some v'⟩ :: behind →
      (∀ c ∈ ps.filterMap TagPart.content?, c.1 ≠ name.toList) →
      asciiLower attrName = name.toList → u.contents.find? (fun c => c.1 = name.toList)
        = some (name.toList, some (v'.form, v'.text)) := by
    intro ps behind attrName v' hparts hfirst hname
    rw [contents_of_parts hparts, List.find?_append, List.find?_eq_none.2 (by simpa using hfirst)]
    simp [WrittenAttr.content, hname]
  obtain ⟨tagName, parts, selfClosing⟩ := t
  cases h with
  | @new text habsent hne hplain hlower =>
    have hspaces : ∀ c ∈ ([] : List Char), isMarkupSpace c := List.forall_mem_nil _
    obtain ⟨v', behind, s, r', hparts, hvalue⟩ :=
      (ReadsTo.of_prepend hcomplete.name hne fun c hc =>
        isNameChar_of_isPlainChar (hplain c hc)).exists_of_read rfl hspaces hspaces hread
    exact ⟨_, _, s, r', hfound hparts (by simp [TagPart.content?]) hlower, hvalue⟩
  | @given ps qs w v hparts hfirst hname htakes =>
    obtain rfl : parts = _ := hparts
    obtain ⟨hbefore, hafter⟩ := htakes.spaces _ hcomplete.parts.attr.2
    obtain ⟨v', behind, s, r', hparts, hvalue⟩ :=
      (ReadsTo.of_complete hcomplete).exists_of_read rfl hbefore hafter hread
    exact ⟨_, _, s, r', hfound hparts hfirst hname, hvalue⟩

end Puts

end OpenTag

end MarkupGate
