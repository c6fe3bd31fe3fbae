import Mathlib
import MarkupGate.Markup.Element

/-!
# Which tags belong together

An open tag and a close tag of its name belong together where the tags between them are balanced: those
of the name open as many elements as they close, and no front of them closes more. The pass that pairs
all tags keeps a stack of open elements for each name. Behind any tags its stacks hold the elements that
are still open, each at the place that counts those opened inside it, and its table holds the pairs.

* `openDepth?_eq_some_iff`, `balanced_iff`: balance, counted on the way and counted as a whole.
* `PairingState.Holds.pass`, `holds_closerTable`: what the pass knows behind one tag more, and in the end.
* `closerIndex?_eq_some_iff`: the close tags in the table are those that balance their open tag.
* `closerIndex?_bind`, `nextOpenTable_bind`: what the tables have for a tag, found behind it.
-/

namespace MarkupGate

namespace Tag

/-- Whether a tag begins an element of a name that a close tag ends. -/
def opens (t : Tag) (name : List Char) : Bool := t.awaitsCloser && t.name = name

/-- Whether a tag is a close tag of a name. -/
def closes (t : Tag) (name : List Char) : Bool := t.isClose && t.name = name

theorem opens_iff {t : Tag} {name : List Char} : t.opens name ↔ t.awaitsCloser ∧ t.name = name := by
  simp [opens]

theorem closes_iff {t : Tag} {name : List Char} : t.closes name ↔ t.isClose ∧ t.name = name := by
  simp [closes]

/-- No tag does both. -/
theorem opens_eq_false_of_closes {t : Tag} {name : List Char} (h : t.closes name) :
    t.opens name = false := by
  have := t.isClose_eq_not_isOpen
  have := (closes_iff.1 h).1
  simp_all [opens, awaitsCloser]

end Tag

/-! ## Balance -/

/-- How many elements of a name are open behind some tags, of `depth` that are open before them; nothing
where the tags close more than are open. -/
def openDepth? (name : List Char) (depth : Nat) : List Tag → Option Nat
  | [] => some depth
  | t :: ts =>
    if t.closes name then
      match depth with
      | 0 => none
      | n + 1 => openDepth? name n ts
    else if t.opens name then openDepth? name (depth + 1) ts
    else openDepth? name depth ts

theorem openDepth?_append (name : List Char) (depth : Nat) (ts us : List Tag) :
    openDepth? name depth (ts ++ us)
      = (openDepth? name depth ts).bind fun d => openDepth? name d us := by
  induction ts generalizing depth with
  | nil => rfl
  | cons t ts ih =>
    by_cases hcloses : t.closes name
    · cases depth <;> simp [openDepth?, hcloses, ih]
    · by_cases hopens : t.opens name <;> simp [openDepth?, hcloses, hopens, ih]

/-- Whether the elements of a name that some tags open are those that they close. -/
structure Balanced (name : List Char) (ts : List Tag) : Prop where
  /-- as many are closed as are opened -/
  level : ts.countP (·.closes name) = ts.countP (·.opens name)
  /-- nowhere are more closed than were opened before -/
  front : ∀ us, us <+: ts → us.countP (·.closes name) ≤ us.countP (·.opens name)

theorem openDepth?_eq_some_iff {name : List Char} {depth d : Nat} {ts : List Tag} :
    openDepth? name depth ts = some d
      ↔ depth + ts.countP (·.opens name) = d + ts.countP (·.closes name)
        ∧ ∀ us, us <+: ts → us.countP (·.closes name) ≤ depth + us.countP (·.opens name) := by
  induction ts generalizing depth with
  | nil => simp [openDepth?]
  | cons t ts ih =>
    have hfront : (∀ us, us <+: t :: ts →
          us.countP (·.closes name) ≤ depth + us.countP (·.opens name))
        ↔ ∀ us, us <+: ts → (t :: us).countP (·.closes name)
          ≤ depth + (t :: us).countP (·.opens name) := by
      constructor
      · intro h us hus
        exact h _ (by simpa using hus)
      · intro h us hus
        rcases List.prefix_cons_iff.1 hus with rfl | ⟨vs, rfl, hvs⟩
        · simp
        · exact h vs hvs
    rw [hfront]
    by_cases hcloses : t.closes name
    · have hopens := Tag.opens_eq_false_of_closes hcloses
      simp only [openDepth?, hcloses, if_true, List.countP_cons, hopens, Bool.false_eq_true, if_false,
        Nat.add_zero]
      cases depth with
      | zero =>
        simp only [reduceCtorEq, false_iff, not_and, not_forall]
        intro _
        exact ⟨[], List.nil_prefix, by simp⟩
      | succ n =>
        rw [ih]
        refine and_congr (by omega) (forall₂_congr fun us _ => by omega)
    · by_cases hopens : t.opens name
      · simp only [openDepth?, hcloses, hopens, if_true, Bool.false_eq_true, if_false, List.countP_cons,
          Nat.add_zero]
        rw [ih]
        exact and_congr (by omega) (forall₂_congr fun us _ => by omega)
      · simp [openDepth?, hcloses, hopens, ih]

theorem balanced_iff {name : List Char} {ts : List Tag} :
    Balanced name ts ↔ openDepth? name 0 ts = some 0 := by
  rw [openDepth?_eq_some_iff]
  simp only [Nat.zero_add]
  exact ⟨fun h => ⟨h.level.symm, h.front⟩, fun h => ⟨h.1.symm, h.2⟩⟩

/-! ## Pairs -/

/-- The tags between two indices. -/
def tagsBetween (tags : List Tag) (i c : Nat) : List Tag := (tags.take c).drop (i + 1)

/-- What it means that the tag of an index opens an element and that of another index closes it. -/
structure PairedTags (tags : List Tag) (i c : Nat) (t u : Tag) : Prop where
  opening : tags[i]? = some t
  closing : tags[c]? = some u
  before : i < c
  awaits : t.awaitsCloser
  closes : u.closes t.name
  balanced : Balanced t.name (tagsBetween tags i c)

/-- Whether an element of a name is open behind all tags that begins at an index, with some elements of
the name open inside it. -/
def OpenBehind (tags : List Tag) (name : List Char) (i inside : Nat) : Prop :=
  ∃ t, tags[i]? = some t ∧ t.opens name ∧ openDepth? name 0 (tags.drop (i + 1)) = some inside

/-- Tags are those before one of them, the tag and those behind it. -/
theorem take_append_cons_drop {tags : List Tag} {i : Nat} {t : Tag} (ht : tags[i]? = some t) :
    tags.take i ++ t :: tags.drop (i + 1) = tags := by
  obtain ⟨hi, rfl⟩ := List.getElem?_eq_some_iff.1 ht
  rw [← List.drop_eq_getElem_cons hi, List.take_append_drop]

theorem length_take_of_getElem? {tags : List Tag} {i : Nat} {t : Tag} (ht : tags[i]? = some t) :
    (tags.take i).length = i :=
  List.length_take_of_le (Nat.le_of_lt (List.getElem?_eq_some_iff.1 ht).1)

theorem PairedTags.drop_eq {tags : List Tag} {i c : Nat} {t u : Tag} (h : PairedTags tags i c t u) :
    tags.drop (i + 1) = tagsBetween tags i c ++ u :: tags.drop (c + 1) := by
  have hlt := h.before
  have hlength := length_take_of_getElem? h.closing
  calc tags.drop (i + 1) = (tags.take c ++ u :: tags.drop (c + 1)).drop (i + 1) := by
        rw [take_append_cons_drop h.closing]
    _ = tagsBetween tags i c ++ u :: tags.drop (c + 1) := by
      rw [List.drop_append_of_le_length (by omega), tagsBetween]

/-- An element that is open is not closed. -/
theorem OpenBehind.not_pairedTags {tags : List Tag} {name : List Char} {i inside : Nat}
    (h : OpenBehind tags name i inside) (c : Nat) (t u : Tag) : ¬PairedTags tags i c t u := by
  rintro hpair
  obtain ⟨x, hx, hopens, hdepth⟩ := h
  obtain rfl : x = t := Option.some.inj (hx.symm.trans hpair.opening)
  obtain ⟨-, rfl⟩ := Tag.opens_iff.1 hopens
  rw [hpair.drop_eq, openDepth?_append, balanced_iff.1 hpair.balanced] at hdepth
  simp [openDepth?, hpair.closes] at hdepth

/-- A tag more opens an element itself, or it changes how many are open inside of others. -/
theorem openBehind_concat {ts : List Tag} {t : Tag} {name : List Char} {i inside : Nat} :
    OpenBehind (ts ++ [t]) name i inside
      ↔ (i = ts.length ∧ t.opens name ∧ inside = 0)
        ∨ ∃ d, OpenBehind ts name i d ∧ openDepth? name d [t] = some inside := by
  rcases Nat.lt_trichotomy i ts.length with hi | rfl | hi
  · have hne : i ≠ ts.length := Nat.ne_of_lt hi
    simp only [OpenBehind, List.getElem?_append_left hi, List.drop_append_of_le_length hi,
      openDepth?_append, Option.bind_eq_some_iff, hne, false_and, false_or]
    constructor
    · rintro ⟨x, hx, hopens, d, hd, hlast⟩
      exact ⟨d, ⟨x, hx, hopens, hd⟩, hlast⟩
    · rintro ⟨d, ⟨x, hx, hopens, hd⟩, hlast⟩
      exact ⟨x, hx, hopens, d, hd, hlast⟩
  · have hbehind : OpenBehind (ts ++ [t]) name ts.length inside ↔ t.opens name ∧ inside = 0 := by
      simp [OpenBehind, openDepth?, @eq_comm _ inside]
    have hout : ∀ d, ¬OpenBehind ts name ts.length d := by simp [OpenBehind]
    simp [hbehind, hout]
  · have hne : i ≠ ts.length := Nat.ne_of_gt hi
    have hout : (ts ++ [t])[i]? = none := by
      rw [List.getElem?_eq_none_iff]
      simp only [List.length_append, List.length_singleton]
      omega
    simp [OpenBehind, hout, hne, List.getElem?_eq_none (Nat.le_of_lt hi)]

/-- A tag more closes the element that has none open inside it. -/
theorem exists_pairedTags_concat {ts : List Tag} {t : Tag} {i c : Nat} :
    (∃ x u, PairedTags (ts ++ [t]) i c x u)
      ↔ (∃ x u, PairedTags ts i c x u) ∨ c = ts.length ∧ t.isClose ∧ OpenBehind ts t.name i 0 := by
  constructor
  · rintro ⟨x, u, hx, hu, hlt, hawaits, hcloses, hbal⟩
    have hc : c < ts.length + 1 := by
      have := (List.getElem?_eq_some_iff.1 hu).1
      simpa using this
    rw [List.getElem?_append_left (by omega)] at hx
    rw [tagsBetween, List.take_append_of_le_length (by omega)] at hbal
    rcases Nat.lt_or_ge c ts.length with hin | hge
    · rw [List.getElem?_append_left hin] at hu
      exact .inl ⟨x, u, hx, hu, hlt, hawaits, hcloses, hbal⟩
    · obtain rfl : c = ts.length := by omega
      obtain rfl : t = u := by simpa using hu
      obtain ⟨hclose, hname⟩ := Tag.closes_iff.1 hcloses
      rw [List.take_length, balanced_iff] at hbal
      refine .inr ⟨rfl, hclose, x, hx, ?_, hname ▸ hbal⟩
      exact Tag.opens_iff.2 ⟨hawaits, hname.symm⟩
  · rintro (⟨x, u, hx, hu, hlt, hawaits, hcloses, hbal⟩ | ⟨rfl, hclose, x, hx, hopens, hdepth⟩)
    · have hi := (List.getElem?_eq_some_iff.1 hx).1
      have hc := (List.getElem?_eq_some_iff.1 hu).1
      refine ⟨x, u, ?_, ?_, hlt, hawaits, hcloses, ?_⟩
      · rwa [List.getElem?_append_left hi]
      · rwa [List.getElem?_append_left hc]
      · rwa [tagsBetween, List.take_append_of_le_length (Nat.le_of_lt hc)]
    · have hi := (List.getElem?_eq_some_iff.1 hx).1
      obtain ⟨hawaits, hname⟩ := Tag.opens_iff.1 hopens
      refine ⟨x, t, ?_, by simp, hi, hawaits, Tag.closes_iff.2 ⟨hclose, hname.symm⟩, ?_⟩
      · rwa [List.getElem?_append_left hi]
      · rwa [tagsBetween, List.take_left, hname, balanced_iff]

/-! ## The pass -/

namespace PairingState

/-- What a state holds behind some tags. -/
structure Holds (st : PairingState) (tags : List Tag) : Prop where
  /-- a stack has the open elements of its name, each below as many as are open inside it -/
  stack : ∀ name inside i, (st.stack name)[inside]? = some i ↔ OpenBehind tags name i inside
  /-- the table has the pairs -/
  closers : ∀ i c, st.closers[i]?.join = some c ↔ ∃ t u, PairedTags tags i c t u
  /-- there is room for the tags -/
  room : tags.length ≤ st.closers.size

variable {st : PairingState} {ts : List Tag} {t : Tag}

theorem stack_set (st : PairingState) (closers : Array (Option Nat)) (name other : List Char)
    (indices : List Nat) :
    stack ⟨st.unclosed.set name indices, closers⟩ other
      = if other = name then indices else st.stack other := by
  rw [stack, stack, NameTable.lookup_set]
  split <;> rfl

/-- A tag is passed that opens nothing and closes nothing that is open. -/
theorem Holds.keep (h : st.Holds ts) (hroom : ts.length < st.closers.size)
    (hopens : ∀ name, t.opens name = false) (hstray : ∀ name, t.closes name → st.stack name = []) :
    st.Holds (ts ++ [t]) := by
  have hnone : ∀ name, t.closes name → ∀ i inside, ¬OpenBehind ts name i inside := by
    intro name hcloses i inside hb
    have := (h.stack name inside i).2 hb
    simp [hstray name hcloses] at this
  refine ⟨fun name inside i => ?_, fun i c => ?_, by simpa using hroom⟩
  · rw [h.stack, openBehind_concat]
    by_cases hcloses : t.closes name
    · simp [hopens, hnone name hcloses]
    · simp [openDepth?, hopens, hcloses]
  · rw [h.closers, exists_pairedTags_concat, or_iff_left]
    rintro ⟨-, hclose, hb⟩
    exact hnone _ (Tag.closes_iff.2 ⟨hclose, rfl⟩) i 0 hb

/-- An open tag goes on the stack of its name. -/
theorem Holds.push (h : st.Holds ts) (hroom : ts.length < st.closers.size) (hawaits : t.awaitsCloser) :
    Holds { st with unclosed := st.unclosed.set t.name (ts.length :: st.stack t.name) } (ts ++ [t]) := by
  have hclose : t.isClose = false := by
    have := t.isClose_eq_not_isOpen
    simp_all [Tag.awaitsCloser]
  refine ⟨fun name inside i => ?_, fun i c => ?_, by simpa using hroom⟩
  · rw [stack_set, openBehind_concat]
    by_cases hname : name = t.name
    · subst hname
      cases inside <;>
        simp [openDepth?, Tag.closes, hclose, Tag.opens_iff.2 ⟨hawaits, rfl⟩, h.stack, eq_comm]
    · have hopens : t.opens name = false := by simp [Tag.opens, Ne.symm hname]
      simp [openDepth?, Tag.closes, hclose, hopens, hname, h.stack]
  · simp [exists_pairedTags_concat, h.closers, hclose]

/-- A close tag takes the innermost element of its name off the stack. -/
theorem Holds.pop (h : st.Holds ts) (hroom : ts.length < st.closers.size) (hclose : t.isClose)
    {innermost : Nat} {outer : List Nat} (hstack : st.stack t.name = innermost :: outer) :
    Holds {
      unclosed := st.unclosed.set t.name outer
      closers := st.closers.setIfInBounds innermost (some ts.length) } (ts ++ [t]) := by
  have hopens : ∀ name, t.opens name = false := by
    intro name
    have := t.isClose_eq_not_isOpen
    simp_all [Tag.opens, Tag.awaitsCloser]
  have hinner : ∀ i, OpenBehind ts t.name i 0 ↔ innermost = i := by
    intro i
    rw [← h.stack, hstack]
    simp
  refine ⟨fun name inside i => ?_, fun i c => ?_, by simpa using hroom⟩
  · rw [stack_set, openBehind_concat]
    by_cases hname : name = t.name
    · subst hname
      have houter : outer[inside]? = some i ↔ OpenBehind ts t.name i (inside + 1) := by
        rw [← h.stack, hstack, List.getElem?_cons_succ]
      have hlast : ∀ d, openDepth? t.name d [t] = some inside ↔ d = inside + 1 := by
        intro d
        cases d <;> simp [openDepth?, Tag.closes_iff.2 ⟨hclose, rfl⟩]
      simp [hopens, houter, hlast]
    · have hcloses : t.closes name = false := by simp [Tag.closes, Ne.symm hname]
      simp [openDepth?, hcloses, hopens, hname, h.stack]
  · rw [exists_pairedTags_concat, hinner]
    by_cases hi : innermost = i
    · subst hi
      have hopen := (hinner innermost).2 rfl
      have hlt : innermost < ts.length := by
        obtain ⟨x, hx, -⟩ := hopen
        exact (List.getElem?_eq_some_iff.1 hx).1
      have hfree : ¬∃ x u, PairedTags ts innermost c x u := by
        rintro ⟨x, u, hpair⟩
        exact hopen.not_pairedTags c x u hpair
      rw [Array.getElem?_setIfInBounds_self_of_lt (by omega)]
      simp [hfree, hclose, eq_comm]
    · rw [Array.getElem?_setIfInBounds_ne hi, h.closers]
      simp [hi]

theorem size_pass (st : PairingState) (t : Tag) (i : Nat) :
    (st.pass t i).closers.size = st.closers.size := by
  rw [pass]
  split
  · split <;> rfl
  · split
    · rfl
    · exact Array.size_setIfInBounds

/-- What a state holds behind some tags, it holds behind one tag more. -/
theorem Holds.pass (h : st.Holds ts) (hroom : ts.length < st.closers.size) :
    (st.pass t ts.length).Holds (ts ++ [t]) := by
  have hclose := t.isClose_eq_not_isOpen
  rw [PairingState.pass]
  split
  · rename_i hopen
    split
    · rename_i hless
      apply h.keep hroom
      · simp [Tag.opens, Tag.awaitsCloser, hless]
      · simp [Tag.closes, hclose, hopen]
    · rename_i hless
      exact h.push hroom (by simp [Tag.awaitsCloser, hopen, hless])
  · rename_i hopen
    split
    · rename_i hnil
      apply h.keep hroom
      · simp [Tag.opens, Tag.awaitsCloser, hopen]
      · intro name hcloses
        rwa [← (Tag.closes_iff.1 hcloses).2]
    · rename_i innermost outer hcons
      exact h.pop hroom (by simp [hclose, hopen]) hcons

/-- So it does behind any number of tags more. -/
theorem Holds.foldl (h : st.Holds ts) (more : List Tag)
    (hroom : ts.length + more.length ≤ st.closers.size) :
    ((more.zipIdx ts.length).foldl (fun st (t, i) => st.pass t i) st).Holds (ts ++ more) := by
  induction more generalizing st ts with
  | nil => simpa using h
  | cons t more ih =>
    simp only [List.length_cons] at hroom
    have hrest := ih (h.pass (t := t) (by omega)) (by
      rw [size_pass, List.length_append, List.length_singleton]
      omega)
    rw [List.append_assoc, List.length_append, List.length_singleton] at hrest
    simpa [List.zipIdx_cons] using hrest

/-- In front of all tags there is nothing. -/
theorem holds_nil (closers : Array (Option Nat)) (hnone : ∀ i : Nat, closers[i]?.join = none) :
    Holds ⟨[], closers⟩ [] := by
  refine ⟨fun name inside i => ?_, fun i c => ?_, Nat.zero_le _⟩
  · simp [stack, OpenBehind]
  · simp only [hnone, reduceCtorEq, false_iff]
    rintro ⟨t, u, hpair⟩
    simpa using hpair.opening

end PairingState

/-- The index of the close tag of the element that the tag of an index opens. -/
def closerIndex? (tags : List Tag) (i : Nat) : Option Nat := (closerTable tags)[i]?.join

/-- What the pass knows in the end. -/
theorem exists_holds_closerTable (tags : List Tag) :
    ∃ st : PairingState, st.Holds tags ∧ st.closers = closerTable tags := by
  let start : PairingState := ⟨[], Array.replicate tags.length none⟩
  have hnone : ∀ i : Nat, (Array.replicate tags.length (none : Option Nat))[i]?.join = none := by
    intro i
    rw [Array.getElem?_replicate]
    split <;> rfl
  have hstart : start.Holds [] := PairingState.holds_nil _ hnone
  exact ⟨_, hstart.foldl tags (by simp [start]), rfl⟩

/-- The close tag of an element is the one that balances its open tag. -/
theorem closerIndex?_eq_some_iff {tags : List Tag} {i c : Nat} :
    closerIndex? tags i = some c ↔ ∃ t u, PairedTags tags i c t u := by
  obtain ⟨st, hst, htable⟩ := exists_holds_closerTable tags
  rw [closerIndex?, ← htable, hst.closers]

/-! ## One element on its own -/

theorem findCloser_cons (name : List Char) (pending : Nat) (t : Tag) (ts : List Tag) :
    findCloser name pending (t :: ts)
      = if t.closes name then
          match pending with
          | 0 => some t
          | n + 1 => findCloser name n ts
        else if t.opens name then findCloser name (pending + 1) ts
        else findCloser name pending ts := by
  have hopen := t.isClose_eq_not_isOpen
  by_cases hname : t.name = name
  · by_cases hclose : t.isClose
    · cases pending <;> simp [findCloser, Tag.closes, hname, hclose]
    · by_cases hless : t.isChildless <;>
        simp_all [findCloser, Tag.closes, Tag.opens, Tag.awaitsCloser]
  · simp [findCloser, Tag.closes, Tag.opens, hname]

/-- The search for a close tag stops at the first one that is not spent on an element inside. -/
theorem findCloser_eq_some_iff {name : List Char} {pending : Nat} {ts : List Tag} {u : Tag} :
    findCloser name pending ts = some u
      ↔ ∃ between behind, ts = between ++ u :: behind ∧ u.closes name
        ∧ openDepth? name pending between = some 0 := by
  induction ts generalizing pending with
  | nil => simp [findCloser]
  | cons t ts ih =>
    have hsplit : (∃ between behind, t :: ts = between ++ u :: behind ∧ u.closes name
          ∧ openDepth? name pending between = some 0)
        ↔ (t = u ∧ u.closes name ∧ pending = 0)
          ∨ ∃ between behind, ts = between ++ u :: behind ∧ u.closes name
            ∧ openDepth? name pending (t :: between) = some 0 := by
      constructor
      · rintro ⟨_ | ⟨t', between⟩, behind, heq, hcloses, hdepth⟩
        · cases heq
          exact .inl ⟨rfl, hcloses, by simpa [openDepth?] using hdepth⟩
        · cases heq
          exact .inr ⟨between, behind, rfl, hcloses, hdepth⟩
      · rintro (⟨rfl, hcloses, rfl⟩ | ⟨between, behind, rfl, hcloses, hdepth⟩)
        · exact ⟨[], ts, rfl, hcloses, rfl⟩
        · exact ⟨t :: between, behind, rfl, hcloses, hdepth⟩
    rw [hsplit, findCloser_cons]
    by_cases hcloses : t.closes name
    · cases pending with
      | zero =>
        have hself : t = u ↔ t = u ∧ u.closes name := by
          constructor
          · rintro rfl
            exact ⟨rfl, hcloses⟩
          · exact And.left
        simpa [openDepth?, hcloses] using hself
      | succ n => simp [openDepth?, hcloses, ih]
    · have hne : ¬(t = u ∧ u.closes name ∧ pending = 0) := by
        rintro ⟨rfl, h, -⟩
        exact hcloses h
      rw [or_iff_right hne]
      by_cases hopens : t.opens name <;> simp [openDepth?, hcloses, hopens, ih]

/-- Where the first element stays open, so do those around it. -/
theorem findCloser_eq_none_of_le {name : List Char} {m n : Nat} {ts : List Tag} (hle : m ≤ n)
    (h : findCloser name m ts = none) : findCloser name n ts = none := by
  induction ts generalizing m n with
  | nil => rfl
  | cons t ts ih =>
    rw [findCloser_cons] at h ⊢
    by_cases hcloses : t.closes name
    · cases m with
      | zero => simp [hcloses] at h
      | succ m =>
        obtain ⟨n, rfl⟩ : ∃ k, n = k + 1 := ⟨n - 1, by omega⟩
        simp only [hcloses, if_true] at h ⊢
        exact ih (by omega) h
    · by_cases hopens : t.opens name
      · simp only [hcloses, hopens, if_true, Bool.false_eq_true, if_false] at h ⊢
        exact ih (by omega) h
      · simp only [hcloses, hopens, Bool.false_eq_true, if_false] at h ⊢
        exact ih hle h

/-- The table has the close tag that is found behind the open tag. -/
theorem closerIndex?_bind (front : List Tag) (t : Tag) (behind : List Tag) :
    (closerIndex? (front ++ t :: behind) front.length).bind (fun c => (front ++ t :: behind)[c]?)
      = closerAmong? t behind := by
  have ht : (front ++ t :: behind)[front.length]? = some t := by simp
  apply Option.ext
  intro u
  rw [Option.bind_eq_some_iff, closerAmong?, Option.ite_none_right_eq_some, findCloser_eq_some_iff]
  constructor
  · rintro ⟨c, hc, hu⟩
    obtain ⟨x, y, hpair⟩ := closerIndex?_eq_some_iff.1 hc
    obtain rfl : t = x := Option.some.inj (ht.symm.trans hpair.opening)
    obtain rfl : u = y := Option.some.inj (hu.symm.trans hpair.closing)
    have hbehind : (front ++ t :: behind).drop (front.length + 1) = behind := by simp
    exact ⟨hpair.awaits, _, _, hbehind.symm.trans hpair.drop_eq, hpair.closes,
      balanced_iff.1 hpair.balanced⟩
  · rintro ⟨hawaits, between, rest, rfl, hcloses, hdepth⟩
    have hsplit : front ++ t :: (between ++ u :: rest) = (front ++ t :: between) ++ u :: rest := by simp
    have hlen : (front ++ t :: between).length = front.length + 1 + between.length := by
      simp only [List.length_append, List.length_cons]
      omega
    have hu : (front ++ t :: (between ++ u :: rest))[front.length + 1 + between.length]? = some u := by
      rw [hsplit, ← hlen, List.getElem?_append_right (Nat.le_refl _), Nat.sub_self]
      rfl
    have hbetween : tagsBetween (front ++ t :: (between ++ u :: rest)) front.length
        (front.length + 1 + between.length) = between := by
      rw [tagsBetween, hsplit, ← hlen, List.take_left]
      simp
    refine ⟨_, closerIndex?_eq_some_iff.2 ⟨t, u, ht, hu, by omega, hawaits, hcloses, ?_⟩, hu⟩
    rwa [hbetween, balanced_iff]

/-! ## The next open tag of a name -/

/-- Whether a tag is an open tag of a name. -/
def Tag.begins (t : Tag) (name : List Char) : Bool := t.isOpen && t.name = name

/-- The pass from the end knows where the first open tag of each name stands. -/
theorem lookup_nextOpens (index : Nat) (ts : List Tag) (name : List Char) :
    (nextOpens index ts).1.lookup name = (ts.findIdx? (·.begins name)).map (index + ·) := by
  induction ts generalizing index with
  | nil => rfl
  | cons t ts ih =>
    rw [nextOpens, List.findIdx?_cons]
    by_cases hopen : t.isOpen
    · by_cases hname : t.name = name
      · simp [hopen, NameTable.lookup_set, Tag.begins, hname]
      · simp [hopen, NameTable.lookup_set, Tag.begins, hname, Ne.symm hname, ih, Function.comp_def,
          Nat.add_assoc, Nat.add_comm 1]
    · simp [hopen, Tag.begins, ih, Function.comp_def, Nat.add_assoc, Nat.add_comm 1]

/-- So it finds for an open tag the first one of its name among those behind it. -/
theorem getElem?_nextOpens (index : Nat) (front : List Tag) (t : Tag) (behind : List Tag) :
    (nextOpens index (front ++ t :: behind)).2[front.length]?.join
      = if t.isOpen then
          (behind.findIdx? (·.begins t.name)).map (index + front.length + 1 + ·)
        else none := by
  induction front generalizing index with
  | nil => by_cases hopen : t.isOpen <;> simp [nextOpens, hopen, lookup_nextOpens]
  | cons u front ih =>
    have hrest := ih (index + 1)
    have hindex : index + (front.length + 1) + 1 = index + 1 + front.length + 1 := by omega
    rw [List.cons_append, nextOpens, List.length_cons, hindex, ← hrest]
    by_cases hopen : u.isOpen <;> simp [hopen]

/-- The table has the open tag that is found behind an open tag. -/
theorem nextOpenTable_bind {t : Tag} (front behind : List Tag) (hopen : t.isOpen) :
    ((nextOpenTable (front ++ t :: behind))[front.length]?.join).bind
        (fun n => (front ++ t :: behind)[n]?)
      = behind.find? (·.begins t.name) := by
  rw [nextOpenTable, List.getElem?_toArray, getElem?_nextOpens, if_pos hopen, Option.bind_map]
  have hat : ∀ n, (front ++ t :: behind)[0 + front.length + 1 + n]? = behind[n]? := by
    intro n
    rw [List.getElem?_append_right (by omega)]
    have : 0 + front.length + 1 + n - front.length = n + 1 := by omega
    rw [this, List.getElem?_cons_succ]
  simp only [Function.comp_def, hat]
  exact List.find?_eq_bind_findIdx?_getElem?.symm

end MarkupGate
