import Mathlib

/-!
# Tracks

A track follows the members of a list into another list: it is the second list in order, each of its
members with the member of the first that it comes from, or marked as added. Whatever is asked of both
lists in the same words has the same answer, if it has for each pair and the added members do not
count.
-/

namespace MarkupGate

/-- The members of a list in order, each with where it comes from. -/
abbrev Track (α : Type) := List (Option α × α)

namespace Track

variable {α β : Type} {T : Track α}

/-- The members that the new ones come from. -/
def old (T : Track α) : List α := T.filterMap Prod.fst

/-- The new members. -/
def new (T : Track α) : List α := T.map Prod.snd

@[simp] theorem old_nil : old ([] : Track α) = [] := rfl

@[simp] theorem new_nil : new ([] : Track α) = [] := rfl

@[simp] theorem old_cons_some (a b : α) (T : Track α) : old ((some a, b) :: T) = a :: old T := rfl

@[simp] theorem old_cons_none (b : α) (T : Track α) : old ((none, b) :: T) = old T := rfl

@[simp] theorem new_cons (o : Option α) (b : α) (T : Track α) : new ((o, b) :: T) = b :: new T := rfl

@[simp] theorem old_append (T U : Track α) : old (T ++ U) = old T ++ old U :=
  List.filterMap_append

@[simp] theorem new_append (T U : Track α) : new (T ++ U) = new T ++ new U := List.map_append

/-- The track of a list that stays as it is. -/
def same (l : List α) : Track α := l.map fun a => (some a, a)

/-- The track of members that are all added. -/
def added (l : List α) : Track α := l.map fun a => (none, a)

@[simp] theorem old_same (l : List α) : old (same l) = l := by simp [old, same]

@[simp] theorem new_same (l : List α) : new (same l) = l := by simp [new, same, Function.comp_def]

@[simp] theorem old_added (l : List α) : old (added l) = [] := by
  simp [old, added]

@[simp] theorem new_added (l : List α) : new (added l) = l := by simp [new, added, Function.comp_def]

theorem mem_same {l : List α} {o : Option α} {b : α} : (o, b) ∈ same l ↔ o = some b ∧ b ∈ l := by
  simp only [same, List.mem_map, Prod.mk.injEq]
  exact ⟨fun ⟨a, ha, ho, hb⟩ => hb ▸ ⟨ho.symm, ha⟩, fun ⟨ho, hb⟩ => ⟨b, hb, ho.symm, rfl⟩⟩

theorem mem_added {l : List α} {o : Option α} {b : α} : (o, b) ∈ added l ↔ o = none ∧ b ∈ l := by
  simp only [added, List.mem_map, Prod.mk.injEq]
  exact ⟨fun ⟨a, ha, ho, hb⟩ => hb ▸ ⟨ho.symm, ha⟩, fun ⟨ho, hb⟩ => ⟨b, hb, ho.symm, rfl⟩⟩

/-- Where nothing is added, the two sides correspond. -/
theorem forall₂_of_matched {R : α → α → Prop} (h : ∀ o b, (o, b) ∈ T → ∃ a, o = some a ∧ R a b) :
    List.Forall₂ R (old T) (new T) := by
  induction T with
  | nil => exact .nil
  | cons x T ih =>
    obtain ⟨o, b⟩ := x
    obtain ⟨a, rfl, hab⟩ := h o b (by simp)
    exact .cons hab (ih fun o b hmem => h o b (List.mem_cons_of_mem _ hmem))

theorem mem_old {a : α} : a ∈ old T ↔ ∃ b, (some a, b) ∈ T := by
  simp only [old, List.mem_filterMap, Prod.exists]
  exact ⟨fun ⟨o, b, h, ho⟩ => ⟨b, ho ▸ h⟩, fun ⟨b, h⟩ => ⟨some a, b, h, rfl⟩⟩

/-- What is picked out of the members corresponds if it does for each pair. -/
theorem forall₂_filterMap {R : β → β → Prop} {f f' : α → Option β}
    (hmatched : ∀ a b, (some a, b) ∈ T → Option.Rel R (f a) (f' b))
    (hadded : ∀ b, (none, b) ∈ T → f' b = none) :
    List.Forall₂ R ((old T).filterMap f) ((new T).filterMap f') := by
  induction T with
  | nil => exact .nil
  | cons x T ih =>
    have ih := ih (fun a b h => hmatched a b (List.mem_cons_of_mem _ h))
      (fun b h => hadded b (List.mem_cons_of_mem _ h))
    obtain ⟨o, b⟩ := x
    cases o with
    | none => simpa [hadded b (by simp)] using ih
    | some a =>
      have hab := hmatched a b (by simp)
      simp only [old_cons_some, new_cons, List.filterMap_cons]
      revert hab
      generalize f a = c
      generalize f' b = c'
      rintro (hab | _)
      · exact .cons hab ih
      · exact ih

/-- What is picked out of the new members is what was picked out of the old ones. -/
theorem filterMap_new {f f' : α → Option β} (hmatched : ∀ a b, (some a, b) ∈ T → f' b = f a)
    (hadded : ∀ b, (none, b) ∈ T → f' b = none) : (new T).filterMap f' = (old T).filterMap f := by
  refine (List.forall₂_eq_eq_eq ▸ forall₂_filterMap (fun a b h => ?_) hadded : _ = _).symm
  rw [hmatched a b h]
  cases f a with
  | none => exact .none
  | some c => exact .some rfl

/-- Lists made of the members are the same. -/
theorem flatMap_new {f f' : α → List β} (hmatched : ∀ a b, (some a, b) ∈ T → f' b = f a)
    (hadded : ∀ b, (none, b) ∈ T → f' b = []) : (new T).flatMap f' = (old T).flatMap f := by
  induction T with
  | nil => rfl
  | cons x T ih =>
    have ih := ih (fun a b h => hmatched a b (List.mem_cons_of_mem _ h))
      (fun b h => hadded b (List.mem_cons_of_mem _ h))
    obtain ⟨o, b⟩ := x
    cases o with
    | none => simp [hadded b (by simp), ih]
    | some a => simp [hmatched a b (by simp), ih]

/-- The track of what is picked out of the members. -/
def pick (f : α → Option β) (T : Track α) : Track β :=
  T.filterMap fun (o, b) => (f b).map fun c => (o.bind f, c)

theorem mem_pick {f : α → Option β} {o : Option β} {c : β} :
    (o, c) ∈ pick f T ↔ ∃ u b, (u, b) ∈ T ∧ f b = some c ∧ u.bind f = o := by
  simp only [pick, List.mem_filterMap, Option.map_eq_some_iff, Prod.mk.injEq, Prod.exists]
  constructor
  · rintro ⟨u, b, h, c', hc, rfl, rfl⟩
    exact ⟨u, b, h, hc, rfl⟩
  · rintro ⟨u, b, h, hc, rfl⟩
    exact ⟨u, b, h, c, hc, rfl, rfl⟩

theorem new_pick (f : α → Option β) (T : Track α) : new (pick f T) = (new T).filterMap f := by
  simp only [new, pick, List.map_filterMap, List.filterMap_map]
  apply List.filterMap_congr
  intro x _
  cases h : f x.2 <;> simp [h]

theorem old_pick {f : α → Option β}
    (hmatched : ∀ a b, (some a, b) ∈ T → (f b).isSome = (f a).isSome) :
    old (pick f T) = (old T).filterMap f := by
  simp only [old, pick, List.filterMap_filterMap]
  apply List.filterMap_congr
  intro x hx
  obtain ⟨o, b⟩ := x
  cases o with
  | none => cases f b <;> simp
  | some a =>
    have := hmatched a b hx
    cases hb : f b <;> cases ha : f a <;> simp_all

/-- What corresponds in a part of a track corresponds in the whole. -/
theorem rel_mono {U : Track α} (h : ∀ x ∈ T, x ∈ U) {o o' : Option α}
    (ho : Option.Rel (fun a b => (some a, b) ∈ T) o o') :
    Option.Rel (fun a b => (some a, b) ∈ U) o o' := by
  rcases ho with hab | _
  · exact .some (h _ hab)
  · exact .none

/-- The first members for which something holds correspond, if it holds of no added one. -/
theorem find?_new {c c' : α → Bool} (hmatched : ∀ a b, (some a, b) ∈ T → c' b = c a)
    (hadded : ∀ b, (none, b) ∈ T → c' b = false) :
    Option.Rel (fun a b => (some a, b) ∈ T) ((old T).find? c) ((new T).find? c') := by
  induction T with
  | nil => exact .none
  | cons x T ih =>
    have ih := ih (fun a b h => hmatched a b (List.mem_cons_of_mem _ h))
      (fun b h => hadded b (List.mem_cons_of_mem _ h))
    have ih := rel_mono (U := x :: T) (fun _ => List.mem_cons_of_mem _) ih
    obtain ⟨o, b⟩ := x
    cases o with
    | none => simpa [hadded b (by simp)] using ih
    | some a =>
      have hab := hmatched a b (by simp)
      by_cases ha : c a
      · rw [old_cons_some, new_cons, List.find?_cons_of_pos ha, List.find?_cons_of_pos (hab ▸ ha)]
        exact .some (by simp)
      · simpa [ha, hab] using ih

/-- Whether something holds of a member is the same on both sides. -/
theorem any_new {c c' : α → Bool} (hmatched : ∀ a b, (some a, b) ∈ T → c' b = c a)
    (hadded : ∀ b, (none, b) ∈ T → c' b = false) : (new T).any c' = (old T).any c := by
  induction T with
  | nil => rfl
  | cons x T ih =>
    have ih := ih (fun a b h => hmatched a b (List.mem_cons_of_mem _ h))
      (fun b h => hadded b (List.mem_cons_of_mem _ h))
    obtain ⟨o, b⟩ := x
    cases o with
    | none => simp [hadded b (by simp), ih]
    | some a => simp [hmatched a b (by simp), ih]

/-- The members in front of the first for which something does not hold are tracked too. -/
theorem takeWhile_new (c c' : α → Bool) (hmatched : ∀ a b, (some a, b) ∈ T → c' b = c a)
    (hadded : ∀ b, (none, b) ∈ T → c' b = true) :
    (old T).takeWhile c = old (T.takeWhile fun x => c' x.2)
      ∧ (new T).takeWhile c' = new (T.takeWhile fun x => c' x.2) := by
  induction T with
  | nil => exact ⟨rfl, rfl⟩
  | cons x T ih =>
    obtain ⟨ih, ih'⟩ := ih (fun a b h => hmatched a b (List.mem_cons_of_mem _ h))
      (fun b h => hadded b (List.mem_cons_of_mem _ h))
    obtain ⟨o, b⟩ := x
    cases o with
    | none => simp [hadded b (by simp), ih, ih']
    | some a =>
      have hab := hmatched a b (by simp)
      by_cases ha : c a <;> simp [ha, hab, ih, ih']

/-- Two members of a track are the same or one comes before the other. -/
theorem eq_or_before {R : Option α × α → Option α × α → Prop} (h : T.Pairwise R) {x y : Option α × α}
    (hx : x ∈ T) (hy : y ∈ T) : x = y ∨ R x y ∨ R y x := by
  induction h with
  | nil => simp at hx
  | cons hfirst _ ih =>
    rcases List.mem_cons.1 hx with hx | hx <;> rcases List.mem_cons.1 hy with hy | hy
    · exact .inl (hx.trans hy.symm)
    · exact .inr (.inl (hx ▸ hfirst _ hy))
    · exact .inr (.inr (hy ▸ hfirst _ hx))
    · exact ih hx hy

end Track

end MarkupGate
