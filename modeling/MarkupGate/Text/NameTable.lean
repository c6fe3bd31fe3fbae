/-!
# Tables by name

A table keeps one value for each name that it knows, in the order in which the names came up.
-/

namespace MarkupGate

/-- Values of names. -/
abbrev NameTable (α : Type) := List (List Char × α)

namespace NameTable

variable {α : Type}

/-- Gives a name a value, in place of the one that it has, if any. -/
def set (name : List Char) (v : α) : NameTable α → NameTable α
  | [] => [(name, v)]
  | (key, w) :: t => if key = name then (key, v) :: t else (key, w) :: set name v t

theorem lookup_cons (key : List Char) (w : α) (t : NameTable α) (name : List Char) :
    List.lookup name ((key, w) :: t) = if name = key then some w else t.lookup name := by
  by_cases h : name = key
  · simp [h]
  · simp [List.lookup_cons, beq_false_of_ne h, h]

/-- A name has the value that it was given last, and all others keep theirs. -/
theorem lookup_set (name : List Char) (v : α) (t : NameTable α) (other : List Char) :
    (t.set name v).lookup other = if other = name then some v else t.lookup other := by
  induction t with
  | nil => exact lookup_cons name v [] other
  | cons entry t ih =>
    obtain ⟨key, w⟩ := entry
    by_cases hkey : key = name
    · subst hkey
      by_cases h : other = key <;> simp [set, lookup_cons, h]
    · rw [set, if_neg hkey, lookup_cons, lookup_cons, ih]
      by_cases h : other = key
      · simp [h, hkey]
      · simp [h]

end NameTable

end MarkupGate
