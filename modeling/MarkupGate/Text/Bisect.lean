/-!
# Bisection

`partitionPoint` finds where the entries of an array cease to pass a test. It halves the array, so
those that pass it have to stand in front of those that do not, as they do where an array in order is
compared with one value.

* `partitionPoint_toArray`: then it is the number of entries that pass the test.
-/

namespace MarkupGate

/-- The first place that does not pass a test among `size` places from `first` on, if those that pass
it stand in front; the place behind them if all do. -/
def bisect (test : Nat → Bool) (first size : Nat) : Nat :=
  if size = 0 then first
  else
    let half := size / 2
    if test (first + half) then bisect test (first + half + 1) (size - half - 1)
    else bisect test first half
termination_by size

/-- Where the entries of an array cease to pass a test. -/
def partitionPoint {α : Type} (test : α → Bool) (xs : Array α) : Nat :=
  bisect (fun i => xs[i]?.any test) 0 xs.size

theorem bisect_eq {test : Nat → Bool} {first size n : Nat} (hfirst : first ≤ n)
    (hn : n ≤ first + size) (hpass : ∀ i, i < n → test i)
    (hfail : ∀ i, n ≤ i → i < first + size → test i = false) : bisect test first size = n := by
  fun_induction bisect test first size with
  | case1 first => omega
  | case2 first size hsize half hmid ih =>
    have hlt : first + half < n := by
      rcases Nat.lt_or_ge (first + half) n with h | h
      · exact h
      · rw [hfail _ h (by omega)] at hmid
        cases hmid
    exact ih (by omega) (by omega) fun i hi hlt => hfail i hi (by omega)
  | case3 first size hsize half hmid ih =>
    have hle : n ≤ first + half := Nat.le_of_not_lt fun h => hmid (hpass _ h)
    exact ih hfirst hle fun i hi hlt => hfail i hi (by omega)

/-- Entries that pass a test in front of entries that do not: the array is cut between them. -/
theorem partitionPoint_append {α : Type} {test : α → Bool} {front back : List α}
    (hfront : ∀ x ∈ front, test x) (hback : ∀ x ∈ back, test x = false) :
    partitionPoint test (front ++ back).toArray = front.length := by
  apply bisect_eq (Nat.zero_le _)
  · simp
  · intro i hi
    simp [List.getElem?_append_left hi, List.getElem?_eq_getElem hi, hfront]
  · intro i hi hsize
    have hlt : i - front.length < back.length := by
      simp only [List.size_toArray, List.length_append] at hsize
      omega
    simp [List.getElem?_append_right hi, List.getElem?_eq_getElem hlt, hback]

/-! ## Entries in order -/

/-- Whether an entry that passes a test stands only behind entries that pass it. -/
def Descends {α : Type} (test : α → Bool) (xs : List α) : Prop :=
  xs.Pairwise fun x y => test y → test x

namespace Descends

variable {α : Type} {test : α → Bool} {xs : List α}

/-- The entries that pass the test are those up to the first one that does not. -/
theorem filter_eq (h : Descends test xs) : xs.filter test = xs.takeWhile test := by
  induction xs with
  | nil => rfl
  | cons x xs ih =>
    obtain ⟨hx, hxs⟩ := List.pairwise_cons.1 h
    by_cases hpass : test x
    · simp [hpass, ih hxs]
    · have hnone : ∀ y ∈ xs, ¬test y := fun y hy hty => hpass (hx y hy hty)
      simpa [hpass] using hnone

/-- Those that do not pass it are the others. -/
theorem filter_not_eq (h : Descends test xs) : (xs.filter fun x => !test x) = xs.dropWhile test := by
  induction xs with
  | nil => rfl
  | cons x xs ih =>
    obtain ⟨hx, hxs⟩ := List.pairwise_cons.1 h
    by_cases hpass : test x
    · simp [hpass, ih hxs]
    · have hnone : ∀ y ∈ xs, (!test y) = true := by
        intro y hy
        simpa using fun hty => hpass (hx y hy hty)
      simpa [hpass] using hnone

theorem append (h : Descends test xs) :
    xs = xs.filter test ++ xs.filter fun x => !test x := by
  rw [h.filter_eq, h.filter_not_eq, List.takeWhile_append_dropWhile]

end Descends

/-- The array is cut behind the entries that pass the test. -/
theorem partitionPoint_toArray {α : Type} {test : α → Bool} {xs : List α} (h : Descends test xs) :
    partitionPoint test xs.toArray = xs.countP test := by
  have hcut : partitionPoint test (xs.filter test ++ xs.filter fun x => !test x).toArray
      = (xs.filter test).length := partitionPoint_append (by simp) (by simp)
  rwa [← h.append, ← List.countP_eq_length_filter] at hcut

/-- What stands behind the cut does not pass it. -/
theorem drop_partitionPoint {α : Type} {test : α → Bool} {xs : List α} (h : Descends test xs) :
    xs.drop (partitionPoint test xs.toArray) = xs.filter fun x => !test x := by
  have hdrop : (xs.filter test ++ xs.filter fun x => !test x).drop (xs.filter test).length
      = xs.filter fun x => !test x := List.drop_left
  rwa [← h.append, ← List.countP_eq_length_filter, ← partitionPoint_toArray h] at hdrop

end MarkupGate
