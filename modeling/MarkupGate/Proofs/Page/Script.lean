import MarkupGate.Proofs.Markup.Pairing
import MarkupGate.Rule.Performance

/-!
# External scripts of a page

The rule on scripts goes through the `script` tags once. It keeps a table with the use of each address,
the order in which addresses came up and the findings about scripts that block the page. What it reports
can be said without the table: it is read off the list of external scripts.

* `Rule.ScriptTally.Notes.note`, `Rule.ScriptTally.notes_ofPage`: what the tally holds behind one tag
  more, and in the end.
* `eraseDups_concat`, `sum_count_eraseDups`: distinct addresses in the order of their first occurrence.
* `Rule.check_scriptLoading`: what the rule reports.
-/

namespace MarkupGate

/-! ## Distinct entries -/

section Distinct

variable {α : Type} [BEq α] [LawfulBEq α]

/-- An entry more is a further one only if it did not occur before. -/
theorem eraseDups_concat (xs : List α) (x : α) :
    (xs ++ [x]).eraseDups = if x ∈ xs then xs.eraseDups else xs.eraseDups ++ [x] := by
  rw [List.eraseDups_append]
  by_cases h : x ∈ xs <;> simp [List.removeAll, h, List.eraseDups_cons]

theorem nodup_eraseDups (xs : List α) : xs.eraseDups.Nodup := by
  induction xs using List.reverseRecOn with
  | nil => simp
  | append_singleton xs x ih =>
    rw [eraseDups_concat]
    split
    · exact ih
    · rename_i hx
      refine List.nodup_append.2 ⟨ih, by simp, ?_⟩
      rintro y hy z hz rfl
      obtain rfl := List.mem_singleton.1 hz
      exact hx (List.mem_eraseDups.1 hy)

/-- Distinct entries stand in the order in which they first occur. -/
theorem pairwise_idxOf_eraseDups (xs : List α) :
    xs.eraseDups.Pairwise fun x y => xs.idxOf x < xs.idxOf y := by
  induction xs using List.reverseRecOn with
  | nil => simp
  | append_singleton xs z ih =>
    have hkept : xs.eraseDups.Pairwise fun x y => (xs ++ [z]).idxOf x < (xs ++ [z]).idxOf y := by
      refine ih.imp_of_mem ?_
      intro x y hx hy h
      rwa [List.idxOf_append_of_mem (List.mem_eraseDups.1 hx),
        List.idxOf_append_of_mem (List.mem_eraseDups.1 hy)]
    rw [eraseDups_concat]
    split
    · exact hkept
    · rename_i hz
      refine List.pairwise_append.2 ⟨hkept, List.pairwise_singleton _ _, ?_⟩
      intro x hx y hy
      obtain rfl := List.mem_singleton.1 hy
      have hx := List.mem_eraseDups.1 hx
      rw [List.idxOf_append_of_mem hx, List.idxOf_append_of_notMem hz]
      have := List.idxOf_lt_length_of_mem hx
      omega

/-- Every entry is counted with one of the distinct ones. -/
theorem sum_count_eraseDups (xs : List α) : (xs.eraseDups.map xs.count).sum = xs.length := by
  classical
  have hinst : ‹BEq α› = instBEqOfDecidableEq := lawful_beq_subsingleton _ _
  subst hinst
  have hperm : xs.eraseDups.Perm xs.dedup := by
    rw [List.perm_ext_iff_of_nodup (nodup_eraseDups xs) xs.nodup_dedup]
    simp
  rw [(hperm.map _).sum_eq]
  exact List.sum_map_count_dedup_eq_length xs

end Distinct

/-! ## What there is to report -/

namespace Document

/-- The open `script` tags that load an external script, each with its address. -/
def externalScripts (d : Document) : List (Tag × List Char) :=
  (d.openTagsNamed "script").filterMap fun t => t.scriptSource?.map fun src => (t, src)

/-- The addresses of the external scripts, in the order of their tags. -/
def scriptAddresses (d : Document) : List (List Char) := d.externalScripts.map Prod.snd

theorem isSome_scriptSource? (t : Tag) :
    t.scriptSource?.isSome = (t.value? "src").any fun src => !isBlank src := by
  rw [Tag.scriptSource?]
  cases t.value? "src" with
  | none => rfl
  | some src => cases h : isBlank src <;> simp [h]

/-- The external scripts are the open `script` tags with an address that is not blank. -/
theorem map_fst_externalScripts (d : Document) :
    d.externalScripts.map Prod.fst
      = d.tags.filter fun t => t.isOpen && t.name = "script".toList
        && (t.value? "src").any fun src => !isBlank src := by
  have hpick : ∀ t : Tag, ((t.scriptSource?.map fun src => (t, src)).map Prod.fst)
      = Option.guard (fun t => (t.value? "src").any fun src => !isBlank src) t := by
    intro t
    rw [Option.guard, ← isSome_scriptSource?]
    cases t.scriptSource? <;> rfl
  rw [externalScripts, List.map_filterMap, List.filterMap_congr fun t _ => hpick t,
    List.filterMap_eq_filter, openTagsNamed, openTags, List.filter_filter, List.filter_filter]
  apply List.filter_congr
  intro t _
  ac_rfl

theorem trim_src_of_mem_externalScripts {d : Document} {s : Tag × List Char}
    (h : s ∈ d.externalScripts) : (s.1.value? "src").map trim = some s.2 := by
  obtain ⟨t, -, hpair⟩ := List.mem_filterMap.1 h
  obtain ⟨src, hsrc, rfl⟩ := Option.map_eq_some_iff.1 hpair
  rw [Tag.scriptSource?, Option.bind_eq_some_iff] at hsrc
  obtain ⟨value, hvalue, htrim⟩ := hsrc
  rw [Option.ite_none_left_eq_some] at htrim
  rw [hvalue]
  exact htrim.2

theorem count_scriptAddresses (d : Document) (src : List Char) :
    d.scriptAddresses.count src = (d.externalScripts.filter fun s => s.2 = src).length := by
  rw [scriptAddresses, List.count_eq_countP, List.countP_map, List.countP_eq_length_filter]
  simp only [Function.comp_def, beq_eq_decide]

end Document

namespace Rule

/-- A finding for each script in the head that the page has to wait for. -/
def blockingScripts (p : Page) : List Finding :=
  (p.doc.externalScripts.filter fun s => p.doc.inHead s.1.start && !s.1.isDeferred).map fun s =>
    p.findingAt .scriptLoading s.1.start
      ("Render-blocking script " ++ String.ofList s.2 ++ " in <head>; add async or defer")

/-- A finding for each address that is loaded more than once, at the second script that loads it. -/
def repeatedScripts (p : Page) : List Finding :=
  p.doc.scriptAddresses.eraseDups.filterMap fun src =>
    (p.doc.externalScripts.filter fun s => s.2 = src)[1]?.map fun second =>
      p.findingAt .scriptLoading second.1.start
        ("Script " ++ String.ofList src ++ " is loaded "
          ++ toString (p.doc.scriptAddresses.count src) ++ " times")

/-- A finding without a place if there are more distinct addresses than a limit. -/
def excessScripts (limit : Nat) (p : Page) : List Finding :=
  let count := p.doc.scriptAddresses.eraseDups.length
  if limit < count then
    [.ofRule .scriptLoading
      (toString count ++ " external scripts exceed the limit of " ++ toString limit) none]
  else []

/-! ## The pass -/

namespace ScriptTally

/-- The use of an address that some scripts load, if there are any. -/
def useOf : List (Tag × List Char) → Option ScriptUse
  | [] => none
  | [(t, _)] => some ⟨1, t.start⟩
  | _ :: (t, _) :: more => some ⟨more.length + 2, t.start⟩

/-- What a tally holds behind some external scripts of a page. -/
structure Notes (p : Page) (st : ScriptTally) (scripts : List (Tag × List Char)) : Prop where
  /-- the table knows the use of each address -/
  uses : ∀ src, st.uses.lookup src = useOf (scripts.filter fun s => s.2 = src)
  /-- the addresses stand in the order of their first occurrence -/
  order : st.order.toList = (scripts.map Prod.snd).eraseDups
  /-- there is a finding for each script that blocks the page -/
  blocking : st.blocking.toList
    = (scripts.filter fun s => p.doc.inHead s.1.start && !s.1.isDeferred).map fun s =>
      blockingFinding p s.1 s.2

/-- A script more raises the count, and its place counts if it is the second. -/
theorem useOf_concat (scripts : List (Tag × List Char)) (t : Tag) (src : List Char) :
    let known := (useOf scripts).getD ⟨0, t.start⟩
    useOf (scripts ++ [(t, src)])
      = some ⟨known.count + 1, if known.count + 1 = 2 then t.start else known.place⟩ := by
  rcases scripts with _ | ⟨s, _ | ⟨s', more⟩⟩
  · rfl
  · rfl
  · simp [useOf]

theorem useOf_isSome (scripts : List (Tag × List Char)) :
    (useOf scripts).isSome = !scripts.isEmpty := by
  rcases scripts with _ | ⟨s, _ | ⟨s', more⟩⟩ <;> rfl

variable {p : Page} {st : ScriptTally} {scripts : List (Tag × List Char)}

/-- One external script is noted. -/
theorem Notes.note (h : st.Notes p scripts) {t : Tag} {src : List Char}
    (hsrc : t.scriptSource? = some src) :
    (st.note p p.doc.headRange? t).Notes p (scripts ++ [(t, src)]) := by
  have hknown : (st.uses.lookup src).isSome ↔ src ∈ scripts.map Prod.snd := by
    rw [h.uses, useOf_isSome]
    simp
  rw [ScriptTally.note, hsrc]
  refine ⟨fun other => ?_, ?_, ?_⟩
  · rw [NameTable.lookup_set, h.uses, List.filter_append]
    by_cases hother : other = src
    · subst hother
      simp [useOf_concat]
    · simp [hother, Ne.symm hother, h.uses]
  · rw [List.map_append, List.map_singleton, eraseDups_concat, ← h.order]
    by_cases hmem : src ∈ scripts.map Prod.snd
    · simp [hknown.2 hmem, hmem]
    · have hnone : (st.uses.lookup src).isSome = false := by
        rw [← Bool.not_eq_true, hknown]
        exact hmem
      simp [hnone, hmem]
  · rw [List.filter_append, List.map_append, ← h.blocking]
    by_cases hblocks : p.doc.inHead t.start && !t.isDeferred
    · have : (p.doc.headRange?.any fun r => r.contains t.start) && !t.isDeferred := hblocks
      simp [this, hblocks]
    · have : ¬((p.doc.headRange?.any fun r => r.contains t.start) && !t.isDeferred) := hblocks
      simp [this, hblocks]

/-- Tags are noted one after another; those that load nothing leave the tally as it is. -/
theorem Notes.foldl (h : st.Notes p scripts) (tags : List Tag) :
    (tags.foldl (ScriptTally.note p p.doc.headRange?) st).Notes p
      (scripts ++ tags.filterMap fun t => t.scriptSource?.map fun src => (t, src)) := by
  induction tags generalizing st scripts with
  | nil => simpa using h
  | cons t tags ih =>
    rw [List.foldl_cons]
    cases hsrc : t.scriptSource? with
    | none =>
      have hsame : st.note p p.doc.headRange? t = st := by rw [ScriptTally.note, hsrc]
      simpa [hsame, hsrc] using ih h
    | some src => simpa [hsrc] using ih (h.note hsrc)

theorem notes_ofPage (p : Page) : (ofPage p).Notes p p.doc.externalScripts := by
  have hnil : Notes p ⟨[], #[], #[]⟩ [] := ⟨fun _ => rfl, rfl, rfl⟩
  exact hnil.foldl (p.doc.openTagsNamed "script")

theorem Notes.repeated (h : st.Notes p p.doc.externalScripts) :
    st.repeated p = repeatedScripts p := by
  rw [ScriptTally.repeated, h.order]
  apply List.filterMap_congr
  intro src _
  rw [h.uses, p.doc.count_scriptAddresses]
  generalize (p.doc.externalScripts.filter fun s => s.2 = src) = loading
  rcases loading with _ | ⟨s, _ | ⟨second, more⟩⟩
  · rfl
  · rfl
  · simp [useOf, repeatFinding]

theorem Notes.excess (h : st.Notes p p.doc.externalScripts) (limit : Nat) :
    st.excess limit = excessScripts limit p := by
  have hsize : st.order.size = p.doc.scriptAddresses.eraseDups.length := by
    rw [← Array.length_toList, h.order, Document.scriptAddresses]
  rw [ScriptTally.excess, excessScripts, hsize]

end ScriptTally

/-- The rule on scripts reports what there is to report about external scripts. -/
theorem check_scriptLoading (limit : Nat) (p : Page) :
    (scriptLoading limit).check p
      = .ok (blockingScripts p ++ repeatedScripts p ++ excessScripts limit p) := by
  have h := ScriptTally.notes_ofPage p
  simp only [scriptLoading, ofFindings, h.repeated, h.excess, h.blocking]
  rfl

theorem run_scriptLoading (limit : Nat) (p : Page) :
    (scriptLoading limit).run p
      = blockingScripts p ++ repeatedScripts p ++ excessScripts limit p := by
  rw [run, check_scriptLoading]

/-- The rule on scripts reports, in this order, the scripts that block, the addresses that repeat and
the number of addresses if it is too high. The external scripts are the open `script` tags with an address
that is not blank, an address repeats if at least two of them have it, each address comes up once, where
it first occurs, and each script is counted with its address. -/
theorem scriptLoading_reports (limit : Nat) (p : Page) :
    (scriptLoading limit).check p
        = .ok (blockingScripts p ++ repeatedScripts p ++ excessScripts limit p)
      ∧ p.doc.externalScripts.map Prod.fst
        = p.doc.tags.filter (fun t => t.isOpen && t.name = "script".toList
            && (t.value? "src").any fun src => !isBlank src)
      ∧ (∀ s ∈ p.doc.externalScripts, (s.1.value? "src").map trim = some s.2)
      ∧ (∀ src, (p.doc.externalScripts.filter fun s => s.2 = src)[1]?.isSome
        ↔ 2 ≤ p.doc.scriptAddresses.count src)
      ∧ p.doc.scriptAddresses.eraseDups.Nodup
      ∧ (∀ src, src ∈ p.doc.scriptAddresses.eraseDups ↔ src ∈ p.doc.scriptAddresses)
      ∧ p.doc.scriptAddresses.eraseDups.Pairwise (fun x y =>
        p.doc.scriptAddresses.idxOf x < p.doc.scriptAddresses.idxOf y)
      ∧ (p.doc.scriptAddresses.eraseDups.map p.doc.scriptAddresses.count).sum
        = p.doc.externalScripts.length := by
  refine ⟨check_scriptLoading limit p, p.doc.map_fst_externalScripts,
    fun _ => Document.trim_src_of_mem_externalScripts, fun src => ?_, nodup_eraseDups _,
    fun _ => List.mem_eraseDups, pairwise_idxOf_eraseDups _, ?_⟩
  · rw [p.doc.count_scriptAddresses, isSome_getElem?, Nat.succ_le_iff]
  · rw [sum_count_eraseDups, Document.scriptAddresses, List.length_map]

end Rule

end MarkupGate
