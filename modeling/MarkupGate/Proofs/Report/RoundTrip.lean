import MarkupGate.Proofs.Json.RoundTrip
import MarkupGate.Report.Format

/-!
# Reports are read back

A result that is reported as JSON can be read back from the report, and is the same result: every
finding is in the list that it came from, in its place, and what is absent stays absent. The only thing
that the reader asks of a result is that its numbers fit into 32 bits.

* `fields?_zip`: the fields of a record, by name.
* `Finding.ofJson?_toJson`, `ValidationResult.ofJson?_toJson`: what the data of a record stand for.
* `ValidationResult.reads_back_iff`: the report as a text.
-/

namespace MarkupGate

namespace Json

/-- The member of a name, where names are distinct. -/
theorem member?_zip {names : List String} {values : List Json} (hnames : names.Nodup)
    (hlength : values.length = names.length) {i : Nat} (hi : i < names.length) :
    (object (names.zip values)).member? names[i] = some values[i] := by
  have hmem : (names[i], values[i]) ∈ (names.zip values).reverse :=
    List.mem_reverse.2 (List.mem_iff_getElem.2 ⟨i, by simp [hlength, hi], by simp⟩)
  have hkeys : ((names.zip values).reverse.map Prod.fst).Nodup := by
    rw [List.map_reverse, List.nodup_reverse, List.map_fst_zip (Nat.le_of_eq hlength.symm)]
    exact hnames
  cases hfind : (names.zip values).reverse.find? fun m => m.1 = names[i] with
  | none => simpa using List.find?_eq_none.1 hfind _ hmem
  | some m =>
    have hname : m.1 = names[i] := by simpa using List.find?_some hfind
    have hsame := List.inj_on_of_nodup_map hkeys (List.mem_of_find?_eq_some hfind) hmem hname
    rw [member?, hfind, hsame]
    rfl

/-- The fields of a record that is written with all its members. -/
theorem fields?_zip {names : List String} {values : List Json} (hnames : names.Nodup)
    (hlength : values.length = names.length) :
    (object (names.zip values)).fields? names = some values := by
  refine congrArg some (List.ext_getElem (by simp [hlength]) fun i hi hi' => ?_)
  rw [List.getElem_map, member?_zip hnames hlength]
  rfl

theorem nat32?_ofNat {n : Nat} (h : n < bound32) : (ofNat n).nat32? = some n := by
  have hneg : ¬(n : Int) < 0 := by omega
  simp [nat32?, nat?, integer?, ofNat, hneg, h]

theorem lt_of_nat32? {j : Json} {n : Nat} (h : j.nat32? = some n) : n < bound32 := by
  simp only [nat32?, Option.bind_eq_some_iff, Option.ite_none_right_eq_some, Option.some.injEq] at h
  obtain ⟨m, -, hm, rfl⟩ := h
  exact hm

/-- A value that may be absent is read as it was written, if nothing that is there is `null`. -/
theorem orNull?_ofOption {α : Type} {encode : α → Json} {decode : Json → Option α} {value : Option α}
    (hnull : ∀ x, encode x ≠ .null) (h : ∀ x ∈ value, decode (encode x) = some x) :
    (ofOption encode value).orNull? decode = some value := by
  cases value with
  | none => rfl
  | some x =>
    have hx := h x rfl
    rw [ofOption, orNull?.eq_def]
    split
    · rename_i heq
      exact absurd heq (hnull x)
    · rw [hx]
      rfl

/-- Whatever may be absent is, where it is there, what its reader gives. -/
theorem exists_of_orNull? {α : Type} {decode : Json → Option α} {j : Json} {x : α}
    (h : j.orNull? decode = some (some x)) : decode j = some x := by
  rw [orNull?.eq_def] at h
  split at h
  · simp at h
  · simpa using h

/-- Every item of a list is what the reader of items gives. -/
theorem exists_of_list? {α : Type} {decode : Json → Option α} {j : Json} {xs : List α}
    (h : j.list? decode = some xs) : ∀ x ∈ xs, ∃ item, decode item = some x := by
  obtain ⟨items, -, hitems⟩ := Option.bind_eq_some_iff.1 h
  clear h
  induction items generalizing xs with
  | nil => simp_all
  | cons item items ih =>
    simp only [List.mapM_cons, Option.bind_eq_bind, Option.bind_eq_some_iff, Option.pure_def,
      Option.some.injEq] at hitems
    obtain ⟨y, hy, ys, hys, rfl⟩ := hitems
    intro x hx
    rcases List.mem_cons.1 hx with rfl | hx
    · exact ⟨item, hy⟩
    · exact ih hys x hx

/-- A list is read as it was written. -/
theorem list?_ofList {α : Type} {encode : α → Json} {decode : Json → Option α} {xs : List α}
    (h : ∀ x ∈ xs, decode (encode x) = some x) : (ofList encode xs).list? decode = some xs := by
  simp only [list?, ofList, array?, Option.bind_some]
  induction xs with
  | nil => rfl
  | cons x xs ih =>
    rw [List.map_cons, List.mapM_cons, h x (by simp), ih fun y hy => h y (List.mem_cons_of_mem _ hy)]
    rfl

end Json

namespace Finding

/-- Whether the numbers of a finding fit into 32 bits. -/
def FitsWords (f : Finding) : Prop := f.weight < bound32 ∧ ∀ n ∈ f.line, n < bound32

theorem ofJson?_toJson {f : Finding} (h : f.FitsWords) : ofJson? f.toJson = some f := by
  have hline : (Json.ofOption .ofNat f.line).orNull? Json.nat32? = some f.line :=
    Json.orNull?_ofOption (fun _ => nofun) fun n hn => Json.nat32?_ofNat (h.2 n hn)
  have hsuggestion : (Json.ofOption .string f.suggestion).orNull? Json.string? = some f.suggestion :=
    Json.orNull?_ofOption (fun _ => nofun) fun _ _ => rfl
  rw [ofJson?, toJson, Json.fields?_zip (by decide) rfl]
  simp only [memberValues, Option.bind_eq_bind, Option.bind_some, Json.string?, Json.word?, Json.bool?,
    Category.ofName?_name, Tier.ofName?_name, Impact.ofName?_name, Json.nat32?_ofNat h.1, hline,
    hsuggestion]

theorem fitsWords_of_ofJson? {j : Json} {f : Finding} (h : ofJson? j = some f) : f.FitsWords := by
  simp only [ofJson?, Option.bind_eq_bind, Option.bind_eq_some_iff] at h
  obtain ⟨fields, -, h⟩ := h
  split at h
  · simp only [Option.bind_eq_some_iff, Option.some.injEq] at h
    obtain ⟨-, -, -, -, -, -, -, -, weight, hweight, -, -, line, hline, -, -, -, -, rfl⟩ := h
    refine ⟨Json.lt_of_nat32? hweight, fun n hn => ?_⟩
    obtain rfl : line = some n := hn
    exact Json.lt_of_nat32? (Json.exists_of_orNull? hline)
  · cases h

end Finding

namespace ValidationResult

/-- Whether all numbers of a result fit into 32 bits. -/
structure FitsWords (r : ValidationResult) : Prop where
  score : r.score < bound32
  findings : ∀ f ∈ r.findings, f.FitsWords

theorem ofJson?_toJson {r : ValidationResult} (h : r.FitsWords) : ofJson? r.toJson = some r := by
  have hfinding : ∀ f ∈ r.findings, Finding.ofJson? f.toJson = some f := fun f hf =>
    Finding.ofJson?_toJson (h.findings f hf)
  have herrors : (Json.ofList Finding.toJson r.errors).list? Finding.ofJson? = some r.errors :=
    Json.list?_ofList fun f hf => hfinding f (by simp [findings, hf])
  have hwarnings : (Json.ofList Finding.toJson r.warnings).list? Finding.ofJson? = some r.warnings :=
    Json.list?_ofList fun f hf => hfinding f (by simp [findings, hf])
  have hinfo : (Json.ofList Finding.toJson r.info).list? Finding.ofJson? = some r.info :=
    Json.list?_ofList fun f hf => hfinding f (by simp [findings, hf])
  rw [ofJson?, toJson, Json.fields?_zip (by decide) rfl]
  simp only [memberValues, Option.bind_eq_bind, Option.bind_some, Json.word?, Json.bool?,
    Grade.ofName?_name, Json.nat32?_ofNat h.score, herrors, hwarnings, hinfo]

theorem fitsWords_of_ofJson? {j : Json} {r : ValidationResult} (h : ofJson? j = some r) :
    r.FitsWords := by
  simp only [ofJson?, Option.bind_eq_bind, Option.bind_eq_some_iff] at h
  obtain ⟨fields, -, h⟩ := h
  split at h
  · simp only [Option.bind_eq_some_iff, Option.some.injEq] at h
    obtain ⟨score, hscore, -, -, -, -, errors, herrors, warnings, hwarnings, info, hinfo, rfl⟩ := h
    have hread : ∀ {list : Json} {found : List Finding}, list.list? Finding.ofJson? = some found →
        ∀ f ∈ found, f.FitsWords := fun hlist f hf =>
      (Json.exists_of_list? hlist f hf).elim fun _ => Finding.fitsWords_of_ofJson?
    refine ⟨Json.lt_of_nat32? hscore, fun f hf => ?_⟩
    rcases List.mem_append.1 hf with hf | hf
    · rcases List.mem_append.1 hf with hf | hf
      · exact hread herrors f hf
      · exact hread hwarnings f hf
    · exact hread hinfo f hf
  · cases h

/-- A result is read back from its JSON report, every finding in its list and in its place and every
text letter by letter, exactly if its numbers fit. -/
theorem reads_back_iff (r : ValidationResult) :
    (Json.read? (r.report .json).toList).bind ofJson? = some r ↔ r.FitsWords := by
  have hread : Json.read? (r.report .json).toList = some r.toJson := by
    rw [report, String.toList_ofList, Json.read?_pretty]
  rw [hread, Option.bind_some]
  exact ⟨fitsWords_of_ofJson?, ofJson?_toJson⟩

end ValidationResult

end MarkupGate
