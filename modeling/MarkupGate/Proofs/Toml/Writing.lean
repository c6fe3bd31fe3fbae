import Mathlib
import MarkupGate.Proofs.Toml.Statement

/-!
# Configuration texts are read back

The statements of a text that was written build up one table: a header opens a new table at its end,
and the settings below it are added to this table one by one. As no name comes twice, nothing is in
the way of the next one.

* `foldlM_statements`: what the statements of sections add to a table.
* `read?_write`: what is written for sections is read as the table of their values.
-/

namespace MarkupGate

namespace Toml

namespace Table

variable {t : Table} {name : String} {change : Option Toml → Option Toml}

/-- A name that is not there is added at the end. -/
theorem alter?_new (h : name ∉ t.map Prod.fst) :
    t.alter? name change = (change none).map fun v => t ++ [(name, v)] := by
  induction t with
  | nil => rfl
  | cons p t ih =>
    obtain ⟨key, v⟩ := p
    simp only [List.map_cons, List.mem_cons, not_or] at h
    rw [alter?, if_neg (Ne.symm h.1), ih h.2, Option.map_map]
    rfl

/-- The last name is found behind others. -/
theorem alter?_last (h : name ∉ t.map Prod.fst) (v : Toml) :
    alter? name change (t ++ [(name, v)])
      = (change (some v)).map fun v => t ++ [(name, v)] := by
  induction t with
  | nil =>
    rw [List.nil_append, alter?, if_pos rfl]
    rfl
  | cons p t ih =>
    obtain ⟨key, w⟩ := p
    simp only [List.map_cons, List.mem_cons, not_or] at h
    rw [List.cons_append, alter?, if_neg (Ne.symm h.1), ih h.2, Option.map_map]
    rfl

end Table

namespace Section

/-- The named values of a section. -/
def entries (sect : Section) : Table := sect.settings.map fun p => (p.1, p.2.value)

/-- The table of a section with its name. -/
def entry (sect : Section) : String × Toml := (sect.name, .table .header sect.entries)

end Section

variable {t entries : Table} {name : String}

/-- A header opens a table at the end. -/
theorem add?_header {current : List String} (h : name ∉ t.map Prod.fst) :
    Outline.add? ⟨t, current⟩ (.table ⟨[], name⟩)
      = some ⟨t ++ [(name, .table .header [])], [name]⟩ := by
  simp only [Outline.add?, Table.within?, Table.open?, Table.alter?_new h, Option.map_some,
    Key.names, List.nil_append]

/-- A setting is added to the last table. -/
theorem add?_pair {key : String} {v : Toml} (h : name ∉ t.map Prod.fst)
    (hkey : key ∉ entries.map Prod.fst) :
    Outline.add? ⟨t ++ [(name, .table .header entries)], [name]⟩ (.pair ⟨[], key⟩ v)
      = some ⟨t ++ [(name, .table .header (entries ++ [(key, v)]))], [name]⟩ := by
  have hinsert : Table.insertAt? [] key v .header entries = some (entries ++ [(key, v)]) := by
    simp only [Table.insertAt?, Table.within?, Table.insert?, true_or, if_true,
      Table.alter?_new hkey, Option.map_some]
  simp only [Outline.add?, Table.within?, Table.alter?_last h]
  rw [if_neg (by decide)]
  simp only [hinsert, Option.map_some]

/-- The settings of a section are added one by one. -/
theorem foldlM_pairs {settings : List (String × Setting)} (h : name ∉ t.map Prod.fst)
    (hnames : (entries.map Prod.fst ++ settings.map Prod.fst).Nodup) :
    (settings.map Section.pair).foldlM Outline.add? ⟨t ++ [(name, .table .header entries)], [name]⟩
      = some ⟨t ++ [(name, .table .header
          (entries ++ settings.map fun p => (p.1, p.2.value)))], [name]⟩ := by
  induction settings generalizing entries with
  | nil => simp
  | cons p settings ih =>
    have hkey : p.1 ∉ entries.map Prod.fst := by
      have hdisjoint := (List.nodup_append.mp hnames).2.2
      exact fun hmem => hdisjoint _ hmem _ List.mem_cons_self rfl
    have hrest : ((entries ++ [(p.1, p.2.value)]).map Prod.fst
        ++ settings.map Prod.fst).Nodup := by
      simpa using hnames
    rw [List.map_cons, List.foldlM_cons, Section.pair, add?_pair h hkey]
    change (settings.map Section.pair).foldlM Outline.add? _ = _
    rw [ih hrest, List.map_cons, List.append_assoc]
    rfl

/-- Each section adds its table. -/
theorem foldlM_statements {sections : List Section} {current : List String}
    (h : ∀ s ∈ sections, s.Readable)
    (hnames : (t.map Prod.fst ++ sections.map Section.name).Nodup) :
    ((sections.flatMap Section.statements).foldlM Outline.add? ⟨t, current⟩).map Outline.root
      = some (t ++ sections.map Section.entry) := by
  induction sections generalizing t current with
  | nil => simp
  | cons sect sections ih =>
    have hnew : sect.name ∉ t.map Prod.fst := by
      have hdisjoint := (List.nodup_append.mp hnames).2.2
      exact fun hmem => hdisjoint _ hmem _ List.mem_cons_self rfl
    have hrest : ((t ++ [sect.entry]).map Prod.fst ++ sections.map Section.name).Nodup := by
      simpa [Section.entry] using hnames
    have hpairs : (sect.settings.map Section.pair).foldlM Outline.add?
        ⟨t ++ [(sect.name, .table .header [])], [sect.name]⟩
          = some ⟨t ++ [sect.entry], [sect.name]⟩ :=
      foldlM_pairs hnew (h sect List.mem_cons_self).nodup
    rw [List.flatMap_cons, Section.statements, List.cons_append, List.foldlM_cons, add?_header hnew]
    change Option.map _ (((sect.settings.map Section.pair)
      ++ sections.flatMap Section.statements).foldlM Outline.add? _) = _
    rw [List.foldlM_append, hpairs]
    change Option.map _ ((sections.flatMap Section.statements).foldlM Outline.add? _) = _
    rw [List.map_cons, List.append_cons t sect.entry (sections.map Section.entry)]
    exact ih (fun s hs => h s (List.mem_cons_of_mem _ hs)) hrest

/-- What is written for sections is read as the table of their values. -/
theorem read?_write {sections : List Section} (h : ∀ s ∈ sections, s.Readable)
    (hnames : (sections.map Section.name).Nodup) :
    read? (write sections) = some (sections.map Section.entry) := by
  have hmark : dropMark (write sections) = write sections := by
    cases sections with
    | nil => rfl
    | cons sect sections =>
      rw [write_cons]
      rfl
  have hfold : ((sections.flatMap Section.statements).foldlM Outline.add? ⟨[], []⟩).map Outline.root
      = some ([] ++ sections.map Section.entry) := foldlM_statements h hnames
  rw [read?, hmark, readStatements_write h, Option.bind_some, Table.ofStatements?, hfold,
    List.nil_append]

end Toml

end MarkupGate
