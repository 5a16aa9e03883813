import Mathlib.Data.List.Nodup
import EventScript.Proofs.TomlLines

/-!
# Reading plain documents

A plain document holds tables of values under bare keys. The reader goes through it table by table:
a header opens a table, and the pairs under it go into the table that was opened last, and so to the
end of the draft. In the entries that are read, each table has under its name what was written.
-/

namespace EventScript.Toml

/-! ## Entries -/

theorem ne_fst_of_notMem {α : Type} {key : String} {pairs : List (String × α)}
    (h : key ∉ pairs.map Prod.fst) {pair : String × α} (hpair : pair ∈ pairs) : key ≠ pair.1 := by
  rintro rfl
  exact h (List.mem_map_of_mem hpair)

namespace Entries

theorem get?_append_of_none {entries : Entries} {key : String} (h : entries.get? key = none)
    (more : Entries) : Entries.get? (entries ++ more) key = Entries.get? more key := by
  rw [get?, Option.map_eq_none_iff] at h
  rw [get?, List.find?_append, h, Option.none_or, get?]

theorem get?_cons (entry : String × Value) (entries : Entries) (key : String) :
    Entries.get? (entry :: entries) key =
      if entry.1 = key then some entry.2 else entries.get? key := by
  rw [get?, List.find?_cons]
  by_cases h : entry.1 = key
  · rw [beq_iff_eq.mpr h, if_pos h]
    rfl
  · rw [beq_eq_false_iff_ne.mpr h, if_neg h, ← get?]

theorem get?_concat_of_ne {entries : Entries} {key other : String} (h : entries.get? key = none)
    (hne : other ≠ key) (value : Value) :
    Entries.get? (entries ++ [(other, value)]) key = none := by
  rw [get?_append_of_none h, get?_cons, if_neg hne]
  rfl

theorem replace_append_of_none {entries : Entries} {key : String} (h : entries.get? key = none)
    (old value : Value) :
    Entries.replace (entries ++ [(key, old)]) key value = entries ++ [(key, value)] := by
  have hothers : ∀ entry ∈ entries, ¬entry.1 == key := by simpa [get?] using h
  have hkept : entries.replace key value = entries.map id :=
    List.map_congr_left fun entry hentry ↦ if_neg (hothers entry hentry)
  rw [replace, List.map_append, ← replace, hkept, List.map_id]
  simp

end Entries

/-! ## Tables -/

namespace Tables

/-- The entry of a pair. -/
def pairEntry (pair : String × Atom) : String × Value := (pair.1, pair.2.value)

/-- The entry of a table under a header of its own. -/
def tableEntry (table : String × List (String × Atom)) : String × Value :=
  (table.1, .table .header (table.2.map pairEntry))

/-- The keys are bare and given once, and the values are plain. -/
structure IsPlainTable (table : String × List (String × Atom)) : Prop where
  /-- The name is a bare key. -/
  name : IsBareKey table.1.toList
  /-- So are the keys. -/
  keys : ∀ pair ∈ table.2, IsBareKey pair.1.toList
  /-- No key is given twice. -/
  nodup : (table.2.map Prod.fst).Nodup
  /-- The values are plain. -/
  atoms : ∀ pair ∈ table.2, pair.2.IsPlain

/-- The tables are plain and have different names. -/
structure IsPlain (tables : Tables) : Prop where
  /-- No name is given twice. -/
  nodup : (tables.map Prod.fst).Nodup
  /-- All tables are plain. -/
  plain : ∀ table ∈ tables, IsPlainTable table

/-- Under the name of each table the entries have a table with the same values and no others. -/
def HeldBy (tables : Tables) (entries : Entries) : Prop :=
  ∀ table ∈ tables, ∃ origin inner, entries.get? table.1 = some (.table origin inner) ∧
    ∀ key, Entries.get? inner key = (table.2.lookup key).map Atom.value

theorem get?_map_pairEntry (pairs : List (String × Atom)) (key : String) :
    Entries.get? (pairs.map pairEntry) key = (pairs.lookup key).map Atom.value := by
  induction pairs with
  | nil => rfl
  | cons pair pairs ih =>
    rw [List.map_cons, Entries.get?_cons, List.lookup_cons, ih, pairEntry]
    by_cases h : pair.1 = key
    · rw [if_pos h, beq_iff_eq.mpr h.symm]
      rfl
    · rw [if_neg h, beq_eq_false_iff_ne.mpr (Ne.symm h)]

theorem heldBy_map_tableEntry {tables : Tables} (hnames : (tables.map Prod.fst).Nodup) :
    tables.HeldBy (tables.map tableEntry) := by
  intro table htable
  refine ⟨.header, table.2.map pairEntry, ?_, get?_map_pairEntry table.2⟩
  induction tables with
  | nil => cases htable
  | cons first others ih =>
    rw [List.map_cons, List.nodup_cons] at hnames
    rw [List.map_cons, Entries.get?_cons]
    rcases List.mem_cons.mp htable with rfl | hlater
    · exact if_pos rfl
    · have hne : (tableEntry first).1 ≠ table.1 := ne_fst_of_notMem hnames.1 hlater
      rw [if_neg hne]
      exact ih hnames.2 hlater

end Tables

/-! ## Reading tables -/

/-- A draft in the middle of a table with a header of its own. -/
def Draft.within (front : Entries) (name : String) (entries : Entries) : Draft :=
  ⟨front ++ [(name, .table .header entries)], [name]⟩

section reading

variable {front : Entries} {name : String} (hfront : front.get? name = none)

include hfront

theorem Draft.add?_within {entries : Entries} {key : String} (hkey : entries.get? key = none)
    (value : Value) : (within front name entries).add? [key] value =
      some (within front name (entries ++ [(key, value)])) := by
  have hadd : addPath? entries [key] value = some (entries ++ [(key, value)]) := by
    simp [addPath?, Entries.addDotted?, Entries.add?, hkey]
  have hget : Entries.get? (front ++ [(name, .table .header entries)]) name =
      some (.table .header entries) := by
    rw [Entries.get?_append_of_none hfront, Entries.get?_cons, if_pos rfl]
  simp [Draft.add?, within, Entries.updateAt?, hget, hadd,
    Entries.replace_append_of_none hfront]

/-- Pairs of different keys fill the table in their order. -/
theorem readsAll_pairs (pairs : List (String × Atom))
    (hkeys : ∀ pair ∈ pairs, IsBareKey pair.1.toList) (hatoms : ∀ pair ∈ pairs, pair.2.IsPlain)
    (hnodup : (pairs.map Prod.fst).Nodup) (entries : Entries)
    (hfresh : ∀ pair ∈ pairs, entries.get? pair.1 = none) :
    ReadsAll (.within front name entries) (pairs.map Tables.pairLine)
      (.within front name (entries ++ pairs.map Tables.pairEntry)) := by
  induction pairs generalizing entries with
  | nil =>
    rw [List.map_nil, List.map_nil, List.append_nil]
    exact .nil _
  | cons pair others ih =>
    obtain ⟨hkey, hkeys⟩ := List.forall_mem_cons.mp hkeys
    obtain ⟨hatom, hatoms⟩ := List.forall_mem_cons.mp hatoms
    obtain ⟨hpair, hfresh⟩ := List.forall_mem_cons.mp hfresh
    rw [List.map_cons, List.nodup_cons] at hnodup
    have hread := reads_pair hkey (spells_atom hatom)
      (Draft.add?_within hfront hpair pair.2.value)
    have hlater : ∀ later ∈ others,
        Entries.get? (entries ++ [Tables.pairEntry pair]) later.1 = none := fun later hlater ↦
      Entries.get?_concat_of_ne (hfresh later hlater) (ne_fst_of_notMem hnodup.1 hlater) _
    have hrest := ih hkeys hatoms hnodup.2 (entries ++ [Tables.pairEntry pair]) hlater
    rw [List.append_assoc] at hrest
    exact .cons hread hrest

end reading

/-- **A table is read from its header and its pairs.** -/
theorem readsAll_table {front : Entries} {table : String × List (String × Atom)}
    (hfront : front.get? table.1 = none) (htable : Tables.IsPlainTable table)
    (path : List String) :
    ReadsAll ⟨front, path⟩ (Tables.tableLines table)
      ⟨front ++ [Tables.tableEntry table], [table.1]⟩ := by
  have hopen : Draft.openWith? ⟨front, path⟩ Entries.openTable? [table.1] =
      some (.within front table.1 []) := by
    simp [Draft.openWith?, Entries.updateAt?, Entries.openTable?, hfront, Draft.within]
  exact .cons (reads_header htable.name hopen)
    (readsAll_pairs hfront table.2 htable.keys htable.atoms htable.nodup [] fun _ _ ↦ rfl)

/-- Tables of different names are read one after the other. -/
theorem readsAll_tables {front : Entries} {tables : Tables} (htables : tables.IsPlain)
    (hfront : ∀ table ∈ tables, front.get? table.1 = none) (path : List String) :
    ∃ last, ReadsAll ⟨front, path⟩ tables.lines ⟨front ++ tables.map Tables.tableEntry, last⟩ := by
  induction tables using Tables.lines.induct generalizing front path with
  | case1 =>
    rw [List.map_nil, List.append_nil]
    exact ⟨path, .nil _⟩
  | case2 table =>
    exact ⟨_, readsAll_table (hfront table (List.mem_singleton_self table))
      (htables.plain table (List.mem_singleton_self table)) path⟩
  | case3 table others hne ih =>
    obtain ⟨htable, hothers⟩ := List.forall_mem_cons.mp htables.plain
    obtain ⟨hfirst, hfront⟩ := List.forall_mem_cons.mp hfront
    have hnodup := htables.nodup
    rw [List.map_cons, List.nodup_cons] at hnodup
    have hlater : ∀ later ∈ others,
        Entries.get? (front ++ [Tables.tableEntry table]) later.1 = none := fun later hlater ↦
      Entries.get?_concat_of_ne (hfront later hlater) (ne_fst_of_notMem hnodup.1 hlater) _
    obtain ⟨last, hrest⟩ := ih ⟨hnodup.2, hothers⟩ hlater [table.1]
    rw [List.append_assoc] at hrest
    rw [Tables.lines]
    · exact ⟨last, (readsAll_table hfirst htable path).append (.cons (reads_empty _) hrest)⟩
    · exact hne

/-- **The document of plain tables is read as these tables.** -/
theorem parse?_document {tables : Tables} (htables : tables.IsPlain) :
    parse? (document tables.lines) = some (tables.map Tables.tableEntry) := by
  obtain ⟨last, hreads⟩ :
      ∃ last, ReadsAll {} tables.lines ⟨tables.map Tables.tableEntry, last⟩ :=
    readsAll_tables htables (fun _ _ ↦ rfl) []
  refine hreads.parse? ?_
  -- A document is empty or begins with the bracket of a header.
  rcases tables with _ | ⟨table, others⟩
  · decide
  · obtain ⟨rest, hlines⟩ : ∃ rest,
        Tables.lines (table :: others) = ("[" ++ table.1 ++ "]") :: rest := by
      cases others <;> exact ⟨_, rfl⟩
    rw [hlines, toList_document_cons]
    simp

end EventScript.Toml
