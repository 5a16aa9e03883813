import EventScript.Config.Toml
import EventScript.Proofs.PlainDocuments
import EventScript.Proofs.Ticks

/-!
# Configurations survive a trip through TOML

A configuration that TOML can hold is read back from its own document, and each line of the document
stands for one field: with some of the lines taken out, those fields have their defaults and all
others are what they were.

The two tables have the same keys, so that a line counts only in the table it stands in. What is
left when lines are deleted are the lines of smaller tables, and looking up a key in these finds the
value of its line or nothing.

## What is relied on

Text is written and read by a library, and so are the fields of a configuration taken apart and put
together. All of it is behind a `ConfigFormat`, and `ConfigFormat.Lawful` says what is relied on:
the rules of TOML for plain documents, and that fields go by their names and have their defaults if
they are missing. The format of the program is lawful.
-/

namespace EventScript

open Toml

/-! ## Settings -/

namespace Setting

theorem key_injective : Function.Injective key := by
  intro s s' h
  cases s <;> cases s' <;> first | rfl | exact absurd h (by decide)

theorem nodup_all : all.Nodup := by decide

theorem mem_all (s : Setting) : s ∈ all := by cases s <;> decide

theorem isBareKey_key (s : Setting) : IsBareKey s.key.toList := by
  cases s <;> exact .of_all (by decide) rfl

end Setting

/-- A policy is written with the words of its name. -/
theorem kebabCase_inspect (p : Policy) : kebabCase p.inspect = p.text := by
  cases p <;> decide

namespace ContextConfig

variable (c : ContextConfig) (deleted : Setting → Bool)

/-- The lines of the settings. -/
def lines : List String := c.fields.map Tables.pairLine

/-- The settings with those that were deleted at their defaults. -/
def defaulted : ContextConfig where
  enabled := bif deleted .enabled then ({} : ContextConfig).enabled else c.enabled
  policy := bif deleted .dispatch then ({} : ContextConfig).policy else c.policy
  budget := bif deleted .budget then ({} : ContextConfig).budget else c.budget

/-- The lines that are left when those of some settings are deleted. -/
def linesWithout : List String :=
  ((Setting.all.zip c.lines).filter fun (s, _) ↦ !deleted s).map Prod.snd

/-- The fields of the lines that are left. -/
def fieldsWithout : List (String × Atom) :=
  (Setting.all.filter fun s ↦ !deleted s).map fun s ↦ (s.key, c.atom s)

theorem linesWithout_eq : c.linesWithout deleted =
    (c.fieldsWithout deleted).map Tables.pairLine := by
  have hzip : Setting.all.zip c.lines =
      Setting.all.map fun s ↦ (s, Tables.pairLine (s.key, c.atom s)) := rfl
  rw [linesWithout, hzip, List.filter_map, List.map_map, fieldsWithout, List.map_map]
  rfl

theorem lookup_map_atom (settings : List Setting) (s : Setting) :
    (settings.map fun s ↦ (s.key, c.atom s)).lookup s.key =
      if s ∈ settings then some (c.atom s) else none := by
  induction settings with
  | nil => rfl
  | cons first others ih =>
    rw [List.map_cons, List.lookup_cons, ih]
    by_cases heq : first = s
    · subst heq
      rw [if_pos List.mem_cons_self, beq_self_eq_true]
    · have hkey : (s.key == first.key) = false :=
        beq_eq_false_iff_ne.mpr fun h ↦ heq (Setting.key_injective h).symm
      rw [hkey]
      simp [Ne.symm heq]

/-- **Looking up a key finds the value of its line, or nothing.** -/
theorem lookup_fieldsWithout (s : Setting) : (c.fieldsWithout deleted).lookup s.key =
    bif deleted s then none else some (c.atom s) := by
  rw [fieldsWithout, lookup_map_atom]
  cases hdeleted : deleted s <;> simp [hdeleted, Setting.mem_all]

variable {c}

theorem isPlain_atom (hbudget : c.budget ≤ maxInteger) (s : Setting) : (c.atom s).IsPlain := by
  cases s with
  | enabled => exact trivial
  | dispatch =>
    rw [atom, kebabCase_inspect]
    cases c.policy <;> exact List.all_eq_true.mp rfl
  | budget => exact hbudget

theorem isPlainTable_fieldsWithout (hbudget : c.budget ≤ maxInteger) {name : String}
    (hname : IsBareKey name.toList) : Tables.IsPlainTable (name, c.fieldsWithout deleted) where
  name := hname
  keys := List.forall_mem_map.mpr fun s _ ↦ s.isBareKey_key
  nodup := by
    rw [fieldsWithout, List.map_map]
    exact List.Nodup.map Setting.key_injective (Setting.nodup_all.filter _)
  atoms := List.forall_mem_map.mpr fun s _ ↦ isPlain_atom hbudget s

theorem atom_defaulted (s : Setting) : (c.defaulted deleted).atom s =
    bif deleted s then ({} : ContextConfig).atom s else c.atom s := by
  cases s with
  | enabled =>
    simp only [atom, defaulted]
    cases deleted .enabled <;> rfl
  | dispatch =>
    simp only [atom, defaulted]
    cases deleted .dispatch <;> rfl
  | budget =>
    simp only [atom, defaulted]
    cases deleted .budget <;> rfl

theorem validate_defaulted (hbudget : 1 ≤ c.budget) (field : String) :
    (c.defaulted deleted).validate field = .ok () := by
  have hne : (bif deleted .budget then defaultBudget else c.budget) ≠ 0 := by
    cases deleted .budget
    · exact Nat.one_le_iff_ne_zero.mp hbudget
    · exact Nat.succ_ne_zero _
  exact if_neg hne

theorem newline_notMem_lines (c : ContextConfig) : ∀ line ∈ c.lines, '\n' ∉ line.toList := by
  have hbudget : '\n' ∉ Nat.toDigits 10 c.budget := by
    rw [← toList_numeral]
    exact notMem_of_digits (fun _ ↦ isDigit_of_mem_numeral) '\n' rfl
  have henabled : '\n' ∉ (toString c.enabled).toList := by
    cases c.enabled <;> decide
  have hpolicy : '\n' ∉ c.policy.text.toList := by
    cases c.policy <;> decide
  simp [lines, fields, Setting.all, Setting.key, Tables.pairLine, atom, Atom.spelling,
    kebabCase_inspect, hbudget, henabled, hpolicy]

end ContextConfig

/-! ## Documents with deleted lines -/

/-- The name of the table of a side. -/
def Side.key : Side → String
  | primary => "primary"
  | level => "level"

namespace EngineConfig

variable (c : EngineConfig) (deleted : Side → Setting → Bool)

/-- The settings of a side. -/
def context : Side → ContextConfig
  | .primary => c.primary
  | .level => c.level

/-- The lines of the document. -/
def lines : List String := "[primary]" :: c.primary.lines ++ ["", "[level]"] ++ c.level.lines

/-- The settings of both contexts with those that were deleted at their defaults. -/
def defaulted : EngineConfig where
  primary := c.primary.defaulted (deleted .primary)
  level := c.level.defaulted (deleted .level)

/-- The lines of the document that are left when those of some settings are deleted. The headers
stay. -/
def linesWithout : List String :=
  "[primary]" :: c.primary.linesWithout (deleted .primary) ++ ["", "[level]"] ++
    c.level.linesWithout (deleted .level)

/-- The tables of the lines that are left. -/
def tablesWithout : Tables :=
  [("primary", c.primary.fieldsWithout (deleted .primary)),
    ("level", c.level.fieldsWithout (deleted .level))]

theorem lines_eq : c.lines = c.tables.lines := by
  simp [lines, tables, Tables.lines, Tables.tableLines, ContextConfig.lines]

theorem linesWithout_eq : c.linesWithout deleted = (c.tablesWithout deleted).lines := by
  simp [linesWithout, tablesWithout, Tables.lines, Tables.tableLines,
    ContextConfig.linesWithout_eq]

theorem mem_tablesWithout (side : Side) :
    (side.key, (c.context side).fieldsWithout (deleted side)) ∈ c.tablesWithout deleted := by
  cases side
  · exact List.mem_cons_self
  · exact List.mem_cons_of_mem _ List.mem_cons_self

theorem context_defaulted (side : Side) :
    (c.defaulted deleted).context side = (c.context side).defaulted (deleted side) := by
  cases side <;> rfl

variable {c} (hprimary : 1 ≤ c.primary.budget ∧ c.primary.budget ≤ maxInteger)
  (hlevel : 1 ≤ c.level.budget ∧ c.level.budget ≤ maxInteger)

include hprimary hlevel

theorem isPlain_tablesWithout : (c.tablesWithout deleted).IsPlain where
  nodup := show ["primary", "level"].Nodup by decide
  plain := by
    simp only [tablesWithout, List.forall_mem_cons]
    exact ⟨ContextConfig.isPlainTable_fieldsWithout _ hprimary.2 (.of_all (by decide) rfl),
      ContextConfig.isPlainTable_fieldsWithout _ hlevel.2 (.of_all (by decide) rfl), nofun⟩

theorem validate_defaulted : (c.defaulted deleted).validate = .ok () := by
  rw [validate, defaulted, ContextConfig.validate_defaulted _ hprimary.1,
    ContextConfig.validate_defaulted _ hlevel.1]
  rfl

end EngineConfig

theorem EngineConfig.newline_notMem_lines (c : EngineConfig) :
    ∀ line ∈ c.lines, '\n' ∉ line.toList := by
  have hheaders : ∀ line ∈ ["", "[level]"], '\n' ∉ line.toList := by decide
  rw [lines, List.forall_mem_append, List.forall_mem_append, List.forall_mem_cons]
  exact ⟨⟨⟨by decide, c.primary.newline_notMem_lines⟩, hheaders⟩, c.level.newline_notMem_lines⟩

/-! ## Formats -/

namespace ConfigFormat

/-- What is relied on of a format. -/
structure Lawful (format : ConfigFormat) : Prop where
  /-- A configuration becomes a table for each context, and its settings become values under their
  names, in their order. A policy becomes its name in lower case with hyphens. -/
  serialize : ∀ c, format.serialize c = c.tables
  /-- Plain tables are written one after the other with an empty line between them, each as a header
  and one line for each key. -/
  write : ∀ tables : Tables, tables.IsPlain → format.write? tables = some (document tables.lines)
  /-- In the document of plain tables each key of a table is read with its value, and no others. -/
  read : ∀ tables : Tables, tables.IsPlain →
    ∃ entries, format.read? (document tables.lines) = some entries ∧ tables.HeldBy entries
  /-- A setting is read from the value it becomes, and one that is missing has its default. -/
  deserialize : ∀ (entries : Entries) (c : EngineConfig),
    (∀ side, ∃ origin inner, entries.get? side.key = some (.table origin inner) ∧
      ∀ s, Entries.get? inner s.key = some ((c.context side).atom s).value ∨
        Entries.get? inner s.key = none ∧
          (c.context side).atom s = ({} : ContextConfig).atom s) →
    format.deserialize? entries = some c

/-- **Deleted lines leave their settings at the defaults.** -/
theorem Lawful.ofToml_linesWithout {format : ConfigFormat} (hformat : format.Lawful)
    {c : EngineConfig} (hprimary : 1 ≤ c.primary.budget ∧ c.primary.budget ≤ maxInteger)
    (hlevel : 1 ≤ c.level.budget ∧ c.level.budget ≤ maxInteger)
    (deleted : Side → Setting → Bool) :
    EngineConfig.ofToml (document (c.linesWithout deleted)) format = .ok (c.defaulted deleted) := by
  obtain ⟨entries, hread, hheld⟩ :=
    hformat.read _ (EngineConfig.isPlain_tablesWithout deleted hprimary hlevel)
  have hconfig : format.deserialize? entries = some (c.defaulted deleted) := by
    refine hformat.deserialize entries _ fun side ↦ ?_
    obtain ⟨origin, inner, htable, hinner⟩ := hheld _ (c.mem_tablesWithout deleted side)
    refine ⟨origin, inner, htable, fun s ↦ ?_⟩
    rw [EngineConfig.context_defaulted, ContextConfig.atom_defaulted, hinner,
      ContextConfig.lookup_fieldsWithout]
    cases deleted side s with
    | false => exact .inl rfl
    | true => exact .inr ⟨rfl, rfl⟩
  have hvalid := EngineConfig.validate_defaulted deleted hprimary hlevel
  rw [EngineConfig.ofToml, EngineConfig.linesWithout_eq, hread, Option.bind_some, hconfig]
  simp only [hvalid]
  rfl

/-! ### The format of the program -/

theorem write?_of_isPlain {tables : Tables} (htables : tables.IsPlain) :
    tables.write? = some (document tables.lines) := by
  refine if_pos (List.all_eq_true.mpr fun table htable ↦ List.all_eq_true.mpr fun pair hpair ↦ ?_)
  have hplain := (htables.plain table htable).atoms pair hpair
  rcases hatom : pair.2 with b | s | n
  · rfl
  · rfl
  · rw [hatom] at hplain
    exact decide_eq_true hplain

theorem setting_eq_some {α : Type} {read : Value → Option α} {default a : α} {value : Value}
    {found : Option Value} (hread : read value = some a)
    (h : found = some value ∨ found = none ∧ a = default) :
    setting read default found = some a := by
  obtain rfl | ⟨rfl, rfl⟩ := h
  · exact hread
  · rfl

theorem kebabCase_inspect_injective : Function.Injective fun p : Policy ↦ kebabCase p.inspect := by
  intro p q h
  have htext : p.text = q.text := by simpa only [kebabCase_inspect] using h
  have hsame := congrArg Policy.ofText? htext
  rw [Policy.ofText?_text, Policy.ofText?_text] at hsame
  exact Option.some.inj hsame

theorem ofToml?_table {c : ContextConfig} {inner : Entries} (origin : Origin)
    (h : ∀ s, Entries.get? inner s.key = some (c.atom s).value ∨
      Entries.get? inner s.key = none ∧ c.atom s = ({} : ContextConfig).atom s) :
    ContextConfig.ofToml? (.table origin inner) = some c := by
  have hspelled : policy? (c.atom .dispatch).value = some c.policy :=
    (congrArg Policy.ofText? (kebabCase_inspect c.policy)).trans (Policy.ofText?_text _)
  have henabled : setting boolean? true (Entries.get? inner Setting.enabled.key) =
      some c.enabled :=
    setting_eq_some rfl ((h .enabled).imp_right (And.imp_right Atom.boolean.inj))
  have hpolicy : setting policy? .singleInstruction (Entries.get? inner Setting.dispatch.key) =
      some c.policy :=
    setting_eq_some hspelled ((h .dispatch).imp_right
      (And.imp_right fun hdefault ↦ kebabCase_inspect_injective (Atom.text.inj hdefault)))
  have hbudget : setting count? defaultBudget (Entries.get? inner Setting.budget.key) =
      some c.budget :=
    setting_eq_some rfl ((h .budget).imp_right (And.imp_right Atom.number.inj))
  rw [ContextConfig.ofToml?, ContextConfig.ofSettings?, henabled, hpolicy, hbudget]
  rfl

theorem lawful_standard : standard.Lawful where
  serialize _ := rfl
  write _ := write?_of_isPlain
  read tables htables :=
    ⟨_, parse?_document htables, Tables.heldBy_map_tableEntry htables.nodup⟩
  deserialize entries c h := by
    obtain ⟨_, _, hprimary, hsettings⟩ := h .primary
    obtain ⟨_, _, hlevel, hsettings'⟩ := h .level
    change EngineConfig.ofEntries? entries = some c
    simp only [Side.key] at hprimary hlevel
    simp only [EngineConfig.ofEntries?, hprimary, hlevel, setting, ofToml?_table _ hsettings,
      ofToml?_table _ hsettings']
    rfl

end ConfigFormat

/-! ## The trip -/

/-- **A configuration survives a trip through TOML** if its budgets are between one and the greatest
integer of TOML, which is 2 ^ 63 - 1. Written out, it is read back as it was; and whichever lines of
settings are deleted from the text, exactly these settings are at their defaults when the rest is
read. -/
theorem config_survives_toml {format : ConfigFormat} (hformat : format.Lawful) (c : EngineConfig)
    (hprimary : 1 ≤ c.primary.budget ∧ c.primary.budget ≤ maxInteger)
    (hlevel : 1 ≤ c.level.budget ∧ c.level.budget ≤ maxInteger) :
    ∃ text, c.toToml format = .ok text ∧ EngineConfig.ofToml text format = .ok c ∧
      text = document c.lines ∧ (∀ line ∈ c.lines, '\n' ∉ line.toList) ∧
      ∀ deleted : Side → Setting → Bool,
        EngineConfig.ofToml (document (c.linesWithout deleted)) format =
          .ok (c.defaulted deleted) := by
  have hplain : c.tables.IsPlain :=
    EngineConfig.isPlain_tablesWithout (fun _ _ ↦ false) hprimary hlevel
  have hwritten : c.toToml format = .ok (document c.lines) := by
    rw [EngineConfig.toToml, hformat.serialize, hformat.write _ hplain, ← c.lines_eq]
  have hdeleted := hformat.ofToml_linesWithout hprimary hlevel
  have hround : EngineConfig.ofToml (document c.lines) format = .ok c := hdeleted fun _ _ ↦ false
  exact ⟨document c.lines, hwritten, hround, rfl, c.newline_notMem_lines, hdeleted⟩

/-- The policy of the one context and the budget of the other are deleted. -/
theorem config_survives_toml_partly :
    let c : EngineConfig := ⟨⟨false, .untilSuspend, 9223372036854775807⟩, ⟨true, .untilSuspend, 1⟩⟩
    (∃ text, c.toToml = .ok text ∧ EngineConfig.ofToml text = .ok c) ∧
      EngineConfig.ofToml (document ["[primary]", "enabled = false",
        "max_instructions_per_tick = 9223372036854775807", "", "[level]", "enabled = true",
        "dispatch = \"until-suspend\""]) =
        .ok ⟨⟨false, .singleInstruction, 9223372036854775807⟩, ⟨true, .untilSuspend, 1024⟩⟩ := by
  intro c
  obtain ⟨text, hwritten, hread, -, -, hdeleted⟩ :=
    config_survives_toml ConfigFormat.lawful_standard c ⟨by decide, by decide⟩
      ⟨by decide, by decide⟩
  have hlines : c.linesWithout (fun side s ↦
      (side, s) = (.primary, .dispatch) ∨ (side, s) = (.level, .budget)) =
      ["[primary]", "enabled = false", "max_instructions_per_tick = 9223372036854775807", "",
        "[level]", "enabled = true", "dispatch = \"until-suspend\""] := by
    decide +kernel
  refine ⟨⟨text, hwritten, hread⟩, ?_⟩
  rw [← hlines, hdeleted]
  rfl

end EventScript
