import StagedSql.Proofs.Outcome
import StagedSql.Proofs.Stage.Payload

/-!
# Incomplete stages have no query

A stage that lacks a required field cannot be compiled, whatever its kind and its payload. There are
two exceptions, both of them filters: a list of conditions takes the place of the single one that the
requirements ask for, and the empty text is written like any other value.
-/

namespace StagedSql

open Outcome Query

/-! ### Filters that can be written -/

def ConditionEntry.IsComparison (c : ConditionEntry) : Prop :=
  (given? c.column).isSome ∧ (given? c.operator).isSome

def ConditionEntry.IsJoined (c : ConditionEntry) : Prop :=
  (Logic.ofText? (normalWord "AND" c.logic)).isSome

/-- A list of comparisons, the ones after the first joined to those before. -/
def FilterPayload.GivesConditions (p : FilterPayload) : Prop :=
  ∃ first more, p.conditions = some (first :: more) ∧ first.IsComparison ∧
    ∀ c ∈ more, c.IsComparison ∧ c.IsJoined

def FilterPayload.GivesComparison (p : FilterPayload) : Prop :=
  p.conditions.getD [] = [] ∧ (given? p.column).isSome ∧ (given? p.operator).isSome ∧
    p.value ≠ .null

namespace Query

theorem require_eq {kind : StageKind} {field : String} {name : Option String} {t : String} :
    require kind field name = .ok t ↔ given? name = some t := by
  unfold require
  cases given? name <;> simp

theorem exists_require_iff {kind : StageKind} {field : String} {name : Option String} :
    (∃ t, require kind field name = .ok t) ↔ (given? name).isSome := by
  simp only [require_eq, Option.isSome_iff_exists]

theorem exists_conditionOf_iff {c : ConditionEntry} :
    (∃ d, conditionOf c = .ok d) ↔ c.IsComparison := by
  unfold conditionOf
  simp only [exists_bind_ok_iff, require_eq]
  simp [ConditionEntry.IsComparison, Option.isSome_iff_exists]

theorem exists_furtherConditionOf_iff {c : ConditionEntry} :
    (∃ d, furtherConditionOf c = .ok d) ↔ c.IsComparison ∧ c.IsJoined := by
  unfold furtherConditionOf ConditionEntry.IsJoined
  rw [exists_bind_ok_iff, ← exists_conditionOf_iff]
  cases Logic.ofText? (normalWord "AND" c.logic) with
  | none => simp
  | some logic => simp

theorem exists_ofFilter_iff {p : FilterPayload} :
    (∃ q, ofFilter p = .ok q) ↔
      (given? p.table).isSome ∧ (p.GivesConditions ∨ p.GivesComparison) := by
  obtain ⟨table, column, operator, value, conditions⟩ := p
  unfold ofFilter
  simp only [exists_bind_ok_iff, require_eq, FilterPayload.GivesConditions,
    FilterPayload.GivesComparison]
  cases given? table with
  | none => simp
  | some t =>
    rcases conditions with _ | _ | ⟨first, more⟩
    case some.cons =>
      simp [exists_bind_ok_iff, exists_conditionOf_iff, exists_mapM_ok_iff,
        exists_furtherConditionOf_iff, and_assoc, -Prod.exists]
    all_goals
      cases given? column with
      | none => simp
      | some column =>
        cases given? operator with
        | none => simp
        | some operator => cases value <;> simp

end Query

/-! ### Required fields -/

namespace Stage

variable {s : Stage} {key : String}

theorem missingFields_eq_nil_iff :
    s.missingFields = [] ↔ ∀ r ∈ requirements s.kind, r.2 (s.entry r.1) = true := by
  simp [missingFields, List.filter_eq_nil_iff]

theorem isText_eq {name : Option String}
    (hread : Record.optional Record.text key s.data = .good name) :
    isText (s.entry key) = (given? name).isSome := by
  unfold isText entry
  rcases Record.text_of_optional hread with ⟨hentry, rfl⟩ | ⟨t, hentry, rfl⟩
  · rw [hentry]
    rfl
  · rw [hentry]
    rfl

theorem isFilledList_eq {α : Type} {read : Value → Record.Checked α} {o : Option (List α)}
    (hread : Record.optional (Record.list read) key s.data = .good o) :
    isFilledList (s.entry key) = !(o.getD []).isEmpty := by
  unfold entry
  rcases Record.items_of_optional hread with ⟨hentry, rfl⟩ | ⟨vs, items, hentry, rfl, hlength⟩
  · rw [hentry]
    rfl
  · rw [hentry]
    cases vs with
    | nil =>
      rw [List.eq_nil_of_length_eq_zero hlength]
      rfl
    | cons v rest =>
      cases items with
      | nil => cases hlength
      | cons a more => rfl

end Stage

/-! ### Kind by kind -/

namespace Query

open Stage

variable {s : Stage} {key : String}

theorem isText_of_require {kind : StageKind} {field t : String} {name : Option String}
    (h : require kind field name = .ok t)
    (hread : Record.optional Record.text key s.data = .good name) : isText (s.entry key) := by
  rw [isText_eq hread]
  exact exists_require_iff.mp ⟨t, h⟩

theorem isFilledList_of_requireItems {α : Type} {read : Value → Record.Checked α}
    {kind : StageKind} {field : String} {o : Option (List α)} {items : List α}
    (h : requireItems kind field o = .ok items)
    (hread : Record.optional (Record.list read) key s.data = .good o) :
    isFilledList (s.entry key) := by
  rw [isFilledList_eq hread]
  rcases o with _ | _ | ⟨a, more⟩
  · cases h
  · cases h
  · rfl

variable {payload : Payload} {q : Query} {resolved : Option String}

theorem complete_join (h : ofPayload payload resolved = .ok q)
    (hread : Payload.read .join s.data = .good payload) :
    ∀ r ∈ requirements .join, r.2 (s.entry r.1) = true := by
  obtain ⟨p, rfl, -, hleft, hright, hleftKey, hrightKey⟩ := Payload.read_join hread
  rw [ofPayload] at h
  obtain ⟨left, hl, h⟩ := exists_of_bind_ok h
  obtain ⟨right, hr, h⟩ := exists_of_bind_ok h
  obtain ⟨leftKey, hlk, h⟩ := exists_of_bind_ok h
  obtain ⟨rightKey, hrk, h⟩ := exists_of_bind_ok h
  simp only [requirements, List.forall_mem_cons]
  exact ⟨isText_of_require hl hleft, isText_of_require hr hright, isText_of_require hlk hleftKey,
    isText_of_require hrk hrightKey, by simp⟩

theorem complete_union (h : ofPayload payload resolved = .ok q)
    (hread : Payload.read .union s.data = .good payload) :
    ∀ r ∈ requirements .union, r.2 (s.entry r.1) = true := by
  obtain ⟨p, rfl, -, htables⟩ := Payload.read_union hread
  rw [ofPayload] at h
  simp only [requirements, List.forall_mem_singleton]
  rw [isFilledList_eq htables]
  cases hgiven : p.tables.getD [] with
  | nil =>
    simp only [ofUnion, hgiven] at h
    cases h
  | cons t more => rfl

theorem complete_filter {p : FilterPayload} (htable : (given? p.table).isSome)
    (h : p.GivesComparison) (hvalue : p.value ≠ .text "")
    (hread : Payload.read .filter s.data = .good (.filter p)) :
    ∀ r ∈ requirements .filter, r.2 (s.entry r.1) = true := by
  obtain ⟨_, hp, htableRead, hcolumnRead, hoperatorRead, hvalueRead, -⟩ := Payload.read_filter hread
  obtain rfl := Payload.filter.inj hp
  obtain ⟨-, hcolumn, hoperator, hnull⟩ := h
  have hentry : isComparable (s.entry "value") := by
    unfold isComparable entry
    rw [← Record.defaulted_any hvalueRead]
    simp [hnull, hvalue]
  simp only [requirements, List.forall_mem_cons]
  exact ⟨(isText_eq htableRead).trans htable, (isText_eq hcolumnRead).trans hcolumn,
    (isText_eq hoperatorRead).trans hoperator, hentry, by simp⟩

theorem complete_group (h : ofPayload payload resolved = .ok q)
    (hread : Payload.read .group s.data = .good payload) :
    ∀ r ∈ requirements .group, r.2 (s.entry r.1) = true := by
  obtain ⟨p, rfl, -, hkeys, -⟩ := Payload.read_group hread
  rw [ofPayload] at h
  obtain ⟨keys, hgroupBy, -⟩ := exists_of_bind_ok h
  simp only [requirements, List.forall_mem_singleton]
  exact isFilledList_of_requireItems hgroupBy hkeys

theorem complete_select (h : ofPayload payload resolved = .ok q)
    (hread : Payload.read .select s.data = .good payload) :
    ∀ r ∈ requirements .select, r.2 (s.entry r.1) = true := by
  obtain ⟨p, rfl, -, hcolumns⟩ := Payload.read_select hread
  rw [ofPayload] at h
  obtain ⟨columns, hselected, -⟩ := exists_of_bind_ok h
  simp only [requirements, List.forall_mem_singleton]
  exact isFilledList_of_requireItems hselected hcolumns

theorem complete_sort (h : ofPayload payload resolved = .ok q)
    (hread : Payload.read .sort s.data = .good payload) :
    ∀ r ∈ requirements .sort, r.2 (s.entry r.1) = true := by
  obtain ⟨p, rfl, -, horderBy⟩ := Payload.read_sort hread
  rw [ofPayload] at h
  obtain ⟨entries, hentries, -⟩ := exists_of_bind_ok h
  simp only [requirements, List.forall_mem_singleton]
  exact isFilledList_of_requireItems hentries horderBy

theorem complete_custom (h : ofPayload payload resolved = .ok q)
    (hread : Payload.read .custom s.data = .good payload) :
    ∀ r ∈ requirements .custom, r.2 (s.entry r.1) = true := by
  obtain ⟨p, rfl, hsql⟩ := Payload.read_custom hread
  rw [ofPayload] at h
  simp only [requirements, List.forall_mem_singleton]
  unfold ofCustom at h
  unfold entry
  rcases Record.text_of_optional hsql with ⟨-, hnone⟩ | ⟨statement, hentry, hsome⟩
  · rw [hnone] at h
    cases h
  · rw [hsome] at h
    rw [hentry]
    unfold isStatement
    split at h
    · next hgiven =>
      obtain rfl := Option.some.inj hgiven
      split at h
      · cases h
      · next hfilled => simp [hfilled]
    · cases h

theorem complete_of_ofPayload (h : ofPayload payload resolved = .ok q)
    (hread : Payload.read s.kind s.data = .good payload) (hkind : s.kind ≠ .filter) :
    s.missingFields = [] := by
  rw [missingFields_eq_nil_iff]
  generalize s.kind = kind at hread hkind
  cases kind with
  | load => simp [requirements]
  | aggregate => simp [requirements]
  | filter => exact absurd rfl hkind
  | join => exact complete_join h hread
  | union => exact complete_union h hread
  | group => exact complete_group h hread
  | select => exact complete_select h hread
  | sort => exact complete_sort h hread
  | custom => exact complete_custom h hread

/-! ### The gate -/

theorem payload_ofStage_iff :
    Payload.ofStage s = .ok payload ↔ Payload.read s.kind s.data = .good payload := by
  unfold Payload.ofStage
  cases Payload.read s.kind s.data <;> simp [Record.Checked.report]

theorem exists_compile_iff :
    (∃ statement, compile s resolved = .ok statement) ↔
      ∃ payload, Payload.ofStage s = .ok payload ∧ ∃ q, ofPayload payload resolved = .ok q := by
  unfold compile ofStage
  cases Payload.ofStage s with
  | error report => simp [Except.map]
  | ok payload =>
    cases hq : ofPayload payload resolved with
    | error problem => simp [hq, Except.map]
    | ok q => simp [hq, Except.map]

/-- The compiler refuses an incomplete stage unless it is a filter of a named table that gives a list
of conditions or compares a column with the empty text. -/
theorem compile_error_of_incomplete (s : Stage) (resolved : Option String)
    (h : s.missingFields ≠ []) :
    (∃ problem, compile s resolved = .error problem) ↔
      ¬ ∃ p, Payload.ofStage s = .ok (.filter p) ∧ (given? p.table).isSome ∧
        (p.GivesConditions ∨ p.GivesComparison ∧ p.value = .text "") := by
  rw [exists_error_iff, exists_compile_iff]
  apply not_congr
  constructor
  · rintro ⟨payload, hpayload, q, hq⟩
    have hread := payload_ofStage_iff.mp hpayload
    by_cases hkind : s.kind = .filter
    · rw [hkind] at hread
      obtain ⟨p, rfl, -⟩ := Payload.read_filter hread
      obtain ⟨htable, hfilters⟩ := exists_ofFilter_iff.mp ⟨q, hq⟩
      refine ⟨p, hpayload, htable, hfilters.imp_right fun hcomparison => ⟨hcomparison, ?_⟩⟩
      -- with any other value nothing that the requirements ask for would be missing
      refine Decidable.byContradiction fun hvalue => h (missingFields_eq_nil_iff.mpr ?_)
      rw [hkind]
      exact complete_filter htable hcomparison hvalue hread
    · exact absurd (complete_of_ofPayload hq hread hkind) h
  · rintro ⟨p, hpayload, htable, hfilters⟩
    exact ⟨.filter p, hpayload, exists_ofFilter_iff.mpr ⟨htable, hfilters.imp_right And.left⟩⟩

example : compile ⟨"stage", .filter, "", [("table", .text "orders"), ("column", .text "note"),
    ("operator", .text "="), ("value", .text "")]⟩ none =
    .ok "SELECT * FROM orders WHERE note = ''" := rfl

def halfKeyed : Stage :=
  ⟨"stage", .join, "", [("leftTable", .text "orders"), ("rightTable", .text "customers"),
    ("leftKey", .text "id")]⟩

theorem halfKeyed_refused :
    halfKeyed.missingFields ≠ [] ∧ ∃ problem, compile halfKeyed none = .error problem := by
  have hmissing : halfKeyed.missingFields ≠ [] := by decide
  have hpayload : Payload.ofStage halfKeyed =
      .ok (.join ⟨none, some "orders", some "customers", some "id", none⟩) := rfl
  refine ⟨hmissing, (compile_error_of_incomplete halfKeyed none hmissing).mpr ?_⟩
  rintro ⟨p, hfilter, -⟩
  rw [hpayload] at hfilter
  cases hfilter

def byConditions : Stage :=
  ⟨"stage", .filter, "", [("table", .text "orders"), ("conditions",
    .list [.object [("column", .text "total"), ("operator", .text ">"), ("value", .int 1)]])]⟩

theorem byConditions_compiled :
    byConditions.missingFields = ["column", "operator", "value"] ∧
      compile byConditions none = .ok "SELECT * FROM orders WHERE total > 1" :=
  ⟨by decide, rfl⟩

end Query

end StagedSql
