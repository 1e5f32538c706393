import StagedSql.Proofs.Flow.Screening
import StagedSql.Query.Basic
import StagedSql.Stage.Completeness

/-!
# Payloads as they were received

The typed fields of a payload say the same as its entries: a text that is given is given in both, and
a list has as many items.
-/

namespace StagedSql

namespace Record

open Checked

variable {α β : Type} {key : String} {fields : Fields}

/-! ### Fields -/

theorem Checked.map_eq_good {f : α → β} {x : Checked α} {b : β} (h : (f <$> x) = .good b) :
    ∃ a, x = .good a ∧ b = f a := by
  cases x with
  | good a => exact ⟨a, rfl, (Checked.good.inj h).symm⟩
  | bad ps => cases h

theorem Checked.under_eq_good {step : Step} {x : Checked α} {a : α} (h : x.under step = .good a) :
    x = .good a := by
  cases x with
  | good b => exact h
  | bad ps => cases h

theorem optional_cases {read : Value → Checked α} {o : Option α}
    (h : optional read key fields = .good o) :
    (Value.field fields key = .null ∧ o = none) ∨
      ∃ a, read (Value.field fields key) = .good a ∧ o = some a := by
  unfold optional at h
  unfold Value.field
  split at h
  · next hnone =>
    rw [hnone]
    exact .inl ⟨rfl, (Checked.good.inj h).symm⟩
  · next hnull =>
    rw [hnull]
    exact .inl ⟨rfl, (Checked.good.inj h).symm⟩
  · next v hne hv =>
    rw [hv]
    obtain ⟨a, hread, ho⟩ := map_eq_good (under_eq_good h)
    exact .inr ⟨a, hread, ho⟩

theorem text_of_optional {o : Option String} (h : optional text key fields = .good o) :
    (Value.field fields key = .null ∧ o = none) ∨
      ∃ s, Value.field fields key = .text s ∧ o = some s := by
  refine (optional_cases h).imp_right ?_
  rintro ⟨s, hread, rfl⟩
  cases hv : Value.field fields key with
  | text given =>
    rw [hv] at hread
    exact ⟨s, congrArg Value.text (Checked.good.inj hread), rfl⟩
  | _ =>
    rw [hv] at hread
    cases hread

theorem length_itemsFrom {read : Value → Checked α} {i : Nat} {vs : List Value} {items : List α}
    (h : itemsFrom read i vs = .good items) : items.length = vs.length := by
  induction vs generalizing i items with
  | nil =>
    rw [← Checked.good.inj h]
    rfl
  | cons v rest ih =>
    obtain ⟨f, more, hf, hmore, rfl⟩ := seq_eq_good h
    obtain ⟨a, -, rfl⟩ := map_eq_good hf
    rw [List.length_cons, List.length_cons, ih hmore]

theorem items_of_optional {read : Value → Checked α} {o : Option (List α)}
    (h : optional (list read) key fields = .good o) :
    (Value.field fields key = .null ∧ o = none) ∨ ∃ vs items, Value.field fields key = .list vs ∧
      o = some items ∧ items.length = vs.length := by
  refine (optional_cases h).imp_right ?_
  rintro ⟨items, hread, rfl⟩
  cases hv : Value.field fields key with
  | list vs =>
    rw [hv] at hread
    exact ⟨vs, items, rfl, rfl, length_itemsFrom hread⟩
  | _ =>
    rw [hv] at hread
    cases hread

theorem defaulted_any {v : Value} (h : defaulted any .null key fields = .good v) :
    v = Value.field fields key := by
  unfold defaulted at h
  unfold Value.field
  split at h
  · next hnone =>
    rw [hnone]
    exact (Checked.good.inj h).symm
  · next w hw =>
    rw [hw]
    exact (Checked.good.inj (under_eq_good h)).symm

end Record

namespace Payload

open Record Checked

variable {fields : Fields} {payload : Payload}

/-! ### Payloads -/

theorem read_join (h : read .join fields = .good payload) : ∃ p, payload = .join p ∧
    optional text "joinType" fields = .good p.joinType ∧
    optional text "leftTable" fields = .good p.leftTable ∧
    optional text "rightTable" fields = .good p.rightTable ∧
    optional text "leftKey" fields = .good p.leftKey ∧
    optional text "rightKey" fields = .good p.rightKey := by
  obtain ⟨p, hp, rfl⟩ := map_eq_good h
  obtain ⟨f, rightKey, h₁, hrightKey, rfl⟩ := seq_eq_good hp
  obtain ⟨f, leftKey, h₂, hleftKey, rfl⟩ := seq_eq_good h₁
  obtain ⟨f, rightTable, h₃, hrightTable, rfl⟩ := seq_eq_good h₂
  obtain ⟨f, leftTable, h₄, hleftTable, rfl⟩ := seq_eq_good h₃
  obtain ⟨joinType, hjoinType, rfl⟩ := map_eq_good h₄
  exact ⟨_, rfl, hjoinType, hleftTable, hrightTable, hleftKey, hrightKey⟩

theorem read_union (h : read .union fields = .good payload) : ∃ p, payload = .union p ∧
    optional text "unionType" fields = .good p.unionType ∧
    optional (list text) "tables" fields = .good p.tables := by
  obtain ⟨p, hp, rfl⟩ := map_eq_good h
  obtain ⟨f, tables, h₁, htables, rfl⟩ := seq_eq_good hp
  obtain ⟨unionType, hunionType, rfl⟩ := map_eq_good h₁
  exact ⟨_, rfl, hunionType, htables⟩

theorem read_filter (h : read .filter fields = .good payload) : ∃ p, payload = .filter p ∧
    optional text "table" fields = .good p.table ∧
    optional text "column" fields = .good p.column ∧
    optional text "operator" fields = .good p.operator ∧
    defaulted any .null "value" fields = .good p.value ∧
    optional (list (nested "FilterCondition" readCondition)) "conditions" fields =
      .good p.conditions := by
  obtain ⟨p, hp, rfl⟩ := map_eq_good h
  obtain ⟨f, conditions, h₁, hconditions, rfl⟩ := seq_eq_good hp
  obtain ⟨f, value, h₂, hvalue, rfl⟩ := seq_eq_good h₁
  obtain ⟨f, operator, h₃, hoperator, rfl⟩ := seq_eq_good h₂
  obtain ⟨f, column, h₄, hcolumn, rfl⟩ := seq_eq_good h₃
  obtain ⟨table, htable, rfl⟩ := map_eq_good h₄
  exact ⟨_, rfl, htable, hcolumn, hoperator, hvalue, hconditions⟩

theorem read_group (h : read .group fields = .good payload) : ∃ p, payload = .group p ∧
    optional text "table" fields = .good p.table ∧
    optional (list text) "groupBy" fields = .good p.groupBy ∧
    optional (list (nested "Aggregation" readAggregation)) "aggregations" fields =
      .good p.aggregations := by
  obtain ⟨p, hp, rfl⟩ := map_eq_good h
  obtain ⟨f, aggregations, h₁, haggregations, rfl⟩ := seq_eq_good hp
  obtain ⟨f, groupBy, h₂, hgroupBy, rfl⟩ := seq_eq_good h₁
  obtain ⟨table, htable, rfl⟩ := map_eq_good h₂
  exact ⟨_, rfl, htable, hgroupBy, haggregations⟩

theorem read_select (h : read .select fields = .good payload) : ∃ p, payload = .select p ∧
    optional text "table" fields = .good p.table ∧
    optional (list text) "columns" fields = .good p.columns := by
  obtain ⟨p, hp, rfl⟩ := map_eq_good h
  obtain ⟨f, columns, h₁, hcolumns, rfl⟩ := seq_eq_good hp
  obtain ⟨table, htable, rfl⟩ := map_eq_good h₁
  exact ⟨_, rfl, htable, hcolumns⟩

theorem read_sort (h : read .sort fields = .good payload) : ∃ p, payload = .sort p ∧
    optional text "table" fields = .good p.table ∧
    optional (list readOrder) "orderBy" fields = .good p.orderBy := by
  obtain ⟨p, hp, rfl⟩ := map_eq_good h
  obtain ⟨f, orderBy, h₁, horderBy, rfl⟩ := seq_eq_good hp
  obtain ⟨table, htable, rfl⟩ := map_eq_good h₁
  exact ⟨_, rfl, htable, horderBy⟩

theorem read_aggregate (h : read .aggregate fields = .good payload) : ∃ p, payload = .aggregate p ∧
    optional text "table" fields = .good p.table ∧
    optional (list (nested "Aggregation" readAggregation)) "aggregations" fields =
      .good p.aggregations := by
  obtain ⟨p, hp, rfl⟩ := map_eq_good h
  obtain ⟨f, aggregations, h₁, haggregations, rfl⟩ := seq_eq_good hp
  obtain ⟨table, htable, rfl⟩ := map_eq_good h₁
  exact ⟨_, rfl, htable, haggregations⟩

theorem read_custom (h : read .custom fields = .good payload) : ∃ p, payload = .custom p ∧
    optional text "sql" fields = .good p.sql := by
  obtain ⟨p, hp, rfl⟩ := map_eq_good h
  obtain ⟨sql, hsql, rfl⟩ := map_eq_good hp
  exact ⟨_, rfl, hsql⟩

end Payload

end StagedSql
