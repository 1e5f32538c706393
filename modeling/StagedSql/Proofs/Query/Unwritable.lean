import StagedSql.Proofs.Query.Gate
import StagedSql.Session.Materialize

/-!
# Complete stages without a query

The required fields are not all that the compiler asks for. Which complete stages it refuses is told by
the payload: it is malformed, a word is none of the language, or an item of a list says too little.
-/

namespace StagedSql

open Outcome Query

/-! ### Payloads that cannot be written -/

/-- A word is given, but its normal form is none of `words`. -/
def Foreign (words : List String) (word : Option String) : Prop :=
  ∃ given, given? word = some given ∧ Text.upper (Text.stripped given) ∉ words

def ConditionEntry.Unclear (c : ConditionEntry) : Prop :=
  given? c.column = none ∨ given? c.operator = none

def AggregationEntry.Unclear (a : AggregationEntry) : Prop :=
  given? a.function = none ∨ given? a.column = none ∧ Foreign ["COUNT"] a.function

/-- The entry is a record without a column, or with a direction that is none. -/
def OrderEntry.Unclear : OrderEntry → Prop
  | .record name direction _ => given? name = none ∨ Foreign ["ASC", "DESC"] direction
  | .column _ => False

/-- Why a payload has no query although its required fields are there. -/
def Payload.Unwritable : Payload → Prop
  | .join p => Foreign ["INNER", "LEFT", "RIGHT", "FULL OUTER"] p.joinType
  | .union p => (p.tables.getD []).length < 2 ∨ Foreign ["UNION", "UNION ALL"] p.unionType
  | .filter p => (∃ c ∈ p.conditions.getD [], c.Unclear) ∨
      ∃ c ∈ (p.conditions.getD []).tail, Foreign ["AND", "OR"] c.logic
  | .group p => ∃ a ∈ p.aggregations.getD [], a.Unclear
  | .aggregate p => p.aggregations.getD [] = [] ∨ ∃ a ∈ p.aggregations.getD [], a.Unclear
  | .sort p => ∃ o ∈ p.orderBy.getD [], o.Unclear
  | .load _ | .select _ | .custom _ => False

namespace Query

/-! ### Words -/

section

variable {β : Type} {ofText? : String → Option β} {words : List String} {default : String}

theorem isSome_ofText?_iff (hwords : ∀ w, (ofText? w).isSome ↔ w ∈ words)
    (hdefault : Text.upper (Text.stripped default) ∈ words) (word : Option String) :
    (ofText? (normalWord default word)).isSome ↔ ¬ Foreign words word := by
  unfold normalWord Foreign
  rw [hwords]
  cases given? word with
  | none => simp [hdefault]
  | some w => simp

end

theorem isSome_joinKind_iff (word : Option String) :
    (JoinKind.ofText? (normalWord "INNER" word)).isSome ↔
      ¬ Foreign ["INNER", "LEFT", "RIGHT", "FULL OUTER"] word := by
  refine isSome_ofText?_iff (fun w => ?_) (by decide +kernel) word
  unfold JoinKind.ofText?
  grind

theorem isSome_unionKind_iff (word : Option String) :
    (UnionKind.ofText? (normalWord "UNION" word)).isSome ↔
      ¬ Foreign ["UNION", "UNION ALL"] word := by
  refine isSome_ofText?_iff (fun w => ?_) (by decide +kernel) word
  unfold UnionKind.ofText?
  grind

theorem isSome_direction_iff (word : Option String) :
    (Direction.ofText? (normalWord "ASC" word)).isSome ↔ ¬ Foreign ["ASC", "DESC"] word := by
  refine isSome_ofText?_iff (fun w => ?_) (by decide +kernel) word
  unfold Direction.ofText?
  grind

theorem isJoined_iff {c : ConditionEntry} : c.IsJoined ↔ ¬ Foreign ["AND", "OR"] c.logic := by
  refine isSome_ofText?_iff (fun w => ?_) (by decide +kernel) c.logic
  unfold Logic.ofText?
  grind

/-! ### Items -/

theorem isComparison_iff {c : ConditionEntry} : c.IsComparison ↔ ¬ c.Unclear := by
  simp [ConditionEntry.IsComparison, ConditionEntry.Unclear, Option.isSome_iff_ne_none]

theorem exists_aggregationOf_iff {kind : StageKind} {a : AggregationEntry} :
    (∃ b, aggregationOf kind a = .ok b) ↔ ¬ a.Unclear := by
  unfold aggregationOf AggregationEntry.Unclear Foreign
  simp only [exists_bind_ok_iff, require_eq]
  cases given? a.function with
  | none => simp
  | some function =>
    cases given? a.column with
    | some column => simp
    | none => by_cases hcount : Text.upper (Text.stripped function) = "COUNT" <;> simp [hcount]

theorem exists_sortKeyOf_iff {o : OrderEntry} : (∃ k, sortKeyOf o = .ok k) ↔ ¬ o.Unclear := by
  cases o with
  | column name => simp [sortKeyOf, OrderEntry.Unclear]
  | record column direction extras =>
    unfold sortKeyOf OrderEntry.Unclear
    rw [exists_bind_ok_iff, not_or, ← isSome_direction_iff]
    simp only [require_eq]
    cases given? column with
    | none => simp
    | some c => cases Direction.ofText? (normalWord "ASC" direction) <;> simp

theorem requireItems_eq {α : Type} {kind : StageKind} {field : String} {o : Option (List α)}
    {items : List α} : requireItems kind field o = .ok items ↔ o.getD [] = items ∧ items ≠ [] := by
  rcases o with _ | _ | ⟨a, more⟩
  · simp [requireItems, eq_comm]
  · simp [requireItems, eq_comm]
  · simp only [requireItems, Except.ok.injEq, Option.getD_some, iff_self_and]
    rintro rfl
    exact List.cons_ne_nil _ _

theorem exists_sourceTable {resolved : String} (h : resolved ≠ "") (kind : StageKind)
    (named : Option String) : ∃ table, sourceTable kind named (some resolved) = .ok table := by
  unfold sourceTable
  cases given? named with
  | some t => exact ⟨t, rfl⟩
  | none => exact ⟨resolved, by simp only [given?, if_neg h]⟩

/-! ### Kind by kind -/

theorem exists_ofJoin_iff {p : JoinPayload} :
    (∃ q, ofJoin p = .ok q) ↔ ((given? p.leftTable).isSome ∧ (given? p.rightTable).isSome ∧
      (given? p.leftKey).isSome ∧ (given? p.rightKey).isSome) ∧ ¬ (Payload.join p).Unwritable := by
  unfold ofJoin Payload.Unwritable
  rw [← isSome_joinKind_iff]
  simp only [exists_bind_ok_iff, require_eq, Option.isSome_iff_exists]
  cases JoinKind.ofText? (normalWord "INNER" p.joinType) <;> simp

theorem exists_ofUnion_iff {p : UnionPayload} :
    (∃ q, ofUnion p = .ok q) ↔ ¬ (Payload.union p).Unwritable := by
  unfold ofUnion Payload.Unwritable
  rw [not_or, ← isSome_unionKind_iff]
  by_cases hfew : (p.tables.getD []).length < 2
  · simp [hfew]
  · cases UnionKind.ofText? (normalWord "UNION" p.unionType) <;> simp [hfew]

section

variable {resolved : String} (hresolved : resolved ≠ "")
include hresolved

theorem exists_ofGroup_iff {p : GroupPayload} :
    (∃ q, ofGroup p (some resolved) = .ok q) ↔
      p.groupBy.getD [] ≠ [] ∧ ¬ (Payload.group p).Unwritable := by
  have hsource := exists_sourceTable hresolved .group p.table
  unfold ofGroup Payload.Unwritable
  simp [exists_bind_ok_iff, requireItems_eq, hsource, exists_mapM_ok_iff, exists_aggregationOf_iff]

theorem exists_ofSelect_iff {p : SelectPayload} :
    (∃ q, ofSelect p (some resolved) = .ok q) ↔ p.columns.getD [] ≠ [] := by
  have hsource := exists_sourceTable hresolved .select p.table
  unfold ofSelect
  simp [exists_bind_ok_iff, requireItems_eq, hsource]

theorem exists_ofSort_iff {p : SortPayload} :
    (∃ q, ofSort p (some resolved) = .ok q) ↔
      p.orderBy.getD [] ≠ [] ∧ ¬ (Payload.sort p).Unwritable := by
  have hsource := exists_sourceTable hresolved .sort p.table
  unfold ofSort Payload.Unwritable
  simp [exists_bind_ok_iff, requireItems_eq, hsource, exists_mapM_ok_iff, exists_sortKeyOf_iff,
    and_assoc]

theorem exists_ofAggregate_iff {p : AggregatePayload} :
    (∃ q, ofAggregate p (some resolved) = .ok q) ↔ ¬ (Payload.aggregate p).Unwritable := by
  have hsource := exists_sourceTable hresolved .aggregate p.table
  unfold ofAggregate Payload.Unwritable
  simp [exists_bind_ok_iff, requireItems_eq, hsource, exists_mapM_ok_iff, exists_aggregationOf_iff,
    and_assoc]

end

theorem givesConditions_iff {p : FilterPayload} :
    p.GivesConditions ↔ p.conditions.getD [] ≠ [] ∧ ¬ (Payload.filter p).Unwritable := by
  obtain ⟨table, column, operator, value, conditions⟩ := p
  unfold FilterPayload.GivesConditions Payload.Unwritable
  rcases conditions with _ | _ | ⟨first, more⟩
  · simp
  · simp
  · simp [isComparison_iff, isJoined_iff, forall_and, and_assoc]

theorem exists_ofFilter_iff_of_given {p : FilterPayload} (htable : (given? p.table).isSome)
    (hcolumn : (given? p.column).isSome) (hoperator : (given? p.operator).isSome)
    (hvalue : p.value ≠ .null) :
    (∃ q, ofFilter p = .ok q) ↔ ¬ (Payload.filter p).Unwritable := by
  rw [exists_ofFilter_iff, givesConditions_iff]
  by_cases hnone : p.conditions.getD [] = []
  · have hwritable : ¬ (Payload.filter p).Unwritable := by simp [Payload.Unwritable, hnone]
    exact iff_of_true ⟨htable, .inr ⟨hnone, hcolumn, hoperator, hvalue⟩⟩ hwritable
  · constructor
    · rintro ⟨-, ⟨-, hwritable⟩ | hcomparison⟩
      · exact hwritable
      · exact absurd hcomparison.1 hnone
    · exact fun hwritable => ⟨htable, .inl ⟨hnone, hwritable⟩⟩

end Query

/-! ### Complete stages -/

namespace Materialization

variable {s : Stage} {input : Option String}

theorem exists_compiled_error_iff :
    (∃ e, compiled s input = .error e) ↔ ∃ problem, Query.compile s input = .error problem := by
  unfold compiled
  cases Query.compile s input with
  | ok statement => exact iff_of_false (fun ⟨_, h⟩ => by cases h) (fun ⟨_, h⟩ => by cases h)
  | error problem => exact iff_of_true ⟨_, rfl⟩ ⟨problem, rfl⟩

theorem compiled_error {e : PipelineError} (h : compiled s input = .error e) :
    ∃ problem, e = .compile s.id problem := by
  unfold compiled at h
  cases hc : Query.compile s input with
  | ok statement =>
    rw [hc] at h
    cases h
  | error problem =>
    rw [hc] at h
    exact ⟨problem, (Except.error.inj h).symm⟩

end Materialization

namespace Query

open Stage

variable {s : Stage} {payload : Payload} {resolved : String}

theorem writable_join (hcomplete : ∀ r ∈ requirements .join, r.2 (s.entry r.1) = true)
    (hread : Payload.read .join s.data = .good payload) :
    (∃ q, ofPayload payload (some resolved) = .ok q) ↔ ¬ payload.Unwritable := by
  obtain ⟨p, rfl, -, hleft, hright, hleftKey, hrightKey⟩ := Payload.read_join hread
  simp only [requirements, List.forall_mem_cons, isText_eq hleft, isText_eq hright,
    isText_eq hleftKey, isText_eq hrightKey] at hcomplete
  obtain ⟨hl, hr, hlk, hrk, -⟩ := hcomplete
  exact exists_ofJoin_iff.trans (and_iff_right ⟨hl, hr, hlk, hrk⟩)

theorem writable_filter (hcomplete : ∀ r ∈ requirements .filter, r.2 (s.entry r.1) = true)
    (hread : Payload.read .filter s.data = .good payload) :
    (∃ q, ofPayload payload (some resolved) = .ok q) ↔ ¬ payload.Unwritable := by
  obtain ⟨p, rfl, htable, hcolumn, hoperator, hvalue, -⟩ := Payload.read_filter hread
  simp only [requirements, List.forall_mem_cons, isText_eq htable, isText_eq hcolumn,
    isText_eq hoperator] at hcomplete
  obtain ⟨ht, hc, ho, hv, -⟩ := hcomplete
  refine exists_ofFilter_iff_of_given ht hc ho fun hnull => ?_
  rw [entry, ← Record.defaulted_any hvalue, hnull] at hv
  cases hv

theorem writable_custom (hcomplete : ∀ r ∈ requirements .custom, r.2 (s.entry r.1) = true)
    (hread : Payload.read .custom s.data = .good payload) :
    (∃ q, ofPayload payload (some resolved) = .ok q) ↔ ¬ payload.Unwritable := by
  obtain ⟨p, rfl, hsql⟩ := Payload.read_custom hread
  simp only [requirements, List.forall_mem_singleton] at hcomplete
  rcases Record.text_of_optional hsql with ⟨hentry, -⟩ | ⟨statement, hentry, hsome⟩
  · rw [entry, hentry] at hcomplete
    cases hcomplete
  · have hfilled : (Text.trim statement.toList).isEmpty = false := by
      simpa [entry, hentry, isStatement] using hcomplete
    refine iff_of_true ⟨.custom statement, ?_⟩ id
    simp [ofPayload, ofCustom, hsome, hfilled]

section

variable (hresolved : resolved ≠ "")
include hresolved

theorem writable_group (hcomplete : ∀ r ∈ requirements .group, r.2 (s.entry r.1) = true)
    (hread : Payload.read .group s.data = .good payload) :
    (∃ q, ofPayload payload (some resolved) = .ok q) ↔ ¬ payload.Unwritable := by
  obtain ⟨p, rfl, -, hkeys, -⟩ := Payload.read_group hread
  simp only [requirements, List.forall_mem_singleton, isFilledList_eq hkeys] at hcomplete
  exact (exists_ofGroup_iff hresolved).trans (and_iff_right (by simpa using hcomplete))

theorem writable_select (hcomplete : ∀ r ∈ requirements .select, r.2 (s.entry r.1) = true)
    (hread : Payload.read .select s.data = .good payload) :
    (∃ q, ofPayload payload (some resolved) = .ok q) ↔ ¬ payload.Unwritable := by
  obtain ⟨p, rfl, -, hcolumns⟩ := Payload.read_select hread
  simp only [requirements, List.forall_mem_singleton, isFilledList_eq hcolumns] at hcomplete
  exact iff_of_true ((exists_ofSelect_iff hresolved).mpr (by simpa using hcomplete)) id

theorem writable_sort (hcomplete : ∀ r ∈ requirements .sort, r.2 (s.entry r.1) = true)
    (hread : Payload.read .sort s.data = .good payload) :
    (∃ q, ofPayload payload (some resolved) = .ok q) ↔ ¬ payload.Unwritable := by
  obtain ⟨p, rfl, -, horderBy⟩ := Payload.read_sort hread
  simp only [requirements, List.forall_mem_singleton, isFilledList_eq horderBy] at hcomplete
  exact (exists_ofSort_iff hresolved).trans (and_iff_right (by simpa using hcomplete))

/-- A complete stage that has a table to read from has a query unless its payload is unwritable. -/
theorem exists_ofPayload_iff (hcomplete : s.missingFields = [])
    (hread : Payload.read s.kind s.data = .good payload) :
    (∃ q, ofPayload payload (some resolved) = .ok q) ↔ ¬ payload.Unwritable := by
  rw [missingFields_eq_nil_iff] at hcomplete
  generalize s.kind = kind at hcomplete hread
  cases kind with
  | load =>
    obtain ⟨p, -, rfl⟩ := Record.Checked.map_eq_good hread
    obtain ⟨table, htable⟩ := exists_sourceTable hresolved .load p.tableName
    exact iff_of_true ⟨.table table, by rw [ofPayload, htable]; rfl⟩ id
  | union =>
    obtain ⟨p, rfl, -⟩ := Payload.read_union hread
    exact exists_ofUnion_iff (p := p)
  | aggregate =>
    obtain ⟨p, -, rfl⟩ := Record.Checked.map_eq_good hread
    exact exists_ofAggregate_iff (p := p) hresolved
  | join => exact writable_join hcomplete hread
  | filter => exact writable_filter hcomplete hread
  | group => exact writable_group hresolved hcomplete hread
  | select => exact writable_select hresolved hcomplete hread
  | sort => exact writable_sort hresolved hcomplete hread
  | custom => exact writable_custom hcomplete hread

end

/-- The compiler refuses a complete stage that has a table to read from exactly if the payload is malformed
or cannot be written. The error names the stage, and there is no other one. -/
theorem compiled_error_iff (s : Stage) {resolved : String} (hresolved : resolved ≠ "")
    (hcomplete : s.missingFields = []) :
    ((∃ e, Materialization.compiled s (some resolved) = .error e) ↔
      (∃ report, Payload.ofStage s = .error report) ∨
        ∃ payload, Payload.ofStage s = .ok payload ∧ payload.Unwritable) ∧
    ∀ e, Materialization.compiled s (some resolved) = .error e →
      ∃ problem, e = .compile s.id problem := by
  constructor
  · rw [Materialization.exists_compiled_error_iff, exists_error_iff, exists_compile_iff]
    cases hpayload : Payload.ofStage s with
    | error report => simp
    | ok payload =>
      simp [exists_ofPayload_iff hresolved hcomplete (payload_ofStage_iff.mp hpayload)]
  · exact fun e he => Materialization.compiled_error he

def joinedByXor : Stage :=
  ⟨"f", .filter, "", [("table", .text "orders"), ("column", .text "id"), ("operator", .text "="),
    ("value", .int 1), ("conditions", .list [
      .object [("column", .text "id"), ("operator", .text "="), ("value", .int 1)],
      .object [("column", .text "id"), ("operator", .text "="), ("value", .int 2),
        ("logic", .text "xor")]])]⟩

theorem joinedByXor_refused : joinedByXor.missingFields = [] ∧ "orders" ≠ "" ∧
    ∃ problem, Materialization.compiled joinedByXor (some "orders") =
      .error (.compile "f" problem) := by
  have hcomplete : joinedByXor.missingFields = [] := by decide
  have hresolved : "orders" ≠ "" := by decide
  obtain ⟨hiff, hnamed⟩ := compiled_error_iff joinedByXor hresolved hcomplete
  have hpayload : ∃ payload, Payload.ofStage joinedByXor = .ok payload ∧ payload.Unwritable := by
    refine ⟨_, rfl, .inr ⟨_, List.mem_singleton_self _, "xor", rfl, ?_⟩⟩
    decide +kernel
  obtain ⟨e, he⟩ := hiff.mpr (.inr hpayload)
  obtain ⟨problem, rfl⟩ := hnamed e he
  exact ⟨hcomplete, hresolved, problem, he⟩

end Query

end StagedSql
