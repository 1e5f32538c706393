import StagedSql.Proofs.Query.Gate

/-!
# The table that a query reads

A query is made of a payload and of the table resolved for it. The same table may as well be written into the
payload: then no other one has to be resolved, and the query stays the same.
-/

namespace StagedSql

open Outcome

namespace Record

variable {α : Type} {key other : String} {fields : Fields}

theorem optional_put_self (key s : String) (fields : Fields) :
    optional text key (fields.put key (.text s)) = .good (some s) := by
  unfold optional
  rw [Keyed.lookup?_put_self]
  rfl

theorem optional_put_of_ne (h : other ≠ key) (read : Value → Checked α) (v : Value) (fields : Fields) :
    optional read other (fields.put key v) = optional read other fields := by
  simp only [optional, Keyed.lookup?_put_of_ne h]

theorem defaulted_put_of_ne (h : other ≠ key) (read : Value → Checked α) (default : α) (v : Value)
    (fields : Fields) :
    defaulted read default other (fields.put key v) = defaulted read default other fields := by
  simp only [defaulted, Keyed.lookup?_put_of_ne h]

end Record

def Stage.naming (stage : Stage) (table : String) : Stage :=
  { stage with data := stage.data.put "table" (.text table) }

namespace Payload

open Record Checked

variable {kind : StageKind} {fields : Fields} {payload : Payload}

def table? : Payload → Option String
  | .filter p => p.table
  | .group p => p.table
  | .select p => p.table
  | .sort p => p.table
  | .aggregate p => p.table
  | _ => none

def naming (table : String) : Payload → Payload
  | .filter p => .filter { p with table := some table }
  | .group p => .group { p with table := some table }
  | .select p => .select { p with table := some table }
  | .sort p => .sort { p with table := some table }
  | .aggregate p => .aggregate { p with table := some table }
  | p => p

theorem read_put_table (hreads : kind.readsDefault) (h : read kind fields = .good payload)
    (table : String) :
    optional text "table" fields = .good payload.table? ∧
      read kind (fields.put "table" (.text table)) = .good (payload.naming table) := by
  have hself := optional_put_self "table" table fields
  cases kind with
  | filter =>
    obtain ⟨p, rfl, htable, hcolumn, hoperator, hvalue, hconditions⟩ := read_filter h
    refine ⟨htable, ?_⟩
    show filter <$> (FilterPayload.mk <$> optional text "table" _ <*> optional text "column" _
      <*> optional text "operator" _ <*> defaulted any .null "value" _
      <*> optional (list (nested "FilterCondition" readCondition)) "conditions" _) = _
    rw [hself, optional_put_of_ne (by decide), optional_put_of_ne (by decide),
      defaulted_put_of_ne (by decide), optional_put_of_ne (by decide), hcolumn, hoperator, hvalue,
      hconditions]
    rfl
  | group =>
    obtain ⟨p, rfl, htable, hgroupBy, haggregations⟩ := read_group h
    refine ⟨htable, ?_⟩
    show group <$> (GroupPayload.mk <$> optional text "table" _ <*> optional (list text) "groupBy" _
      <*> optional (list (nested "Aggregation" readAggregation)) "aggregations" _) = _
    rw [hself, optional_put_of_ne (by decide), optional_put_of_ne (by decide), hgroupBy,
      haggregations]
    rfl
  | select =>
    obtain ⟨p, rfl, htable, hcolumns⟩ := read_select h
    refine ⟨htable, ?_⟩
    show select <$> (SelectPayload.mk <$> optional text "table" _
      <*> optional (list text) "columns" _) = _
    rw [hself, optional_put_of_ne (by decide), hcolumns]
    rfl
  | sort =>
    obtain ⟨p, rfl, htable, horderBy⟩ := read_sort h
    refine ⟨htable, ?_⟩
    show sort <$> (SortPayload.mk <$> optional text "table" _
      <*> optional (list readOrder) "orderBy" _) = _
    rw [hself, optional_put_of_ne (by decide), horderBy]
    rfl
  | aggregate =>
    obtain ⟨p, rfl, htable, haggregations⟩ := read_aggregate h
    refine ⟨htable, ?_⟩
    show aggregate <$> (AggregatePayload.mk <$> optional text "table" _
      <*> optional (list (nested "Aggregation" readAggregation)) "aggregations" _) = _
    rw [hself, optional_put_of_ne (by decide), haggregations]
    rfl
  | _ => cases hreads

end Payload

namespace Query

/-! ### Problems that leave a table to read -/

/-- The problem is another one than that there is no table to read. -/
def Problem.HasInput (p : Problem) : Prop := ∀ kind, p ≠ .noInput kind

theorem hasInput_require (kind : StageKind) (field : String) (name : Option String) :
    FailsWith Problem.HasInput (require kind field name) := by
  unfold require
  split
  · exact .ok _
  · exact .error nofun

theorem hasInput_requireItems {α : Type} (kind : StageKind) (field : String) (items : Option (List α)) :
    FailsWith Problem.HasInput (requireItems kind field items) := by
  unfold requireItems
  split
  · exact .error nofun
  · exact .error nofun
  · exact .ok _

theorem hasInput_aggregationOf (kind : StageKind) (a : AggregationEntry) :
    FailsWith Problem.HasInput (aggregationOf kind a) := by
  refine (hasInput_require _ _ _).bind fun function => ?_
  split
  · exact .ok _
  · dsimp only
    split
    · exact .ok _
    · exact .error nofun

theorem hasInput_conditionOf (c : ConditionEntry) : FailsWith Problem.HasInput (conditionOf c) :=
  (hasInput_require _ _ _).bind fun _ => (hasInput_require _ _ _).bind fun _ => .ok _

theorem hasInput_furtherConditionOf (c : ConditionEntry) :
    FailsWith Problem.HasInput (furtherConditionOf c) := by
  refine (hasInput_conditionOf c).bind fun condition => ?_
  split
  · exact .ok _
  · exact .error nofun

theorem hasInput_sortKeyOf (o : OrderEntry) : FailsWith Problem.HasInput (sortKeyOf o) := by
  cases o with
  | column name => exact .ok _
  | record column direction extras =>
    refine (hasInput_require _ _ _).bind fun column => ?_
    split
    · exact .ok _
    · exact .error nofun

theorem hasInput_ofFilter (p : FilterPayload) : FailsWith Problem.HasInput (ofFilter p) := by
  refine (hasInput_require _ _ _).bind fun table => ?_
  split
  · exact (hasInput_conditionOf _).bind fun _ =>
      (FailsWith.mapM hasInput_furtherConditionOf).bind fun _ => .ok _
  · split
    · exact .error nofun
    · exact .ok _
    · exact .error nofun

theorem hasInput_ofJoin (p : JoinPayload) : FailsWith Problem.HasInput (ofJoin p) := by
  refine (hasInput_require _ _ _).bind fun _ => (hasInput_require _ _ _).bind fun _ =>
    (hasInput_require _ _ _).bind fun _ => (hasInput_require _ _ _).bind fun _ => ?_
  split
  · exact .ok _
  · exact .error nofun

theorem hasInput_ofUnion (p : UnionPayload) : FailsWith Problem.HasInput (ofUnion p) := by
  unfold ofUnion
  dsimp only
  split
  · exact .error nofun
  · split
    · exact .ok _
    · exact .error nofun

theorem hasInput_ofCustom (p : CustomPayload) : FailsWith Problem.HasInput (ofCustom p) := by
  unfold ofCustom
  split
  · split
    · exact .error nofun
    · exact .ok _
  · exact .error nofun

/-! ### One table -/

theorem given?_of_optional {key : String} {fields : Fields} {o : Option String}
    (h : Record.optional Record.text key fields = .good o) :
    given? o = (Value.field fields key).givenText? := by
  rcases Record.text_of_optional h with ⟨hentry, rfl⟩ | ⟨s, hentry, rfl⟩
  · rw [hentry]
    rfl
  · rw [hentry]
    rfl

section

variable {kind : StageKind} {table : String} (htable : table ≠ "")
include htable

theorem given?_of_ne : given? (some table) = some table := if_neg htable

theorem sourceTable_of_named (resolved : Option String) :
    sourceTable kind (some table) resolved = .ok table := by
  unfold sourceTable
  rw [given?_of_ne htable]

theorem sourceTable_of_resolved {named : Option String} (hnamed : (given? named).getD table = table) :
    sourceTable kind named (some table) = .ok table := by
  unfold sourceTable
  cases hg : given? named with
  | some s =>
    rw [hg] at hnamed
    exact congrArg Except.ok hnamed
  | none => rw [given?_of_ne htable]

theorem ofFilter_naming {p : FilterPayload} (hnamed : (given? p.table).getD table = table) {q : Query}
    (h : ofFilter p = .ok q) : ofFilter { p with table := some table } = .ok q := by
  obtain ⟨t, hrequired, h⟩ := exists_of_bind_ok h
  rw [require_eq.mp hrequired, Option.getD_some] at hnamed
  have hagain : require .filter "table" (some table) = .ok t := by
    rw [require_eq, given?_of_ne htable, hnamed]
  unfold ofFilter
  rw [hagain]
  exact h

theorem ofGroup_naming {p : GroupPayload} (hnamed : (given? p.table).getD table = table)
    (resolved : Option String) :
    ofGroup p (some table) = ofGroup { p with table := some table } resolved := by
  unfold ofGroup
  rw [sourceTable_of_resolved htable hnamed, sourceTable_of_named htable]

theorem ofSelect_naming {p : SelectPayload} (hnamed : (given? p.table).getD table = table)
    (resolved : Option String) :
    ofSelect p (some table) = ofSelect { p with table := some table } resolved := by
  unfold ofSelect
  rw [sourceTable_of_resolved htable hnamed, sourceTable_of_named htable]

theorem ofSort_naming {p : SortPayload} (hnamed : (given? p.table).getD table = table)
    (resolved : Option String) :
    ofSort p (some table) = ofSort { p with table := some table } resolved := by
  unfold ofSort
  rw [sourceTable_of_resolved htable hnamed, sourceTable_of_named htable]

theorem ofAggregate_naming {p : AggregatePayload} (hnamed : (given? p.table).getD table = table)
    (resolved : Option String) :
    ofAggregate p (some table) = ofAggregate { p with table := some table } resolved := by
  unfold ofAggregate
  rw [sourceTable_of_resolved htable hnamed, sourceTable_of_named htable]

/-- A payload that names the table or none, and is given the table, has the query of the payload that names
it. -/
theorem ofPayload_naming {fields : Fields} {payload : Payload} (hreads : kind.readsDefault)
    (hread : Payload.read kind fields = .good payload)
    (hnamed : (given? payload.table?).getD table = table) {q : Query}
    (h : ofPayload payload (some table) = .ok q) (resolved : Option String) :
    ofPayload (payload.naming table) resolved = .ok q := by
  cases kind with
  | filter =>
    obtain ⟨p, rfl, -⟩ := Payload.read_filter hread
    exact ofFilter_naming htable hnamed h
  | group =>
    obtain ⟨p, rfl, -⟩ := Payload.read_group hread
    exact (ofGroup_naming htable hnamed resolved).symm.trans h
  | select =>
    obtain ⟨p, rfl, -⟩ := Payload.read_select hread
    exact (ofSelect_naming htable hnamed resolved).symm.trans h
  | sort =>
    obtain ⟨p, rfl, -⟩ := Payload.read_sort hread
    exact (ofSort_naming htable hnamed resolved).symm.trans h
  | aggregate =>
    obtain ⟨p, rfl, -⟩ := Payload.read_aggregate hread
    exact (ofAggregate_naming htable hnamed resolved).symm.trans h
  | _ => cases hreads

theorem hasInput_sourceTable (kind : StageKind) (named : Option String) :
    FailsWith Problem.HasInput (sourceTable kind named (some table)) := by
  unfold sourceTable
  split
  · exact .ok _
  · rw [given?_of_ne htable]
    exact .ok _

/-- Whatever is wrong with a payload, a table that has been resolved for it is there to be read. -/
theorem hasInput_ofPayload (payload : Payload) :
    FailsWith Problem.HasInput (ofPayload payload (some table)) := by
  have hsource := fun kind named => hasInput_sourceTable htable kind named
  cases payload with
  | load p => exact (hsource .load p.tableName).map _
  | join p => exact hasInput_ofJoin p
  | union p => exact hasInput_ofUnion p
  | filter p => exact hasInput_ofFilter p
  | group p =>
    exact (hasInput_requireItems _ _ _).bind fun _ =>
      (FailsWith.mapM (hasInput_aggregationOf _)).bind fun _ => (hsource _ _).bind fun _ => .ok _
  | select p =>
    exact (hasInput_requireItems _ _ _).bind fun _ => (hsource _ _).bind fun _ => .ok _
  | sort p =>
    exact (hasInput_requireItems _ _ _).bind fun _ =>
      (FailsWith.mapM hasInput_sortKeyOf).bind fun _ => (hsource _ _).bind fun _ => .ok _
  | aggregate p =>
    exact (hasInput_requireItems _ _ _).bind fun _ =>
      (FailsWith.mapM (hasInput_aggregationOf _)).bind fun _ => (hsource _ _).bind fun _ => .ok _
  | custom p => exact hasInput_ofCustom p

/-! ### The statement of a stage -/

variable {stage : Stage}

theorem hasInput_compile (stage : Stage) : FailsWith Problem.HasInput (compile stage (some table)) := by
  refine FailsWith.map text ?_
  unfold ofStage
  split
  · exact .error nofun
  · exact hasInput_ofPayload htable _

theorem compile_naming (hreads : stage.kind.readsDefault)
    (hnamed : stage.referencedTable?.getD table = table) {sql : String}
    (h : compile stage (some table) = .ok sql) (resolved : Option String) :
    compile (stage.naming table) resolved = .ok sql := by
  unfold compile ofStage at h ⊢
  cases hpayload : Payload.ofStage stage with
  | error report =>
    rw [hpayload] at h
    cases h
  | ok payload =>
    obtain ⟨htext, hagain⟩ :=
      Payload.read_put_table hreads (payload_ofStage_iff.mp hpayload) table
    have hnaming : Payload.ofStage (stage.naming table) = .ok (payload.naming table) :=
      payload_ofStage_iff.mpr hagain
    rw [Stage.referencedTable?, Stage.entry, ← given?_of_optional htext] at hnamed
    rw [hpayload] at h
    rw [hnaming]
    dsimp only at h ⊢
    cases hq : ofPayload payload (some table) with
    | error problem =>
      rw [hq] at h
      cases h
    | ok q =>
      rw [ofPayload_naming htable hreads (payload_ofStage_iff.mp hpayload) hnamed hq, ← hq]
      exact h

end

end Query

end StagedSql
