import StagedSql.Proofs.Query.Unwritable

/-!
# The parts of a query

Where the parts of a query come from. One rule for each function that makes queries tells what a query of its
says about the payload.
-/

namespace StagedSql.Query

open Outcome

/-! ### Names, lists and items -/

theorem given?_eq {name : Option String} {t : String} : given? name = some t ↔ name = some t ∧ t ≠ "" := by
  cases name with
  | none => simp [given?]
  | some s =>
    by_cases hs : s = "" <;> grind [given?]

theorem eq_of_given? {name : Option String} {t : String} (h : given? name = some t) : name = some t :=
  (given?_eq.mp h).1

theorem ne_empty_of_given? {name : Option String} {t : String} (h : given? name = some t) : t ≠ "" :=
  (given?_eq.mp h).2

theorem sourceTable_eq {kind : StageKind} {named resolved : Option String} {t : String} :
    sourceTable kind named resolved = .ok t ↔ (given? named).or (given? resolved) = some t := by
  unfold sourceTable
  cases given? named <;> cases given? resolved <;> simp

theorem requireItems_eq_some {α : Type} {kind : StageKind} {field : String} {o : Option (List α)}
    {items : List α} (h : requireItems kind field o = .ok items) : o = some items ∧ items ≠ [] := by
  rcases o with _ | _ | ⟨a, more⟩
  · cases h
  · cases h
  · obtain rfl := Except.ok.inj h
    exact ⟨rfl, List.cons_ne_nil _ _⟩

theorem aggregationOf_ok {kind : StageKind} {a : AggregationEntry} {b : Aggregation}
    (h : aggregationOf kind a = .ok b) : ∃ function, given? a.function = some function ∧
      b = ⟨Text.upper (Text.stripped function), (given? a.column).getD "*", given? a.label⟩ := by
  unfold aggregationOf at h
  obtain ⟨function, hfunction, h⟩ := exists_of_bind_ok h
  refine ⟨function, require_eq.mp hfunction, ?_⟩
  cases hcolumn : given? a.column with
  | some column =>
    rw [hcolumn] at h
    exact (Except.ok.inj h).symm
  | none =>
    simp only [hcolumn] at h
    split at h
    · exact (Except.ok.inj h).symm
    · cases h

theorem sortKeyOf_record_ok {column direction : Option String} {extras : Fields} {k : SortKey}
    (h : sortKeyOf (.record column direction extras) = .ok k) : given? column = some k.column ∧
      Direction.ofText? (normalWord "ASC" direction) = some k.direction := by
  unfold sortKeyOf at h
  obtain ⟨c, hcolumn, h⟩ := exists_of_bind_ok h
  split at h
  · next d hdirection =>
    obtain rfl := Except.ok.inj h
    exact ⟨require_eq.mp hcolumn, hdirection⟩
  · cases h

theorem conditionOf_eq {c : ConditionEntry} {d : Condition} : conditionOf c = .ok d ↔
    given? c.column = some d.column ∧ given? c.operator = some d.operator ∧ c.value = d.value := by
  constructor
  · intro h
    obtain ⟨column, hcolumn, h⟩ := exists_of_bind_ok h
    obtain ⟨operator, hoperator, h⟩ := exists_of_bind_ok h
    obtain rfl := Except.ok.inj h
    exact ⟨require_eq.mp hcolumn, require_eq.mp hoperator, rfl⟩
  · rintro ⟨hcolumn, hoperator, hvalue⟩
    unfold conditionOf
    rw [require_eq.mpr hcolumn, require_eq.mpr hoperator, hvalue]
    rfl

theorem furtherConditionOf_eq {c : ConditionEntry} {logic : Logic} {d : Condition} :
    furtherConditionOf c = .ok (logic, d) ↔
      conditionOf c = .ok d ∧ Logic.ofText? (normalWord "AND" c.logic) = some logic := by
  constructor
  · intro h
    obtain ⟨d', hd', h⟩ := exists_of_bind_ok h
    split at h
    · next logic' hlogic =>
      obtain ⟨rfl, rfl⟩ := Prod.mk.inj (Except.ok.inj h)
      exact ⟨hd', hlogic⟩
    · cases h
  · rintro ⟨hd, hlogic⟩
    unfold furtherConditionOf
    rw [hd, hlogic]
    rfl

/-! ### Kind by kind -/

section

variable {q : Query} {resolved : Option String}

theorem ofJoin_ok {p : JoinPayload} (h : ofJoin p = .ok q) : ∃ kind left right leftKey rightKey,
    q = .join kind left right leftKey rightKey ∧ given? p.leftTable = some left ∧
      given? p.rightTable = some right ∧ given? p.leftKey = some leftKey ∧
      given? p.rightKey = some rightKey ∧
      JoinKind.ofText? (normalWord "INNER" p.joinType) = some kind := by
  unfold ofJoin at h
  obtain ⟨left, hleft, h⟩ := exists_of_bind_ok h
  obtain ⟨right, hright, h⟩ := exists_of_bind_ok h
  obtain ⟨leftKey, hleftKey, h⟩ := exists_of_bind_ok h
  obtain ⟨rightKey, hrightKey, h⟩ := exists_of_bind_ok h
  split at h
  · next kind hkind =>
    exact ⟨kind, left, right, leftKey, rightKey, (Except.ok.inj h).symm, require_eq.mp hleft,
      require_eq.mp hright, require_eq.mp hleftKey, require_eq.mp hrightKey, hkind⟩
  · cases h

theorem ofUnion_ok {p : UnionPayload} (h : ofUnion p = .ok q) : ∃ kind tables,
    q = .union kind tables ∧ p.tables = some tables ∧ 2 ≤ tables.length ∧
      UnionKind.ofText? (normalWord "UNION" p.unionType) = some kind := by
  unfold ofUnion at h
  cases htables : p.tables with
  | none =>
    rw [htables] at h
    cases h
  | some tables =>
    rw [htables] at h
    by_cases hfew : tables.length < 2
    · simp only [Option.getD_some, if_pos hfew] at h
      cases h
    · simp only [Option.getD_some, if_neg hfew] at h
      cases hkind : UnionKind.ofText? (normalWord "UNION" p.unionType) with
      | none =>
        rw [hkind] at h
        cases h
      | some kind =>
        rw [hkind] at h
        exact ⟨kind, tables, (Except.ok.inj h).symm, rfl, Nat.not_lt.mp hfew, rfl⟩

theorem ofFilter_conditions {p : FilterPayload} {first : ConditionEntry}
    {more : List ConditionEntry} (hconditions : p.conditions = some (first :: more)) :
    ofFilter p = (do
      let table ← require .filter "table" p.table
      let first ← conditionOf first
      let more ← more.mapM furtherConditionOf
      .ok (.filter table first more)) := by
  simp only [ofFilter, hconditions]

theorem ofFilter_comparison {p : FilterPayload} {column operator : String}
    (hconditions : p.conditions.getD [] = []) (hcolumn : given? p.column = some column)
    (hoperator : given? p.operator = some operator) (hvalue : p.value ≠ .null) :
    ofFilter p = (do
      let table ← require .filter "table" p.table
      .ok (.filter table ⟨column, operator, p.value⟩ [])) := by
  obtain ⟨table, column, operator, value, conditions⟩ := p
  rcases conditions with _ | _ | ⟨first, more⟩
  case some.cons => exact absurd hconditions (List.cons_ne_nil _ _)
  all_goals
    simp only at hcolumn hoperator hvalue
    cases value with
    | null => exact absurd rfl hvalue
    | _ => simp only [ofFilter, hcolumn, hoperator]

theorem ofFilter_ok {p : FilterPayload} (h : ofFilter p = .ok q) : ∃ table first more,
    q = .filter table first more ∧ given? p.table = some table ∧
      ((∃ c rest, p.conditions = some (c :: rest) ∧ conditionOf c = .ok first ∧
          rest.mapM furtherConditionOf = .ok more) ∨
        given? p.column = some first.column ∧ given? p.operator = some first.operator ∧ more = []) := by
  obtain ⟨-, ⟨c, rest, hconditions, -⟩ | ⟨hconditions, hcolumn, hoperator, hvalue⟩⟩ :=
    exists_ofFilter_iff.mp ⟨q, h⟩
  · rw [ofFilter_conditions hconditions] at h
    obtain ⟨table, htable, h⟩ := exists_of_bind_ok h
    obtain ⟨first, hfirst, h⟩ := exists_of_bind_ok h
    obtain ⟨more, hmore, h⟩ := exists_of_bind_ok h
    exact ⟨table, first, more, (Except.ok.inj h).symm, require_eq.mp htable,
      .inl ⟨c, rest, hconditions, hfirst, hmore⟩⟩
  · obtain ⟨column, hcolumn⟩ := Option.isSome_iff_exists.mp hcolumn
    obtain ⟨operator, hoperator⟩ := Option.isSome_iff_exists.mp hoperator
    rw [ofFilter_comparison hconditions hcolumn hoperator hvalue] at h
    obtain ⟨table, htable, h⟩ := exists_of_bind_ok h
    exact ⟨table, _, [], (Except.ok.inj h).symm, require_eq.mp htable, .inr ⟨hcolumn, hoperator, rfl⟩⟩

theorem ofGroup_ok {p : GroupPayload} (h : ofGroup p resolved = .ok q) : ∃ keys aggregations source,
    q = .group keys aggregations source ∧ p.groupBy = some keys ∧ keys ≠ [] ∧
      (p.aggregations.getD []).mapM (aggregationOf .group) = .ok aggregations ∧
      (given? p.table).or (given? resolved) = some source := by
  unfold ofGroup at h
  obtain ⟨keys, hkeys, h⟩ := exists_of_bind_ok h
  obtain ⟨aggregations, haggregations, h⟩ := exists_of_bind_ok h
  obtain ⟨source, hsource, h⟩ := exists_of_bind_ok h
  obtain ⟨hgiven, hne⟩ := requireItems_eq_some hkeys
  exact ⟨keys, aggregations, source, (Except.ok.inj h).symm, hgiven, hne, haggregations,
    sourceTable_eq.mp hsource⟩

theorem ofSelect_ok {p : SelectPayload} (h : ofSelect p resolved = .ok q) : ∃ columns source,
    q = .select columns source ∧ p.columns = some columns ∧ columns ≠ [] ∧
      (given? p.table).or (given? resolved) = some source := by
  unfold ofSelect at h
  obtain ⟨columns, hcolumns, h⟩ := exists_of_bind_ok h
  obtain ⟨source, hsource, h⟩ := exists_of_bind_ok h
  obtain ⟨hgiven, hne⟩ := requireItems_eq_some hcolumns
  exact ⟨columns, source, (Except.ok.inj h).symm, hgiven, hne, sourceTable_eq.mp hsource⟩

theorem ofSort_ok {p : SortPayload} (h : ofSort p resolved = .ok q) : ∃ source entries keys,
    q = .sort source keys ∧ p.orderBy = some entries ∧ entries ≠ [] ∧
      entries.mapM sortKeyOf = .ok keys ∧ (given? p.table).or (given? resolved) = some source := by
  unfold ofSort at h
  obtain ⟨entries, hentries, h⟩ := exists_of_bind_ok h
  obtain ⟨keys, hkeys, h⟩ := exists_of_bind_ok h
  obtain ⟨source, hsource, h⟩ := exists_of_bind_ok h
  obtain ⟨hgiven, hne⟩ := requireItems_eq_some hentries
  exact ⟨source, entries, keys, (Except.ok.inj h).symm, hgiven, hne, hkeys,
    sourceTable_eq.mp hsource⟩

theorem ofAggregate_ok {p : AggregatePayload} (h : ofAggregate p resolved = .ok q) :
    ∃ entries aggregations source, q = .aggregate aggregations source ∧
      p.aggregations = some entries ∧ entries ≠ [] ∧
      entries.mapM (aggregationOf .aggregate) = .ok aggregations ∧
      (given? p.table).or (given? resolved) = some source := by
  unfold ofAggregate at h
  obtain ⟨entries, hentries, h⟩ := exists_of_bind_ok h
  obtain ⟨aggregations, haggregations, h⟩ := exists_of_bind_ok h
  obtain ⟨source, hsource, h⟩ := exists_of_bind_ok h
  obtain ⟨hgiven, hne⟩ := requireItems_eq_some hentries
  exact ⟨entries, aggregations, source, (Except.ok.inj h).symm, hgiven, hne, haggregations,
    sourceTable_eq.mp hsource⟩

end

/-! ### Stages -/

theorem compile_eq {s : Stage} {resolved : Option String} {payload : Payload}
    (h : Payload.ofStage s = .ok payload) :
    compile s resolved = (ofPayload payload resolved).map text := by
  rw [compile, ofStage, h]

theorem exists_of_compile_ok {s : Stage} {resolved : Option String} {payload : Payload}
    {statement : String} (hpayload : Payload.ofStage s = .ok payload)
    (h : compile s resolved = .ok statement) :
    ∃ q, ofPayload payload resolved = .ok q ∧ q.text = statement := by
  rw [compile_eq hpayload] at h
  cases hq : ofPayload payload resolved with
  | error problem =>
    rw [hq] at h
    cases h
  | ok q =>
    rw [hq] at h
    exact ⟨q, rfl, Except.ok.inj h⟩

end StagedSql.Query
