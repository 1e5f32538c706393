import StagedSql.Proofs.Query.Parts

/-!
# Names in statements

Which names of a statement cannot be empty. The fields of a payload that name a table, a key, a column, an operator or
a function have to be given. Of a list only some item has to be there: the items of lists of names are written as they
are listed.
-/

namespace StagedSql

open Outcome Query

namespace Text

theorem upperChar_ne_nil (c : Char) : upperChar c ≠ [] := by
  unfold upperChar
  split
  · exact List.cons_ne_nil _ _
  · split
    · next e he =>
      have hexpansions : ∀ e ∈ upperExpansions, e.2 ≠ [] := by decide
      exact fun hnil => hexpansions e (List.mem_of_find?_eq_some he) (List.map_eq_nil_iff.mp hnil)
    · exact List.cons_ne_nil _ _

theorem upper_ne_empty {s : String} (h : s ≠ "") : upper s ≠ "" := by
  intro hupper
  have hchars : upperChars s.toList = [] := by
    rw [← String.toList_ofList (l := upperChars s.toList)]
    exact congrArg String.toList hupper
  cases hs : s.toList with
  | nil => exact h (String.toList_inj.mp hs)
  | cons c rest =>
    rw [hs, upperChars, List.flatMap_cons] at hchars
    exact upperChar_ne_nil c (List.append_eq_nil_iff.mp hchars).1

end Text

/-! ### Payloads that leave a name out -/

def OrderEntry.LacksColumn : OrderEntry → Prop
  | .record c _ _ => given? c = none
  | .column _ => False

def Payload.LacksName : Payload → Prop
  | .join p => given? p.leftTable = none ∨ given? p.rightTable = none ∨ given? p.leftKey = none ∨
      given? p.rightKey = none
  | .union p => (p.tables.getD []).length < 2
  | .filter p => given? p.table = none ∨ (∃ c ∈ p.conditions.getD [], c.Unclear) ∨
      p.conditions.getD [] = [] ∧ (given? p.column = none ∨ given? p.operator = none)
  | .group p => p.groupBy.getD [] = [] ∨ ∃ a ∈ p.aggregations.getD [], a.Unclear
  | .select p => p.columns.getD [] = []
  | .sort p => p.orderBy.getD [] = [] ∨ ∃ o ∈ p.orderBy.getD [], o.LacksColumn
  | .aggregate p => p.aggregations.getD [] = [] ∨ ∃ a ∈ p.aggregations.getD [], a.Unclear
  | .load _ | .custom _ => False

namespace Query

/-! ### Queries whose names are there -/

def Condition.HasNames (c : Condition) : Prop := c.column ≠ "" ∧ c.operator ≠ ""

/-- The column is there, and so is the function if the entry gives one that is not blank. -/
def Aggregation.HasNames (entry : AggregationEntry) (a : Aggregation) : Prop :=
  a.column ≠ "" ∧ ∃ function ≠ "", entry.function = some function ∧
    (Text.stripped function ≠ "" → a.function ≠ "")

def SortKey.HasName : OrderEntry → SortKey → Prop
  | .record .., k => k.column ≠ ""
  | .column name, k => name ≠ "" → k.column ≠ ""

/-- The names of the query of a payload are there. Its lists of tables, keys and columns are those of the payload. -/
inductive HasNames : Payload → Query → Prop
  | table {p : LoadPayload} {name : String} (hname : name ≠ "") : HasNames (.load p) (.table name)
  | join {p : JoinPayload} {kind : JoinKind} {left right leftKey rightKey : String} (hleft : left ≠ "")
      (hright : right ≠ "") (hleftKey : leftKey ≠ "") (hrightKey : rightKey ≠ "") :
      HasNames (.join p) (.join kind left right leftKey rightKey)
  | union {p : UnionPayload} {kind : UnionKind} {tables : List String}
      (htables : p.tables = some tables) (hlength : 2 ≤ tables.length) :
      HasNames (.union p) (.union kind tables)
  | filter {p : FilterPayload} {table : String} {first : Condition} {more : List (Logic × Condition)}
      (htable : table ≠ "") (hfirst : first.HasNames) (hmore : ∀ c ∈ more, c.2.HasNames) :
      HasNames (.filter p) (.filter table first more)
  | group {p : GroupPayload} {keys : List String} {aggregations : List Aggregation} {source : String}
      (hkeys : p.groupBy = some keys) (hne : keys ≠ [])
      (haggregations : List.Forall₂ Aggregation.HasNames (p.aggregations.getD []) aggregations)
      (hsource : source ≠ "") : HasNames (.group p) (.group keys aggregations source)
  | select {p : SelectPayload} {columns : List String} {source : String}
      (hcolumns : p.columns = some columns) (hne : columns ≠ []) (hsource : source ≠ "") :
      HasNames (.select p) (.select columns source)
  | sort {p : SortPayload} {source : String} {keys : List SortKey} (hsource : source ≠ "")
      (hne : keys ≠ []) (hkeys : List.Forall₂ SortKey.HasName (p.orderBy.getD []) keys) :
      HasNames (.sort p) (.sort source keys)
  | aggregate {p : AggregatePayload} {aggregations : List Aggregation} {source : String}
      (hne : aggregations ≠ [])
      (haggregations : List.Forall₂ Aggregation.HasNames (p.aggregations.getD []) aggregations)
      (hsource : source ≠ "") : HasNames (.aggregate p) (.aggregate aggregations source)
  | custom {p : CustomPayload} {statement : String} : HasNames (.custom p) (.custom statement)

/-! ### Items -/

theorem hasNames_of_conditionOf {c : ConditionEntry} {d : Condition} (h : conditionOf c = .ok d) :
    d.HasNames := by
  obtain ⟨hcolumn, hoperator, -⟩ := conditionOf_eq.mp h
  exact ⟨ne_empty_of_given? hcolumn, ne_empty_of_given? hoperator⟩

theorem hasNames_of_aggregationOf {kind : StageKind} {entry : AggregationEntry} {a : Aggregation}
    (h : aggregationOf kind entry = .ok a) : Aggregation.HasNames entry a := by
  obtain ⟨function, hfunction, rfl⟩ := aggregationOf_ok h
  refine ⟨?_, function, ne_empty_of_given? hfunction, eq_of_given? hfunction, Text.upper_ne_empty⟩
  cases hcolumn : given? entry.column with
  | none => exact (by decide : "*" ≠ "")
  | some column => exact ne_empty_of_given? hcolumn

theorem hasName_of_sortKeyOf {entry : OrderEntry} {k : SortKey} (h : sortKeyOf entry = .ok k) :
    SortKey.HasName entry k := by
  cases entry with
  | column name =>
    obtain rfl := Except.ok.inj h
    exact id
  | record column direction extras => exact ne_empty_of_given? (sortKeyOf_record_ok h).1

/-! ### Kind by kind -/

section

variable {q : Query} {resolved : Option String}

theorem source_ne_empty {named : Option String} {source : String}
    (h : (given? named).or (given? resolved) = some source) : source ≠ "" := by
  cases hnamed : given? named with
  | some t =>
    rw [hnamed] at h
    exact ne_empty_of_given? (hnamed.trans h)
  | none =>
    rw [hnamed] at h
    exact ne_empty_of_given? h

theorem clear_of_mapM_ok {kind : StageKind} {entries : List AggregationEntry}
    {aggregations : List Aggregation} (h : entries.mapM (aggregationOf kind) = .ok aggregations) :
    ¬ ∃ entry ∈ entries, entry.Unclear := by
  rintro ⟨entry, hentry, hunclear⟩
  exact exists_aggregationOf_iff.mp (exists_mapM_ok_iff.mp ⟨_, h⟩ entry hentry) hunclear

theorem ofCustom_ok {p : CustomPayload} (h : ofCustom p = .ok q) : ∃ statement, q = .custom statement := by
  unfold ofCustom at h
  split at h
  · next sql _ =>
    split at h
    · cases h
    · exact ⟨sql, (Except.ok.inj h).symm⟩
  · cases h

theorem names_join {p : JoinPayload} (h : ofJoin p = .ok q) :
    HasNames (.join p) q ∧ ¬ (Payload.join p).LacksName := by
  obtain ⟨kind, left, right, leftKey, rightKey, rfl, hleft, hright, hleftKey, hrightKey, -⟩ := ofJoin_ok h
  refine ⟨.join (ne_empty_of_given? hleft) (ne_empty_of_given? hright) (ne_empty_of_given? hleftKey)
    (ne_empty_of_given? hrightKey), ?_⟩
  simp [Payload.LacksName, hleft, hright, hleftKey, hrightKey]

theorem names_union {p : UnionPayload} (h : ofUnion p = .ok q) :
    HasNames (.union p) q ∧ ¬ (Payload.union p).LacksName := by
  obtain ⟨kind, tables, rfl, htables, hlength, -⟩ := ofUnion_ok h
  refine ⟨.union htables hlength, ?_⟩
  rw [Payload.LacksName, htables]
  exact Nat.not_lt.mpr hlength

theorem names_filter {p : FilterPayload} (h : ofFilter p = .ok q) :
    HasNames (.filter p) q ∧ ¬ (Payload.filter p).LacksName := by
  constructor
  · obtain ⟨table, first, more, rfl, htable, hconditions⟩ := ofFilter_ok h
    rcases hconditions with ⟨c, rest, -, hfirst, hmore⟩ | ⟨hcolumn, hoperator, rfl⟩
    · refine .filter (ne_empty_of_given? htable) (hasNames_of_conditionOf hfirst) fun d hd => ?_
      obtain ⟨c, -, hc⟩ := exists_mem_of_mapM_ok hmore hd
      exact hasNames_of_conditionOf (furtherConditionOf_eq.mp hc).1
    · exact .filter (ne_empty_of_given? htable)
        ⟨ne_empty_of_given? hcolumn, ne_empty_of_given? hoperator⟩ nofun
  · obtain ⟨htable, ⟨c, rest, hconditions, hfirst, hmore⟩ | ⟨hempty, hcolumn, hoperator, -⟩⟩ :=
      exists_ofFilter_iff.mp ⟨q, h⟩
    · have hclear : ∀ d ∈ c :: rest, ¬ d.Unclear :=
        List.forall_mem_cons.mpr ⟨isComparison_iff.mp hfirst, fun d hd => isComparison_iff.mp (hmore d hd).1⟩
      simp only [Payload.LacksName, hconditions, Option.getD_some, Option.isSome_iff_ne_none.mp htable,
        List.cons_ne_nil, false_and, or_false, false_or]
      exact fun ⟨d, hd, hunclear⟩ => hclear d hd hunclear
    · simp [Payload.LacksName, hempty, Option.isSome_iff_ne_none.mp htable,
        Option.isSome_iff_ne_none.mp hcolumn, Option.isSome_iff_ne_none.mp hoperator]

theorem names_group {p : GroupPayload} (h : ofGroup p resolved = .ok q) :
    HasNames (.group p) q ∧ ¬ (Payload.group p).LacksName := by
  obtain ⟨keys, aggregations, source, rfl, hkeys, hne, haggregations, hsource⟩ := ofGroup_ok h
  refine ⟨.group hkeys hne ((forall₂_of_mapM_ok haggregations).imp fun _ _ => hasNames_of_aggregationOf)
    (source_ne_empty hsource), ?_⟩
  rw [Payload.LacksName, hkeys]
  exact not_or.mpr ⟨hne, clear_of_mapM_ok haggregations⟩

theorem names_select {p : SelectPayload} (h : ofSelect p resolved = .ok q) :
    HasNames (.select p) q ∧ ¬ (Payload.select p).LacksName := by
  obtain ⟨columns, source, rfl, hcolumns, hne, hsource⟩ := ofSelect_ok h
  refine ⟨.select hcolumns hne (source_ne_empty hsource), ?_⟩
  rw [Payload.LacksName, hcolumns]
  exact hne

theorem names_sort {p : SortPayload} (h : ofSort p resolved = .ok q) :
    HasNames (.sort p) q ∧ ¬ (Payload.sort p).LacksName := by
  obtain ⟨source, entries, keys, rfl, hentries, hne, hkeys, hsource⟩ := ofSort_ok h
  have hnames : List.Forall₂ SortKey.HasName (p.orderBy.getD []) keys := by
    rw [hentries]
    exact (forall₂_of_mapM_ok hkeys).imp fun _ _ => hasName_of_sortKeyOf
  refine ⟨.sort (source_ne_empty hsource) (ne_nil_of_mapM_ok hne hkeys) hnames, ?_⟩
  rw [Payload.LacksName, hentries]
  rintro (hempty | ⟨entry, hentry, hlacks⟩)
  · exact hne hempty
  · refine exists_sortKeyOf_iff.mp (exists_mapM_ok_iff.mp ⟨_, hkeys⟩ entry hentry) ?_
    cases entry with
    | record => exact .inl hlacks
    | column => exact hlacks

theorem names_aggregate {p : AggregatePayload} (h : ofAggregate p resolved = .ok q) :
    HasNames (.aggregate p) q ∧ ¬ (Payload.aggregate p).LacksName := by
  obtain ⟨entries, aggregations, source, rfl, hentries, hne, haggregations, hsource⟩ := ofAggregate_ok h
  have hnames : List.Forall₂ Aggregation.HasNames (p.aggregations.getD []) aggregations := by
    rw [hentries]
    exact (forall₂_of_mapM_ok haggregations).imp fun _ _ => hasNames_of_aggregationOf
  refine ⟨.aggregate (ne_nil_of_mapM_ok hne haggregations) hnames (source_ne_empty hsource), ?_⟩
  rw [Payload.LacksName, hentries]
  exact not_or.mpr ⟨hne, clear_of_mapM_ok haggregations⟩

theorem names_of_ofPayload {payload : Payload} (h : ofPayload payload resolved = .ok q) :
    HasNames payload q ∧ ¬ payload.LacksName := by
  cases payload with
  | load p =>
    cases hsource : sourceTable .load p.tableName resolved with
    | error problem =>
      rw [ofPayload, hsource] at h
      cases h
    | ok name =>
      rw [ofPayload, hsource] at h
      obtain rfl := Except.ok.inj h
      exact ⟨.table (source_ne_empty (sourceTable_eq.mp hsource)), id⟩
  | join p => exact names_join h
  | union p => exact names_union (p := p) h
  | filter p => exact names_filter h
  | group p => exact names_group h
  | select p => exact names_select h
  | sort p => exact names_sort h
  | aggregate p => exact names_aggregate h
  | custom p =>
    obtain ⟨statement, rfl⟩ := ofCustom_ok (p := p) h
    exact ⟨.custom, id⟩

end

/-! ### Stages -/

/-- A statement has all the names that its payload has to give, and one of them missing is an error. The items of
lists of names need not be names. -/
theorem hasNames_of_compile (s : Stage) (resolved : Option String) :
    (∀ statement, compile s resolved = .ok statement → ∃ payload q,
      Payload.ofStage s = .ok payload ∧ ofPayload payload resolved = .ok q ∧ q.text = statement ∧
        HasNames payload q) ∧
    ∀ payload, Payload.ofStage s = .ok payload → payload.LacksName →
      ∃ problem, compile s resolved = .error problem := by
  constructor
  · intro statement h
    obtain ⟨payload, hpayload, -⟩ := exists_compile_iff.mp ⟨statement, h⟩
    obtain ⟨q, hq, htext⟩ := exists_of_compile_ok hpayload h
    exact ⟨payload, q, hpayload, hq, htext, (names_of_ofPayload hq).1⟩
  · intro payload hpayload hlacks
    refine exists_error_iff.mpr fun ⟨statement, h⟩ => ?_
    obtain ⟨q, hq, -⟩ := exists_of_compile_ok hpayload h
    exact (names_of_ofPayload hq).2 hlacks

def groupedByRegion : Stage :=
  ⟨"g", .group, "", [("groupBy", .list [.text "region"]), ("aggregations", .list [
    .object [("function", .text "sum"), ("column", .text "total")]])]⟩

theorem groupedByRegion_hasNames :
    (∃ payload q, Payload.ofStage groupedByRegion = .ok payload ∧
      ofPayload payload (some "orders") = .ok q ∧
      q.text = "SELECT region, SUM(total) FROM orders GROUP BY region" ∧ HasNames payload q) ∧
    ∃ problem, compile halfKeyed (some "orders") = .error problem := by
  have hstatement : compile groupedByRegion (some "orders") =
    .ok "SELECT region, SUM(total) FROM orders GROUP BY region" := by decide +kernel
  have hlacks : (Payload.join ⟨none, some "orders", some "customers", some "id", none⟩).LacksName :=
    .inr (.inr (.inr rfl))
  exact ⟨(hasNames_of_compile groupedByRegion (some "orders")).1 _ hstatement,
    (hasNames_of_compile halfKeyed (some "orders")).2 _ rfl hlacks⟩

/-! Complete stages with an empty item in a list of names, and with names that are blank. -/

def groupedByNothing : Stage :=
  ⟨"g", .group, "", [("table", .text " "), ("groupBy", .list [.text ""])]⟩

def selectingNothing : Stage := ⟨"s", .select, "", [("columns", .list [.text ""])]⟩

def unitingNothing : Stage := ⟨"u", .union, "", [("tables", .list [.text "", .text ""])]⟩

def sortedByNothing : Stage := ⟨"o", .sort, "", [("orderBy", .list [.text ""])]⟩

def aggregatedByBlank : Stage :=
  ⟨"a", .aggregate, "", [("aggregations", .list [
    .object [("function", .text " "), ("column", .text "total")]])]⟩

theorem groupedByNothing_compiled :
    (groupedByNothing.missingFields = [] ∧
      compile groupedByNothing (some "t") = .ok "SELECT  FROM   GROUP BY ") ∧
    (selectingNothing.missingFields = [] ∧
      compile selectingNothing (some "t") = .ok "SELECT  FROM t") ∧
    (unitingNothing.missingFields = [] ∧
      compile unitingNothing (some "t") = .ok "SELECT * FROM  UNION SELECT * FROM ") ∧
    (sortedByNothing.missingFields = [] ∧
      compile sortedByNothing (some "t") = .ok "SELECT * FROM t ORDER BY  ASC") ∧
    aggregatedByBlank.missingFields = [] ∧
      compile aggregatedByBlank (some "t") = .ok "SELECT (total) FROM t" := by
  decide +kernel

end Query

end StagedSql
