import StagedSql.Proofs.Query.Parts
import StagedSql.Proofs.Query.Statement

/-!
# Statements lose nothing of their payload

The normal form of a payload has its defaults filled in and its words put into their normal form. Where all names
are identifiers, the normal form can be told from the statement, so two stages of one kind with the same statement
have the same one.
-/

namespace StagedSql

open Outcome Query

/-! ### Normal forms -/

/-- The trimmed function in upper case, the star for a column that is left open, and no label rather than an
empty one. -/
def AggregationEntry.normal (a : AggregationEntry) : AggregationEntry :=
  ⟨(given? a.function).map fun f => Text.upper (Text.stripped f), some ((given? a.column).getD "*"),
    given? a.label, []⟩

/-- A column by name alone is a record in its normal form. -/
def OrderEntry.normal : OrderEntry → OrderEntry
  | .record c direction _ => .record c (some (normalWord "ASC" direction)) []
  | .column name => .record (some name) (some "ASC") []

/-- The payload with its defaults; `resolved` is the table to read from if it names none. -/
def Payload.normal (resolved : Option String) : Payload → Payload
  | .join p => .join { p with joinType := some (normalWord "INNER" p.joinType) }
  | .union p => .union { p with unionType := some (normalWord "UNION" p.unionType) }
  | .group p => .group ⟨(given? p.table).or (given? resolved), p.groupBy,
      some ((p.aggregations.getD []).map AggregationEntry.normal)⟩
  | .select p => .select { p with table := (given? p.table).or (given? resolved) }
  | .sort p => .sort ⟨(given? p.table).or (given? resolved),
      p.orderBy.map (·.map OrderEntry.normal)⟩
  | .aggregate p => .aggregate ⟨(given? p.table).or (given? resolved),
      p.aggregations.map (·.map AggregationEntry.normal)⟩
  | .load p => .load p
  | .filter p => .filter p
  | .custom p => .custom p

def Payload.kind : Payload → StageKind
  | .load _ => .load
  | .join _ => .join
  | .union _ => .union
  | .filter _ => .filter
  | .group _ => .group
  | .select _ => .select
  | .sort _ => .sort
  | .aggregate _ => .aggregate
  | .custom _ => .custom

theorem Payload.kind_of_ofStage {s : Stage} {payload : Payload} (h : ofStage s = .ok payload) :
    payload.kind = s.kind := by
  have hread := payload_ofStage_iff.mp h
  generalize s.kind = kind at hread ⊢
  cases kind
  all_goals
    obtain ⟨p, -, rfl⟩ := Record.Checked.map_eq_good hread
    rfl

/-! ### Payloads of identifiers -/

def NamesIdentifier (name : Option String) : Prop := ∀ t ∈ given? name, IsIdentifier t

structure AggregationEntry.HasIdentifiers (a : AggregationEntry) : Prop where
  function : NamesIdentifier a.function
  column : NamesIdentifier a.column
  label : NamesIdentifier a.label

def OrderEntry.HasIdentifiers : OrderEntry → Prop
  | .record c _ _ => NamesIdentifier c
  | .column name => IsIdentifier name

/-- The payload is for one of the kinds whose statements hold names alone, and all its names are identifiers. -/
def Payload.HasIdentifiers : Payload → Prop
  | .join p => NamesIdentifier p.leftTable ∧ NamesIdentifier p.rightTable ∧
      NamesIdentifier p.leftKey ∧ NamesIdentifier p.rightKey
  | .union p => ∀ t ∈ p.tables.getD [], IsIdentifier t
  | .group p => NamesIdentifier p.table ∧ (∀ k ∈ p.groupBy.getD [], IsIdentifier k) ∧
      ∀ a ∈ p.aggregations.getD [], a.HasIdentifiers
  | .select p => NamesIdentifier p.table ∧ ∀ c ∈ p.columns.getD [], IsIdentifier c
  | .sort p => NamesIdentifier p.table ∧ ∀ o ∈ p.orderBy.getD [], o.HasIdentifiers
  | .aggregate p => NamesIdentifier p.table ∧ ∀ a ∈ p.aggregations.getD [], a.HasIdentifiers
  | .load _ | .filter _ | .custom _ => False

namespace Query

/-! ### The payload of a query -/

def JoinKind.word : JoinKind → String
  | inner => "INNER"
  | left => "LEFT"
  | right => "RIGHT"
  | full => "FULL OUTER"

def Aggregation.entry (a : Aggregation) : AggregationEntry := ⟨some a.function, some a.column, a.label, []⟩

def SortKey.entry (k : SortKey) : OrderEntry := .record (some k.column) (some k.direction.keyword) []

/-- The payload that says in full what the query asks for, if its kind has one of names alone. -/
def payload? : Query → Option Payload
  | .join kind left right leftKey rightKey =>
    some (.join ⟨some kind.word, some left, some right, some leftKey, some rightKey⟩)
  | .union kind tables => some (.union ⟨some kind.keyword, some tables⟩)
  | .group keys aggregations source =>
    some (.group ⟨some source, some keys, some (aggregations.map Aggregation.entry)⟩)
  | .select columns source => some (.select ⟨some source, some columns⟩)
  | .sort source keys => some (.sort ⟨some source, some (keys.map SortKey.entry)⟩)
  | .aggregate aggregations source =>
    some (.aggregate ⟨some source, some (aggregations.map Aggregation.entry)⟩)
  | .table _ | .filter .. | .custom _ => none

theorem JoinKind.word_of_ofText? {w : String} {kind : JoinKind} (h : JoinKind.ofText? w = some kind) :
    kind.word = w := by
  unfold JoinKind.ofText? at h
  grind [JoinKind.word]

theorem UnionKind.keyword_of_ofText? {w : String} {kind : UnionKind}
    (h : UnionKind.ofText? w = some kind) : kind.keyword = w := by
  unfold UnionKind.ofText? at h
  grind [UnionKind.keyword]

theorem Direction.keyword_of_ofText? {w : String} {direction : Direction}
    (h : Direction.ofText? w = some direction) : direction.keyword = w := by
  unfold Direction.ofText? at h
  grind [Direction.keyword]

/-! ### Items -/

section

variable {kind : StageKind} {a : AggregationEntry} {b : Aggregation} {o : OrderEntry} {k : SortKey}

theorem entry_of_aggregationOf (h : aggregationOf kind a = .ok b) : b.entry = a.normal := by
  obtain ⟨function, hfunction, rfl⟩ := aggregationOf_ok h
  rw [AggregationEntry.normal, hfunction]
  rfl

theorem hasIdentifiers_of_aggregationOf (h : aggregationOf kind a = .ok b) (ha : a.HasIdentifiers) :
    b.HasIdentifiers := by
  obtain ⟨function, hfunction, rfl⟩ := aggregationOf_ok h
  refine ⟨(ha.function function hfunction).upper_stripped, ?_, ha.label⟩
  cases hcolumn : given? a.column with
  | none => exact .inr rfl
  | some column => exact .inl (ha.column column hcolumn)

theorem entry_of_sortKeyOf (h : sortKeyOf o = .ok k) : k.entry = o.normal := by
  cases o with
  | column name =>
    obtain rfl := Except.ok.inj h
    rfl
  | record column direction extras =>
    obtain ⟨hcolumn, hdirection⟩ := sortKeyOf_record_ok h
    rw [SortKey.entry, OrderEntry.normal, eq_of_given? hcolumn, Direction.keyword_of_ofText? hdirection]

theorem isIdentifier_of_sortKeyOf (h : sortKeyOf o = .ok k) (ho : o.HasIdentifiers) :
    IsIdentifier k.column := by
  cases o with
  | column name =>
    obtain rfl := Except.ok.inj h
    exact ho
  | record column direction extras => exact ho k.column (sortKeyOf_record_ok h).1

end

/-! ### Kind by kind -/

/-- The query is regular, and it says the same as the normal form of the payload. -/
structure IsNormalOf (q : Query) (payload : Payload) (resolved : Option String) : Prop where
  regular : q.IsRegular
  kind : q.kind = payload.kind
  payload : q.payload? = some (payload.normal resolved)

section

variable {q : Query} {resolved : Option String}

theorem isNormalOf_join {p : JoinPayload} (hnames : (Payload.join p).HasIdentifiers)
    (h : ofJoin p = .ok q) : q.IsNormalOf (.join p) resolved := by
  obtain ⟨hleftTable, hrightTable, hleftKeyName, hrightKeyName⟩ := hnames
  obtain ⟨kind, left, right, leftKey, rightKey, rfl, hleft, hright, hleftKey, hrightKey, hkind⟩ := ofJoin_ok h
  refine ⟨⟨hleftTable left hleft, hrightTable right hright, hleftKeyName leftKey hleftKey,
    hrightKeyName rightKey hrightKey⟩, rfl, ?_⟩
  rw [payload?, Payload.normal, JoinKind.word_of_ofText? hkind, eq_of_given? hleft,
    eq_of_given? hright, eq_of_given? hleftKey, eq_of_given? hrightKey]

theorem isNormalOf_union {p : UnionPayload} (hnames : (Payload.union p).HasIdentifiers)
    (h : ofUnion p = .ok q) : q.IsNormalOf (.union p) resolved := by
  obtain ⟨kind, tables, rfl, htables, hlength, hkind⟩ := ofUnion_ok h
  rw [Payload.HasIdentifiers, htables] at hnames
  refine ⟨⟨hlength, hnames⟩, rfl, ?_⟩
  rw [payload?, Payload.normal, UnionKind.keyword_of_ofText? hkind, htables]

variable (hresolved : NamesIdentifier resolved)
include hresolved

theorem isIdentifier_source {named : Option String} (hnamed : NamesIdentifier named) {source : String}
    (h : (given? named).or (given? resolved) = some source) : IsIdentifier source := by
  cases hgiven : given? named with
  | some t =>
    rw [hgiven] at h
    exact hnamed source (hgiven.trans h)
  | none =>
    rw [hgiven] at h
    exact hresolved source h

theorem isNormalOf_group {p : GroupPayload} (hnames : (Payload.group p).HasIdentifiers)
    (h : ofGroup p resolved = .ok q) : q.IsNormalOf (.group p) resolved := by
  obtain ⟨htable, hkeyNames, hentries⟩ := hnames
  obtain ⟨keys, aggregations, source, rfl, hkeys, hne, haggregations, hsource⟩ := ofGroup_ok h
  rw [hkeys] at hkeyNames
  refine ⟨⟨hne, hkeyNames, fun b hb => ?_, isIdentifier_source hresolved htable hsource⟩, rfl, ?_⟩
  · obtain ⟨a, ha, hab⟩ := exists_mem_of_mapM_ok haggregations hb
    exact hasIdentifiers_of_aggregationOf hab (hentries a ha)
  · rw [payload?, Payload.normal, hsource, hkeys,
      map_eq_of_mapM_ok (fun _ _ => entry_of_aggregationOf) haggregations]

theorem isNormalOf_select {p : SelectPayload} (hnames : (Payload.select p).HasIdentifiers)
    (h : ofSelect p resolved = .ok q) : q.IsNormalOf (.select p) resolved := by
  obtain ⟨htable, hcolumnNames⟩ := hnames
  obtain ⟨columns, source, rfl, hcolumns, hne, hsource⟩ := ofSelect_ok h
  rw [hcolumns] at hcolumnNames
  refine ⟨⟨hne, hcolumnNames, isIdentifier_source hresolved htable hsource⟩, rfl, ?_⟩
  rw [payload?, Payload.normal, hsource, hcolumns]

theorem isNormalOf_sort {p : SortPayload} (hnames : (Payload.sort p).HasIdentifiers)
    (h : ofSort p resolved = .ok q) : q.IsNormalOf (.sort p) resolved := by
  obtain ⟨htable, hentryNames⟩ := hnames
  obtain ⟨source, entries, keys, rfl, hentries, hne, hkeys, hsource⟩ := ofSort_ok h
  rw [hentries] at hentryNames
  have hmap : keys.map SortKey.entry = entries.map OrderEntry.normal :=
    map_eq_of_mapM_ok (fun _ _ => entry_of_sortKeyOf) hkeys
  refine ⟨⟨ne_nil_of_mapM_ok hne hkeys, fun k hk => ?_, isIdentifier_source hresolved htable hsource⟩,
    rfl, ?_⟩
  · obtain ⟨o, ho, hok⟩ := exists_mem_of_mapM_ok hkeys hk
    exact isIdentifier_of_sortKeyOf hok (hentryNames o ho)
  · rw [payload?, Payload.normal, hsource, hentries, hmap]
    rfl

theorem isNormalOf_aggregate {p : AggregatePayload} (hnames : (Payload.aggregate p).HasIdentifiers)
    (h : ofAggregate p resolved = .ok q) : q.IsNormalOf (.aggregate p) resolved := by
  obtain ⟨htable, hentryNames⟩ := hnames
  obtain ⟨entries, aggregations, source, rfl, hentries, hne, haggregations, hsource⟩ := ofAggregate_ok h
  rw [hentries] at hentryNames
  have hmap : aggregations.map Aggregation.entry = entries.map AggregationEntry.normal :=
    map_eq_of_mapM_ok (fun _ _ => entry_of_aggregationOf) haggregations
  refine ⟨⟨ne_nil_of_mapM_ok hne haggregations, fun b hb => ?_,
    isIdentifier_source hresolved htable hsource⟩, rfl, ?_⟩
  · obtain ⟨a, ha, hab⟩ := exists_mem_of_mapM_ok haggregations hb
    exact hasIdentifiers_of_aggregationOf hab (hentryNames a ha)
  · rw [payload?, Payload.normal, hsource, hentries, hmap]
    rfl

theorem isNormalOf_of_ofPayload {payload : Payload} (hnames : payload.HasIdentifiers)
    (h : ofPayload payload resolved = .ok q) : q.IsNormalOf payload resolved := by
  cases payload with
  | join p => exact isNormalOf_join hnames h
  | union p => exact isNormalOf_union hnames h
  | group p => exact isNormalOf_group hresolved hnames h
  | select p => exact isNormalOf_select hresolved hnames h
  | sort p => exact isNormalOf_sort hresolved hnames h
  | aggregate p => exact isNormalOf_aggregate hresolved hnames h
  | load | filter | custom => cases hnames

end

/-! ### Statements -/

section

variable {s s' : Stage} {resolved resolved' : Option String} {payload payload' : Payload}
  {statement : String}

/-- The statement is read back as a query that says the same as the payload. -/
theorem exists_read?_of_compile_ok (hpayload : Payload.ofStage s = .ok payload)
    (hnames : payload.HasIdentifiers) (hresolved : NamesIdentifier resolved)
    (h : compile s resolved = .ok statement) :
    ∃ q, q.IsNormalOf payload resolved ∧ read? s.kind statement = some q := by
  obtain ⟨q, hq, rfl⟩ := exists_of_compile_ok hpayload h
  have hnormal := isNormalOf_of_ofPayload hresolved hnames hq
  refine ⟨q, hnormal, ?_⟩
  rw [← Payload.kind_of_ofStage hpayload, ← hnormal.kind]
  exact read?_text hnormal.regular

theorem unionParts?_of_compile_ok {p : UnionPayload} (hpayload : Payload.ofStage s = .ok (.union p))
    (hnames : (Payload.union p).HasIdentifiers) (h : compile s resolved = .ok statement) :
    ∃ kind first more, p.tables = some (first :: more) ∧
      UnionKind.keyword kind = normalWord "UNION" p.unionType ∧
      unionParts? statement.toList = some (first, more.map fun t => (kind, t)) := by
  obtain ⟨q, hq, rfl⟩ := exists_of_compile_ok hpayload h
  obtain ⟨kind, tables, rfl, htables, hlength, hword⟩ := ofUnion_ok (p := p) hq
  rw [Payload.HasIdentifiers, htables] at hnames
  cases tables with
  | nil => simp at hlength
  | cons first more =>
    exact ⟨kind, first, more, htables, UnionKind.keyword_of_ofText? hword,
      unionParts?_text kind hnames⟩

/-- Two stages of one kind whose names are identifiers have the same statement only if their payloads are the
same in normal form. -/
theorem normal_eq_of_compile_eq (hkind : s.kind = s'.kind)
    (hpayload : Payload.ofStage s = .ok payload) (hpayload' : Payload.ofStage s' = .ok payload')
    (hnames : payload.HasIdentifiers) (hnames' : payload'.HasIdentifiers)
    (hresolved : NamesIdentifier resolved) (hresolved' : NamesIdentifier resolved')
    (h : compile s resolved = .ok statement) (h' : compile s' resolved' = .ok statement) :
    payload.normal resolved = payload'.normal resolved' ∧
      ∀ p, payload = .union p → ∃ kind first more, p.tables = some (first :: more) ∧
        UnionKind.keyword kind = normalWord "UNION" p.unionType ∧
        unionParts? statement.toList = some (first, more.map fun t => (kind, t)) := by
  constructor
  · obtain ⟨q, hq, hread⟩ := exists_read?_of_compile_ok hpayload hnames hresolved h
    obtain ⟨q', hq', hread'⟩ := exists_read?_of_compile_ok hpayload' hnames' hresolved' h'
    -- both queries are what the one statement reads as
    rw [hkind] at hread
    obtain rfl : q = q' := Option.some.inj (hread.symm.trans hread')
    exact Option.some.inj (hq.payload.symm.trans hq'.payload)
  · rintro p rfl
    exact unionParts?_of_compile_ok hpayload hnames h

end

def orderedByName : Stage := ⟨"a", .sort, "", [("orderBy", .list [.text "total"])]⟩

def orderedByRecord : Stage :=
  ⟨"b", .sort, "", [("table", .text "orders"), ("orderBy", .list [
    .object [("column", .text "total"), ("direction", .text " asc")]])]⟩

theorem orderedByName_normal : ∃ payload payload',
    Payload.ofStage orderedByName = .ok payload ∧ Payload.ofStage orderedByRecord = .ok payload' ∧
      compile orderedByName (some "orders") = compile orderedByRecord (some "items") ∧
      payload.normal (some "orders") = payload'.normal (some "items") := by
  have hkind : orderedByName.kind = orderedByRecord.kind := rfl
  have hpayload : Payload.ofStage orderedByName = .ok (.sort ⟨none, some [.column "total"]⟩) := rfl
  have hpayload' : Payload.ofStage orderedByRecord =
    .ok (.sort ⟨some "orders", some [.record (some "total") (some " asc") []]⟩) := rfl
  have hcompile : compile orderedByName (some "orders") = .ok "SELECT * FROM orders ORDER BY total ASC" := by
    decide +kernel
  have hcompile' : compile orderedByRecord (some "items") = .ok "SELECT * FROM orders ORDER BY total ASC" := by
    decide +kernel
  have hidentifier (t : String) (h : IsIdentifier t) : NamesIdentifier (some t) := by
    intro u hu
    rw [← Option.some.inj (eq_of_given? hu)]
    exact h
  have hnames : (Payload.sort ⟨none, some [.column "total"]⟩).HasIdentifiers := by
    refine ⟨nofun, List.forall_mem_singleton.mpr ?_⟩
    show IsIdentifier "total"
    decide
  have hnames' : (Payload.sort ⟨some "orders",
      some [.record (some "total") (some " asc") []]⟩).HasIdentifiers :=
    ⟨hidentifier "orders" (by decide), List.forall_mem_singleton.mpr (hidentifier "total" (by decide))⟩
  exact ⟨_, _, hpayload, hpayload', hcompile.trans hcompile'.symm,
    (normal_eq_of_compile_eq hkind hpayload hpayload' hnames hnames' (hidentifier "orders" (by decide))
      (hidentifier "items" (by decide)) hcompile hcompile').1⟩

end Query

end StagedSql
