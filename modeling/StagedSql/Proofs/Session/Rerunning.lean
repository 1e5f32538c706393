import StagedSql.Proofs.Session.AllOrNothing
import StagedSql.Proofs.Session.Rebuilding

/-!
# Running all stages twice

The first run lines the stages up and names their outputs by position. The second run finds each table
by its name again, so it hands out the same ids, and the catalogue stays as it is but for what the
tables hold.
-/

namespace StagedSql

open Engine Engine.Work Outcome Materialization

namespace Engine.Statement

/-- The statements outside of transactions; `within` tells whether one is open at the start. -/
def outside (within : Bool) : List Statement → List Statement
  | [] => []
  | .beginTransaction :: rest => outside true rest
  | .commit :: rest | .rollback :: rest => outside false rest
  | s :: rest => if within then outside true rest else s :: outside false rest

theorem outside_cons {s : Statement} (h : s.isPlain) (within : Bool) (rest : List Statement) :
    outside within (s :: rest) = if within then outside true rest else s :: outside false rest := by
  cases s <;> first | rfl | cases h

theorem outside_append {statements : List Statement} (h : ∀ s ∈ statements, s.isPlain)
    (rest : List Statement) :
    outside false (statements ++ rest) = statements ++ outside false rest ∧
      outside true (statements ++ rest) = outside true rest := by
  induction statements with
  | nil => exact ⟨rfl, rfl⟩
  | cons s more ih =>
    obtain ⟨hoff, hwithin⟩ := ih fun x hx => h x (List.mem_cons_of_mem _ hx)
    have hs := h s (List.mem_cons_self ..)
    constructor
    · rw [List.cons_append, outside_cons hs, hoff]
      rfl
    · rw [List.cons_append, outside_cons hs, hwithin]
      rfl

theorem outside_transacted {body : List Statement} (h : ∀ s ∈ body, s.isPlain)
    (rest : List Statement) : outside false (transacted body ++ rest) = outside false rest := by
  rw [transacted, List.cons_append, List.append_assoc]
  exact (outside_append h _).2

end Engine.Statement

namespace Materialization

/-- The statements that have built an output; a LOAD stage sends none. -/
def statements (previewRows : Int) (m : Materialization) : List Statement :=
  match m.sql with
  | none => []
  | some sql =>
    readBack (TableName.staging m.table.name) sql previewRows ++
      transacted (promotion (TableName.staging m.table.name) m.table.name
        (views m.stage m.table.name))

theorem dropTable_not_mem_outside (previewRows : Int) (results : List Materialization)
    (name : String) :
    .dropTable name ∉ Statement.outside false (results.flatMap (statements previewRows)) := by
  induction results with
  | nil => exact List.not_mem_nil
  | cons m rest ih =>
    rw [List.flatMap_cons]
    unfold statements
    cases m.sql with
    | none => exact ih
    | some sql =>
      dsimp only
      rw [List.append_assoc, (Statement.outside_append (isPlain_readBack _ _ _) _).1,
        Statement.outside_transacted (isPlain_promotion _ _ _), List.mem_append, not_or]
      exact ⟨by simp [readBack], ih⟩

end Materialization

/-! ### Running once -/

/-- The output has the name of the result at position `i`; that of a LOAD stage is the table it names,
which is no result. -/
def Materialization.NamedAt (i : Nat) (m : Materialization) : Prop :=
  m.stage.kind = .load ∧ m.stage.entry "tableName" = .text m.table.name ∧
      ¬ TableName.IsResult m.table.name ∨
    m.stage.kind ≠ .load ∧ m.table.name = TableName.result i m.stage.kind

theorem Materialization.NamedAt.position_eq {i j : Nat} {m n : Materialization} (hm : m.NamedAt i)
    (hn : n.NamedAt j) (hkind : n.stage.kind ≠ .load) (hname : m.table.name = n.table.name) :
    i = j := by
  obtain ⟨hload, -⟩ | ⟨-, hresult'⟩ := hn
  · exact absurd hload hkind
  obtain ⟨-, -, hnot⟩ | ⟨-, hresult⟩ := hm
  · rw [hname, hresult'] at hnot
    exact absurd (TableName.isResult_result _ _) hnot
  · exact TableName.result_injective (hresult.symm.trans (hname.trans hresult'))

theorem Materialization.NamedAt.name_eq {i : Nat} {m n : Materialization} (hm : m.NamedAt i)
    (hn : n.NamedAt i) (hstage : m.stage = n.stage) : m.table.name = n.table.name := by
  unfold NamedAt at hm
  rw [hstage] at hm
  obtain ⟨hload, hentry, -⟩ | ⟨hkind, hname⟩ := hm
  · obtain ⟨-, hentry', -⟩ | ⟨hkind', -⟩ := hn
    · exact Value.text.inj (hentry.symm.trans hentry')
    · exact absurd hload hkind'
  · obtain ⟨hload', -⟩ | ⟨-, hname'⟩ := hn
    · exact absurd hload' hkind
    · exact hname.trans hname'.symm

def LoadsNoResult (stages : List Stage) : Prop :=
  ∀ stage ∈ stages, stage.kind = .load → ∀ name, stage.entry "tableName" = .text name →
    ¬ TableName.IsResult name

/-- What a flow has come to whose LOAD stages name no results: every output is left where it was put,
and the last one is active. -/
structure Settled (active : Option String) (done : List Stage) (results : List Materialization)
    (t : Session) : Prop where
  lined : Lined done results t
  outputs_eq : t.store.outputs = results.map fun m => (m.stage.id, m.table.id)
  named : ∀ (i : Nat) (m : Materialization), results[i]? = some m →
    m.NamedAt i ∧ (m.table.id, m.table) ∈ t.store.tables
  active_eq : t.store.active = (results.map (·.table.id)).getLast?.or active

section

variable {active : Option String} {done : List Stage} {results : List Materialization}
  {s t : Session} {stage : Stage} {m : Materialization}

theorem Settled.start (h : s.Consistent) :
    Settled s.store.active [] [] { s with store := s.store.resetStages.2 } where
  lined := ⟨h.resetStages, rfl, rfl, fun i m hm => by cases hm⟩
  outputs_eq := rfl
  named := fun i m hm => by cases hm
  active_eq := rfl

theorem Settled.reported (h : Settled active done results s) (events : List Flow.Event) :
    Settled active done results { s with events } :=
  ⟨⟨h.lined.consistent, h.lined.stages_eq, h.lined.ran, h.lined.built⟩, h.outputs_eq, h.named,
    h.active_eq⟩

theorem Settled.execute (h : Settled active done results s) (hid : stage.id ∉ s.store.stageIds)
    (hload : stage.kind = .load → ∀ name, stage.entry "tableName" = .text name →
      ¬ TableName.IsResult name)
    (hr : Action.execute stage none s = .ok m t) :
    Settled active (done ++ [stage]) (results ++ [m]) t := by
  have hconsistent := h.lined.consistent
  have ha := hconsistent.appended hid hr
  have hat : m.NamedAt results.length := by
    unfold NamedAt
    rw [ha.stage_eq]
    obtain ⟨hkind, -, hentry⟩ | ⟨hkind, hname, -⟩ := ha.output
    · exact .inl ⟨hkind, hentry, hload hkind _ hentry⟩
    · rw [h.lined.length_eq] at hname
      exact .inr ⟨hkind, hname⟩
  have hkept : ∀ (i : Nat) (n : Materialization), results[i]? = some n →
      (n.table.id, n.table) ∈ t.store.tables := by
    intro i n hn
    obtain ⟨hnamed, hmem⟩ := h.named i n hn
    refine ha.mem_tables_of_mem hconsistent hmem (ha.output.symm.imp ?_ fun hload => hload.2.1)
    rintro ⟨hkind, -, -⟩ hname
    have hlt := (List.getElem?_eq_some_iff.mp hn).1
    have heq := hnamed.position_eq hat (ha.stage_eq ▸ hkind) hname
    omega
  refine ⟨h.lined.execute hid hr, ?_, ?_, ?_⟩
  · rw [List.map_append, List.map_singleton, ← h.outputs_eq, ha.stage_eq, ha.store_eq]
    refine hconsistent.wellFormed.outputs_commit hid fun e he table htable => ?_
    rw [h.outputs_eq] at he
    obtain ⟨n, hn, rfl⟩ := List.mem_map.mp he
    obtain ⟨i, hi⟩ := List.mem_iff_getElem?.mp hn
    have heq := hconsistent.wellFormed.eq_of_key_eq htable (h.named i n hi).2 rfl
    rw [← ha.store_eq, heq]
    exact hkept i n hi
  · intro i n hn
    rcases getElem?_concat_eq_some hn with hold | ⟨rfl, rfl⟩
    · exact ⟨(h.named i n hold).1, hkept i n hold⟩
    · exact ⟨hat, ha.mem_tables.mpr (.inl rfl)⟩
  · rw [ha.store_eq, List.map_append, List.map_singleton, List.getLast?_concat, Option.some_or]
    simp only [Store.commit, Store.foldl_evict]

end

/-! ### Running again -/

section

variable {s t : Session} {stage : Stage} {m : Materialization}

/-- An output whose name stands in the catalogue under an id that no stage has gets this id, and
nothing but its contents changes. -/
theorem Session.Consistent.execute_again (h : s.Consistent) (hid : stage.id ∉ s.store.stageIds)
    (hr : Action.execute stage none s = .ok m t) {old : Table}
    (hold : (old.id, old) ∈ s.store.tables) (hname : old.name = m.table.name)
    (hfree : stage.kind ≠ .load → ∀ stageId, (stageId, old.id) ∉ s.store.outputs) :
    m.table.id = old.id ∧ t.store.catalogue = s.store.catalogue ∧
      t.tablesMinted = s.tablesMinted ∧ t.previewRows = s.previewRows ∧
      t.connection = s.connection.after (answered (m.statements s.previewRows)) := by
  have houtcome := execute_outcome stage none s
  rw [hr] at houtcome
  cases houtcome with
  | loaded table kind found =>
    have hmem := Store.Consistent.mem_of_loadedTable h found
    have heq := h.wellFormed.eq_of_name_eq hold hmem hname
    refine ⟨(congrArg Prod.fst heq).symm, ?_, rfl, rfl, ?_⟩
    · exact h.wellFormed.catalogue_commit hmem rfl
    · exact (s.connection.after_nil).symm
  | built sql input output failure kind planned =>
    have hnone := Store.Consistent.outputOf?_eq_none h hid
    have hreused : reusedTable? s.store stage (outputName s stage) = some old :=
      (Store.Consistent.reusedTable?_eq_some_iff h).mpr ⟨hold, .inr ⟨hnone, hname, hfree kind⟩⟩
    have hentry : (resultEntry s stage (outputName s stage) output).id = old.id := by
      simp only [resultEntry, hreused]
    have hminted : (recorded s stage (position s.store stage) (outputName s stage)
        output).tablesMinted = s.tablesMinted := by
      simp only [recorded, hreused, Option.isSome_some, if_true]
    have hkept : ∀ store, superseded? s.store stage (outputName s stage) store = none := by
      intro store
      rw [superseded?, hnone]
    refine ⟨hentry, h.wellFormed.catalogue_commit (hentry ▸ hold) hname, hminted, rfl, ?_⟩
    dsimp only
    rw [hkept, planned_eq]
    simp only [discarding, Option.toList_none, List.map_nil, List.append_nil, statements]
    rfl

end

/-- What running the stages of `s` again has come to, if `first` are the outcomes of the first run. -/
structure Repeated (s : Session) (first : List Materialization) (done : List Stage)
    (results : List Materialization) (t : Session) : Prop where
  settled : Settled s.store.active done results t
  same : results.map (·.table.id) = (first.map (·.table.id)).take results.length
  catalogue_eq : t.store.catalogue = s.store.catalogue
  minted_eq : t.tablesMinted = s.tablesMinted
  previewRows_eq : t.previewRows = s.previewRows
  sent : t.connection =
    s.connection.after (answered (results.flatMap (statements s.previewRows)))

section

variable {active : Option String} {s t u : Session} {first results : List Materialization}
  {stages done rest : List Stage} {stage : Stage} {m : Materialization}

theorem Repeated.reported (h : Repeated s first done results t) (events : List Flow.Event) :
    Repeated s first done results { t with events } :=
  ⟨h.settled.reported events, h.same, h.catalogue_eq, h.minted_eq, h.previewRows_eq, h.sent⟩

section

variable (hfirst : Settled active stages first s) (h : Repeated s first done results t)
include hfirst h

theorem Repeated.next (split : stages = done ++ stage :: rest) :
    ∃ f, first[results.length]? = some f ∧ f.stage = stage := by
  have hlength : results.length = done.length := by rw [← h.settled.lined.ran, List.length_map]
  have hget : stages[results.length]? = some stage := by
    rw [split, hlength, List.getElem?_append_right (Nat.le_refl _), Nat.sub_self]
    rfl
  rw [← hfirst.lined.ran, List.getElem?_map] at hget
  exact Option.map_eq_some_iff.mp hget

theorem Repeated.not_mem_outputs {f : Materialization} (hf : first[results.length]? = some f)
    (hkind : f.stage.kind ≠ .load) (stageId : String) :
    (stageId, f.table.id) ∉ t.store.outputs := by
  intro hout
  rw [h.settled.outputs_eq] at hout
  obtain ⟨n, hn, heq⟩ := List.mem_map.mp hout
  obtain ⟨i, hi⟩ := List.mem_iff_getElem?.mp hn
  have hlt := (List.getElem?_eq_some_iff.mp hi).1
  have hid : (results.map (·.table.id))[i]? = some f.table.id := by
    rw [List.getElem?_map, hi]
    exact congrArg some (Prod.mk.inj heq).2
  rw [h.same, List.getElem?_take_of_lt hlt, List.getElem?_map] at hid
  obtain ⟨g, hg, hkey⟩ := Option.map_eq_some_iff.mp hid
  obtain ⟨hgnamed, hgmem⟩ := hfirst.named i g hg
  obtain ⟨hfnamed, hfmem⟩ := hfirst.named _ f hf
  have hsame := hfirst.lined.consistent.wellFormed.eq_of_key_eq hgmem hfmem hkey
  have hposition := hgnamed.position_eq hfnamed hkind
    (congrArg (fun e : String × Table => e.2.name) hsame)
  omega

theorem Repeated.execute (hloads : LoadsNoResult stages) (split : stages = done ++ stage :: rest)
    (hid : stage.id ∉ t.store.stageIds) (hr : Action.execute stage none t = .ok m u) :
    Repeated s first (done ++ [stage]) (results ++ [m]) u := by
  have hmem : stage ∈ stages := split ▸ List.mem_append_right done (List.mem_cons_self ..)
  have hconsistent := h.settled.lined.consistent
  have hsettled := h.settled.execute hid (hloads stage hmem) hr
  have hstage := (hconsistent.appended hid hr).stage_eq
  obtain ⟨f, hf, hfstage⟩ := h.next hfirst split
  obtain ⟨hfnamed, hfmem⟩ := hfirst.named _ f hf
  have hname : f.table.name = m.table.name :=
    hfnamed.name_eq (hsettled.named _ m List.getElem?_concat_length).1 (hfstage.trans hstage.symm)
  have hentry : (f.table.id, f.table.name) ∈ t.store.catalogue := by
    rw [h.catalogue_eq]
    exact List.mem_map_of_mem hfmem
  obtain ⟨⟨key, old⟩, hold, heq⟩ := List.mem_map.mp hentry
  obtain ⟨rfl, hsame⟩ : key = f.table.id ∧ old.name = f.table.name := Prod.mk.inj heq
  have holdid : f.table.id = old.id := hconsistent.wellFormed.id_eq _ hold
  rw [holdid] at hold
  obtain ⟨hkey, hcatalogue, hminted, hrows, hsent⟩ :=
    hconsistent.execute_again hid hr hold (hsame.trans hname) fun hkind stageId => by
      rw [← holdid]
      exact h.not_mem_outputs hfirst hf (hfstage ▸ hkind) stageId
  refine ⟨hsettled, ?_, hcatalogue.trans h.catalogue_eq, hminted.trans h.minted_eq,
    hrows.trans h.previewRows_eq, ?_⟩
  · rw [List.map_append, h.same, List.length_append, List.length_singleton, List.take_add_one,
      List.getElem?_map, hf, List.map_singleton, hkey, ← holdid]
    rfl
  · rw [hsent, h.sent, h.previewRows_eq, ← Connection.after_append, ← answered_append,
      List.flatMap_append, List.flatMap_singleton]

end

end

/-! ### Runs of all stages -/

theorem LoadsNoResult.interchanged {stages : List Stage} (h : LoadsNoResult stages) :
    LoadsNoResult (Flow.interchanged stages) := by
  intro stage hstage hkind name hentry
  obtain ⟨st, hst, rfl⟩ := List.mem_map.mp (List.mem_filter.mp hstage).1
  rw [Stage.entry_interchanged, Value.interchange_eq_text_iff] at hentry
  exact h st hst hkind name hentry

namespace Session

section

variable {s t : Session} {report : ImportReport} (h : s.Consistent)
  (hids : ∀ stage ∈ s.store.stages, stage.id ≠ "")
include h hids

theorem Consistent.runAll_succeeded {I : List Stage → List Materialization → Session → Prop}
    (hstages : ∀ {done results u}, I done results u → u.store.stages = done)
    (hevents : ∀ {done results u} events, I done results u → I done results { u with events })
    (hadd : ∀ {done stage rest results u m v},
      Flow.interchanged s.store.stages = done ++ stage :: rest → stage.id ∉ u.store.stageIds →
        I done results u → Action.execute stage none u = .ok m v →
          I (done ++ [stage]) (results ++ [m]) v)
    (hs : I [] [] { s with store := s.store.resetStages.2 })
    (hr : Action.runAll s = .ok report t) (hsucceeded : report.succeeded = true) :
    I (Flow.interchanged s.store.stages) report.results t := by
  have hnodup := h.wellFormed.stages_nodup
  have hprogress := FlowProgress.of_distinct (Flow.nodup_ids_interchanged hnodup) (I := I) hstages
    hevents hadd
  obtain ⟨haccepted, hminted, -⟩ := Flow.screen_records hids hnodup 0 s.stagesMinted
  have hstart : s.flowStart .replace true
      (s.store.stages.map fun stage => stage.toValue.interchange) =
        { s with store := s.store.resetStages.2 } := by
    rw [flowStart, hminted, if_pos rfl]
  rw [← haccepted] at hprogress ⊢
  exact (importFlow_succeeded hprogress (hstart ▸ hs) ((Action.runAll_apply s).symm.trans hr)
    hsucceeded).1

theorem Consistent.settled_runAll (hloads : LoadsNoResult s.store.stages)
    (hr : Action.runAll s = .ok report t) (hsucceeded : report.succeeded = true) :
    Settled s.store.active (Flow.interchanged s.store.stages) report.results t := by
  refine h.runAll_succeeded hids (fun hsettled => hsettled.lined.stages_eq)
    (fun _ hsettled => hsettled.reported _) ?_ (Settled.start h) hr hsucceeded
  intro done stage rest results u m v split hid hsettled hrun
  have hmem : stage ∈ Flow.interchanged s.store.stages :=
    split ▸ List.mem_append_right done (List.mem_cons_self ..)
  exact hsettled.execute hid (hloads.interchanged stage hmem) hrun

/-- If the stages are those of an earlier run, running them comes to the same again. -/
theorem Consistent.repeated_runAll {active : Option String} {first : List Materialization}
    (hloads : LoadsNoResult s.store.stages)
    (hfirst : Settled active (Flow.interchanged s.store.stages) first s)
    (hr : Action.runAll s = .ok report t) (hsucceeded : report.succeeded = true) :
    Repeated s first (Flow.interchanged s.store.stages) report.results t := by
  have hstart : Repeated s first [] [] { s with store := s.store.resetStages.2 } :=
    ⟨Settled.start h, rfl, rfl, rfl, rfl, (s.connection.after_nil).symm⟩
  exact h.runAll_succeeded hids (fun hrep => hrep.settled.lined.stages_eq)
    (fun _ hrep => hrep.reported _)
    (fun split hid hrep hrun => hrep.execute hfirst hloads.interchanged split hid hrun)
    hstart hr hsucceeded

end

/-- Once all stages have run, running them again changes neither the stages, their outputs and the
active table nor the ids, the names and the order of the catalogue. No table id is minted, and every
statement belongs to a build, which drops a table only where it replaces it. -/
theorem runAll_idempotent {s t u : Session} {first second : ImportReport} (hs : s.Reachable)
    (hids : ∀ stage ∈ s.store.stages, stage.id ≠ "") (hloads : LoadsNoResult s.store.stages)
    (hfirst : Action.runAll s = .ok first t) (hsucceeded : first.succeeded = true)
    (hsecond : Action.runAll t = .ok second u) (hsucceeded' : second.succeeded = true) :
    u.store.stages = t.store.stages ∧ u.store.outputs = t.store.outputs ∧
      u.store.active = t.store.active ∧ u.store.catalogue = t.store.catalogue ∧
      u.tablesMinted = t.tablesMinted ∧
      ∃ sent, sent = second.results.flatMap (statements t.previewRows) ∧
        u.connection = t.connection.after (answered sent) ∧
        ∀ name, .dropTable name ∉ Statement.outside false sent := by
  have hsettled := (consistent_of_reachable hs).settled_runAll hids hloads hfirst hsucceeded
  have hstages := hsettled.lined.stages_eq
  have hagain : Flow.interchanged t.store.stages = t.store.stages := by
    rw [hstages, Flow.interchanged_interchanged]
  have hids' : ∀ stage ∈ t.store.stages, stage.id ≠ "" := by
    intro stage hstage
    rw [hstages] at hstage
    obtain ⟨st, hst, rfl⟩ := List.mem_map.mp (List.mem_filter.mp hstage).1
    exact hids st hst
  have hloads' : LoadsNoResult t.store.stages := hstages ▸ hloads.interchanged
  have hrep := hsettled.lined.consistent.repeated_runAll hids' hloads'
    (by rw [hagain, hstages]; exact hsettled) hsecond hsucceeded'
  have hran : second.results.map (·.stage) = first.results.map (·.stage) := by
    rw [hrep.settled.lined.ran, hagain, hstages, hsettled.lined.ran]
  have hlength : second.results.length = first.results.length := by
    simpa only [List.length_map] using congrArg List.length hran
  have hsame : second.results.map (·.table.id) = first.results.map (·.table.id) := by
    rw [hrep.same, hlength, List.take_of_length_le (Nat.le_of_eq (List.length_map ..))]
  refine ⟨?_, ?_, ?_, hrep.catalogue_eq, hrep.minted_eq, _, rfl, hrep.sent,
    dropTable_not_mem_outside _ _⟩
  · rw [hrep.settled.lined.stages_eq, hagain]
  · have hpairs : ∀ results : List Materialization,
        (results.map fun m => (m.stage.id, m.table.id)) =
          ((results.map (·.stage)).map (·.id)).zip (results.map (·.table.id)) := by
      intro results
      rw [List.map_map, List.zip_map']
      rfl
    rw [hrep.settled.outputs_eq, hsettled.outputs_eq, hpairs, hpairs, hran, hsame]
  · rw [hrep.settled.active_eq, hsettled.active_eq, hsame, ← Option.or_assoc, Option.or_self]

def trimmed : Session :=
  (silent false).afterAll [.loadCsv "orders.csv" "a\n1\n",
    .addStage ⟨"a", .custom, "", [("sql", .text "SELECT 1")]⟩ none,
    .addStage ⟨"b", .custom, "", [("sql", .text "SELECT 2")]⟩ none, .deleteStage "a"]

theorem reachable_trimmed : trimmed.Reachable := (reachable_silent false).afterAll _

theorem loadsNoResult_trimmed : LoadsNoResult trimmed.store.stages := by
  have hnames : ∀ stage ∈ trimmed.store.stages, stage.kind = .load →
      stage.entry "tableName" = .text (TableName.ofFile "orders.csv") := by
    decide +kernel
  intro stage hstage hkind name hentry
  rw [hnames stage hstage hkind] at hentry
  exact Value.text.inj hentry ▸ TableName.not_isResult_ofFile _

/-- The stage takes the left-over table over in the first run and keeps it in the second. -/
theorem trimmed_rerun : ∃ first second t u, Action.runAll trimmed = .ok first t ∧
    first.succeeded = true ∧ Action.runAll t = .ok second u ∧ second.succeeded = true ∧
    trimmed.store.outputs.lookup? "b" = some (Table.mintedId 3) ∧
    t.store.outputs.lookup? "b" = some (Table.mintedId 2) ∧
    u.store.outputs = t.store.outputs ∧ u.store.catalogue = t.store.catalogue := by
  have hids : ∀ stage ∈ trimmed.store.stages, stage.id ≠ "" := by decide +kernel
  have hfirst : (result? Action.runAll trimmed).map (·.succeeded) = some true := by decide +kernel
  have hsecond : (result? Action.runAll (final Action.runAll trimmed)).map (·.succeeded) =
      some true := by
    decide +kernel
  obtain ⟨first, hr, hsucceeded⟩ := Option.map_eq_some_iff.mp hfirst
  obtain ⟨second, hr', hsucceeded'⟩ := Option.map_eq_some_iff.mp hsecond
  have hsame := runAll_idempotent reachable_trimmed hids loadsNoResult_trimmed (ok_of_result? hr)
    hsucceeded (ok_of_result? hr') hsucceeded'
  exact ⟨first, second, _, _, ok_of_result? hr, hsucceeded, ok_of_result? hr', hsucceeded',
    by decide +kernel, by decide +kernel, hsame.2.1, hsame.2.2.2.1⟩

end Session

end StagedSql
