import StagedSql.Proofs.Session.Consistent
import StagedSql.Proofs.Session.Minting
import StagedSql.Proofs.Session.Sending

/-!
# Source tables outlive the stages that run

Running stages leaves uploaded and defined tables alone, in the catalogue and in the engine. The one
way to lose such a table is to change the kind of the LOAD stage that has it as its output.
-/

namespace StagedSql

open Engine Outcome Materialization

/-- The names of the tables that the statement creates, replaces, renames or drops. -/
def Engine.Statement.targets : Statement → List String
  | createTableAs table _ | importCsv table _ | createTable table _ | dropTable table => [table]
  | renameTable source target => [source, target]
  | _ => []

def Table.IsSource (t : Table) : Prop := t.source = fromUpload ∨ t.source = fromDefinition

theorem Materialization.not_isSource_resultEntry (s : Session) (stage : Stage) (table : String)
    (output : Output) : ¬ (resultEntry s stage table output).IsSource := by
  intro h
  have hsource : Table.fromStage = Table.fromUpload ∨ Table.fromStage = Table.fromDefinition := h
  revert hsource
  decide

theorem Materialization.targets_planned {stage : Stage} {table sql : String} {previewRows : Int}
    {statement : Statement} (h : statement ∈ planned stage table sql previewRows) :
    ∀ name ∈ statement.targets, name = table ∨ name = TableName.staging table := by
  intro name hname
  have hall : name ∈ (planned stage table sql previewRows).flatMap Statement.targets :=
    List.mem_flatMap.mpr ⟨statement, h, hname⟩
  by_cases hk : stage.kind = .join
  · simp [planned, hk, Statement.targets] at hall
    tauto
  · simp [planned, hk, Statement.targets] at hall
    tauto

theorem Materialization.targets_answered {stage : Stage} {table sql : String} {previewRows : Int} :
    ∀ x ∈ answered (planned stage table sql previewRows), ∀ name ∈ x.statement.targets,
      name = table ∨ name = TableName.staging table :=
  forall_answered fun _ => targets_planned

theorem Materialization.targets_failed {stage : Stage} {table sql : String} {previewRows : Int}
    {c c' : Connection} {fault : Fault} (h : run stage table sql previewRows c = .error fault c') :
    Connection.SentOnly
      (fun st => ∀ name ∈ st.targets, name = table ∨ name = TableName.staging table) c c' := by
  have hkept : Keeps (Connection.SentOnly
      (fun st => ∀ name ∈ st.targets, name = table ∨ name = TableName.staging table) c)
      (run stage table sql previewRows) :=
    keeps_sentOnly_run (fun _ => targets_planned) (fun _ hname => absurd hname List.not_mem_nil)
      fun _ hname => .inr (List.mem_singleton.mp hname)
  rw [← final_of_error h]
  exact hkept c (.refl c)

namespace Session

def SourceNamesFree (s : Session) : Prop :=
  ∀ e ∈ s.store.tables, e.2.IsSource →
    ¬ TableName.IsResult e.2.name ∧ ¬ TableName.IsStaging e.2.name

/-- `t` has the source tables of `s`, entry by entry, and nothing that was sent in between is about
one of them. -/
structure SourcesKept (s t : Session) : Prop where
  entries : ∀ e : String × Table, e.2.IsSource → (e ∈ t.store.tables ↔ e ∈ s.store.tables)
  untouched : ∃ exchanges, t.connection = s.connection.after exchanges ∧
    ∀ x ∈ exchanges, ∀ e ∈ s.store.tables, e.2.IsSource → e.2.name ∉ x.statement.targets

theorem SourcesKept.of_eq {s t : Session} (htables : t.store.tables = s.store.tables)
    (hconnection : t.connection = s.connection) : s.SourcesKept t := by
  refine ⟨fun e _ => by rw [htables], [], by rw [hconnection, Connection.after_nil], ?_⟩
  intro x hx
  cases hx

theorem SourcesKept.refl (s : Session) : s.SourcesKept s := .of_eq rfl rfl

theorem SourcesKept.trans {s t u : Session} (hst : s.SourcesKept t) (htu : t.SourcesKept u) :
    s.SourcesKept u := by
  obtain ⟨first, hfirst, hsent⟩ := hst.untouched
  obtain ⟨more, hmore, hsent'⟩ := htu.untouched
  refine ⟨fun e he => (htu.entries e he).trans (hst.entries e he), first ++ more, ?_, ?_⟩
  · rw [hmore, hfirst, Connection.after_append]
  · intro x hx e he hsource
    rcases List.mem_append.mp hx with hx | hx
    · exact hsent x hx e he hsource
    · exact hsent' x hx e ((hst.entries e hsource).mpr he) hsource

theorem SourcesKept.sourceNamesFree {s t : Session} (h : s.SourcesKept t)
    (hfree : s.SourceNamesFree) : t.SourceNamesFree :=
  fun e he hsource => hfree e ((h.entries e hsource).mp he) hsource

/-! ### Executing a stage -/

section

variable {s : Session} (h : s.Consistent) (hfree : s.SourceNamesFree)
include h hfree

theorem Consistent.sources_commit {stage : Stage} {table : Table} {position : Int}
    (htable : (table.id, table) ∈ s.store.tables ∨
      ¬ table.IsSource ∧ TableName.IsResult table.name ∧
        ∀ e ∈ s.store.tables, e.2.IsSource → e.1 ≠ table.id)
    (e : String × Table) (hsource : e.2.IsSource) :
    e ∈ (s.store.commit stage table position).2.tables ↔ e ∈ s.store.tables := by
  rcases htable with hold | ⟨hnew, hresult, hids⟩
  · exact h.wellFormed.mem_tables_commit_of_mem hold
  · rw [h.wellFormed.mem_tables_commit]
    constructor
    · rintro (rfl | ⟨he, -⟩)
      · exact absurd hsource hnew
      · exact he
    · intro he
      refine .inr ⟨he, hids e he hsource, fun hname => (hfree e he hsource).1 ?_⟩
      rw [hname]
      exact hresult

theorem Consistent.resultEntry_id_ne {stage : Stage} {output : Output}
    (hown : ∀ t, s.store.outputOf? stage.id = some t → ¬ t.IsSource) :
    ∀ e ∈ s.store.tables, e.2.IsSource →
      e.1 ≠ (resultEntry s stage (outputName s stage) output).id := by
  intro e he hsource
  unfold resultEntry
  cases hr : reusedTable? s.store stage (outputName s stage) with
  | none =>
    intro hid
    have hkey : e.1 = Table.mintedId (s.tablesMinted + 1) := hid
    exact Store.Consistent.fresh h (hkey ▸ Keyed.mem_keys_of_mem he)
  | some t =>
    obtain ⟨hmem, hcase⟩ := (Store.Consistent.reusedTable?_eq_some_iff h).mp hr
    intro hid
    obtain rfl := h.wellFormed.eq_of_key_eq he hmem hid
    rcases hcase with hmine | ⟨-, hname, -⟩
    · exact hown t hmine hsource
    · refine (hfree _ he hsource).1 ?_
      rw [hname]
      exact TableName.isResult_result _ _

/-- Executing a stage keeps the source tables, unless it succeeds with a stage other than LOAD whose
output is one of them. -/
theorem Consistent.sourcesKept_execute {stage : Stage} {active : Option String}
    (hown : stage.kind ≠ .load → fault? (Action.execute stage active) s = none →
      ∀ t, s.store.outputOf? stage.id = some t → ¬ t.IsSource) :
    s.SourcesKept (final (Action.execute stage active) s) := by
  have hnames : ∀ {name : String}, name = outputName s stage ∨
      name = TableName.staging (outputName s stage) →
      ∀ e ∈ s.store.tables, e.2.IsSource → e.2.name ≠ name := by
    intro name hname e he hsource heq
    obtain ⟨hresult, hstaging⟩ := hfree e he hsource
    rcases hname with rfl | rfl
    · exact hresult (heq ▸ TableName.isResult_result _ _)
    · exact hstaging ⟨_, heq⟩
  have houtcome := execute_outcome stage active s
  generalize hr : Action.execute stage active s = r at houtcome
  cases houtcome with
  | refused e refusal =>
    rw [final_of_error hr]
    exact .refl s
  | loaded table kind found =>
    have hmem := Store.Consistent.mem_of_loadedTable h found
    rw [final_of_ok hr]
    refine ⟨h.sources_commit hfree (.inl hmem), [], (Connection.after_nil _).symm, ?_⟩
    intro x hx
    cases hx
  | broken sql input fault c kind planned ran =>
    obtain ⟨exchanges, rfl, htargets⟩ := targets_failed ran
    rw [final_of_error hr]
    refine ⟨fun _ _ => Iff.rfl, exchanges, rfl, ?_⟩
    intro x hx e he hsource htarget
    exact hnames (htargets x hx _ htarget) e he hsource rfl
  | built sql input output failure kind planned =>
    have hown := hown kind (by simp only [fault?, hr])
    rw [final_of_ok hr]
    refine ⟨h.sources_commit hfree (.inr ⟨not_isSource_resultEntry _ _ _ _,
      TableName.isResult_result _ _, h.resultEntry_id_ne hfree hown⟩), _, rfl, ?_⟩
    intro x hx e he hsource htarget
    rcases List.mem_append.mp hx with hx | hx
    · exact hnames (targets_answered x hx _ htarget) e he hsource rfl
    · obtain ⟨name, hname, rfl⟩ := List.mem_map.mp hx
      obtain ⟨previous, hprevious, rfl, -⟩ :=
        superseded?_eq_some_iff.mp (Option.mem_toList.mp hname)
      have hmem := ((Store.Consistent.outputOf?_eq_some_iff h).mp hprevious).2
      obtain rfl := h.wellFormed.eq_of_name_eq he hmem (List.mem_singleton.mp htarget)
      exact hown _ hprevious hsource

theorem Consistent.sourcesKept_addStage (hnew : s.IdsNew) (stage : Stage) (active : Option String) :
    s.SourcesKept (final (Action.addStage stage active) s) := by
  rcases hnew.addStage_cases stage active with ⟨hid, heq⟩ | ⟨id, t, -, hid, rfl, -, heq⟩
  · rw [final_congr heq]
    refine h.sourcesKept_execute hfree fun _ _ t ht => ?_
    rw [Store.Consistent.outputOf?_eq_none h hid] at ht
    cases ht
  · have hminted : Consistent { s with stagesMinted := s.stagesMinted + 1 } := h
    have hstart : s.SourcesKept { s with stagesMinted := s.stagesMinted + 1 } := .of_eq rfl rfl
    rw [final_congr heq]
    refine hstart.trans (hminted.sourcesKept_execute hfree fun _ _ t ht => ?_)
    rw [Store.Consistent.outputOf?_eq_none h hid] at ht
    cases ht

theorem Consistent.sourcesKept_importFlow (hnew : s.IdsNew) (mode : ImportMode) {keepIds : Bool}
    {candidates : List Value}
    (hkept : ∀ n, s.stagesMinted < n → Stage.mintedId n ∉ Flow.keptIds keepIds candidates) :
    s.SourcesKept (final (Action.importFlow mode keepIds candidates) s) := by
  have hrule := hnew.importFlow_rule (I := fun t => t.Consistent ∧ s.SourcesKept t)
    (fun t _ ht => ⟨ht.1, ht.2.trans (.of_eq rfl rfl)⟩)
    (fun t _ ht => ⟨ht.1, ht.2.trans (.of_eq rfl rfl)⟩)
    (fun t ht => ⟨ht.1.resetStages, ht.2.trans (.of_eq rfl rfl)⟩)
    (fun t stage ht hkeep => ⟨(hkeep.1.addStage stage none).1, hkeep.2.trans
      (hkeep.1.sourcesKept_addStage (hkeep.2.sourceNamesFree hfree) ht stage none)⟩)
    mode hkept ⟨h, .refl s⟩
  rcases hrule with ht | ⟨t, ht, heq⟩
  · exact ht.2
  · rw [heq]
    exact ht.2.trans (.of_eq rfl rfl)

omit hfree in
theorem Consistent.source_lost {stage : Stage} {active : Option String} {t : Table}
    (hkind : stage.kind ≠ .load) (hreturns : fault? (Action.execute stage active) s = none)
    (hown : s.store.outputOf? stage.id = some t) (hsource : t.IsSource) :
    (t.id, t) ∉ (final (Action.execute stage active) s).store.tables := by
  have houtcome := execute_outcome stage active s
  unfold fault? at hreturns
  generalize hr : Action.execute stage active s = r at houtcome hreturns
  cases houtcome with
  | refused e refusal => cases hreturns
  | broken sql input fault c kind planned ran => cases hreturns
  | loaded table kind found => exact absurd kind hkind
  | built sql input output failure kind planned =>
    have hid : (resultEntry s stage (outputName s stage) output).id = t.id := by
      simp only [resultEntry, reusedTable?, hown, Option.some_or]
    rw [final_of_ok hr]
    intro hmem
    rcases h.wellFormed.mem_tables_commit.mp hmem with heq | ⟨-, hne, -⟩
    · exact not_isSource_resultEntry s stage (outputName s stage) output
        ((Prod.mk.inj heq).2 ▸ hsource)
    · exact hne hid.symm

end

end Session

/-! ### Operations -/

namespace Operation

def isStageWork : Operation → Bool
  | addStage .. | updateStage .. | rerunStage .. | deleteStage .. | previewStage .. | importFlow ..
  | runAll => true
  | _ => false

/-- The operation gives another kind to a LOAD stage whose output is a source table. -/
def ConvertsSource (s : Session) : Operation → Prop
  | updateStage id _ (some kind) _ _ => kind ≠ .load ∧ ∃ stage t,
      s.store.getStage id = .ok stage ∧ stage.kind = .load ∧
        s.store.outputOf? id = some t ∧ t.IsSource
  | _ => False

end Operation

namespace Session

section

variable {s : Session} (h : s.Consistent) (hfree : s.SourceNamesFree)
include h hfree

theorem Consistent.kind_of_source {id : String} {stage : Stage} {t : Table}
    (hstage : s.store.getStage id = .ok stage) (hown : s.store.outputOf? id = some t)
    (hsource : t.IsSource) : stage.kind = .load := by
  obtain ⟨hout, hmem⟩ := (Store.Consistent.outputOf?_eq_some_iff h).mp hown
  obtain ⟨hst, rfl⟩ := Store.mem_of_getStage hstage
  by_contra hkind
  exact (hfree _ hmem hsource).1 (Store.Consistent.named h stage hst hkind _ _ hout hmem)

theorem Consistent.sourcesKept_update (id : String) (data : Value) (kind : Option StageKind)
    (description active : Option String) :
    s.SourcesKept (final (Action.updateStageAs id data kind description active) s) ↔
      ¬ ((Operation.updateStage id data kind description active).ConvertsSource s ∧
        fault? (Action.updateStageAs id data kind description active) s = none) := by
  rcases Action.updateStageAs_cases id data kind description active s with
    ⟨fault, heq⟩ | ⟨stage, fields, hstage, heq⟩
  · have hfault : fault? (Action.updateStageAs id data kind description active) s = some fault := by
      simp only [fault?, heq]
    rw [final_of_error heq, hfault]
    simp [SourcesKept.refl s]
  · have hsame : fault? (Action.updateStageAs id data kind description active) s =
        fault? (Action.execute (Action.edited stage fields kind description) active) s := by
      simp only [fault?, heq]
    have hfinal : final (Action.updateStageAs id data kind description active) s =
        final (Action.execute (Action.edited stage fields kind description) active) s := by
      simp only [final, heq]
    rw [hfinal, hsame]
    obtain ⟨-, rfl⟩ := Store.mem_of_getStage hstage
    constructor
    · rintro hkept ⟨hconverts, hreturns⟩
      cases kind with
      | none => exact hconverts
      | some kind =>
        obtain ⟨hkind, _, t, -, -, hown, hsource⟩ := hconverts
        have hmem := ((Store.Consistent.outputOf?_eq_some_iff h).mp hown).2
        exact h.source_lost hkind hreturns hown hsource
          ((hkept.entries (t.id, t) hsource).mpr hmem)
    · intro hnot
      refine h.sourcesKept_execute hfree fun hkind hreturns t hown hsource => ?_
      have hload := h.kind_of_source hfree hstage hown hsource
      cases kind with
      | none => exact hkind hload
      | some kind => exact hnot ⟨⟨hkind, stage, t, hstage, hload, hown, hsource⟩, hreturns⟩

end

/-- Running stages keeps every source table, in the catalogue with all it holds and in the engine
untouched by what is sent, exactly if it does not give another kind to a LOAD stage whose output is
one. -/
theorem sourcesKept_iff {s : Session} (hs : s.Reachable) (hfree : s.SourceNamesFree)
    {op : Operation} (hwork : op.isStageWork) (hnew : s.MintsNew op) :
    s.SourcesKept (op.after s) ↔ ¬ (op.ConvertsSource s ∧ op.Returns s) := by
  have h := consistent_of_reachable hs
  obtain ⟨hnew, hkept⟩ := hnew
  cases op <;> rw [Operation.after, Operation.Returns, Operation.run, final_bind_pure,
    fault?_bind_pure]
  case updateStage id data kind description active =>
    exact h.sourcesKept_update hfree id data kind description active
  -- No other operation gives a stage another kind.
  case addStage stage active =>
    exact iff_of_true (h.sourcesKept_addStage hfree hnew stage active) fun hc => hc.1
  case rerunStage id active =>
    refine iff_of_true ?_ fun hc => hc.1
    rcases Action.rerunStage_cases id active s with ⟨fault, heq⟩ | ⟨stage, hstage, heq⟩
    · rw [final_of_error heq]
      exact .refl s
    · rw [final, heq]
      obtain ⟨-, rfl⟩ := Store.mem_of_getStage hstage
      exact h.sourcesKept_execute hfree fun hkind _ t hown hsource =>
        hkind (h.kind_of_source hfree hstage hown hsource)
  case deleteStage id =>
    refine iff_of_true ?_ fun hc => hc.1
    rcases Action.final_changeIf (fun st => st.removeStage id) s with heq | ⟨t, store, hr, heq⟩
    · rw [Action.deleteStage, heq]
      exact .refl s
    · obtain ⟨i, -, -, rfl⟩ := Store.removeStage_eq_ok_iff.mp hr
      rw [Action.deleteStage, heq]
      exact .of_eq rfl rfl
  case previewStage stage active =>
    rw [Action.previewStage_final]
    exact iff_of_true (.refl s) fun hc => hc.1
  case importFlow mode keepIds flow =>
    refine iff_of_true ?_ fun hc => hc.1
    rcases Action.importAs_cases mode keepIds flow with ⟨fault, heq⟩ | ⟨m, candidates, hc, heq⟩
    · rw [heq]
      exact .refl s
    · rw [heq]
      refine h.sourcesKept_importFlow hfree hnew m ?_
      simpa only [Operation.keptIds, hc, Option.getD_some] using hkept
  case runAll =>
    refine iff_of_true ?_ fun hc => hc.1
    rw [final, Action.runAll_apply]
    exact h.sourcesKept_importFlow hfree hnew .replace fun n hn hmem =>
      hnew n hn (Flow.mem_ids_of_mem_keptIds (fun _ => rfl) hmem)
  all_goals cases hwork

def ordersLoaded : Session :=
  (silent false).afterAll [.loadCsv "orders.csv" "a\n1\n"]

/-- The LOAD stage of the file is to become a CUSTOM stage. -/
def ordersConverted : Operation :=
  .updateStage (Stage.mintedId 1) (.object [("sql", .text "SELECT 1")]) (some .custom) none none

theorem reachable_ordersLoaded : ordersLoaded.Reachable := (reachable_silent false).afterAll _

theorem sourceNamesFree_ordersLoaded : ordersLoaded.SourceNamesFree := by
  have hnames : ∀ e ∈ ordersLoaded.store.tables, e.2.name = TableName.ofFile "orders.csv" := by
    decide +kernel
  intro e he _
  rw [hnames e he]
  exact ⟨TableName.not_isResult_ofFile _, TableName.not_isStaging_ofFile _⟩

theorem idsNew_ordersLoaded : ordersLoaded.IdsNew := by
  have hids : ordersLoaded.store.stageIds = [Stage.mintedId 1] := by decide +kernel
  have hminted : ordersLoaded.stagesMinted = 1 := by decide +kernel
  intro n hn hmem
  rw [hids, List.mem_singleton] at hmem
  have := Stage.mintedId_injective hmem
  omega

/-- A new stage leaves the loaded table alone. -/
theorem orders_kept_by_new_stage :
    ordersLoaded.SourcesKept
      ((Operation.addStage ⟨"a", .custom, "", [("sql", .text "SELECT 1")]⟩ none).after
        ordersLoaded) := by
  refine (sourcesKept_iff reachable_ordersLoaded sourceNamesFree_ordersLoaded rfl
    ⟨idsNew_ordersLoaded, fun _ _ => List.not_mem_nil⟩).mpr ?_
  exact fun hc => hc.1

/-- The loaded table leaves the catalogue and the engine when its LOAD stage becomes a CUSTOM
stage. -/
theorem orders_lost_by_conversion :
    (ordersLoaded.Reachable ∧ ordersLoaded.SourceNamesFree ∧
      ordersLoaded.MintsNew ordersConverted) ∧
    ordersLoaded.store.tables.map (fun e => (e.1, e.2.name, e.2.source)) =
      [(Table.mintedId 1, "table_orders_csv", Table.fromUpload)] ∧
    (ordersConverted.after ordersLoaded).store.tables.map (fun e => (e.1, e.2.name, e.2.source)) =
      [(Table.mintedId 1, "result_stage_0_custom", Table.fromStage)] ∧
    (ordersConverted.after ordersLoaded).connection.log.getLast? =
      some ⟨.dropTable "table_orders_csv", none⟩ ∧
    ¬ ordersLoaded.SourcesKept (ordersConverted.after ordersLoaded) := by
  have hbefore : ordersLoaded.store.tables.map (fun e => (e.1, e.2.name, e.2.source)) =
      [(Table.mintedId 1, "table_orders_csv", Table.fromUpload)] := by decide +kernel
  have hafter : (ordersConverted.after ordersLoaded).store.tables.map
      (fun e => (e.1, e.2.name, e.2.source)) =
      [(Table.mintedId 1, "result_stage_0_custom", Table.fromStage)] := by decide +kernel
  refine ⟨⟨reachable_ordersLoaded, sourceNamesFree_ordersLoaded, idsNew_ordersLoaded,
    fun _ _ => List.not_mem_nil⟩, hbefore, hafter, by decide +kernel, fun hkept => ?_⟩
  have hentry : (Table.mintedId 1, "table_orders_csv", Table.fromUpload) ∈
      ordersLoaded.store.tables.map (fun e => (e.1, e.2.name, e.2.source)) := by
    rw [hbefore]
    exact List.mem_singleton_self _
  obtain ⟨e, he, heq⟩ := List.mem_map.mp hentry
  have hsource : e.2.source = Table.fromUpload := congrArg (fun p => p.2.2) heq
  have hleft := List.mem_map_of_mem (f := fun e : String × Table => (e.1, e.2.name, e.2.source))
    ((hkept.entries e (.inl hsource)).mpr he)
  rw [hafter, heq, List.mem_singleton] at hleft
  revert hleft
  decide

end Session

end StagedSql
