import StagedSql.Proofs.Graph.Edges
import StagedSql.Proofs.Session.Extending

/-!
# What a stage reads, and the edges into it

A stage reads the table that it names or the output before it, as the catalogue has them when the
stage is added. The graph goes by the names in the list of stages. The two are compared in sessions
that have only been added to.
-/

namespace StagedSql

open Outcome Materialization

namespace Store

/-- After the stages of `s`, the stage reads the table that it names or the output of the last one. -/
def Reads (s : Store) (stage : Stage) (name : String) : Prop :=
  stage.referencedTable? = some name ∨ stage.referencedTable? = none ∧
    ∀ previous, s.stages.getLast? = some previous → s.HasOutput previous name

/-! ### Edges into a stage that is added -/

/-- Why an edge leads to a stage that reads the table `name` after the stages of `s`. -/
inductive Feeds (s : Store) (stage : Stage) (name : String) (edge : Graph.Edge) : Prop
  /-- The edge comes from a stage with that output. -/
  | output (source : Stage) (mem : source ∈ s.stages) (source_eq : edge.source = source.id)
      (output : s.HasOutput source name)
  /-- The edge comes from a join that has the name as the name of a view. -/
  | view (source : Stage) (mem : source ∈ s.stages) (source_eq : edge.source = source.id)
      (joins : source.JoinsAs name)
  /-- The edge comes from the stage right before, as the table that the stage names is not looked for
  or not produced by any stage. -/
  | order (source : Stage) (last : s.stages.getLast? = some source)
      (source_eq : edge.source = source.id) (implicit : edge.implicit)
      (named : stage.referencedTable? = some name)
      (unproduced : stage.kind = .aggregate ∨ Graph.lastProducer? s.stages name = none)

/-- The edges into a stage agree with its reading the table `name`. -/
structure EdgesAgree (s : Store) (stage : Stage) (name : String) (into : List Graph.Edge) : Prop where
  /-- The stage that has built the table has an edge, unless a LOAD stage after it names the table, or
  the stage that reads it is an aggregate and names it. -/
  complete : ∀ (i : Nat) (source : Stage), s.stages[i]? = some source → source.kind ≠ .load →
    s.HasOutput source name →
      (∃ edge ∈ into, edge.source = source.id) ∨ s.NamedAfter i name (· = .load) ∨
        (stage.kind = .aggregate ∧ stage.referencedTable? = some name ∧
          s.stages.getLast? ≠ some source)
  sound : ∀ edge ∈ into, s.Feeds stage name edge

theorem EdgesAgree.congr {s : Store} {stage : Stage} {name : String} {into other : List Graph.Edge}
    (h : s.EdgesAgree stage name into) (hmem : ∀ edge, edge ∈ other ↔ edge ∈ into) :
    s.EdgesAgree stage name other := by
  refine ⟨fun i source hi hload hout => ?_, fun edge hedge => h.sound edge ((hmem edge).mp hedge)⟩
  refine (h.complete i source hi hload hout).imp_left ?_
  rintro ⟨edge, hedge, hsource⟩
  exact ⟨edge, (hmem edge).mpr hedge, hsource⟩

section

variable {s : Store} (h : s.Held) {nodes : Keyed Graph.Node} {node : Graph.Node} {stage : Stage}
  {name : String} (hnode : nodes.lookup? stage.id = some node)
  (hresolves : Graph.Resolves s.stages stage node) (hreads : stage.kind.readsDefault)
include h hnode hresolves hreads

theorem Held.edgesAgree_of_named (hkind : stage.kind ≠ .aggregate)
    (hname : stage.referencedTable? = some name) :
    s.EdgesAgree stage name (Graph.edgesInto nodes s.stages.getLast? stage) := by
  have hsought := Stage.soughtTable?_of_ne_aggregate hkind
  rw [hname] at hsought
  cases hp : Graph.lastProducer? s.stages name with
  | none =>
    have hnone : ∀ n, stage.soughtTable? = some n → Graph.lastProducer? s.stages n = none := by
      intro n hn
      rw [← Option.some.inj (hsought.symm.trans hn), hp]
    refine ⟨fun i source hi hload hout => ?_, fun edge hedge => ?_⟩
    · obtain ⟨last, j, hlast, -⟩ := Graph.lastProducer?_of_outputName? hi hload
        (h.outputName? hi hload hout)
      rw [hp] at hlast
      cases hlast
    · obtain ⟨p, hprevious, -, rfl⟩ :=
        (Graph.mem_edgesInto_of_not_produced hnode hresolves hreads hnone).mp hedge
      exact .order p hprevious rfl rfl hname (.inr hp)
  | some last =>
    obtain ⟨last, j⟩ := last
    rw [Graph.edgesInto_of_produced hnode hresolves hreads hsought hp]
    refine ⟨fun i source hi hload hout => ?_, fun edge hedge => ?_⟩
    · obtain ⟨last', j', hlast, hcases⟩ := Graph.lastProducer?_of_outputName? hi hload
        (h.outputName? hi hload hout)
      obtain ⟨rfl, rfl⟩ := Prod.mk.inj (Option.some.inj (hp.symm.trans hlast))
      rcases hcases with ⟨-, rfl⟩ | ⟨hij, hloaded, hlater⟩
      · exact .inl ⟨_, List.mem_singleton.mpr rfl, rfl⟩
      · exact .inr (.inl ⟨j, last, hij, (Graph.produces_of_lastProducer? hp).1, hloaded, hlater⟩)
    · obtain rfl := List.mem_singleton.mp hedge
      have hmem := List.mem_of_getElem? (Graph.produces_of_lastProducer? hp).1
      rcases h.source_of_lastProducer? hp with hout | hjoins
      · exact .output last hmem rfl hout
      · exact .view last hmem rfl hjoins

omit h in
theorem edgesAgree_of_aggregate (hkind : stage.kind = .aggregate)
    (hname : stage.referencedTable? = some name) :
    s.EdgesAgree stage name (Graph.edgesInto nodes s.stages.getLast? stage) := by
  have hunsought := Stage.soughtTable?_of_aggregate hkind
  refine ⟨fun i source hi hload hout => ?_, fun edge hedge => ?_⟩
  · by_cases hlast : s.stages.getLast? = some source
    · exact .inl ⟨_, (Graph.mem_edgesInto_of_unsought hnode hresolves hreads hunsought).mpr
        ⟨source, hlast, hload, rfl⟩, rfl⟩
    · exact .inr (.inr ⟨hkind, hname, hlast⟩)
  · obtain ⟨p, hlast, -, rfl⟩ :=
      (Graph.mem_edgesInto_of_unsought hnode hresolves hreads hunsought).mp hedge
    exact .order p hlast rfl rfl hname (.inl hkind)

/-- A stage that names no table reads the output of the stage right before it. -/
theorem Held.edgesAgree_of_silent (hsilent : stage.referencedTable? = none)
    (hread : ∀ previous, s.stages.getLast? = some previous → s.HasOutput previous name) :
    s.EdgesAgree stage name (Graph.edgesInto nodes s.stages.getLast? stage) := by
  have hunsought := Stage.soughtTable?_of_silent hsilent
  refine ⟨fun i source hi hload hout => ?_, fun edge hedge => ?_⟩
  · obtain ⟨previous, hlast⟩ : ∃ previous, s.stages.getLast? = some previous := by
      have hne : s.stages ≠ [] := List.ne_nil_of_mem (List.mem_of_getElem? hi)
      exact ⟨_, List.getLast?_eq_getLast_of_ne_nil hne⟩
    obtain ⟨own, hown, hname⟩ := h.hasOutput_last hlast
    obtain rfl := hown.unique (hread previous hlast)
    have hplace := hlast
    rw [List.getLast?_eq_getElem?] at hplace
    by_cases hprevious : previous.kind = .load
    · have hne : i ≠ s.stages.length - 1 := by
        rintro rfl
        rw [hi] at hplace
        exact hload (Option.some.inj hplace ▸ hprevious)
      have hlt := (List.getElem?_eq_some_iff.mp hi).1
      exact .inr (.inl ⟨_, previous, by omega, hplace, hprevious, hname⟩)
    · obtain rfl := Stage.eq_of_outputName? hload hprevious (h.outputName? hi hload hout) hname
      rw [hi] at hplace
      obtain rfl := Option.some.inj hplace
      exact .inl ⟨_, (Graph.mem_edgesInto_of_unsought hnode hresolves hreads hunsought).mpr
        ⟨source, hlast, hprevious, rfl⟩, rfl⟩
  · obtain ⟨p, hlast, -, rfl⟩ :=
      (Graph.mem_edgesInto_of_unsought hnode hresolves hreads hunsought).mp hedge
    exact .output p (List.mem_of_getLast? hlast) rfl (hread p hlast)

theorem Held.edgesAgree (hread : s.Reads stage name) :
    s.EdgesAgree stage name (Graph.edgesInto nodes s.stages.getLast? stage) := by
  rcases hread with hname | ⟨hsilent, hlast⟩
  · by_cases hkind : stage.kind = .aggregate
    · exact edgesAgree_of_aggregate hnode hresolves hreads hkind hname
    · exact h.edgesAgree_of_named hnode hresolves hreads hkind hname
  · exact h.edgesAgree_of_silent hnode hresolves hreads hsilent hlast

end

end Store

/-! ### The input of a stage that is added -/

namespace Materialization

theorem outputBefore?_length (s : Store) :
    outputBefore? s s.stages.length =
      s.stages.getLast?.bind fun previous => s.outputOf? previous.id := by
  rw [← Graph.stageBefore?_length]
  cases s.stages.length <;> rfl

theorem inputTable_of_execute {stage : Stage} {active : Option String} {s t : Session}
    {m : Materialization} (hkind : stage.kind ≠ .load)
    (hr : Action.execute stage active s = .ok m t) :
    inputFor s.store stage (position s.store stage) active = .ok m.inputTable := by
  obtain ⟨sql, output, hplan, -⟩ := built_of_execute hkind hr
  obtain ⟨input, hinput, hcompiled⟩ := exists_of_bind_ok hplan
  obtain ⟨query, -, hpair⟩ := exists_of_bind_ok hcompiled
  rw [hinput, (Prod.mk.inj (Except.ok.inj hpair)).2]

end Materialization

theorem Store.Held.exists_input {s : Store} (h : s.Held) {stage : Stage}
    (hreads : stage.kind.readsDefault) {active input : Option String}
    (hinput : inputFor s stage s.stages.length active = .ok input) :
    ∃ name, input = some name ∧ s.Reads stage name := by
  unfold inputFor at hinput
  cases hname : stage.referencedTable? with
  | some name =>
    rw [hname] at hinput
    exact ⟨name, (Except.ok.inj hinput).symm, .inl hname⟩
  | none =>
    rw [hname] at hinput
    dsimp only at hinput
    cases htable : (outputBefore? s s.stages.length).or (viewedTable? s active) with
    | none =>
      rw [htable] at hinput
      simp only [if_pos hreads] at hinput
      cases hinput
    | some table =>
      rw [htable] at hinput
      refine ⟨table.name, (Except.ok.inj hinput).symm, .inr ⟨hname, fun previous hlast => ?_⟩⟩
      obtain ⟨name, ⟨own, hown, -⟩, -⟩ := h.hasOutput_last hlast
      rw [outputBefore?_length, hlast, Option.bind_some, hown, Option.some_or] at htable
      exact ⟨own, hown, congrArg Table.name (Option.some.inj htable)⟩

namespace Session

/-- As long as source tables and stages are only added, the graph agrees with what a stage has read:
among the edges into the stage is one from the earlier stage that has built the table, and every edge
comes from a stage with that output. There are exceptions. A LOAD stage of that table hides the stage
that has built it, a join is found under the name of its view as well, and a stage whose own name for
its table is not produced by any stage hangs on the stage before it. An aggregate is taken for a stage
that names no table. -/
theorem graph_follows_reading {s t u : Session} {stage : Stage} {active : Option String}
    {m : Materialization} (hs : s.ReachableBy Operation.Extends)
    (hadd : (Operation.addStage stage active).Extends s)
    (hr : Action.addStage stage active s = .ok m t) (hu : t.LeadsTo Operation.Extends u)
    (hreads : stage.kind.readsDefault) :
    ∃ nodes edges name, Action.graph u = .ok (nodes, edges) u ∧ m.stage ∈ u.store.stages ∧
      m.inputTable = some name ∧
      s.store.EdgesAgree m.stage name (edges.filter fun edge => edge.target = m.stage.id) := by
  have hafter : (Operation.addStage stage active).after s = t := by
    rw [Operation.after, Operation.run, final_bind_pure, final_of_ok hr]
  have ht : t.ReachableBy Operation.Extends := hafter ▸ .after hs hadd
  obtain ⟨added, minted, hkind, hid, heq⟩ := hadd.ids.1.exists_execute stage active
  rw [← hkind] at hreads
  rw [heq] at hr
  have hconsistent : Consistent { s with stagesMinted := minted } := hs.consistent
  have happended := hconsistent.appended hid hr
  have hinput := inputTable_of_execute (StageKind.ne_load_of_readsDefault hreads) hr
  rw [position_of_new hid] at hinput
  obtain ⟨name, hname, hread⟩ := hs.held.exists_input hreads hinput
  obtain rfl := happended.stage_eq
  -- The stage stands right after the stages of `s`, whatever has been added since.
  obtain ⟨rest, hrest⟩ := hu.stages_grow ht.consistent
  rw [happended.stages_eq hid, List.append_assoc] at hrest
  have hi : u.store.stages[s.store.stages.length]? = some m.stage := by
    rw [← hrest, List.getElem?_append_right (Nat.le_refl _), Nat.sub_self]
    rfl
  have hreachable := (ht.leadsTo hu).reachable
  have hids := (consistent_of_reachable hreachable).wellFormed.stages_nodup
  obtain ⟨nodes, hgraph, hresolves⟩ := (complete_of_reachable hreachable).graph_resolves hids
  obtain ⟨node, hnode, hresolved⟩ := hresolves _ _ hi
  rw [← hrest, List.take_left] at hresolved
  refine ⟨nodes, _, name, hgraph, List.mem_of_getElem? hi, hname, ?_⟩
  refine (hs.held.edgesAgree hnode hresolved hreads hread).congr fun edge => ?_
  rw [List.mem_filter, decide_eq_true_iff, Graph.mem_edges_into_iff hids hi, ← hrest,
    Graph.stageBefore?_append none _ (Nat.le_refl _), Graph.stageBefore?_length]

def sorting : Stage :=
  ⟨"c", .sort, "", [("table", .text "result_stage_1_custom"), ("orderBy", .list [.text "id"])]⟩

def sorted : Session :=
  (Operation.addStage ⟨"d", .select, "", [("columns", .list [.text "id"])]⟩ none).after
    ((Operation.addStage sorting none).after paired)

theorem sorted_follows_reading : ∃ m t nodes edges,
    Action.addStage sorting none paired = .ok m t ∧ m.inputTable = some "result_stage_1_custom" ∧
      Action.graph sorted = .ok (nodes, edges) sorted ∧
      ∃ edge ∈ edges, edge.source = "b" ∧ edge.target = "c" := by
  have hrun : (result? (Action.addStage sorting none) paired).map
      (fun m => (m.inputTable, m.stage.id, m.stage.kind)) =
        some (some "result_stage_1_custom", "c", .sort) := by
    decide +kernel
  obtain ⟨m, hm, heq⟩ := Option.map_eq_some_iff.mp hrun
  obtain ⟨hinput, hid, hkind⟩ : _ ∧ m.stage.id = "c" ∧ m.stage.kind = .sort := by
    simpa only [Prod.mk.injEq] using heq
  have hr := ok_of_result? hm
  have hreachable : paired.ReachableBy Operation.Extends :=
    .after (.after (.opened _ _ _) (extends_addStage _ (idsNew_opened _ _ _)))
      (extends_addStage _ idsNew_single)
  have hnew : ((Operation.addStage sorting none).after paired).IdsNew :=
    idsNew_paired.after_addStage (Stage.mintedId_ne_of_short (by decide)) none
  have hafter : (Operation.addStage sorting none).after paired =
      final (Action.addStage sorting none) paired := by
    rw [Operation.after, Operation.run, final_bind_pure]
  rw [hafter] at hnew
  have hleads : (final (Action.addStage sorting none) paired).LeadsTo Operation.Extends sorted := by
    rw [sorted, hafter]
    exact .after .refl (extends_addStage _ hnew)
  obtain ⟨nodes, edges, name, hgraph, -, hname, hagree⟩ := graph_follows_reading hreachable
    (extends_addStage sorting idsNew_paired) hr hleads rfl
  obtain rfl := Option.some.inj (hname.symm.trans hinput)
  refine ⟨m, _, nodes, edges, hr, hinput, hgraph, ?_⟩
  have hsource : paired.store.stages[1]? = some ⟨"b", .custom, "", [("sql", .text "SELECT 2")]⟩ := by
    decide +kernel
  have hout : (paired.store.outputOf? "b").map (·.name) = some "result_stage_1_custom" := by
    decide +kernel
  have hlast : ∀ j later, 1 < j → paired.store.stages[j]? ≠ some later := by
    intro j later hj hlater
    have hlt := (List.getElem?_eq_some_iff.mp hlater).1
    have hlength : paired.store.stages.length = 2 := by decide +kernel
    omega
  rcases hagree.complete 1 _ hsource (by decide) (Option.map_eq_some_iff.mp hout) with
    ⟨edge, hedge, hfrom⟩ | ⟨j, later, hj, hlater, -⟩ | ⟨haggregate, -⟩
  · obtain ⟨hmem, hinto⟩ := List.mem_filter.mp hedge
    exact ⟨edge, hmem, hfrom, hid ▸ of_decide_eq_true hinto⟩
  · exact absurd hlater (hlast j later hj)
  · rw [hkind] at haggregate
    cases haggregate

def crossing : List Stage :=
  [⟨"a", .custom, "", [("sql", .text "SELECT 1")]⟩,
    ⟨"b", .join, "", [("leftTable", .text "orders"), ("rightTable", .text "items"),
      ("leftKey", .text "id"), ("rightKey", .text "id")]⟩,
    ⟨"c", .sort, "", [("table", .text "joined_orders_items"), ("orderBy", .list [.text "id"])]⟩,
    ⟨"d", .sort, "", [("table", .text "orders"), ("orderBy", .list [.text "id"])]⟩,
    ⟨"e", .load, "", [("tableName", .text "result_stage_0_custom")]⟩,
    ⟨"f", .select, "", [("columns", .list [.text "id"])]⟩,
    ⟨"g", .sort, "", [("table", .text "result_stage_0_custom"), ("orderBy", .list [.text "id"])]⟩,
    ⟨"h", .aggregate, "", [("table", .text "result_stage_0_custom"),
      ("aggregations", .list [.object [("function", .text "COUNT")]])]⟩]

def crossed (n : Nat) : Session :=
  ((Operation.createTable (singleColumn "items")).after
    ((Operation.createTable (singleColumn "orders")).after (silent false))).afterAll
    ((crossing.take n).map fun stage => .addStage stage none)

/-- Each stage is shown with the table that it has read and its own output. The edges into `c` and `d`
come from other tables than these have read, and `a` has an edge to neither `f`, `g` nor `h`. -/
theorem graph_leaves_reading : (crossed 8).ReachableBy Operation.Extends ∧
    (crossing.zipIdx.map fun p => (p.1.id,
      (result? (Action.addStage p.1 none) (crossed p.2)).bind (·.inputTable),
      ((crossed 8).store.outputOf? p.1.id).map (·.name))) =
      [("a", some "items", some "result_stage_0_custom"),
        ("b", some "result_stage_0_custom", some "result_stage_1_join"),
        ("c", some "joined_orders_items", some "result_stage_2_sort"),
        ("d", some "orders", some "result_stage_3_sort"),
        ("e", some "result_stage_0_custom", some "result_stage_0_custom"),
        ("f", some "result_stage_0_custom", some "result_stage_5_select"),
        ("g", some "result_stage_0_custom", some "result_stage_6_sort"),
        ("h", some "result_stage_0_custom", some "result_stage_7_aggregate")] ∧
    (result? Action.graph (crossed 8)).map (·.2) =
      some [⟨"a", "b", true⟩, ⟨"b", "c", false⟩, ⟨"c", "d", true⟩, ⟨"e", "g", false⟩,
        ⟨"g", "h", true⟩] := by
  refine ⟨?_, by decide +kernel, by decide +kernel⟩
  have hnone : ∀ {s : Session}, s.store.stageIds = [] → s.IdsNew := fun h n _ => by
    rw [h]
    exact List.not_mem_nil
  have hids : ∀ stage ∈ crossing, ∀ n, Stage.mintedId n ≠ stage.id := by
    have hshort : ∀ stage ∈ crossing, stage.id.toList.length < 6 := by decide
    exact fun stage hstage => Stage.mintedId_ne_of_short (hshort stage hstage)
  refine reachableBy_extends_afterAll (.after (.after (.opened _ _ _) ⟨rfl, hnone rfl, ?_⟩)
    ⟨rfl, hnone (by decide +kernel), ?_⟩) (hnone (by decide +kernel)) hids
  · exact fun _ _ => List.not_mem_nil
  · exact fun _ _ => List.not_mem_nil

end Session

end StagedSql
