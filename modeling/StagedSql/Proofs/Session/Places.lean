import StagedSql.Proofs.Graph.Edges
import StagedSql.Proofs.Session.Rebuilding

/-!
# Outputs under the names of their places

The graph tells the names of outputs from the places of the stages. The map keeps the names of the
places at which the stages have run. The two agree as long as stages are added and changed only.
-/

namespace StagedSql

open Outcome Materialization

/-! ### Places -/

/-- Every stage other than LOAD has an output that has the name of its place. -/
def Store.Aligned (s : Store) : Prop :=
  ∀ (i : Nat) (stage : Stage), s.stages[i]? = some stage → stage.kind ≠ .load →
    ∃ table, s.outputOf? stage.id = some table ∧ table.name = TableName.result i stage.kind

namespace Materialization

variable {store : Store} {stage st : Stage} {i : Nat}

theorem id_eq_of_position (h : store.stages[position store stage]? = some st) :
    st.id = stage.id := by
  unfold position at h
  cases hi : store.stageIndex? stage.id with
  | none =>
    rw [hi, Option.getD_none, List.getElem?_eq_none (Nat.le_refl _)] at h
    cases h
  | some p =>
    obtain ⟨hlt, hid, -⟩ := List.findIdx?_eq_some_iff_getElem.mp hi
    rw [hi, Option.getD_some, List.getElem?_eq_getElem hlt] at h
    rw [← Option.some.inj h]
    exact of_decide_eq_true hid

theorem getElem?_placed (hn : store.stageIds.Nodup)
    (h : (Store.placed store.stages stage (position store stage))[i]? = some st) :
    i = position store stage ∧ st = stage ∨ store.stages[i]? = some st ∧ st.id ≠ stage.id := by
  cases hi : store.stageIndex? stage.id with
  | none =>
    have hnew := Store.stageIndex?_eq_none_iff.mp hi
    rw [position_of_new hnew] at h ⊢
    rw [Store.placed_of_new hnew] at h
    rcases getElem?_concat_eq_some h with hold | hself
    · exact .inr ⟨hold, fun hid => hnew (hid ▸ List.mem_map_of_mem (List.mem_of_getElem? hold))⟩
    · exact .inl hself
  | some p =>
    have hposition : position store stage = p := by rw [position, hi, Option.getD_some]
    obtain ⟨hlt, hid, -⟩ := List.findIdx?_eq_some_iff_getElem.mp hi
    have hplaced : Store.placed store.stages stage (position store stage) =
        store.stages.set p stage := by
      have hindex : (store.stages.findIdx? fun t => t.id = stage.id) = some p := hi
      simp only [Store.placed, hindex]
    rw [hplaced, List.getElem?_set] at h
    rw [hposition]
    split at h
    · next heq => exact .inl ⟨heq.symm, (Option.some.inj h).symm⟩
    · next hne =>
      refine .inr ⟨h, fun heq => hne ?_⟩
      have hp := List.getElem?_eq_getElem hlt
      have hsame : store.stages[p] = st := List.inj_on_of_nodup_map hn (List.getElem_mem hlt)
        (List.mem_of_getElem? h) ((of_decide_eq_true hid).trans heq.symm)
      exact (List.getElem?_inj hlt hn.of_map).mp (by rw [hp, h, hsame])

end Materialization

/-- The stage stands in the place of a LOAD stage that has the output of another stage, and is none
itself. Executing it takes that output over. -/
def Store.TakesOver (s : Store) (stage : Stage) : Prop :=
  stage.kind ≠ .load ∧ (∃ load ∈ s.stages, load.id = stage.id ∧ load.kind = .load) ∧
    ∃ other ∈ s.stages, other.kind ≠ .load ∧
      ∃ table, s.outputOf? stage.id = some table ∧ s.outputOf? other.id = some table

/-- Stages stay aligned when one is committed at its place, if its output has the right name and the
outputs of the others stay in the catalogue. -/
theorem Store.Aligned.commit {s : Store} {minted more : Nat} (hp : s.Aligned)
    (h : s.Consistent minted) {stage : Stage} {table : Table}
    (hafter : (s.commit stage table (position s stage)).2.Consistent more)
    (hkept : ∀ (i : Nat) (st : Stage), s.stages[i]? = some st → st.id ≠ stage.id → st.kind ≠ .load →
      ∀ t, s.outputOf? st.id = some t → t.name = TableName.result i st.kind →
        (t.id, t) ∈ (s.commit stage table (position s stage)).2.tables)
    (hname : stage.kind ≠ .load → table.name = TableName.result (position s stage) stage.kind) :
    (s.commit stage table (position s stage)).2.Aligned := by
  intro i st hi hkind
  have hplaced : (placed s.stages stage (position s stage))[i]? = some st := by
    simpa only [Store.commit, foldl_evict] using hi
  rcases getElem?_placed h.wellFormed.stages_nodup hplaced with ⟨rfl, rfl⟩ | ⟨hold, hid⟩
  · refine ⟨table, hafter.outputOf?_eq_some_iff.mpr ⟨?_, ?_⟩, hname hkind⟩
    · simp only [Store.commit, foldl_evict]
      exact Keyed.mem_of_lookup? (Keyed.lookup?_put_self ..)
    · exact h.wellFormed.mem_tables_commit.mpr (.inl rfl)
  · obtain ⟨t, ht, hnamed⟩ := hp i st hold hkind
    have hmem := hkept i st hold hid hkind t ht hnamed
    obtain ⟨hout, htable⟩ := h.outputOf?_eq_some_iff.mp ht
    exact ⟨t, hafter.outputOf?_eq_some_iff.mpr
      ⟨h.wellFormed.mem_outputs_commit_of_kept htable hmem hout hid, hmem⟩, hnamed⟩

namespace Session

section

variable {s : Session} (h : s.Consistent) (hp : s.store.Aligned)
include h hp

/-- Another stage's output has neither the name nor the id of the output that a stage gets. -/
theorem Consistent.not_replaced {stage st : Stage} {i : Nat} {t : Table} {output : Output}
    (hspared : ¬ s.store.TakesOver stage) (hk : stage.kind ≠ .load)
    (hi : s.store.stages[i]? = some st) (hid : st.id ≠ stage.id) (hkind : st.kind ≠ .load)
    (ht : s.store.outputOf? st.id = some t) (hname : t.name = TableName.result i st.kind) :
    t.id ≠ (resultEntry s stage (outputName s stage) output).id ∧
      t.name ≠ outputName s stage := by
  obtain ⟨hout, hmem⟩ := (Store.Consistent.outputOf?_eq_some_iff h).mp ht
  constructor
  · intro hsame
    have hentry := h.entryId stage (outputName s stage) output
    rw [← hsame] at hentry
    obtain ⟨own, hown, hkey⟩ := h.entryId_other hentry hout
    obtain ⟨hshared, hmine⟩ := (Store.Consistent.outputOf?_eq_some_iff h).mp hown
    obtain rfl : own = t := congrArg Prod.snd (h.wellFormed.eq_of_key_eq hmine hmem hkey)
    obtain ⟨old, hold, hoid⟩ := List.mem_map.mp (h.wellFormed.owner_mem _ hshared)
    have hoid : old.id = stage.id := hoid
    by_cases hload : old.kind = .load
    · exact hspared ⟨hk, ⟨old, hold, hoid, hload⟩, st, List.mem_of_getElem? hi, hkind, own, hown, ht⟩
    · -- The stage's earlier output has the name of the stage's place.
      obtain ⟨p, hp'⟩ := List.getElem?_of_mem hold
      obtain ⟨u, hu, hunamed⟩ := hp p old hp' hload
      rw [hoid, hown] at hu
      obtain rfl := Option.some.inj hu
      obtain rfl := TableName.result_injective (hunamed.symm.trans hname)
      rw [hi] at hp'
      exact hid (Option.some.inj hp' ▸ hoid)
  · intro hsame
    obtain rfl := TableName.result_injective (hname.symm.trans hsame)
    exact hid (id_eq_of_position hi)

theorem Consistent.aligned_execute {stage : Stage} {active : Option String}
    (hspared : fault? (Action.execute stage active) s = none → ¬ s.store.TakesOver stage) :
    (final (Action.execute stage active) s).store.Aligned := by
  have hafter := (h.execute stage active).1
  have houtcome := execute_outcome stage active s
  generalize hr : Action.execute stage active s = r at houtcome
  cases houtcome with
  | refused e refusal =>
    rw [final_of_error hr]
    exact hp
  | broken sql input fault c kind planned ran =>
    rw [final_of_error hr]
    exact hp
  | loaded table kind found =>
    have hmem := Store.Consistent.mem_of_loadedTable h found
    rw [final_of_ok hr] at hafter ⊢
    refine hp.commit h hafter (fun i st _ _ _ t ht _ => ?_) fun hk => absurd kind hk
    rw [h.wellFormed.mem_tables_commit_of_mem hmem]
    exact ((Store.Consistent.outputOf?_eq_some_iff h).mp ht).2
  | built sql input output failure kind planned =>
    have hspared := hspared (by simp only [fault?, hr])
    rw [final_of_ok hr] at hafter ⊢
    refine hp.commit h hafter (fun i st hi hid hkind t ht hname => ?_) fun _ => rfl
    obtain ⟨hne, hother⟩ := h.not_replaced hp hspared kind hi hid hkind ht hname
    have hmem := ((Store.Consistent.outputOf?_eq_some_iff h).mp ht).2
    exact h.wellFormed.mem_tables_commit.mpr (.inr ⟨hmem, hne, hother⟩)

theorem Consistent.aligned_of_namesKept {t : Session} (hafter : t.Consistent) (hk : s.NamesKept t)
    (hstages : t.store.stages = s.store.stages) (houtputs : t.store.outputs = s.store.outputs) :
    t.store.Aligned := by
  intro i stage hi hkind
  rw [hstages] at hi
  obtain ⟨old, hold, hname⟩ := hp i stage hi hkind
  obtain ⟨new, hnew, hsame⟩ := h.exists_outputOf?_of_namesKept hafter hk houtputs hold
  exact ⟨new, hnew, hsame.trans hname⟩

theorem Consistent.aligned_admitted {name source : String} {t : Session}
    (ht : Admitted name source s t) : t.store.Aligned :=
  h.aligned_of_namesKept hp (h.admitted ht) (h.namesKept_admitted ht) ht.stages_eq ht.outputs_eq

end

end Session

namespace Operation

def isConstruction : Operation → Bool
  | loadCsv .. | createTable .. | addStage .. | updateStage .. => true
  | _ => false

def TakesOver (s : Session) : Operation → Prop
  | updateStage id _ kind _ _ => ∃ stage, s.store.getStage id = .ok stage ∧
    s.store.TakesOver { stage with kind := kind.getD stage.kind }
  | _ => False

/-- What may be asked of a session if outputs are to keep the names of their places. -/
structure KeepsPlaces (s : Session) (op : Operation) : Prop where
  work : op.isConstruction
  ids : s.MintsNew op
  outputs : ¬ (op.TakesOver s ∧ op.Returns s)

theorem KeepsPlaces.isPipelineWork {s : Session} {op : Operation} (h : op.KeepsPlaces s) :
    op.isPipelineWork := by
  have hwork := h.work
  cases op <;> first | rfl | cases hwork

end Operation

namespace Session

theorem not_takesOver_of_new {s : Store} {stage : Stage} (hid : stage.id ∉ s.stageIds) :
    ¬ s.TakesOver stage := by
  rintro ⟨-, ⟨load, hload, hsame, -⟩, -⟩
  exact hid (hsame ▸ List.mem_map_of_mem hload)

theorem Consistent.aligned_after {s : Session} (h : s.Consistent) (hp : s.store.Aligned)
    {op : Operation} (hop : op.KeepsPlaces s) : (op.after s).store.Aligned := by
  have hstep := Operation.step hop.isPipelineWork hop.ids.1
  obtain ⟨hwork, -, houtputs⟩ := hop
  generalize op.after s = t at hstep
  cases hstep with
  | kept => exact hp
  | uploaded file content t admitted => exact h.aligned_admitted hp admitted
  | loaded file content stage t admitted kind new =>
    have hconsistent := h.admitted admitted
    have hminted : Consistent { t with stagesMinted := t.stagesMinted + 1 } := hconsistent
    have htaken := h.aligned_admitted hp admitted
    exact hminted.aligned_execute htaken fun _ => not_takesOver_of_new new
  | created definition d t read admitted => exact h.aligned_admitted hp admitted
  | added stage active id minted new =>
    have hminted : Consistent { s with stagesMinted := minted } := h
    exact hminted.aligned_execute hp fun _ => not_takesOver_of_new new
  | updated data fields kind description active stage found returns =>
    refine h.aligned_execute hp fun hreturns htakes => ?_
    exact houtputs ⟨⟨stage, found, htakes⟩, returns.mpr hreturns⟩
  | deletedTable | activated | rerun | deletedStage | imported | ranAll => cases hwork

theorem ReachableBy.aligned {s : Session} (h : s.ReachableBy Operation.KeepsPlaces) :
    s.store.Aligned :=
  h.rule (fun _ _ _ i stage hi => by cases hi) fun ht hp hop => ht.aligned_after hp hop

/-! ### The graph and the map -/

/-- A join does not have a name that is made of the names of its tables as the name of its output. -/
theorem Consistent.outputName?_of_produced {s : Session} (h : s.Consistent) {i : Nat}
    {source : Stage} {table : Table} (hi : s.store.stages[i]? = some source)
    (hout : s.store.outputOf? source.id = some table)
    (hname : table.name ∈ source.producedTables i) : source.outputName? i = some table.name := by
  refine (Stage.mem_producedTables_iff.mp hname).resolve_right fun hjoins => ?_
  have hkind : source.kind ≠ .load := by
    rw [hjoins.1]
    decide
  obtain ⟨hmap, hmem⟩ := (Store.Consistent.outputOf?_eq_some_iff h).mp hout
  obtain ⟨j, kind, hresult⟩ := Store.Consistent.named h source (List.mem_of_getElem? hi) hkind
    _ _ hmap hmem
  exact hjoins.ne_result kind hresult

/-- A stage reads the output that an earlier stage has in the map. The graph has that stage as its
only input if and only if the output has the name that belongs to the place of the stage, and no
stage between the two produces that name. As long as stages are added and changed only, every stage
other than LOAD has an output with the name of its place. -/
theorem graph_follows_map {s : Session} (hs : s.Reachable) :
    ∃ nodes edges, Action.graph s = .ok (nodes, edges) s ∧
      (∀ (i k : Nat) (source stage : Stage) (table : Table), i < k →
        s.store.stages[i]? = some source → s.store.stages[k]? = some stage →
        stage.kind ∈ [StageKind.filter, .group, .select, .sort] →
        s.store.outputOf? source.id = some table → stage.referencedTable? = some table.name →
        ∃ node, nodes.lookup? stage.id = some node ∧
          (node.inputs = [source.id] ↔ source.outputName? i = some table.name ∧
            ∀ (j : Nat) (other : Stage), i < j → j < k → s.store.stages[j]? = some other →
              table.name ∉ other.producedTables j)) ∧
      (s.ReachableBy Operation.KeepsPlaces → ∀ (i : Nat) (source : Stage),
        s.store.stages[i]? = some source → source.kind ≠ .load →
          ∃ table, s.store.outputOf? source.id = some table ∧
            source.outputName? i = some table.name) := by
  have h := consistent_of_reachable hs
  have hids := h.wellFormed.stages_nodup
  obtain ⟨nodes, hgraph, hresolves⟩ := (complete_of_reachable hs).graph_resolves hids
  refine ⟨nodes, _, hgraph, ?_, ?_⟩
  · intro i k source stage table hik hi hk hkind hout hreads
    obtain ⟨node, hnode, hresolved⟩ := hresolves k stage hk
    have hdefault : stage.kind.readsDefault ∧ stage.kind ≠ .aggregate := by
      revert hkind
      cases stage.kind <;> decide
    have hsought : stage.soughtTable? = some table.name := by
      rw [Stage.soughtTable?_of_ne_aggregate hdefault.2, hreads]
    refine ⟨node, hnode, ?_⟩
    rw [hresolved.inputs_eq_singleton_iff hdefault.1 rfl hids hsought hi,
      Graph.lastProducer?_take_eq_some_iff]
    constructor
    · intro ⟨_, _, hproduced, hlast⟩
      exact ⟨h.outputName?_of_produced hi hout hproduced, hlast⟩
    · intro ⟨hname, hlast⟩
      exact ⟨hik, hi, Stage.mem_producedTables_iff.mpr (.inl hname), hlast⟩
  · intro hkeeps i source hi hkind
    obtain ⟨table, hout, hname⟩ := hkeeps.aligned i source hi hkind
    exact ⟨table, hout, by rw [Stage.outputName?_of_ne_load hkind, hname]⟩

def tripled : Session :=
  (Operation.addStage ⟨"c", .custom, "", [("sql", .text "SELECT 3")]⟩ none).after paired

theorem idsNew_tripled : tripled.IdsNew :=
  idsNew_paired.after_addStage (Stage.mintedId_ne_of_short (by decide)) none

def filtered : Session :=
  (Operation.addStage ⟨"d", .filter, "", [("table", .text "result_stage_1_custom"),
    ("column", .text "id"), ("operator", .text "="), ("value", .int 1)]⟩ none).after tripled

theorem keepsPlaces_addStage {s : Session} (stage : Stage) (hnew : s.IdsNew) :
    (Operation.addStage stage none).KeepsPlaces s :=
  ⟨rfl, ⟨hnew, fun _ _ => List.not_mem_nil⟩, fun h => h.1⟩

theorem filtered_follows_map : filtered.ReachableBy Operation.KeepsPlaces ∧
    ∃ nodes edges node, Action.graph filtered = .ok (nodes, edges) filtered ∧
      nodes.lookup? "d" = some node ∧ node.inputs = ["b"] := by
  have hreachable : filtered.ReachableBy Operation.KeepsPlaces :=
    .after (.after (.after (.after (.opened _ _ _) (keepsPlaces_addStage _ (idsNew_opened _ _ _)))
      (keepsPlaces_addStage _ idsNew_single)) (keepsPlaces_addStage _ idsNew_paired))
      (keepsPlaces_addStage _ idsNew_tripled)
  obtain ⟨nodes, edges, hgraph, hinputs, hnames⟩ := graph_follows_map hreachable.reachable
  have hsource : filtered.store.stages[1]? = some ⟨"b", .custom, "", [("sql", .text "SELECT 2")]⟩ := by
    decide +kernel
  have hstage : filtered.store.stages[3]? = some ⟨"d", .filter, "",
      [("table", .text "result_stage_1_custom"), ("column", .text "id"), ("operator", .text "="),
        ("value", .int 1)]⟩ := by
    decide +kernel
  obtain ⟨table, hout, hname⟩ := hnames hreachable 1 _ hsource (by decide)
  have htable : table.name = "result_stage_1_custom" := (Option.some.inj hname).symm
  obtain ⟨node, hnode, hiff⟩ := hinputs 1 3 _ _ table (by omega) hsource hstage (by decide) hout
    (by rw [htable]; rfl)
  refine ⟨hreachable, nodes, edges, node, hgraph, hnode, hiff.mpr ⟨hname, ?_⟩⟩
  intro j other hij hjk hj
  obtain rfl : j = 2 := by omega
  have hthird : filtered.store.stages[2]? = some ⟨"c", .custom, "", [("sql", .text "SELECT 3")]⟩ := by
    decide +kernel
  obtain rfl := Option.some.inj (hthird.symm.trans hj)
  rw [htable]
  decide +kernel

def shifted : Session := (Operation.deleteStage "a").after filtered

/-- A LOAD stage names a table that has the name of a result at the place before it, until the stage at
that place gets that result. -/
def shadowed : Session :=
  (Operation.updateStage "a" (.object [("table", .text "t"), ("column", .text "id"),
    ("operator", .text "="), ("value", .int 1)]) (some .filter) none none).after
    ((Operation.addStage ⟨"k", .filter, "", [("table", .text "result_stage_0_filter"),
      ("column", .text "id"), ("operator", .text "="), ("value", .int 1)]⟩ none).after
      ((Operation.addStage ⟨"l", .load, "", [("tableName", .text "result_stage_0_filter")]⟩ none).after
        ((Operation.createTable (singleColumn "result_stage_0_filter")).after single)))

/-- After a deletion the output of the second stage keeps its name, but the graph gives that name to
the third one. A LOAD stage that has lost its table still hides the stage that has built it anew. -/
theorem graph_leaves_map :
    (shifted.Reachable ∧ shifted.store.stageIds = ["b", "c", "d"] ∧
      shifted.store.stagesWithOutput (Table.mintedId 2) = ["b"] ∧
      (shifted.store.tables.lookup? (Table.mintedId 2)).map (·.name) = some "result_stage_1_custom" ∧
      (shifted.store.stages[2]?).bind (·.referencedTable?) = some "result_stage_1_custom" ∧
      (result? Action.graph shifted).map (fun g => (g.1.lookup? "d").map (·.inputs)) =
        some (some ["c"])) ∧
    shadowed.Reachable ∧ shadowed.store.stageIds = ["a", "l", "k"] ∧
      shadowed.store.stagesWithOutput (Table.mintedId 1) = ["a"] ∧
      (shadowed.store.tables.lookup? (Table.mintedId 1)).map (·.name) = some "result_stage_0_filter" ∧
      (shadowed.store.stages[2]?).bind (·.referencedTable?) = some "result_stage_0_filter" ∧
      (result? Action.graph shadowed).map (fun g => (g.1.lookup? "k").map (·.inputs)) =
        some (some ["l"]) := by
  refine ⟨⟨((reachable_paired.after _).after _).after _, ?_⟩,
    (((reachable_single.after _).after _).after _).after _, ?_⟩
  · decide +kernel
  · decide +kernel

end Session

end StagedSql
