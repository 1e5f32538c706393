import StagedSql.Proofs.Graph.Producers
import StagedSql.Proofs.Session.Rebuilding

/-!
# Adding source tables and stages

As long as source tables and stages are only added, the stages stay where they are, and each has an
output under the name that the list gives to it, unless a later stage has built one of that name.
-/

namespace StagedSql

open Outcome Materialization

namespace Store

/-! ### Outputs under the names of the list -/

def HasOutput (s : Store) (stage : Stage) (name : String) : Prop :=
  ∃ table, s.outputOf? stage.id = some table ∧ table.name = name

def NamedAfter (s : Store) (i : Nat) (name : String) (kind : StageKind → Prop) : Prop :=
  ∃ (j : Nat) (later : Stage), i < j ∧ s.stages[j]? = some later ∧ kind later.kind ∧
    later.outputName? j = some name

/-- Every stage has an output under its name for it, unless a later stage has built one of that
name. -/
def Held (s : Store) : Prop :=
  ∀ (i : Nat) (stage : Stage), s.stages[i]? = some stage →
    ∃ name, stage.outputName? i = some name ∧
      (s.HasOutput stage name ∨ s.NamedAfter i name (· ≠ .load))

section

variable {s : Store} {stage : Stage} {name : String} {i : Nat}

theorem HasOutput.unique {other : String} (h : s.HasOutput stage name)
    (h' : s.HasOutput stage other) : name = other := by
  obtain ⟨table, hout, rfl⟩ := h
  obtain ⟨table', hout', rfl⟩ := h'
  rw [Option.some.inj (hout.symm.trans hout')]

theorem NamedAfter.append {kind : StageKind → Prop} (h : s.NamedAfter i name kind) {t : Store}
    {added : List Stage} (hstages : t.stages = s.stages ++ added) : t.NamedAfter i name kind := by
  obtain ⟨j, later, hij, hj, hkind, hname⟩ := h
  refine ⟨j, later, hij, ?_, hkind, hname⟩
  rw [hstages, List.getElem?_append_left (List.getElem?_eq_some_iff.mp hj).1, hj]

variable (h : s.Held)
include h

theorem Held.hasOutput (hi : s.stages[i]? = some stage) (hkind : stage.kind ≠ .load)
    (hname : stage.outputName? i = some name) : s.HasOutput stage name := by
  obtain ⟨_, hown, hout | ⟨j, later, hij, -, hlater, hsame⟩⟩ := h i stage hi
  · rwa [Option.some.inj (hname.symm.trans hown)]
  · exact absurd (Stage.eq_of_outputName? hkind hlater hown hsame) (Nat.ne_of_lt hij)

theorem Held.outputName? (hi : s.stages[i]? = some stage) (hkind : stage.kind ≠ .load)
    (hout : s.HasOutput stage name) : stage.outputName? i = some name := by
  obtain ⟨own, hown, -⟩ := h i stage hi
  rw [hown, (h.hasOutput hi hkind hown).unique hout]

theorem Held.hasOutput_last (hlast : s.stages.getLast? = some stage) :
    ∃ name, s.HasOutput stage name ∧ stage.outputName? (s.stages.length - 1) = some name := by
  rw [List.getLast?_eq_getElem?] at hlast
  obtain ⟨name, hname, hout | ⟨j, later, hij, hj, -⟩⟩ := h _ stage hlast
  · exact ⟨name, hout, hname⟩
  · have hlt := (List.getElem?_eq_some_iff.mp hj).1
    omega

/-- The last producer of a name has an output of that name, or it is a join with that name for a
view. -/
theorem Held.source_of_lastProducer? (hp : Graph.lastProducer? s.stages name = some (stage, i)) :
    s.HasOutput stage name ∨ stage.JoinsAs name := by
  obtain ⟨hi, hproduced⟩ := Graph.produces_of_lastProducer? hp
  refine (Stage.mem_producedTables_iff.mp hproduced).imp_left fun hname => ?_
  obtain ⟨own, hown, hout | ⟨j, later, hij, hj, -, hlater⟩⟩ := h i stage hi
  · rwa [Option.some.inj (hname.symm.trans hown)]
  · rw [← Option.some.inj (hname.symm.trans hown)] at hlater
    exact absurd (Stage.mem_producedTables_iff.mpr (.inl hlater)) (Graph.not_produced_after hp hij hj)

end

end Store

/-! ### Operations that only add -/

namespace Operation

def isExtension : Operation → Bool
  | loadCsv .. | createTable .. | addStage .. => true
  | _ => false

structure Extends (s : Session) (op : Operation) : Prop where
  work : op.isExtension
  ids : s.MintsNew op

/-- Adding comes down to source tables that are admitted and stages with new ids that are executed. -/
theorem Extends.after_rule {I : Session → Prop} {s : Session} {op : Operation} (hop : op.Extends s)
    (hminted : ∀ t n, I t → I { t with stagesMinted := n })
    (hadmitted : ∀ {name source t u}, I t → Admitted name source t u → I u)
    (hexecute : ∀ {stage active t}, stage.id ∉ t.store.stageIds → I t →
      I (final (Action.execute stage active) t)) (hs : I s) : I (op.after s) := by
  obtain ⟨hwork, hnew, -⟩ := hop
  have hpipeline : op.isPipelineWork := by
    cases op <;> first | rfl | cases hwork
  have hstep := Operation.step hpipeline hnew
  generalize op.after s = t at hstep
  cases hstep with
  | kept => exact hs
  | uploaded file content t admitted => exact hadmitted hs admitted
  | loaded file content stage t admitted kind new =>
    exact hexecute new (hminted t _ (hadmitted hs admitted))
  | created definition d t read admitted => exact hadmitted hs admitted
  | added stage active id minted new => exact hexecute new (hminted s _ hs)
  | deletedTable | activated | updated | rerun | deletedStage | imported | ranAll => cases hwork

end Operation

namespace Session

section

variable {s t : Session} {stage : Stage} {active : Option String} {m : Materialization}

theorem Consistent.outputName?_of_execute (h : s.Consistent) (hid : stage.id ∉ s.store.stageIds)
    (hr : Action.execute stage active s = .ok m t) :
    stage.outputName? s.store.stages.length = some m.table.name := by
  have houtcome := execute_outcome stage active s
  rw [hr] at houtcome
  cases houtcome with
  | loaded table kind found =>
    rw [Stage.outputName?_of_load kind, h.givenText?_of_loadedTable found]
  | built sql input output failure kind planned =>
    rw [Stage.outputName?_of_ne_load kind, ← position_of_new hid]
    rfl

theorem Consistent.held_execute (h : s.Consistent) (hp : s.store.Held)
    (hid : stage.id ∉ s.store.stageIds) :
    (final (Action.execute stage active) s).store.Held := by
  cases hr : Action.execute stage active s with
  | error fault t =>
    obtain ⟨c, rfl⟩ := execute_error hr
    rw [final_of_error hr]
    exact hp
  | ok m t =>
    have ha := h.appended hid hr
    have hstages := ha.stages_eq hid
    have hconsistent : t.Consistent := final_of_ok hr ▸ (h.execute stage active).1
    rw [final_of_ok hr]
    intro i st hi
    rw [hstages] at hi
    rcases getElem?_concat_eq_some hi with hold | ⟨rfl, rfl⟩
    · obtain ⟨name, hname, ⟨table, hout, rfl⟩ | hlater⟩ := hp i st hold
      · refine ⟨table.name, hname, ?_⟩
        obtain ⟨hmap, hmem⟩ := (Store.Consistent.outputOf?_eq_some_iff h).mp hout
        have hother : st.id ≠ stage.id := fun heq =>
          hid (heq ▸ List.mem_map_of_mem (List.mem_of_getElem? hold))
        by_cases hkept : table.name ≠ m.table.name ∨ (m.table.id, m.table) ∈ s.store.tables
        · have hfound := ha.mem_tables_of_mem h hmem hkept
          exact .inl ⟨table, (Store.Consistent.outputOf?_eq_some_iff hconsistent).mpr
            ⟨ha.mem_outputs_of_mem h hother hmap hmem hfound, hfound⟩, rfl⟩
        · -- The new output takes the place of the table.
          rw [not_or, not_not] at hkept
          have hkind : stage.kind ≠ .load := fun hload =>
            ha.output.elim (fun hl => hkept.2 hl.2.1) fun hb => hb.1 hload
          refine .inr ⟨s.store.stages.length, stage, (List.getElem?_eq_some_iff.mp hold).1, ?_, hkind,
            ?_⟩
          · rw [hstages, List.getElem?_concat_length]
          · rw [h.outputName?_of_execute hid hr, hkept.1]
      · exact ⟨name, hname, .inr (hlater.append hstages)⟩
    · refine ⟨m.table.name, h.outputName?_of_execute hid hr, .inl ⟨m.table, ?_, rfl⟩⟩
      exact (Store.Consistent.outputOf?_eq_some_iff hconsistent).mpr
        ⟨ha.mem_outputs_self, ha.mem_tables.mpr (.inl rfl)⟩

theorem Consistent.held_admitted (h : s.Consistent) (hp : s.store.Held) {name source : String}
    (ht : Admitted name source s t) : t.store.Held := by
  intro i st hi
  rw [ht.stages_eq] at hi
  obtain ⟨own, hown, ⟨table, hout, rfl⟩ | hlater⟩ := hp i st hi
  · obtain ⟨new, hnew, hsame⟩ := h.exists_outputOf?_of_namesKept (h.admitted ht)
      (h.namesKept_admitted ht) ht.outputs_eq hout
    exact ⟨table.name, hown, .inl ⟨new, hnew, hsame⟩⟩
  · have hstages : t.store.stages = s.store.stages ++ [] := by rw [ht.stages_eq, List.append_nil]
    exact ⟨own, hown, .inr (hlater.append hstages)⟩

theorem Consistent.stages_grow (h : s.Consistent) (hid : stage.id ∉ s.store.stageIds) :
    s.store.stages <+: (final (Action.execute stage active) s).store.stages := by
  cases hr : Action.execute stage active s with
  | error fault t =>
    obtain ⟨c, rfl⟩ := execute_error hr
    rw [final_of_error hr]
  | ok m t =>
    rw [final_of_ok hr, (h.appended hid hr).stages_eq hid]
    exact List.prefix_append ..

end

theorem ReachableBy.held {s : Session} (h : s.ReachableBy Operation.Extends) : s.store.Held := by
  refine h.rule (I := fun t => t.store.Held) (fun _ _ _ i stage hi => by cases hi)
    fun {s op} hs hp hop => ?_
  refine (hop.after_rule (I := fun t => t.Consistent ∧ t.store.Held) (fun _ _ ht => ht) ?_ ?_
    ⟨hs, hp⟩).2
  · exact fun ht hu => ⟨ht.1.admitted hu, ht.1.held_admitted ht.2 hu⟩
  · exact fun hid ht => ⟨(ht.1.execute _ _).1, ht.1.held_execute ht.2 hid⟩

theorem LeadsTo.stages_grow {s t : Session} (h : s.LeadsTo Operation.Extends t) (hs : s.Consistent) :
    s.store.stages <+: t.store.stages := by
  suffices t.Consistent ∧ s.store.stages <+: t.store.stages from this.2
  induction h with
  | refl => exact ⟨hs, List.prefix_refl _⟩
  | after h hop ih =>
    refine hop.after_rule (I := fun t => t.Consistent ∧ s.store.stages <+: t.store.stages)
      (fun _ _ ht => ht) ?_ ?_ ih
    · exact fun ht hu => ⟨ht.1.admitted hu, hu.stages_eq ▸ ht.2⟩
    · exact fun hid ht => ⟨(ht.1.execute _ _).1, ht.2.trans (ht.1.stages_grow hid)⟩

theorem IdsNew.exists_execute {s : Session} (h : s.IdsNew) (stage : Stage) (active : Option String) :
    ∃ (added : Stage) (minted : Nat), added.kind = stage.kind ∧ added.id ∉ s.store.stageIds ∧
      Action.addStage stage active s =
        Action.execute added active { s with stagesMinted := minted } := by
  rcases h.addStage_cases stage active with ⟨hid, heq⟩ | ⟨id, t, -, hid, rfl, -, heq⟩
  · exact ⟨stage, s.stagesMinted, rfl, hid, heq⟩
  · exact ⟨{ stage with id }, _, rfl, hid, heq⟩

theorem extends_addStage {s : Session} (stage : Stage) (hnew : s.IdsNew) :
    (Operation.addStage stage none).Extends s :=
  ⟨rfl, hnew, fun _ _ => List.not_mem_nil⟩

theorem reachableBy_extends_afterAll {s : Session} {stages : List Stage}
    (hs : s.ReachableBy Operation.Extends) (hnew : s.IdsNew)
    (hids : ∀ stage ∈ stages, ∀ n, Stage.mintedId n ≠ stage.id) :
    (s.afterAll (stages.map fun stage => .addStage stage none)).ReachableBy Operation.Extends := by
  induction stages generalizing s with
  | nil => exact hs
  | cons stage rest ih =>
    exact ih (.after hs (extends_addStage stage hnew))
      (hnew.after_addStage (hids stage (List.mem_cons_self ..)) none)
      fun st hst => hids st (List.mem_cons_of_mem _ hst)

end Session

end StagedSql
