import StagedSql.Proofs.Session.Consistent

/-!
# Names in the catalogue

A table gets into the catalogue as the result of a stage, from a file or from a definition. Each of the three
ways has names of its own form, and none of the names is empty.
-/

namespace StagedSql

open Outcome Materialization

namespace TableName

inductive IsCatalogued : String → Prop
  | result (i : Nat) (kind : StageKind) : IsCatalogued (result i kind)
  | ofFile (file : String) : IsCatalogued (ofFile file)
  | defined {name : String} (safe : Identifier.isSafe name = true) : IsCatalogued name

theorem result_ne_empty (i : Nat) (kind : StageKind) : result i kind ≠ "" := by
  intro h
  have hchars := congrArg String.toList h
  rw [result_eq] at hchars
  simp at hchars

theorem ofFile_ne_empty (file : String) : ofFile file ≠ "" := by
  intro h
  have hchars := congrArg String.toList h
  unfold ofFile at hchars
  generalize FileName.split (FileName.base file.toList) = parts at hchars
  simp only [String.toList_ofList, List.append_assoc] at hchars
  cases hchars

theorem IsCatalogued.ne_empty {name : String} (h : IsCatalogued name) : name ≠ "" := by
  cases h with
  | result i kind => exact result_ne_empty i kind
  | ofFile file => exact ofFile_ne_empty file
  | defined safe =>
    rintro rfl
    revert safe
    decide

end TableName

theorem TableDefinition.isSafe_of_read {definition : Value} {d : TableDefinition}
    (h : read definition = .ok d) : Identifier.isSafe d.name = true := by
  obtain ⟨fields, -, hname, -⟩ := parts_of_read h
  unfold readName at hname
  split at hname
  · split at hname
    · next hsafe =>
      rw [← Except.ok.inj hname]
      exact hsafe
    · cases hname
  · cases hname

/-- A table has one of the three ways as its source and a name of the form that goes with it. -/
inductive Table.HasOrigin (t : Table) : Prop
  | result (i : Nat) (kind : StageKind) (named : t.name = TableName.result i kind)
      (sourced : t.source = fromStage) : HasOrigin t
  | ofFile (file : String) (named : t.name = TableName.ofFile file)
      (sourced : t.source = fromUpload) : HasOrigin t
  | defined (safe : Identifier.isSafe t.name = true) (sourced : t.source = fromDefinition) :
      HasOrigin t

theorem Table.HasOrigin.isCatalogued {t : Table} (h : t.HasOrigin) : TableName.IsCatalogued t.name := by
  cases h with
  | result i kind named sourced => exact named ▸ .result i kind
  | ofFile file named sourced => exact named ▸ .ofFile file
  | defined safe sourced => exact .defined safe

namespace Session

def Catalogued (s : Session) : Prop := ∀ e ∈ s.store.tables, TableName.IsCatalogued e.2.name

def Originated (s : Session) : Prop := ∀ e ∈ s.store.tables, e.2.HasOrigin

section

variable {s : Session} (hs : s.Consistent) (h : s.Originated)
include hs h

theorem Originated.execute (stage : Stage) (active : Option String) :
    (final (Action.execute stage active) s).Originated := by
  have houtcome := execute_outcome stage active s
  generalize hr : Action.execute stage active s = r at houtcome
  cases houtcome with
  | refused e refusal =>
    rw [final_of_error hr]
    exact h
  | broken sql input fault c kind planned ran =>
    rw [final_of_error hr]
    exact h
  | loaded table kind found =>
    rw [final_of_ok hr]
    exact fun e he => h e
      ((hs.wellFormed.mem_tables_commit_of_mem (Store.Consistent.mem_of_loadedTable hs found)).mp he)
  | built sql input output failure kind planned =>
    rw [final_of_ok hr]
    intro e he
    rcases hs.wellFormed.mem_tables_commit.mp he with rfl | ⟨he, -⟩
    · exact .result _ _ rfl rfl
    · exact h e he

theorem Originated.admitted {name source : String}
    (horigin : ∀ t : Table, t.name = name → t.source = source → t.HasOrigin) {t : Session}
    (ht : Admitted name source s t) : t.Originated := by
  cases ht with
  | kept exchanges minted turns le => exact h
  | registered exchanges table turns id named sourced =>
    intro e he
    rcases hs.wellFormed.mem_tables_register.mp he with rfl | ⟨he, -⟩
    · exact horigin _ ((Store.register_name s.store table true).trans named)
        ((Store.register_source s.store table true).trans sourced)
    · exact h e he

end

theorem Originated.after {s : Session} (hs : s.Consistent) (h : s.Originated) (op : Operation) :
    (op.after s).Originated := by
  have hexecute : ∀ stage active (t : Session), t.Consistent ∧ t.Originated →
      (final (Action.execute stage active) t).Consistent ∧
        (final (Action.execute stage active) t).Originated := fun stage active t ht =>
    ⟨(ht.1.execute stage active).1, ht.2.execute ht.1 stage active⟩
  refine (Operation.after_rule (I := fun t => t.Consistent ∧ t.Originated) (fun _ _ ht => ht) ?_ ?_ ?_
    ?_ ?_ hexecute ?_ ⟨hs, h⟩).2
  · intro file content t ht
    refine ⟨ht.1.loadCsv file content, ?_⟩
    rcases Action.loadCsv_admitted file content t with hu | ⟨u, hu, heq⟩
    · exact ht.2.admitted ht.1 (fun _ => .ofFile file) hu
    · have htaken := ht.2.admitted ht.1 (fun _ => .ofFile file) hu
      have hconsistent := ht.1.admitted hu
      rw [heq]
      exact (hexecute _ none { u with stagesMinted := u.stagesMinted + 1 }
        ⟨hconsistent, htaken⟩).2
  · intro definition _ t ht
    refine ⟨ht.1.createTable definition, ?_⟩
    rcases Action.createTable_admitted definition t with heq | ⟨d, hread, hu⟩
    · rw [heq]
      exact ht.2
    · exact ht.2.admitted ht.1
        (fun _ hname => .defined (hname ▸ TableDefinition.isSafe_of_read hread)) hu
  · intro id t ht
    refine ⟨ht.1.deleteTable id, ?_⟩
    rcases Action.deleteTable_cases id t with heq | ⟨table, store, failure, hr, heq⟩
    · rw [heq]
      exact ht.2
    · obtain ⟨-, -, rfl⟩ := Store.removeTable_eq_ok_iff.mp hr
      rw [heq]
      exact fun e he => ht.2 e (List.mem_of_mem_filter he)
  · intro id t table store hr ht
    refine ⟨Store.Consistent.setActive ht.1 hr, ?_⟩
    obtain ⟨-, rfl⟩ := Store.setActive_eq_ok_iff.mp hr
    exact ht.2
  · intro id t stage store hr ht
    refine ⟨Store.Consistent.removeStage ht.1 hr, ?_⟩
    obtain ⟨i, -, -, rfl⟩ := Store.removeStage_eq_ok_iff.mp hr
    exact ht.2
  · intro mode keepIds candidates t ht
    refine ⟨ht.1.importFlow mode keepIds candidates, ?_⟩
    have hrule := Action.importFlow_rule (I := fun u => u.Consistent ∧ u.Originated)
      (fun _ _ hu => hu) mode keepIds candidates (s := t) ht
      (fun u hu => ⟨hu.1.resetStages, hu.2⟩)
      fun stage _ u hu => Action.addStage_rule (I := fun u => u.Consistent ∧ u.Originated)
        (fun _ _ hu => hu) hexecute stage none hu
    rcases hrule with hu | ⟨u, hu, heq⟩
    · exact hu.2
    · rw [heq]
      exact hu.2

theorem originated_of_reachable {s : Session} (h : s.Reachable) : s.Originated := by
  obtain ⟨responder, previewRows, chatEnabled, ops, rfl⟩ := h
  have hopened : (opened responder previewRows chatEnabled).Consistent ∧
      (opened responder previewRows chatEnabled).Originated :=
    ⟨Store.consistent_empty, fun _ he => absurd he List.not_mem_nil⟩
  exact (afterAll_rule (I := fun t => t.Consistent ∧ t.Originated)
    (fun op _ t ht => ⟨ht.1.after op, ht.2.after ht.1 op⟩) hopened).2

theorem catalogued_of_reachable {s : Session} (h : s.Reachable) : s.Catalogued := fun e he =>
  (originated_of_reachable h e he).isCatalogued

end Session

end StagedSql
