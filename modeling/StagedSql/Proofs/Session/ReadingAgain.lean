import StagedSql.Proofs.Query.Unwritable
import StagedSql.Proofs.Session.Identity
import StagedSql.Proofs.Session.Previewing
import StagedSql.Proofs.Session.Reading

/-!
# What a stage reads when it runs again

A run puts its output into the catalogue and makes it the active table. The next run of the stage finds
the table of the first one again if that is still there. Else it finds the stage's own output.
-/

namespace StagedSql

open Outcome Materialization

/-- A table with another id and another name than `result`, which stays where it is when `result` is
recorded. -/
def Table.Spares (result t : Table) : Prop := t.id ≠ result.id ∧ t.name ≠ result.name

/-! ### Looking up after a commit -/

namespace Store

variable {s : Store} {stage : Stage} {table : Table}

section

variable (h : s.WellFormed)
include h

theorem WellFormed.getElem?_stages_commit (table : Table) {i : Nat} (hi : i < position s stage) :
    (s.commit stage table (position s stage)).2.stages[i]? = s.stages[i]? := by
  cases hindex : s.stageIndex? stage.id with
  | none =>
    have hnew := stageIndex?_eq_none_iff.mp hindex
    rw [position_of_new hnew] at hi ⊢
    rw [stages_commit_of_new hnew, List.getElem?_append_left hi]
  | some p =>
    obtain ⟨st, hp, hid⟩ := h.stageIndex?_eq_some_iff.mp hindex
    rw [position, hindex, Option.getD_some] at hi
    rw [h.stages_commit hp hid, List.getElem?_set_ne (Nat.ne_of_gt hi)]

theorem WellFormed.position_commit :
    position (s.commit stage table (position s stage)).2 stage = position s stage := by
  have hself : (s.commit stage table (position s stage)).2.stages[position s stage]? = some stage := by
    cases hindex : s.stageIndex? stage.id with
    | none =>
      have hnew := stageIndex?_eq_none_iff.mp hindex
      rw [position_of_new hnew, stages_commit_of_new hnew, List.getElem?_concat_length]
    | some p =>
      obtain ⟨st, hp, hid⟩ := h.stageIndex?_eq_some_iff.mp hindex
      have hposition : position s stage = p := by rw [position, hindex, Option.getD_some]
      rw [h.stages_commit hp hid, hposition,
        List.getElem?_set_self (List.getElem?_eq_some_iff.mp hp).1]
  have hindex := (h.commit stage table (position s stage)).stageIndex?_eq_some_iff.mpr
    ⟨stage, hself, rfl⟩
  rw [position, hindex, Option.getD_some]

theorem WellFormed.id_ne_of_before {previous : Stage} {i : Nat} (hi : s.stages[i]? = some previous)
    (hbefore : i < position s stage) : previous.id ≠ stage.id := by
  intro hid
  have hindex := h.stageIndex?_eq_some_iff.mpr ⟨previous, hi, hid⟩
  rw [position, hindex, Option.getD_some] at hbefore
  exact Nat.lt_irrefl i hbefore

end

section

variable {minted more : Nat} {position : Int} (h : s.Consistent minted)
  (hafter : (s.commit stage table position).2.Consistent more)
include h hafter

/-- The table that the caller looks at is looked at again if it is still there, and else the new output. -/
theorem Consistent.viewedTable?_commit (active : Option String) :
    (∃ t, active.bind s.tableAt? = some t ∧ table.Spares t ∧
        viewedTable? (s.commit stage table position).2 active = some t) ∨
      (∀ t, active.bind s.tableAt? = some t → ¬ table.Spares t) ∧
        viewedTable? (s.commit stage table position).2 active = some table := by
  have hactive : (s.commit stage table position).2.activeTable? = some table := by
    have hid : (s.commit stage table position).2.active = some table.id := by
      simp only [Store.commit, foldl_evict]
    rw [activeTable?, hid, Option.bind_some]
    exact hafter.tableAt?_eq_some_iff.mpr (h.wellFormed.mem_tables_commit.mpr (.inl rfl))
  by_cases hkept : ∃ t, active.bind s.tableAt? = some t ∧ table.Spares t
  · obtain ⟨t, ht, hspared⟩ := hkept
    refine .inl ⟨t, ht, hspared, ?_⟩
    obtain ⟨id, rfl, ht⟩ := Option.bind_eq_some_iff.mp ht
    have hmem := h.tableAt?_eq_some_iff.mp ht
    obtain rfl : id = t.id := h.wellFormed.id_eq _ hmem
    have hfound := hafter.tableAt?_eq_some_iff.mpr
      (h.wellFormed.mem_tables_commit.mpr (.inr ⟨hmem, hspared⟩))
    rw [viewedTable?, Option.bind_some, hfound, Option.some_or, Option.some_or]
  · have hlost : ∀ t, active.bind s.tableAt? = some t → ¬ table.Spares t :=
      fun t ht hspared => hkept ⟨t, ht, hspared⟩
    refine .inr ⟨hlost, ?_⟩
    cases hview : active.bind (s.commit stage table position).2.tableAt? with
    | none => rw [viewedTable?, hview, hactive, Option.none_or, Option.some_or]
    | some t =>
      rw [viewedTable?, hview, Option.some_or, Option.some_or]
      obtain ⟨id, rfl, ht⟩ := Option.bind_eq_some_iff.mp hview
      rcases h.wellFormed.mem_tables_commit.mp (hafter.tableAt?_eq_some_iff.mp ht) with
        heq | ⟨hmem, hid, hname⟩
      · exact congrArg some (Prod.mk.inj heq).2
      · obtain rfl : id = t.id := h.wellFormed.id_eq _ hmem
        exact absurd ⟨hid, hname⟩ (hlost t (h.tableAt?_eq_some_iff.mpr hmem))

theorem Consistent.mapped_of_outputOf?_commit {stageId : String} {t : Table}
    (hne : stageId ≠ stage.id)
    (ht : (s.commit stage table position).2.outputOf? stageId = some t) :
    (stageId, t.id) ∈ s.outputs ∧
      ∀ u, (t.id, u) ∈ s.tables → u.name = table.name → t.id = table.id := by
  have hout := (hafter.outputOf?_eq_some_iff.mp ht).1
  rcases h.wellFormed.mem_outputs_commit_iff.mp hout with heq | ⟨hout, -, hkept⟩
  · exact absurd (Prod.mk.inj heq).1 hne
  · exact ⟨hout, hkept⟩

theorem Consistent.outputOf?_commit_of_ne {stageId : String} (hne : stageId ≠ stage.id) :
    (s.commit stage table position).2.outputOf? stageId = (s.outputOf? stageId).bind fun t =>
      if t.id = table.id then some table else if t.name = table.name then none else some t := by
  cases ho : s.outputOf? stageId with
  | none =>
    refine Option.eq_none_iff_forall_ne_some.mpr fun t ht => ?_
    obtain ⟨own, hown, -⟩ := h.exists_outputOf? (h.mapped_of_outputOf?_commit hafter hne ht).1
    rw [ho] at hown
    cases hown
  | some old =>
    obtain ⟨hout, hmem⟩ := h.outputOf?_eq_some_iff.mp ho
    rw [Option.bind_some]
    split
    · next hid =>
      have hself : (stageId, table.id) ∈ (s.commit stage table position).2.outputs :=
        h.wellFormed.mem_outputs_commit_iff.mpr (.inr ⟨hid ▸ hout, hne, fun _ _ _ => rfl⟩)
      exact hafter.outputOf?_eq_some_iff.mpr ⟨hself, h.wellFormed.mem_tables_commit.mpr (.inl rfl)⟩
    · next hid =>
      split
      · next hname =>
        refine Option.eq_none_iff_forall_ne_some.mpr fun t ht => hid ?_
        obtain ⟨hout', hkept⟩ := h.mapped_of_outputOf?_commit hafter hne ht
        have hsame : t.id = old.id := h.wellFormed.output_eq hout' hout
        exact hsame ▸ hkept old (hsame ▸ hmem) hname
      · next hname =>
        have hkept : (old.id, old) ∈ (s.commit stage table position).2.tables :=
          h.wellFormed.mem_tables_commit.mpr (.inr ⟨hmem, hid, hname⟩)
        exact hafter.outputOf?_eq_some_iff.mpr
          ⟨h.wellFormed.mem_outputs_commit_of_kept hmem hkept hout hne, hkept⟩

end

/-- The output right before a stage, once that of the stage is recorded. -/
theorem Consistent.outputBefore?_commit {minted more : Nat} (h : s.Consistent minted)
    (hafter : (s.commit stage table (position s stage)).2.Consistent more) :
    outputBefore? (s.commit stage table (position s stage)).2 (position s stage) =
      (outputBefore? s (position s stage)).bind fun t =>
        if t.id = table.id then some table else if t.name = table.name then none else some t := by
  cases hp : position s stage with
  | zero => rfl
  | succ i =>
    have hbefore : i < position s stage := hp ▸ Nat.lt_succ_self i
    have hstages := h.wellFormed.getElem?_stages_commit table hbefore
    rw [hp] at hafter hstages
    simp only [outputBefore?]
    rw [hstages]
    cases hi : s.stages[i]? with
    | none => rfl
    | some previous =>
      exact h.outputOf?_commit_of_ne hafter (h.wellFormed.id_ne_of_before hi hbefore)

/-! ### The table that is found again -/

/-- The table that a stage is given by its place, or else by the caller. -/
def givenTable? (s : Store) (position : Nat) (active : Option String) : Option Table :=
  (outputBefore? s position).or (active.bind s.tableAt?)

/-- The stage is given the table `t`, which stays where it is when `result` is recorded. -/
def Anchors (s : Store) (position : Nat) (active : Option String) (result t : Table) : Prop :=
  s.givenTable? position active = some t ∧ result.Spares t

/-- The output right before the stage is evicted when `result` is recorded, and the table `t` of the
caller stays where it is. -/
def Displaces (s : Store) (position : Nat) (active : Option String) (result t : Table) : Prop :=
  (∃ before, outputBefore? s position = some before ∧ before.id ≠ result.id ∧
    before.name = result.name) ∧ active.bind s.tableAt? = some t ∧ result.Spares t

/-- The table that a stage is given once `result` is recorded as its output. -/
inductive Reread (s : Store) (position : Nat) (active : Option String) (result : Table) :
    Table → Prop
  | anchored (t : Table) (anchors : s.Anchors position active result t) :
      Reread s position active result t
  | displaced (t : Table) (displaces : s.Displaces position active result t) :
      Reread s position active result t
  | own (unanchored : ¬ ∃ t, s.Anchors position active result t)
      (undisplaced : ¬ ∃ t, s.Displaces position active result t) :
      Reread s position active result result

section

variable {active : Option String} {p : Nat} {result old : Table}

theorem givenTable?_of_before (hbefore : outputBefore? s p = some old) :
    s.givenTable? p active = some old := by
  rw [givenTable?, hbefore, Option.some_or]

theorem not_anchors_of_given (hgiven : s.givenTable? p active = some old)
    (hlost : ¬ result.Spares old) : ¬ ∃ t, s.Anchors p active result t := by
  rintro ⟨t, ht, hspared⟩
  obtain rfl := Option.some.inj (hgiven.symm.trans ht)
  exact hlost hspared

end

theorem Consistent.exists_reread {minted more : Nat} (h : s.Consistent minted)
    (hafter : (s.commit stage table (position s stage)).2.Consistent more) (active : Option String) :
    ∃ t, (outputBefore? (s.commit stage table (position s stage)).2 (position s stage)).or
        (viewedTable? (s.commit stage table (position s stage)).2 active) = some t ∧
      s.Reread (position s stage) active table t := by
  rw [h.outputBefore?_commit hafter]
  cases hbefore : outputBefore? s (position s stage) with
  | none =>
    have hgiven : s.givenTable? (position s stage) active = active.bind s.tableAt? := by
      rw [givenTable?, hbefore, Option.none_or]
    -- Nothing comes before the stage, so the table of the caller counts.
    rw [Option.bind_none, Option.none_or]
    rcases h.viewedTable?_commit hafter active with ⟨t, ht, hspared, hviewed⟩ | ⟨hlost, hviewed⟩
    · exact ⟨t, hviewed, .anchored t ⟨hgiven.trans ht, hspared⟩⟩
    · refine ⟨table, hviewed, .own ?_ ?_⟩
      · rintro ⟨t, ht, hspared⟩
        exact hlost t (hgiven.symm.trans ht) hspared
      · rintro ⟨t, -, ht, hspared⟩
        exact hlost t ht hspared
  | some old =>
    have hgiven : s.givenTable? (position s stage) active = some old := givenTable?_of_before hbefore
    rw [Option.bind_some]
    by_cases hspared : table.Spares old
    · refine ⟨old, ?_, .anchored old ⟨hgiven, hspared⟩⟩
      rw [if_neg hspared.1, if_neg hspared.2, Option.some_or]
    have hunanchored := not_anchors_of_given hgiven hspared
    by_cases hid : old.id = table.id
    · refine ⟨table, by rw [if_pos hid, Option.some_or], .own hunanchored ?_⟩
      rintro ⟨t, ⟨before, hsome, hne, -⟩, -⟩
      obtain rfl := Option.some.inj (hbefore.symm.trans hsome)
      exact hne hid
    · have hname : old.name = table.name := by
        by_contra hname
        exact hspared ⟨hid, hname⟩
      -- The output before is evicted, so the table of the caller counts after all.
      rw [if_neg hid, if_pos hname, Option.none_or]
      rcases h.viewedTable?_commit hafter active with ⟨t, ht, hspared', hviewed⟩ | ⟨hlost, hviewed⟩
      · exact ⟨t, hviewed, .displaced t ⟨⟨old, hbefore, hid, hname⟩, ht, hspared'⟩⟩
      · refine ⟨table, hviewed, .own hunanchored ?_⟩
        rintro ⟨t, -, ht, hspared'⟩
        exact hlost t ht hspared'

variable {active : Option String} {p : Nat} {result t : Table}

/-- Only if nothing else is left, a stage that names no table reads its own output. -/
theorem Reread.name_eq_iff (h : s.Reread p active result t) :
    t.name = result.name ↔ (¬ ∃ t, s.Anchors p active result t) ∧
      ¬ ∃ t, s.Displaces p active result t := by
  cases h with
  | anchored t anchors => exact iff_of_false anchors.2.2 fun hnone => hnone.1 ⟨t, anchors⟩
  | displaced t displaces => exact iff_of_false displaces.2.2.2 fun hnone => hnone.2 ⟨t, displaces⟩
  | own unanchored undisplaced => exact iff_of_true rfl ⟨unanchored, undisplaced⟩

theorem Displaces.not_anchors (h : s.Displaces p active result t) :
    ¬ ∃ t, s.Anchors p active result t := by
  obtain ⟨⟨before, hbefore, -, hname⟩, -⟩ := h
  exact not_anchors_of_given (givenTable?_of_before hbefore) fun hspared => hspared.2 hname

theorem Displaces.unique {u : Table} (h : s.Displaces p active result t)
    (hu : s.Displaces p active result u) : u = t :=
  Option.some.inj (hu.2.1.symm.trans h.2.1)

section

variable (hsilent : stage.referencedTable? = none)
include hsilent

theorem inputFor_of_given
    (ht : (outputBefore? s p).or (viewedTable? s active) = some t) :
    inputFor s stage p active = .ok (some t.name) := by
  rw [inputFor, hsilent]
  simp only [ht]

theorem Anchors.inputFor_eq (h : s.Anchors p active result t) :
    inputFor s stage p active = .ok (some t.name) := by
  refine inputFor_of_given hsilent ?_
  have hgiven := h.1
  rw [givenTable?] at hgiven
  rw [viewedTable?, ← Option.or_assoc, ← Option.or_assoc, hgiven, Option.some_or, Option.some_or]

theorem Displaces.inputFor_eq (h : s.Displaces p active result t) :
    inputFor s stage p active = .ok (some result.name) := by
  obtain ⟨⟨before, hbefore, -, hname⟩, -⟩ := h
  rw [← hname]
  exact inputFor_of_given hsilent (by rw [hbefore, Option.some_or])

/-- What is read again is what was read before, unless the stage goes from another table to its own output
or from a table of that name to another one. -/
theorem Reread.same_iff (h : s.Reread p active result t) {input : Option String}
    (hinput : inputFor s stage p active = .ok input) :
    some t.name = input ↔ (∃ u, s.Anchors p active result u) ∨
      input = some result.name ∧ ¬ ∃ u, s.Displaces p active result u := by
  cases h with
  | anchored t anchors =>
    have hsame := Except.ok.inj ((anchors.inputFor_eq hsilent).symm.trans hinput)
    exact iff_of_true hsame (.inl ⟨t, anchors⟩)
  | displaced t displaces =>
    obtain rfl := Except.ok.inj ((displaces.inputFor_eq hsilent).symm.trans hinput)
    refine iff_of_false (fun hsame => displaces.2.2.2 (Option.some.inj hsame)) ?_
    rintro (hanchors | ⟨-, hundisplaced⟩)
    · exact displaces.not_anchors hanchors
    · exact hundisplaced ⟨t, displaces⟩
  | own unanchored undisplaced =>
    refine ⟨fun hsame => .inr ⟨hsame.symm, undisplaced⟩, ?_⟩
    rintro (hanchors | ⟨hsame, -⟩)
    · exact absurd hanchors unanchored
    · exact hsame.symm

end

theorem Reread.name_of_displaces (h : s.Reread p active result t) {u : Table}
    (hu : s.Displaces p active result u) : t.name = u.name := by
  cases h with
  | anchored t anchors => exact absurd ⟨t, anchors⟩ hu.not_anchors
  | displaced t displaces => rw [hu.unique displaces]
  | own unanchored undisplaced => exact absurd ⟨u, hu⟩ undisplaced

end Store

/-! ### The query of the next run -/

namespace Materialization

/-- The query of a stage that reads no single table does not depend on its input. -/
theorem compiled_congr {stage : Stage} {input other : Option String} (hk : stage.kind ≠ .load)
    (h : input = other ∨ stage.kind.readsDefault = false) :
    compiled stage input = compiled stage other := by
  rcases h with rfl | hreads
  · rfl
  unfold compiled Query.compile Query.ofStage
  cases hpayload : Payload.ofStage stage with
  | error report => rfl
  | ok payload =>
    have hread := Query.payload_ofStage_iff.mp hpayload
    generalize stage.kind = kind at hk hreads hread
    cases kind with
    | load => exact absurd rfl hk
    | join =>
      obtain ⟨p, rfl, -⟩ := Payload.read_join hread
      rfl
    | union =>
      obtain ⟨p, rfl, -⟩ := Payload.read_union hread
      rfl
    | custom =>
      obtain ⟨p, rfl, -⟩ := Payload.read_custom hread
      rfl
    | filter | group | select | sort | aggregate => cases hreads

theorem preview_of_execute {stage : Stage} {active : Option String} {s t : Session}
    {m : Materialization} (hk : stage.kind ≠ .load) (hr : Action.execute stage active s = .ok m t) :
    ∃ sql, preview s.store stage active = .ok (sql, m.inputTable) ∧ m.sql = some sql := by
  cases hp : preview s.store stage active with
  | error e =>
    rw [execute_of_preview_error hk hp] at hr
    cases hr
  | ok planned =>
    rw [execute_of_preview_ok hk hp] at hr
    obtain ⟨hsql, hinput⟩ := executePlan_reports hr
    exact ⟨planned.1, by rw [hinput], hsql⟩

/-- In another store a stage with the same input has the same query. -/
theorem preview_congr {stage : Stage} {active : Option String} {store other : Store} {sql : String}
    {input input' : Option String} (hk : stage.kind ≠ .load)
    (hp : preview store stage active = .ok (sql, input))
    (hinput : inputFor other stage (position other stage) active = .ok input')
    (hsame : input' = input ∨ stage.kind.readsDefault = false) :
    preview other stage active = .ok (sql, input') := by
  rw [preview_eq store active hk] at hp
  rw [preview_eq other active hk]
  obtain ⟨_, hcomplete, hplan⟩ := exists_of_bind_ok hp
  obtain ⟨own, -, hcompiled⟩ := exists_of_bind_ok hplan
  obtain ⟨query, hquery, hpair⟩ := exists_of_bind_ok hcompiled
  obtain ⟨rfl, rfl⟩ := Prod.mk.inj (Except.ok.inj hpair)
  rw [← compiled_congr hk hsame] at hquery
  rw [hcomplete]
  show plan other stage active = _
  rw [plan, hinput]
  show (compiled stage input' >>= fun sql => pure (sql, input')) = _
  rw [hquery]
  rfl

end Materialization

namespace Session

open Store

variable {s t : Session} {stage : Stage} {active : Option String} {m : Materialization}

/-- What the next run of a stage reads and asks of the engine, if the run that has led from `s` to `t` has
had the outcome `m`. -/
structure ReadAgain (s : Session) (stage : Stage) (active : Option String) (m : Materialization)
    (t : Session) (input : Option String) : Prop where
  resolved : inputFor t.store stage (position t.store stage) active = .ok input
  reported : ∀ n u, Action.execute stage active t = .ok n u → n.inputTable = input
  /-- The input is the same if the stage names it, if it is given a table that stays where it is, or if
  it has read a table with the name of its output and finds no other one now. -/
  same_iff : input = m.inputTable ↔ stage.referencedTable?.isSome ∨
    (∃ u, s.store.Anchors (position s.store stage) active m.table u) ∨
    m.inputTable = some m.table.name ∧
      ¬ ∃ u, s.store.Displaces (position s.store stage) active m.table u
  /-- A stage that names no table reads its own output if it finds nothing else. -/
  own_iff : stage.referencedTable? = none → (input = some m.table.name ↔
    (¬ ∃ u, s.store.Anchors (position s.store stage) active m.table u) ∧
      ¬ ∃ u, s.store.Displaces (position s.store stage) active m.table u)
  /-- If the output before has been evicted, it falls back on the table of the caller. -/
  displaced : stage.referencedTable? = none → ∀ u,
    s.store.Displaces (position s.store stage) active m.table u → input = some u.name
  /-- With the same input, and for a kind that takes none in any case, the query is the same. -/
  query : input = m.inputTable ∨ stage.kind.readsDefault = false → ∃ sql, m.sql = some sql ∧
    (∃ first more, (final (Action.execute stage active) t).connection =
        t.connection.after (first :: more) ∧
      first.statement.sql =
        "CREATE OR REPLACE TABLE " ++ (m.table.name ++ "__staging") ++ " AS " ++ sql) ∧
    ∀ n u, Action.execute stage active t = .ok n u → n.sql = some sql

theorem store_of_execute (hk : stage.kind ≠ .load) (hr : Action.execute stage active s = .ok m t) :
    t.store = (s.store.commit stage m.table (position s.store stage)).2 ∧
      m.table.name = outputName s stage := by
  obtain ⟨sql, output, -, -, htable, -, hstore⟩ := built_of_execute hk hr
  exact ⟨hstore, congrArg Table.name htable⟩

/-- The input of the next run is told from the store before the first one. -/
theorem Consistent.inputFor_again (h : s.Consistent) (hk : stage.kind ≠ .load)
    (hr : Action.execute stage active s = .ok m t) :
    (∃ name, stage.referencedTable? = some name ∧ m.inputTable = some name ∧
      inputFor t.store stage (position t.store stage) active = .ok (some name)) ∨
    stage.referencedTable? = none ∧ ∃ u,
      s.store.Reread (position s.store stage) active m.table u ∧
      inputFor t.store stage (position t.store stage) active = .ok (some u.name) := by
  have hinput := inputTable_of_execute hk hr
  cases hname : stage.referencedTable? with
  | some name =>
    have hnamed : ∀ store position, inputFor store stage position active = .ok (some name) := by
      intro store position
      rw [inputFor, hname]
    exact .inl ⟨name, rfl, (Except.ok.inj ((hnamed ..).symm.trans hinput)).symm, hnamed ..⟩
  | none =>
    have hafter := (h.execute stage active).1
    obtain ⟨hstore, -⟩ := store_of_execute hk hr
    rw [final_of_ok hr, Consistent, hstore] at hafter
    obtain ⟨u, hu, hreread⟩ := Store.Consistent.exists_reread h hafter active
    refine .inr ⟨rfl, u, hreread, ?_⟩
    rw [hstore, h.wellFormed.position_commit]
    exact inputFor_of_given hname hu

theorem Consistent.query_again (h : s.Consistent) (hk : stage.kind ≠ .load)
    (hr : Action.execute stage active s = .ok m t) {input : Option String}
    (hresolved : inputFor t.store stage (position t.store stage) active = .ok input)
    (hsame : input = m.inputTable ∨ stage.kind.readsDefault = false) : ∃ sql, m.sql = some sql ∧
      (∃ first more, (final (Action.execute stage active) t).connection =
          t.connection.after (first :: more) ∧
        first.statement.sql =
          "CREATE OR REPLACE TABLE " ++ (m.table.name ++ "__staging") ++ " AS " ++ sql) ∧
      ∀ n u, Action.execute stage active t = .ok n u → n.sql = some sql := by
  obtain ⟨hstore, hname⟩ := store_of_execute hk hr
  have hagain : outputName t stage = m.table.name := by
    rw [hname, outputName, hstore, h.wellFormed.position_commit, outputName]
  obtain ⟨sql, hp, hsql⟩ := preview_of_execute hk hr
  obtain ⟨hbegins, hreports⟩ := execute_of_planned hk (preview_congr hk hp hresolved hsame)
  rw [hagain] at hbegins
  exact ⟨sql, hsql, hbegins, fun n u hn => (hreports n u hn).1⟩

/-- If a stage is run again at once, it reads the same table and asks the same query, as long as it names
the table or is given one that the first run leaves where it is. Otherwise it reads its own output, which
is now the active table, unless it falls back on the table of the caller. -/
theorem execute_again_reads (hs : s.Reachable) (hk : stage.kind ≠ .load)
    (hr : Action.execute stage active s = .ok m t) : ∃ input, ReadAgain s stage active m t input := by
  have h := consistent_of_reachable hs
  have hfirst := inputTable_of_execute hk hr
  have hreported : ∀ {input}, inputFor t.store stage (position t.store stage) active = .ok input →
      ∀ n u, Action.execute stage active t = .ok n u → n.inputTable = input :=
    fun hresolved n u hn => Except.ok.inj ((inputTable_of_execute hk hn).symm.trans hresolved)
  rcases h.inputFor_again hk hr with ⟨name, hnamed, hread, hresolved⟩ | ⟨hsilent, u, hreread, hresolved⟩
  · have hnot : stage.referencedTable? ≠ none := hnamed ▸ Option.some_ne_none name
    refine ⟨some name, hresolved, hreported hresolved, ?_, fun hsilent => absurd hsilent hnot,
      fun hsilent => absurd hsilent hnot, h.query_again hk hr hresolved⟩
    exact iff_of_true hread.symm (.inl (Option.isSome_iff_ne_none.mpr hnot))
  · refine ⟨some u.name, hresolved, hreported hresolved, ?_, fun _ => ?_, fun _ v hv => ?_,
      h.query_again hk hr hresolved⟩
    · rw [hreread.same_iff hsilent hfirst, hsilent]
      simp
    · rw [Option.some_inj]
      exact hreread.name_eq_iff
    · exact congrArg some (hreread.name_of_displaces hv)

def ordersCreated : Session :=
  (Operation.createTable (singleColumn "orders")).after (silent false)

def selecting : Stage := ⟨"a", .select, "", [("columns", .list [.text "id"])]⟩

theorem reachable_ordersCreated : ordersCreated.Reachable := (reachable_silent false).after _

/-- A caller who keeps looking at the table has the stage read it again. -/
theorem selecting_reads_viewed : ∃ m t,
    Action.execute selecting (some (Table.mintedId 1)) ordersCreated = .ok m t ∧
    m.inputTable = some "orders" ∧ m.sql = some "SELECT id FROM orders" ∧
    inputFor t.store selecting (position t.store selecting) (some (Table.mintedId 1)) =
      .ok (some "orders") ∧
    ∃ first more,
      (final (Action.execute selecting (some (Table.mintedId 1))) t).connection =
          t.connection.after (first :: more) ∧
        first.statement.sql =
          "CREATE OR REPLACE TABLE result_stage_0_select__staging AS SELECT id FROM orders" := by
  have hfirst : result? (Action.execute selecting (some (Table.mintedId 1))) ordersCreated =
      some ⟨selecting, ⟨Table.mintedId 2, "result_stage_0_select", [], [], 0, some "a", "stage"⟩, false,
        some "SELECT id FROM orders", some "orders"⟩ := by
    decide +kernel
  obtain ⟨input, hagain⟩ := execute_again_reads reachable_ordersCreated (by decide)
    (ok_of_result? hfirst)
  have hanchors : ordersCreated.store.Anchors (position ordersCreated.store selecting)
      (some (Table.mintedId 1))
      ⟨Table.mintedId 2, "result_stage_0_select", [], [], 0, some "a", "stage"⟩
      ⟨Table.mintedId 1, "orders", [], [], 0, none, "definition"⟩ :=
    ⟨by decide +kernel, by decide +kernel, by decide⟩
  have hsame := hagain.same_iff.mpr (.inr (.inl ⟨_, hanchors⟩))
  have hresolved := hagain.resolved
  rw [hsame] at hresolved
  obtain ⟨sql, hsql, ⟨first, more, hsent, hstatement⟩, -⟩ := hagain.query (.inl hsame)
  obtain rfl := Option.some.inj hsql
  exact ⟨_, _, ok_of_result? hfirst, rfl, rfl, hresolved, first, more, hsent, hstatement⟩

/-- Otherwise the output of the first run is the active table, and the second run reads it. -/
theorem selecting_reads_itself : ordersCreated.Reachable ∧ selecting.kind ≠ .load ∧
    selecting.referencedTable? = none ∧ ∃ m t n u,
      Action.execute selecting none ordersCreated = .ok m t ∧
      Action.execute selecting none t = .ok n u ∧
      m.inputTable = some "orders" ∧ m.sql = some "SELECT id FROM orders" ∧
      n.inputTable = some m.table.name ∧ n.sql = some "SELECT id FROM result_stage_0_select" := by
  have hfirst : result? (Action.execute selecting none) ordersCreated =
      some ⟨selecting, ⟨Table.mintedId 2, "result_stage_0_select", [], [], 0, some "a", "stage"⟩, false,
        some "SELECT id FROM orders", some "orders"⟩ := by
    decide +kernel
  have hsecond : result? (Action.execute selecting none)
      (final (Action.execute selecting none) ordersCreated) =
      some ⟨selecting, ⟨Table.mintedId 2, "result_stage_0_select", [], [], 0, some "a", "stage"⟩, true,
        some "SELECT id FROM result_stage_0_select", some "result_stage_0_select"⟩ := by
    decide +kernel
  exact ⟨reachable_ordersCreated, by decide, by decide, _, _, _, _, ok_of_result? hfirst,
    ok_of_result? hsecond, rfl, rfl, rfl, rfl⟩

end Session

end StagedSql
