import StagedSql.Proofs.Store.WellFormed

/-!
# Versions

A command that fails or only reads leaves the whole store as it is, and any other raises the version
by one. So the version tells the states of a run apart.
-/

namespace StagedSql.Store

/-! ### The version after a change -/

section

variable {s s' : Store}

theorem version_commit (s : Store) (stage : Stage) (table : Table) (position : Int) :
    (s.commit stage table position).2.version = s.version + 1 := by
  simp only [Store.commit, foldl_evict]

theorem version_setActive {id : String} {table : Table} (h : s.setActive id = .ok (table, s')) :
    s'.version = s.version + 1 := by
  obtain ⟨-, rfl⟩ := setActive_eq_ok_iff.mp h
  rfl

theorem version_removeStage {id : String} {stage : Stage} (h : s.removeStage id = .ok (stage, s')) :
    s'.version = s.version + 1 := by
  obtain ⟨i, -, -, rfl⟩ := removeStage_eq_ok_iff.mp h
  rfl

theorem version_removeTable {id : String} {table : Table} (h : s.removeTable id = .ok (table, s')) :
    s'.version = s.version + 1 := by
  obtain ⟨-, -, rfl⟩ := removeTable_eq_ok_iff.mp h
  rfl

end

/-! ### Commands -/

def Command.reads : Command → Bool
  | .commit .. | .register .. | .setActive _ | .removeStage _ | .removeTable _ | .resetStages
  | .restore _ => false
  | .snapshot _ | .getTable _ | .tableNamed _ | .outputOf _ | .getStage _ | .stageIndex _
  | .stagesWithOutput _ | .firstTable | .activeTable => true

namespace Archive

/-- What a command does to the store `s`: nothing if it reads or fails, else a change under the next
version. -/
inductive Ran (s : Store) (c : Command) : Except Fault Answer × Archive → Prop
  | read (answer : Except Fault Answer) (saved : Keyed Store) (reads : c.reads = true) :
      Ran s c (answer, ⟨s, saved⟩)
  | failed (fault : Fault) (saved : Keyed Store) : Ran s c (.error fault, ⟨s, saved⟩)
  | changed (answer : Answer) (store : Store) (saved : Keyed Store) (changes : c.reads = false)
      (version : store.version = s.version + 1) : Ran s c (.ok answer, ⟨store, saved⟩)

section

variable {a : Archive} {c : Command} {α : Type} (f : α → Answer)

theorem changed_ran {outcome : Except PipelineError (α × Store)} (hc : c.reads = false)
    (h : ∀ x store, outcome = .ok (x, store) → store.version = a.store.version + 1) :
    Ran a.store c (a.changed f outcome) := by
  cases outcome with
  | error e => exact .failed _ _
  | ok r => exact .changed _ _ _ hc (h r.1 r.2 rfl)

theorem answered_ran (outcome : Except PipelineError α) (hc : c.reads = true) :
    Ran a.store c (a.answered f outcome) := by
  cases outcome <;> exact .read _ _ hc

end

theorem run_ran (a : Archive) (c : Command) : Ran a.store c (a.run c) := by
  cases c with
  | commit stage table position => exact .changed _ _ _ rfl (version_commit ..)
  | register table makeActive => exact .changed _ _ _ rfl rfl
  | setActive id => exact changed_ran _ rfl fun _ _ hx => version_setActive hx
  | removeStage id => exact changed_ran _ rfl fun _ _ hx => version_removeStage hx
  | removeTable id => exact changed_ran _ rfl fun _ _ hx => version_removeTable hx
  | resetStages => exact .changed _ _ _ rfl rfl
  | restore name =>
    simp only [Archive.run]
    cases a.saved.lookup? name with
    | none => exact .failed _ _
    | some earlier => exact .changed _ _ _ rfl rfl
  | getTable id => exact answered_ran _ _ rfl
  | getStage id => exact answered_ran _ _ rfl
  | snapshot | tableNamed | outputOf | stageIndex | stagesWithOutput | firstTable | activeTable =>
    exact .read _ _ rfl

/-! ### Runs -/

def Since (s t : Store) : Prop := t = s ∨ s.version < t.version

theorem Since.trans {s t u : Store} (hst : Since s t) (htu : Since t u) : Since s u := by
  rcases hst with rfl | hst
  · exact htu
  · rcases htu with rfl | htu
    · exact .inr hst
    · exact .inr (Nat.lt_trans hst htu)

theorem since_run (a : Archive) (c : Command) : Since a.store (a.run c).2.store := by
  have hran := run_ran a c
  generalize a.run c = r at hran
  cases hran with
  | read answer saved reads => exact .inl rfl
  | failed fault saved => exact .inl rfl
  | changed answer store saved changes version => exact .inr (version ▸ Nat.lt_succ_self _)

theorem since_runAll (a : Archive) (commands : List Command) :
    Since a.store (a.runAll commands).store := by
  induction commands generalizing a with
  | nil => exact .inl rfl
  | cons c rest ih => exact (since_run a c).trans (ih (a.run c).2)

def moment (commands : List Command) (n : Nat) : Archive := empty.runAll (commands.take n)

section

variable {commands : List Command} {m n : Nat}

theorem moment_succ {c : Command} (h : commands[n]? = some c) :
    moment commands (n + 1) = ((moment commands n).run c).2 := by
  rw [moment, moment, List.take_add_one, h, Option.toList_some, runAll, runAll, List.foldl_append]
  rfl

theorem since_moment (commands : List Command) (h : m ≤ n) :
    Since (moment commands m).store (moment commands n).store := by
  have hprefix : (commands.take n).take m = commands.take m := by
    rw [List.take_take, Nat.min_eq_left h]
  have hrun : moment commands n = (moment commands m).runAll ((commands.take n).drop m) := by
    rw [moment, moment, ← hprefix, runAll, runAll, runAll, ← List.foldl_append,
      List.take_append_drop]
  rw [hrun]
  exact since_runAll ..

end

/-- The version identifies the state of the store within a run. A command that reads or fails leaves the
whole store as it is, and any other raises the version by exactly one. So the version never falls, also
where earlier stages are put back, and at two moments of one version the stores are equal. -/
theorem version_identifies_store (commands : List Command) :
    (∀ n c, commands[n]? = some c →
      (c.reads = true ∨ ∃ fault, ((moment commands n).run c).1 = .error fault) ∧
          (moment commands (n + 1)).store = (moment commands n).store ∨
        (c.reads = false ∧ ∃ answer, ((moment commands n).run c).1 = .ok answer) ∧
          (moment commands (n + 1)).store.version = (moment commands n).store.version + 1) ∧
      (∀ m n, (moment commands m).store.version = (moment commands n).store.version →
        (moment commands m).store = (moment commands n).store) ∧
      ∀ m n, m ≤ n → (moment commands m).store.version ≤ (moment commands n).store.version := by
  refine ⟨fun n c hc => ?_, fun m n hversion => ?_, fun m n hle => ?_⟩
  · rw [moment_succ hc]
    have hran := run_ran (moment commands n) c
    generalize (moment commands n).run c = r at hran
    cases hran with
    | read answer saved reads => exact .inl ⟨.inl reads, rfl⟩
    | failed fault saved => exact .inl ⟨.inr ⟨fault, rfl⟩, rfl⟩
    | changed answer store saved changes version =>
      exact .inr ⟨⟨changes, answer, rfl⟩, version⟩
  · rcases Nat.le_total m n with hle | hle
    · exact ((since_moment commands hle).resolve_right
        (Nat.not_lt_of_le (Nat.le_of_eq hversion.symm))).symm
    · exact (since_moment commands hle).resolve_right
        (Nat.not_lt_of_le (Nat.le_of_eq hversion))
  · rcases since_moment commands hle with heq | hlt
    · exact Nat.le_of_eq (congrArg Store.version heq.symm)
    · exact Nat.le_of_lt hlt

/-- A stage is committed, saved and removed. Its table cannot be removed as long as it is its output, and
putting the stage back does not bring its version back. -/
def savedAndRestored : List Command :=
  [.commit ⟨"a", .custom, "", []⟩ ⟨"t", "result_stage_0_custom", [], [], 0, some "a", "stage"⟩ 0,
    .snapshot "before", .removeTable "t", .removeStage "a", .restore "before", .getStage "b"]

theorem savedAndRestored_versions :
    (List.range 7).map (fun n => (moment savedAndRestored n).store.version) = [0, 1, 1, 1, 2, 3, 3] ∧
      (moment savedAndRestored 3).store = (moment savedAndRestored 1).store ∧
      (moment savedAndRestored 6).store = (moment savedAndRestored 5).store ∧
      (moment savedAndRestored 4).store.version ≤ (moment savedAndRestored 5).store.version := by
  obtain ⟨hsteps, hsame, hle⟩ := version_identifies_store savedAndRestored
  refine ⟨by decide +kernel, hsame 3 1 (by decide +kernel), ?_, hle 4 5 (by decide)⟩
  rcases hsteps 5 (.getStage "b") rfl with ⟨-, hkept⟩ | ⟨⟨hchanges, -⟩, -⟩
  · exact hkept
  · cases hchanges

end Archive

end StagedSql.Store
