import StagedSql.Engine.Operations
import StagedSql.Proofs.Outcome

/-!
# What work with the engine sends

Most work sends its statements one after the other and ends with the first failure. A transaction
also sends a rollback. What is sent is told by the exchanges that the log gains.
-/

namespace StagedSql.Engine

/-! ### Replies of the right shape -/

/-- A description has a name and a type in every row, a count has a number. -/
def Reply.Fits (r : Reply) : Statement → Prop
  | .describe _ => ∀ row ∈ r.rows, ∃ name type more, row = .text name :: type :: more
  | .countRows _ => ∀ row ∈ r.rows, ∃ n more, row = .int n :: more
  | _ => True

def WellShaped (responder : Responder) : Prop :=
  ∀ earlier s reply, responder earlier s = .ok reply → reply.Fits s

/-! ### Exchanges -/

def answered (statements : List Statement) : List Exchange := statements.map fun s => ⟨s, none⟩

@[simp] theorem answered_nil : answered [] = [] := rfl

@[simp] theorem answered_cons (s : Statement) (rest : List Statement) :
    answered (s :: rest) = ⟨s, none⟩ :: answered rest := rfl

theorem answered_append (xs ys : List Statement) :
    answered (xs ++ ys) = answered xs ++ answered ys := List.map_append

theorem isPrefix_of_split {α : Type} {xs done rest : List α} {last failing : α}
    (split : xs ++ [last] = done ++ failing :: rest) : done <+: xs := by
  have hlen : done.length ≤ xs.length := by
    have h := congrArg List.length split
    simp only [List.length_append, List.length_cons, List.length_nil] at h
    omega
  exact List.prefix_of_prefix_length_le ⟨failing :: rest, split.symm⟩
    (List.prefix_append xs [last]) hlen

namespace Connection

def after (c : Connection) (exchanges : List Exchange) : Connection :=
  { c with log := c.log ++ exchanges }

@[simp] theorem after_nil (c : Connection) : c.after [] = c := by
  simp [after]

theorem after_append (c : Connection) (xs ys : List Exchange) :
    c.after (xs ++ ys) = (c.after xs).after ys := by
  simp [after]

@[simp] theorem responder_after (c : Connection) (exchanges : List Exchange) :
    (c.after exchanges).responder = c.responder := rfl

@[simp] theorem log_after (c : Connection) (exchanges : List Exchange) :
    (c.after exchanges).log = c.log ++ exchanges := rfl

end Connection

namespace Work

open Outcome

variable {α β : Type} {Other : Responder → Fault → Prop}

/-! ### Statements in order -/

/-- The outcome of work on `c` that sends `statements` in order until one fails. Besides the failures
of the engine only the faults of `Other` can end it early, and only after some statement. -/
inductive Sent (Other : Responder → Fault → Prop) (statements : List Statement) (c : Connection) :
    EStateM.Result Fault Connection α → Prop
  | all (a : α) : Sent Other statements c (.ok a (c.after (answered statements)))
  | failed (done rest : List Statement) (failing : Statement) (reason : String)
      (split : statements = done ++ failing :: rest) :
      Sent Other statements c
        (.error (engineError reason) (c.after (answered done ++ [⟨failing, some reason⟩])))
  | stopped (done rest : List Statement) (fault : Fault) (split : statements = done ++ rest)
      (other : Other c.responder fault) (asked : done ≠ []) :
      Sent Other statements c (.error fault (c.after (answered done)))

def Sends (Other : Responder → Fault → Prop) (work : Work α) (statements : List Statement) : Prop :=
  ∀ c, Sent Other statements c (work c)

theorem Sends.pure (a : α) : Sends Other (Pure.pure a : Work α) [] := by
  intro c
  rw [pure_apply]
  have h : Sent Other [] c (.ok a (c.after (answered []))) := .all a
  simpa using h

theorem Sends.bind {m : Work α} {f : α → Work β} {xs ys : List Statement} (hm : Sends Other m xs)
    (hf : ∀ a, Sends Other (f a) ys) : Sends Other (m >>= f) (xs ++ ys) := by
  intro c
  have h := hm c
  rw [bind_apply]
  generalize m c = r at h
  cases h with
  | all a =>
    have hnext := hf a (c.after (answered xs))
    show Sent Other (xs ++ ys) c (f a (c.after (answered xs)))
    generalize f a (c.after (answered xs)) = r at hnext
    cases hnext with
    | all b =>
      rw [← Connection.after_append, ← answered_append]
      exact .all b
    | failed done rest failing reason split =>
      rw [← Connection.after_append, ← List.append_assoc, ← answered_append]
      exact .failed (xs ++ done) rest failing reason (by rw [split, List.append_assoc])
    | stopped done rest fault split other asked =>
      rw [← Connection.after_append, ← answered_append]
      exact .stopped (xs ++ done) rest fault (by rw [split, List.append_assoc]) other
        (List.append_ne_nil_of_right_ne_nil xs asked)
  | failed done rest failing reason split =>
    exact .failed done (rest ++ ys) failing reason (by simp [split])
  | stopped done rest fault split other asked =>
    exact .stopped done (rest ++ ys) fault (by simp [split]) other asked

theorem Sends.run (s : Statement) : Sends Other (Work.run s) [s] := by
  intro c
  unfold Work.run
  rw [bind_apply]
  unfold ask
  cases c.reply s with
  | ok reply => exact .all ()
  | error text => exact .failed [] [] s text rfl

theorem Sends.exists_after {work : Work α} {statements : List Statement}
    (h : Sends Other work statements) (c : Connection) :
    ∃ exchanges, final work c = c.after exchanges ∧ (statements ≠ [] → exchanges ≠ []) := by
  have hsent := h c
  generalize hr : work c = r at hsent
  cases hsent with
  | all a =>
    refine ⟨answered statements, final_of_ok hr, fun hne => ?_⟩
    rwa [answered, ne_eq, List.map_eq_nil_iff]
  | failed done rest failing reason split =>
    exact ⟨_, final_of_error hr, fun _ => List.append_ne_nil_of_right_ne_nil _ (by simp)⟩
  | stopped done rest fault split other asked =>
    refine ⟨answered done, final_of_error hr, fun _ => ?_⟩
    rwa [answered, ne_eq, List.map_eq_nil_iff]

theorem Sends.forM (statements : List Statement) :
    Sends Other (statements.forM Work.run) statements := by
  induction statements with
  | nil => exact Sends.pure ()
  | cons s rest ih => exact (Sends.run s).bind fun _ => ih

/-! ### Questions -/

/-- A fault that comes from a reply of the wrong shape. It is no error of the pipeline. -/
def Misread (responder : Responder) (fault : Fault) : Prop :=
  (∀ e, fault ≠ .pipeline e) ∧ ¬ WellShaped responder

theorem Sends.reading {read : Reply → Except Fault α} {s : Statement}
    (hfits : ∀ reply, reply.Fits s → ∃ a, read reply = .ok a)
    (hother : ∀ reply e, read reply ≠ .error (.pipeline e)) :
    Sends Misread (Work.reading read s) [s] := by
  intro c
  unfold Work.reading
  rw [bind_apply]
  unfold ask
  cases hr : c.reply s with
  | error text => exact .failed [] [] s text rfl
  | ok reply =>
    simp only
    cases hread : read reply with
    | ok a => exact .all a
    | error fault =>
      refine .stopped [s] [] fault rfl ⟨?_, ?_⟩ (List.cons_ne_nil s [])
      · rintro e rfl
        exact hother reply e hread
      · intro hshape
        obtain ⟨a, ha⟩ := hfits reply (hshape _ _ _ hr)
        rw [ha] at hread
        cases hread

theorem columnOf_text (name : String) (type : Value) (more : List Value) :
    columnOf (.text name :: type :: more) = .ok ⟨name, type.display⟩ := rfl

theorem columnOf_ne_pipeline (row : List Value) (e : PipelineError) :
    columnOf row ≠ .error (.pipeline e) := by
  unfold columnOf
  split
  · next name type more =>
    cases (((Record.required Record.text "name" [("name", name)]).map
      fun name => Column.mk name type.display).report Table.columnRecord) with
    | ok column => exact fun h => by cases h
    | error report => exact fun h => by cases h
  · simp

theorem wholeOf_ne_pipeline (v : Value) (e : PipelineError) : wholeOf v ≠ .error (.pipeline e) := by
  unfold wholeOf
  split <;> try simp
  split <;> simp

theorem Sends.query (s : Statement) : Sends Misread (Work.query s) [s] :=
  Sends.reading (fun _ _ => ⟨_, rfl⟩) (by simp)

theorem Sends.describe (table : String) : Sends Misread (Work.describe table) [.describe table] := by
  refine Sends.reading ?_ ?_
  · intro reply hfits
    refine exists_mapM_ok_iff.mpr fun row hrow => ?_
    obtain ⟨name, type, more, rfl⟩ := hfits row hrow
    exact ⟨_, columnOf_text name type more⟩
  · intro reply e h
    obtain ⟨row, -, hrow⟩ := mapM_error h
    exact columnOf_ne_pipeline row e hrow

theorem Sends.countRows (table : String) : Sends Misread (Work.countRows table) [.countRows table] := by
  refine Sends.reading ?_ ?_
  · intro reply hfits
    unfold countOf
    split
    · next v more rest hrows =>
      obtain ⟨n, cells, hrow⟩ := hfits (v :: more) (by rw [hrows]; exact List.mem_cons_self ..)
      obtain ⟨rfl, -⟩ := List.cons.inj hrow
      exact ⟨n, rfl⟩
    · exact ⟨0, rfl⟩
  · intro reply e
    unfold countOf
    split
    · exact wholeOf_ne_pipeline _ e
    · simp

/-! ### Transactions -/

def transacted (body : List Statement) : List Statement :=
  .beginTransaction :: (body ++ [.commit])

theorem attempt_eq (s : Statement) (c : Connection) :
    ∃ failure, attempt s c = .ok () (c.after [⟨s, failure⟩]) := by
  unfold attempt
  cases c.reply s with
  | ok reply => exact ⟨none, rfl⟩
  | error text => exact ⟨some text, rfl⟩

/-- The outcome of a transaction on `c`: all of it is sent and succeeds, or it is sent up to the
first failure, and then a rollback. -/
inductive Transacted (body : List Statement) (c : Connection) :
    EStateM.Result Fault Connection Unit → Prop
  | committed : Transacted body c (.ok () (c.after (answered (transacted body))))
  | rolledBack (done rest : List Statement) (failing : Statement) (reason : String)
      (rollback : Option String) (split : transacted body = done ++ failing :: rest) :
      Transacted body c (.error (engineError reason)
        (c.after (answered done ++ [⟨failing, some reason⟩, ⟨.rollback, rollback⟩])))

theorem transaction_outcome (body : List Statement) (c : Connection) :
    Transacted body c (transaction body c) := by
  have hsent : Sends (fun _ _ => False)
      (do Work.run .beginTransaction; body.forM Work.run; Work.run .commit) (transacted body) :=
    (Sends.run .beginTransaction).bind fun _ => (Sends.forM body).bind fun _ => Sends.run .commit
  unfold transaction
  generalize hw : (do Work.run .beginTransaction; body.forM Work.run; Work.run .commit) = work
    at hsent ⊢
  have h := hsent c
  generalize hr : work c = r at h
  cases h with
  | all a =>
    rw [tryCatch_of_ok hr]
    exact .committed
  | failed done rest failing reason split =>
    rw [tryCatch_of_error hr]
    obtain ⟨rollback, hroll⟩ :=
      attempt_eq .rollback (c.after (answered done ++ [⟨failing, some reason⟩]))
    rw [bind_of_ok hroll, throw_apply, ← Connection.after_append, List.append_assoc]
    exact .rolledBack done rest failing reason rollback split
  | stopped done rest fault split other => exact other.elim

theorem mem_of_rolledBack {statements done rest : List Statement} {failing : Statement}
    (split : statements = done ++ failing :: rest) {failure rollback : Option String} {x : Exchange}
    (hx : x ∈ answered done ++ [⟨failing, failure⟩, ⟨.rollback, rollback⟩]) :
    x.statement ∈ statements ∨ x.statement = .rollback := by
  rw [split]
  rcases List.mem_append.mp hx with hx | hx
  · obtain ⟨s, hs, rfl⟩ := List.mem_map.mp hx
    exact .inl (List.mem_append_left _ hs)
  · rcases List.mem_cons.mp hx with rfl | hx
    · exact .inl (List.mem_append_right _ (List.mem_cons_self ..))
    · rw [List.mem_singleton.mp hx]
      exact .inr rfl

end Work

end StagedSql.Engine
