import StagedSql.Proofs.Engine.Exchange

/-!
# Statements that take effect

A statement that succeeds takes effect at once, or with the commit of its transaction. A rollback ends the
transaction whether it is answered or not, since nothing is committed after it.
-/

namespace StagedSql.Engine

def Statement.isPlain : Statement → Bool
  | beginTransaction | commit | rollback => false
  | _ => true

/-- The statements that have taken effect, and those that wait for the commit. -/
structure Effects where
  done : List Statement
  pending : Option (List Statement)
  deriving DecidableEq

namespace Effects

def none : Effects := ⟨[], Option.none⟩

def observe (e : Effects) (x : Exchange) : Effects :=
  match x.statement, x.failure with
  | .rollback, _ => { e with pending := Option.none }
  | _, some _ => e
  | .beginTransaction, Option.none => { e with pending := some [] }
  | .commit, Option.none => ⟨e.done ++ e.pending.getD [], Option.none⟩
  | s, Option.none =>
    match e.pending with
    | Option.none => { e with done := e.done ++ [s] }
    | some waiting => { e with pending := some (waiting ++ [s]) }

def run (e : Effects) (exchanges : List Exchange) : Effects := exchanges.foldl observe e

theorem run_cons (e : Effects) (x : Exchange) (rest : List Exchange) :
    e.run (x :: rest) = (e.observe x).run rest := rfl

theorem run_append (e : Effects) (xs ys : List Exchange) : e.run (xs ++ ys) = (e.run xs).run ys :=
  List.foldl_append

/-! ### Single exchanges -/

theorem observe_plain {s : Statement} (h : s.isPlain) (done : List Statement) :
    (Effects.mk done Option.none).observe ⟨s, Option.none⟩ = ⟨done ++ [s], Option.none⟩ := by
  cases s <;> first | rfl | cases h

theorem observe_plain_pending {s : Statement} (h : s.isPlain) (done waiting : List Statement) :
    (Effects.mk done (some waiting)).observe ⟨s, Option.none⟩ =
      ⟨done, some (waiting ++ [s])⟩ := by
  cases s <;> first | rfl | cases h

theorem observe_failed {s : Statement} (h : s.isPlain) (e : Effects) (reason : String) :
    e.observe ⟨s, some reason⟩ = e := by
  cases s <;> first | rfl | cases h

theorem done_observe_failed (e : Effects) (s : Statement) (reason : String) :
    (e.observe ⟨s, some reason⟩).done = e.done := by
  cases s <;> rfl

/-! ### Exchanges outside of transactions -/

/-- The exchanges begin and end outside of transactions, and these statements take effect. -/
def Takes (statements : List Statement) (exchanges : List Exchange) : Prop :=
  ∀ done, (Effects.mk done Option.none).run exchanges = ⟨done ++ statements, Option.none⟩

theorem Takes.nil : Takes [] [] := by
  intro done
  rw [List.append_nil]
  rfl

theorem Takes.append {first second : List Statement} {xs ys : List Exchange} (hx : Takes first xs)
    (hy : Takes second ys) : Takes (first ++ second) (xs ++ ys) := by
  intro done
  rw [run_append, hx, hy, List.append_assoc]

theorem takes_plain {exchanges : List Exchange} (h : ∀ x ∈ exchanges, x.statement.isPlain) :
    Takes ((exchanges.filter (·.failure.isNone)).map (·.statement)) exchanges := by
  intro done
  induction exchanges generalizing done with
  | nil => exact Takes.nil done
  | cons x rest ih =>
    obtain ⟨hx, hrest⟩ := List.forall_mem_cons.mp h
    obtain ⟨s, failure⟩ := x
    cases failure with
    | some reason =>
      rw [run_cons, observe_failed hx, ih hrest]
      rfl
    | none =>
      rw [run_cons, observe_plain hx, ih hrest, List.append_assoc]
      rfl

theorem takes_answered {statements : List Statement} (h : ∀ s ∈ statements, s.isPlain) :
    Takes statements (answered statements) := by
  have hplain : ∀ x ∈ answered statements, x.statement.isPlain := by
    intro x hx
    obtain ⟨s, hs, rfl⟩ := List.mem_map.mp hx
    exact h s hs
  have hall : ((answered statements).filter (·.failure.isNone)).map (·.statement) = statements := by
    simp [answered, List.filter_map, Function.comp_def]
  have htakes := takes_plain hplain
  rwa [hall] at htakes

/-! ### Transactions -/

theorem run_answered_pending {statements : List Statement} (h : ∀ s ∈ statements, s.isPlain)
    (done waiting : List Statement) :
    (Effects.mk done (some waiting)).run (answered statements) =
      ⟨done, some (waiting ++ statements)⟩ := by
  induction statements generalizing waiting with
  | nil =>
    rw [List.append_nil]
    rfl
  | cons s rest ih =>
    obtain ⟨hs, hrest⟩ := List.forall_mem_cons.mp h
    rw [answered_cons, run_cons, observe_plain_pending hs, ih hrest, List.append_assoc]
    rfl

section

variable {body : List Statement} (hbody : ∀ s ∈ body, s.isPlain)
include hbody

theorem takes_transacted : Takes body (answered (Work.transacted body)) := by
  intro done
  have hbegin : (Effects.mk done Option.none).observe ⟨.beginTransaction, Option.none⟩ =
      ⟨done, some []⟩ := rfl
  rw [Work.transacted, answered_cons, run_cons, hbegin, answered_append, run_append,
    run_answered_pending hbody]
  rfl

theorem takes_rolledBack {done rest : List Statement} {failing : Statement}
    (split : Work.transacted body = done ++ failing :: rest) (reason : String)
    (rollback : Option String) :
    Takes [] (answered done ++ [⟨failing, some reason⟩, ⟨.rollback, rollback⟩]) := by
  intro before
  -- Nothing that was answered is a commit, so the effects are still waiting.
  have hdone : ((Effects.mk before Option.none).run (answered done)).done = before := by
    cases done with
    | nil => rfl
    | cons first more =>
      obtain rfl : Statement.beginTransaction = first := (List.cons.inj split).1
      have hmore : body ++ [.commit] = more ++ failing :: rest := (List.cons.inj split).2
      have hbegin : (Effects.mk before Option.none).observe ⟨.beginTransaction, Option.none⟩ =
          ⟨before, some []⟩ := rfl
      have hplain : ∀ s ∈ more, s.isPlain := fun s hs =>
        hbody s ((isPrefix_of_split hmore).subset hs)
      rw [answered_cons, run_cons, hbegin, run_answered_pending hplain]
  have hrollback : ∀ e : Effects, e.observe ⟨.rollback, rollback⟩ = ⟨e.done, Option.none⟩ :=
    fun _ => rfl
  rw [run_append, run_cons, run_cons, hrollback, List.append_nil]
  show Effects.mk _ _ = _
  rw [done_observe_failed, hdone]

end

end Effects

/-- The statements that take effect in exchanges that begin outside of transactions. -/
def effective (exchanges : List Exchange) : List Statement := (Effects.none.run exchanges).done

theorem effective_of_takes {statements : List Statement} {exchanges : List Exchange}
    (h : Effects.Takes statements exchanges) : effective exchanges = statements := by
  have hrun := h []
  exact congrArg Effects.done hrun

end StagedSql.Engine
