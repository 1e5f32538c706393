import StagedSql.Proofs.Engine.Exchange

/-!
# What is sent

A property of all statements that a piece of work sends holds if it holds of those that its parts send,
whether the work succeeds or fails on the way.
-/

namespace StagedSql.Engine

open Outcome

def Connection.SentOnly (P : Statement → Prop) (start c : Connection) : Prop :=
  ∃ exchanges, c = start.after exchanges ∧ ∀ x ∈ exchanges, P x.statement

namespace Connection

variable {P : Statement → Prop} {start c : Connection}

theorem SentOnly.refl (start : Connection) : SentOnly P start start :=
  ⟨[], (after_nil start).symm, nofun⟩

theorem SentOnly.after (h : SentOnly P start c) {exchanges : List Exchange}
    (hsent : ∀ x ∈ exchanges, P x.statement) : SentOnly P start (c.after exchanges) := by
  obtain ⟨earlier, rfl, hearlier⟩ := h
  exact ⟨earlier ++ exchanges, (after_append ..).symm,
    List.forall_mem_append.mpr ⟨hearlier, hsent⟩⟩

end Connection

theorem forall_answered {P : Statement → Prop} {statements : List Statement}
    (h : ∀ s ∈ statements, P s) : ∀ x ∈ answered statements, P x.statement := by
  intro x hx
  obtain ⟨s, hs, rfl⟩ := List.mem_map.mp hx
  exact h s hs

namespace Work

open Connection

variable {α : Type} {P : Statement → Prop} {start : Connection}

theorem Sends.keeps_sentOnly {Other : Responder → Fault → Prop} {work : Work α}
    {statements : List Statement} (h : Sends Other work statements) (hsent : ∀ s ∈ statements, P s) :
    Keeps (SentOnly P start) work := by
  intro c hc
  have houtcome := h c
  generalize hr : work c = r at houtcome
  cases houtcome with
  | all a =>
    rw [final_of_ok hr]
    exact hc.after (forall_answered hsent)
  | failed done rest failing reason split =>
    have hdone : ∀ s ∈ done ++ [failing], P s := fun s hs =>
      hsent s (by rw [split, List.append_cons]; exact List.mem_append_left _ hs)
    rw [List.forall_mem_append, List.forall_mem_singleton] at hdone
    rw [final_of_error hr]
    exact hc.after (List.forall_mem_append.mpr
      ⟨forall_answered hdone.1, List.forall_mem_singleton.mpr hdone.2⟩)
  | stopped done rest fault split other asked =>
    rw [final_of_error hr]
    exact hc.after (forall_answered fun s hs => hsent s (split ▸ List.mem_append_left _ hs))

/-- Beside its statements, a transaction sends at most a rollback. -/
theorem keeps_sentOnly_transaction {body : List Statement} (hsent : ∀ s ∈ transacted body, P s)
    (hrollback : P .rollback) : Keeps (SentOnly P start) (transaction body) := by
  intro c hc
  have houtcome := transaction_outcome body c
  generalize hr : transaction body c = r at houtcome
  cases houtcome with
  | committed =>
    rw [final_of_ok hr]
    exact hc.after (forall_answered hsent)
  | rolledBack done rest failing reason rollback split =>
    rw [final_of_error hr]
    refine hc.after fun x hx => ?_
    rcases mem_of_rolledBack split hx with hx | hx
    · exact hsent _ hx
    · rwa [hx]

theorem keeps_sentOnly_attempt {s : Statement} (hs : P s) : Keeps (SentOnly P start) (attempt s) := by
  intro c hc
  obtain ⟨failure, heq⟩ := attempt_eq s c
  rw [final_of_ok heq]
  exact hc.after (List.forall_mem_singleton.mpr hs)

end Work

end StagedSql.Engine
