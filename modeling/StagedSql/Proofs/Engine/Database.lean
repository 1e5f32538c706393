import Mathlib.Data.Finset.Insert
import Mathlib.Data.Finset.Erase
import StagedSql.Proofs.Engine.Effects

/-!
# The tables of the engine

An engine seen from outside: the names of its base tables, as the exchanges with it change them. A
statement that fails has no effect. Inside a transaction the effects wait for the commit; a rollback
ends the transaction whether it is answered or not, since nothing is committed after it. Views and
the texts of queries have no effect.
-/

namespace StagedSql.Engine

/-- The base tables, and those that the open transaction would leave. -/
structure Database where
  tables : Finset String
  pending : Option (Finset String)
  deriving DecidableEq

namespace Statement

/-- The tables after a statement that succeeds. -/
def effect (tables : Finset String) : Statement → Finset String
  | createTableAs table _ | importCsv table _ | createTable table _ => insert table tables
  | dropTable table => tables.erase table
  | renameTable source target => insert target (tables.erase source)
  | _ => tables

end Statement

namespace Database

def empty : Database := ⟨∅, none⟩

def observe (db : Database) (x : Exchange) : Database :=
  match x.statement, x.failure with
  | .rollback, _ => { db with pending := none }
  | _, some _ => db
  | .beginTransaction, none => { db with pending := some db.tables }
  | .commit, none => ⟨db.pending.getD db.tables, none⟩
  | s, none =>
    match db.pending with
    | none => { db with tables := s.effect db.tables }
    | some tables => { db with pending := some (s.effect tables) }

def run (db : Database) (exchanges : List Exchange) : Database := exchanges.foldl observe db

theorem run_nil (db : Database) : db.run [] = db := rfl

theorem run_cons (db : Database) (x : Exchange) (rest : List Exchange) :
    db.run (x :: rest) = (db.observe x).run rest := rfl

theorem run_append (db : Database) (xs ys : List Exchange) :
    db.run (xs ++ ys) = (db.run xs).run ys := List.foldl_append

/-! ### Exchanges outside of transactions -/

/-- The exchanges begin and end outside of transactions and turn the tables as `f` does. -/
def Turns (f : Finset String → Finset String) (exchanges : List Exchange) : Prop :=
  ∀ tables, (Database.mk tables none).run exchanges = ⟨f tables, none⟩

theorem Turns.nil : Turns id [] := fun _ => rfl

theorem Turns.append {f g : Finset String → Finset String} {xs ys : List Exchange}
    (hx : Turns f xs) (hy : Turns g ys) : Turns (g ∘ f) (xs ++ ys) := by
  intro tables
  rw [run_append, hx, hy]
  rfl

end Database

def Effects.database (tables : Finset String) (e : Effects) : Database :=
  let now := e.done.foldl Statement.effect tables
  ⟨now, e.pending.map fun waiting => waiting.foldl Statement.effect now⟩

theorem Effects.database_observe (tables : Finset String) (e : Effects) (x : Exchange) :
    (e.observe x).database tables = (e.database tables).observe x := by
  obtain ⟨s, failure⟩ := x
  obtain ⟨done, pending⟩ := e
  cases failure with
  | some reason => cases s <;> rfl
  | none =>
    cases pending <;> cases s <;>
      simp [observe, database, Database.observe, List.foldl_append, Statement.effect]

theorem Effects.database_run (tables : Finset String) (e : Effects) (exchanges : List Exchange) :
    (e.run exchanges).database tables = (e.database tables).run exchanges := by
  induction exchanges generalizing e with
  | nil => rfl
  | cons x rest ih => rw [run_cons, Database.run_cons, ih, database_observe]

theorem Effects.Takes.turns {statements : List Statement} {exchanges : List Exchange}
    (h : Effects.Takes statements exchanges) :
    Database.Turns (fun tables => statements.foldl Statement.effect tables) exchanges := by
  intro tables
  have hstart : Database.mk tables Option.none = (Effects.mk [] Option.none).database tables := rfl
  rw [hstart, ← Effects.database_run, h []]
  rfl

namespace Database

theorem turns_failed {s : Statement} (h : s.isPlain) (reason : String) :
    Turns id [⟨s, some reason⟩] :=
  (Effects.takes_plain (List.forall_mem_singleton.mpr h)).turns

theorem turns_answered {statements : List Statement} (h : ∀ s ∈ statements, s.isPlain) :
    Turns (fun tables => statements.foldl Statement.effect tables) (answered statements) :=
  (Effects.takes_answered h).turns

section

variable {body : List Statement} (hbody : ∀ s ∈ body, s.isPlain)
include hbody

theorem turns_transacted :
    Turns (fun tables => body.foldl Statement.effect tables) (answered (Work.transacted body)) :=
  (Effects.takes_transacted hbody).turns

theorem turns_rolledBack {done rest : List Statement} {failing : Statement}
    (split : Work.transacted body = done ++ failing :: rest) (reason : String)
    (rollback : Option String) :
    Turns id (answered done ++ [⟨failing, some reason⟩, ⟨.rollback, rollback⟩]) :=
  (Effects.takes_rolledBack hbody split reason rollback).turns

end

/-! ### Exchanges that touch one table only -/

def Spares (name : String) (exchanges : List Exchange) : Prop :=
  ∃ f, Turns f exchanges ∧ ∀ tables other, other ≠ name → (other ∈ f tables ↔ other ∈ tables)

theorem Spares.append {name : String} {xs ys : List Exchange} (hx : Spares name xs)
    (hy : Spares name ys) : Spares name (xs ++ ys) := by
  obtain ⟨f, hf, hxs⟩ := hx
  obtain ⟨g, hg, hys⟩ := hy
  refine ⟨g ∘ f, hf.append hg, fun tables other hne => ?_⟩
  rw [Function.comp_apply, hys _ other hne, hxs _ other hne]

theorem Turns.spares {exchanges : List Exchange} (h : Turns id exchanges) (name : String) :
    Spares name exchanges :=
  ⟨id, h, fun _ _ _ => Iff.rfl⟩

theorem mem_foldl_effect {name : String} {statements : List Statement}
    (h : ∀ s ∈ statements, ∀ tables, name ∈ s.effect tables ↔ name ∈ tables)
    (tables : Finset String) :
    name ∈ statements.foldl Statement.effect tables ↔ name ∈ tables := by
  induction statements generalizing tables with
  | nil => exact Iff.rfl
  | cons s rest ih =>
    rw [List.foldl_cons, ih fun x hx => h x (List.mem_cons_of_mem _ hx),
      h s (List.mem_cons_self ..)]

theorem spares_answered {name : String} {statements : List Statement}
    (hplain : ∀ s ∈ statements, s.isPlain)
    (h : ∀ s ∈ statements, ∀ other, other ≠ name → ∀ tables,
      other ∈ s.effect tables ↔ other ∈ tables) : Spares name (answered statements) :=
  ⟨_, turns_answered hplain, fun tables other hne =>
    mem_foldl_effect (fun s hs => h s hs other hne) tables⟩

/-! ### Dropping a table -/

theorem turns_dropTable (name : String) :
    Turns (fun tables => tables.erase name) [⟨.dropTable name, none⟩] := fun _ => rfl

theorem spares_dropTable (name : String) (failure : Option String) :
    Spares name [⟨.dropTable name, failure⟩] := by
  cases failure with
  | some reason => exact (turns_failed rfl reason).spares name
  | none =>
    refine ⟨_, turns_dropTable name, fun tables other hne => ?_⟩
    rw [Finset.mem_erase, and_iff_right hne]

end Database

/-- The tables of the engine at the far end, as the log shows them. -/
def Connection.database (c : Connection) : Database := Database.empty.run c.log

theorem Connection.database_after (c : Connection) (exchanges : List Exchange) :
    (c.after exchanges).database = c.database.run exchanges := by
  simp only [Connection.database, Connection.log_after, Database.run_append]

end StagedSql.Engine
