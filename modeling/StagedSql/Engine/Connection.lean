import StagedSql.Engine.Statement
import StagedSql.Fault

/-!
# The connection to the engine

The engine at the far end of a connection is any function that answers a statement after the earlier
ones. The connection keeps a log of what was sent and of what failed.
-/

namespace StagedSql.Engine

structure Reply where
  /-- The columns of a result, none for a statement without result. -/
  columns : Option (List String)
  rows : List (List Value)
  deriving DecidableEq, Repr

def Reply.none : Reply := ⟨Option.none, []⟩

/-- The engine: the reply to a statement after the earlier ones, or the text of its failure. -/
abbrev Responder := List Statement → Statement → Except String Reply

structure Exchange where
  statement : Statement
  failure : Option String
  deriving DecidableEq, Repr

structure Connection where
  responder : Responder
  /-- What was sent so far, the first statement first. -/
  log : List Exchange

namespace Connection

def opened (responder : Responder) : Connection := ⟨responder, []⟩

def statements (c : Connection) : List Statement := c.log.map (·.statement)

def reply (c : Connection) (s : Statement) : Except String Reply := c.responder c.statements s

def record (c : Connection) (s : Statement) (failure : Option String) : Connection :=
  { c with log := c.log ++ [⟨s, failure⟩] }

end Connection

/-- Work with the engine, which may fail. What was sent before a failure stays in the log. -/
abbrev Work := EStateM Fault Connection

namespace Work

/-- Sends a statement and hands out the reply; a failure is reported as `fault` of its text. -/
def ask (fault : String → Fault) (s : Statement) : Work Reply := fun c =>
  match c.reply s with
  | .ok reply => .ok reply (c.record s none)
  | .error text => .error (fault text) (c.record s (some text))

def engineError (text : String) : Fault := .pipeline (.engine text)

def run (s : Statement) : Work Unit := do
  let _ ← ask engineError s

/-- Sends a statement whose outcome does not matter. -/
def attempt (s : Statement) : Work Unit := fun c =>
  match c.reply s with
  | .ok _ => .ok () (c.record s none)
  | .error text => .ok () (c.record s (some text))

/-- Runs statements as one transaction. After the first failure the transaction is rolled back and
the failure is reported, whatever becomes of the rollback. -/
def transaction (body : List Statement) : Work Unit :=
  tryCatch
    (do
      run .beginTransaction
      body.forM run
      run .commit)
    fun fault => do
      attempt .rollback
      throw fault

end Work

end StagedSql.Engine
