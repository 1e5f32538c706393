import StagedSql.Engine.Connection

/-!
# Scripted engines

An engine that holds no tables and answers by the text of a statement: the first rule of a script
that applies decides, and without one the beginning of the text does.
-/

namespace StagedSql.Engine

inductive RuleAnswer where
  | failure (text : String)
  | reply (columns : Option (Option (List String))) (rows : Option (List (List Value)))
  deriving DecidableEq, Repr

structure Rule where
  /-- The rule is for the texts in which this occurs. -/
  contains : String
  /-- How often the rule still applies, always if there is no number. -/
  times : Option Int
  answer : RuleAnswer
  deriving DecidableEq, Repr

namespace Rule

def applies (r : Rule) (sql : String) : Bool :=
  Text.occursIn r.contains.toList sql.toList && r.times.all (0 < ·)

def spent (r : Rule) : Rule := { r with times := r.times.map (· - 1) }

end Rule

namespace Script

def usualReply (sql : String) : Reply :=
  let begins (s : String) : Bool := s.toList.isPrefixOf sql.toList
  if begins "DESCRIBE " then
    ⟨some ["column_name", "column_type"],
      [[.text "id", .text "INTEGER"], [.text "name", .text "VARCHAR"]]⟩
  else if begins "SELECT COUNT(*) FROM " then ⟨some ["count"], [[.int 2]]⟩
  else if begins "SELECT " then
    ⟨some ["id", "name"], [[.int 1, .text "a"], [.int 2, .text "b"]]⟩
  else .none

def ruled (usual : Reply) : RuleAnswer → Except String Reply
  | .failure text => .error text
  | .reply columns rows => .ok ⟨columns.getD usual.columns, rows.getD usual.rows⟩

def answer (rules : List Rule) (sql : String) : Except String Reply :=
  match rules.find? (·.applies sql) with
  | some r => ruled (usualReply sql) r.answer
  | none => .ok (usualReply sql)

/-- The rules after a statement: the one that applied is spent once. -/
def after (sql : String) : List Rule → List Rule
  | [] => []
  | r :: rest => if r.applies sql then r.spent :: rest else r :: after sql rest

/-- The engine that follows a script. Closing the connection calls no rule. -/
def responder (rules : List Rule) : Responder := fun earlier s =>
  if s = .close then .ok .none
  else
    let sent := (earlier.filter (· ≠ .close)).map Statement.sql
    answer (sent.foldl (fun rules sql => after sql rules) rules) s.sql

end Script

end StagedSql.Engine
