import StagedSql.Value.Basic

/-!
# Messages of a chat
-/

namespace StagedSql.Chat

structure Message where
  role : String
  content : String
  deriving DecidableEq, Repr

def Message.toValue (m : Message) : Value :=
  .object [("role", .text m.role), ("content", .text m.content)]

end StagedSql.Chat
