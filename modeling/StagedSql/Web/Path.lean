import StagedSql.Url.Basic

/-!
# Paths of requests

The path to which the target of a request leads: the one of its address, or the one below the root
of the service, with its percent escapes decoded.
-/

namespace StagedSql.Web

/-- The path to which a target leads, if the target is well formed. Escapes are decoded on the way
out and again on the way in. -/
def path? (target : List Char) : Option (List Char) :=
  ((Url.read? target).bind Url.resolved?).map fun url =>
    let path := Url.normalPath url.path
    Text.unescaped (Text.unescaped (if path = [] then ['/'] else path))

/-- The target that has `path` for its decoded path: what does not stand for itself in a path is
escaped, and so is the sign of the escapes. -/
def targetOf (path : List Char) : List Char := Text.escapedUnless (Url.isKept "#%?") path

end StagedSql.Web
