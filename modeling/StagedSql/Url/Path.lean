import StagedSql.Text.Basic

/-!
# Paths

The segments of a path, and its normal form without the segments that only point elsewhere.
-/

namespace StagedSql.Url

/-- The segments of a path without those that are one or two points; two points also take away the
segment before them, except the empty one in front. -/
def withoutDots (segments : List (List Char)) : List (List Char) :=
  let step (kept : List (List Char)) (s : List Char) : List (List Char) :=
    if s = ['.'] then kept
    else if s = ['.', '.'] then if kept = [] ∨ kept = [[]] then kept else kept.tail
    else s :: kept
  (segments.foldl step []).reverse

def normalPath (path : List Char) : List Char :=
  List.intercalate ['/'] (withoutDots (path.splitOn '/'))

example : normalPath "/a/./b/../c".toList = "/a/c".toList := by decide +kernel
example : normalPath "/../a/..".toList = [] := by decide +kernel

end StagedSql.Url
