import ComponentStyles.Report.Basic

/-!
The outcome of a build in numbers.
-/

namespace ComponentStyles

/-- The counts of a build. Only messages that are shown are counted. -/
structure Summary where
  files : Nat
  components : Nat
  errors : Nat
  warnings : Nat
  failOnWarnings : Bool
deriving DecidableEq, Repr

namespace Summary

/-- Whether the build has failed. -/
def failed (summary : Summary) : Bool :=
  0 < summary.errors || (0 < summary.warnings && summary.failOnWarnings)

/-- A count with its noun, which takes an `s` unless the count is one. -/
def counted (count : Nat) (noun : String) : Text :=
  Text.numeral count ++ ' ' :: noun.toList ++ if count = 1 then [] else ['s']

/-- The line that ends a report. -/
def render (summary : Summary) : Text :=
  "====================================\nscoped-styles found ".toList ++
    counted summary.errors "error" ++ " and ".toList ++ counted summary.warnings "warning" ++
    " in ".toList ++ counted summary.files "file"

end Summary

end ComponentStyles
