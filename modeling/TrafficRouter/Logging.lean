import TrafficRouter.Bytes

/-!
# Logging

Which messages of the router are logged. The level comes from the settings unless more is asked for
on the command line, and all other parts of the program log warnings only. The level is read in any
case, by name or by number; one that is not known leaves the router at warnings too.
-/

namespace TrafficRouter.Logging

/-- The filter for a level of the settings. -/
def directive (level : String) (verbose : Bool) : String :=
  "crystal_proxy=" ++ (if verbose then "debug" else level) ++ ",warn"

/-- The levels that let ordinary messages through; no level at all is one. -/
def ordinaryLevels : List String := ["", "info", "debug", "trace", "3", "4", "5"]

/-- Whether ordinary messages are logged at a level of the settings. What stands behind a comma is
about other parts of the program. -/
def showsOrdinary (level : String) (verbose : Bool) : Bool :=
  verbose || ordinaryLevels.contains
    (String.ofList ((level.toList.takeWhile (· != ',')).map Char.toLower))

end TrafficRouter.Logging
