import Multibody.Api.Fields
import Multibody.Log.Console

/-!
# Loggers as a request

The `logging` request names a level and a format.  It answers the levels a
logger at that level keeps, and the console lines such a logger writes for
five sample records: one at each of debug, info, warn and error, and one at
info from a logger named `child`.  The format chooses between console and
JSON output and does not change which levels are kept.
-/

namespace Multibody.Api

open Log

/-- The sample records. -/
def sampleRecords : List Record :=
  [{ level := .debug, message := "debug record", fields := [("n", .int 1)] },
   { level := .info, message := "info record", fields := [("s", .str "x y")] },
   { level := .warn, message := "warn record", fields := [("f", .float 0.5)] },
   { level := .error, message := "error record", fields := [("error", .str "boom")] },
   { level := .info, name := "child", message := "named record", fields := [("b", .bool true)] }]

/-- The `logging` request. -/
def loggingAnswer (req : Json) : Reply Json := do
  let min := Level.orInfo (← str req "level" "info")
  let lg := sampleRecords.foldl Logger.log { min }
  return .obj [("enabled", .arr ((Level.all.filter min.enables).map fun l => .str l.name)),
    ("writer", .arr (lg.lines.toList.map .str))]

end Multibody.Api
