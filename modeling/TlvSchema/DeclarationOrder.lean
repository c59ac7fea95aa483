import TlvSchema.Event
import TlvSchema.Field

/-!
# Declaration order

In a container the fields without a prerequisite come first, the last one written foremost, and
the fields with one follow as they were written.  A prerequisite comes before the fields that depend
on it unless it has a prerequisite itself; such chains are not sorted, only reported.

* `declarationOrder` — the fields in order
* `chains` — the reports on chains
* `orderFields` — both
-/

namespace TlvSchema

/-- Put one more field in order: in front of all others if it has no prerequisite, and behind them if it
has one. -/
def insertField (ordered : List Field) (f : Field) : List Field :=
  match f.prerequisite with
  | none => f :: ordered
  | some _ => ordered ++ [f]

/-- The fields in order, put there one after the other. -/
def declarationOrder (fields : List Field) : List Field := fields.foldl insertField []

/-! ### Chains -/

/-- The names of the fields that have a prerequisite, with it. -/
def prerequisites (fields : List Field) : List (String × String) :=
  fields.filterMap fun f => f.prerequisite.map fun p => (f.name, p)

/-- The entries whose name does not occur again later. -/
def lastOfEach : List (String × String) → List (String × String)
  | [] => []
  | e :: es => if es.any (·.1 = e.1) then lastOfEach es else e :: lastOfEach es

/-- One report for each name whose prerequisite has a prerequisite; of several fields with one name
the last one that has a prerequisite counts.  No order of the reports is promised. -/
def chains (fields : List Field) : List Event :=
  let known := lastOfEach (prerequisites fields)
  known.filterMap fun e => (known.lookup e.2).map fun transitive => .chain e.1 e.2 transitive

/-- Report the chains, and put the fields in order. -/
def orderFields (fields : List Field) : Logged (List Field) := do
  Logged.all (chains fields)
  pure (declarationOrder fields)

end TlvSchema
