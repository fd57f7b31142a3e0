/-
**The size of a filter as a document.**

Main definitions:

* `Sizing.read?` — a sizing from a record;
* `Sizing.ofJson?` — the same for JSON values.
-/

import AccountLedger.Document.Source
import AccountLedger.Filter.Sizing

set_option relaxedAutoImplicit false
set_option autoImplicit false

namespace AccountLedger

/-- The names of a sizing's fields in documents. -/
def Sizing.names : List String := ["tps", "cycle_secs", "false_positive_rate"]

/-- A sizing from a record; every field has a usual value. -/
def Sizing.read? {δ : Type} [Source δ] (d : δ) : Option Sizing := do
  let usual : Sizing := {}
  match ← Source.fields? Sizing.names d with
  | [tps, cycleSeconds, rate] => do
      return {
        tps := ← Field.orElse Source.asUInt64? usual.tps tps
        cycleSeconds := ← Field.orElse Source.asUInt64? usual.cycleSeconds cycleSeconds
        rate := ← Field.orElse Source.asFloat? usual.rate rate }
  | _ => none

/-- A sizing from a JSON value. -/
def Sizing.ofJson? (j : Json) : Option Sizing := Sizing.read? j

end AccountLedger
