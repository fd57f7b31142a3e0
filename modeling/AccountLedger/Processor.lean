/-
**Processing transactions.**

A transaction arrives as bytes.  It has to carry exactly one contract, under a name that has not
been seen lately; the contract is then run by the engine.  A transaction whose contract was admitted,
whether its execution succeeded or failed, is remembered; one that was refused may be sent again.

Main definitions:

* `Processor` — the policy, the ledger, and the names seen lately;
* `Refused` — why a transaction yields no receipt, and its wording;
* `Processor.submit`, `Processor.process` — one transaction, and one as bytes;
* `Processor.replay`, `rebuild` — a row of transactions, each at its own time;
* `rebuildState`, `rebuildHash` — the ledger that is rebuilt with its state hash, and the hash alone.
-/

import AccountLedger.Engine.Run
import AccountLedger.Filter.Generations
import AccountLedger.Ledger.Canonical
import AccountLedger.Wire.Transaction

set_option relaxedAutoImplicit false
set_option autoImplicit false

namespace AccountLedger

/-! ### Outcomes -/

/-- Why a transaction yields no receipt. -/
inductive Refused
  /-- The bytes are no transaction. -/
  | undecodable
  | missingRawData
  | contractCount (count : Nat)
  | duplicate (id : Bytes)
  /-- The transaction's contract cannot be unpacked. -/
  | packed (reason : Rejection)
  /-- The engine's answer is a failure. -/
  | contract (failure : Failure)
  deriving DecidableEq

/-- The wording of a refusal. -/
def Refused.message : Refused → String
  | undecodable => "malformed transaction"
  | missingRawData => "transaction has no raw_data"
  | contractCount count =>
      "transaction carries " ++ Decimal.ofNat count ++ " contracts, expected exactly one"
  | duplicate id => "duplicate transaction " ++ Hex.encode id
  | packed reason => reason.message
  | contract failure => failure.message

/-- The name and the receipt of a transaction that was carried out. -/
structure Admission where
  id : Bytes
  receipt : Receipt
  deriving DecidableEq, Repr

/-! ### Processing -/

/-- What transactions are processed with. -/
structure Processor where
  policy : Policy
  ledger : Ledger
  seen : Generations

namespace Processor

/-- The one contract that a transaction carries, still packed, and what is signed with it. -/
def single (t : Transaction) : Except Refused (RawData × Envelope) :=
  match t.rawData with
  | none => .error .missingRawData
  | some raw =>
      match raw.contracts with
      | [e] => .ok (raw, e)
      | es => .error (.contractCount es.length)

/-- Has the contract been admitted?  Then its transaction is remembered. -/
def isAdmitted : Except Failure Receipt → Bool
  | .ok _ => true
  | .error (.failed _ _) => true
  | .error _ => false

/-- Runs a contract under the name of its transaction. -/
def carryOut (p : Processor) (now : Int64) (id : Bytes) (c : Contract) :
    Except Refused Admission × Processor :=
  let (result, ledger) := Engine.apply c ⟨now, p.policy⟩ p.ledger
  let seen := if isAdmitted result then p.seen.insert id else p.seen
  ((result.map fun receipt => ⟨id, receipt⟩).mapError .contract, { p with ledger, seen })

/-- **Processes a transaction at a given time.** -/
def submit (p : Processor) (now : Int64) (t : Transaction) :
    Except Refused Admission × Processor :=
  match single t with
  | .error e => (.error e, p)
  | .ok (raw, e) =>
      -- A transaction seen before is refused before its contract is unpacked.
      if p.seen.contains raw.id then (.error (.duplicate raw.id), p)
      else
        match e.unpack with
        | .error reason => (.error (.packed reason), p)
        | .ok c => p.carryOut now raw.id c

/-- Processes a transaction that is given as bytes. -/
def process (p : Processor) (now : Int64) (bytes : Bytes) :
    Except Refused Admission × Processor :=
  match Message.decode? bytes with
  | none => (.error .undecodable, p)
  | some t => p.submit now t

/-- Begins a new cycle of remembered names. -/
def rotate (p : Processor) : Processor := { p with seen := p.seen.rotate }

/-! ### Replaying -/

/-- Processes a transaction at the time it states; bytes that are no transaction are passed over. -/
def replay (p : Processor) (bytes : Bytes) : Processor :=
  match Message.decode? bytes with
  | none => p
  | some (t : Transaction) => (p.submit (t.rawData.elim 0 RawData.timestamp) t).2

end Processor

/-- The size of a filter that remembers a whole row of transactions. -/
def Sizing.ofLog (count : Nat) : Sizing where
  tps := UInt64.ofNat (max 1 count)
  cycleSeconds := 1
  rate := 0.000001

/-- The ledger after a row of transactions, if there is a filter that remembers them all. -/
def rebuild (genesis : Ledger) (policy : Policy) (log : List Bytes) :
    Except SizingError Ledger := do
  let seen ← Generations.ofSizing (.ofLog log.length)
  return (log.foldl Processor.replay ⟨policy, genesis, seen⟩).ledger

/-- **The ledger after a row of transactions, with its state hash.** -/
def rebuildState (genesis : Ledger) (policy : Policy) (log : List Bytes) :
    Except SizingError (Ledger × String) := do
  let l ← rebuild genesis policy log
  return (l, l.stateHash)

/-- The state hash alone. -/
def rebuildHash (genesis : Ledger) (policy : Policy) (log : List Bytes) :
    Except SizingError String := (rebuildState genesis policy log).map Prod.snd

end AccountLedger
