/-
**Running contracts.**

A contract is checked against the store, carried out on an overlay, and committed as one batch.  If
the execution fails its writes are discarded, and the policy decides whether the fee is collected in
a batch of its own.

Main definitions:

* `Contract.check`, `Contract.execute` — the check and the execution of any kind;
* `Engine.run` — carrying out a contract without checking it first;
* `Engine.validate` — the check alone;
* `Engine.apply` — the check and then the run.
-/

import AccountLedger.Engine.Assets
import AccountLedger.Engine.Stake
import AccountLedger.Engine.Transfers
import AccountLedger.Engine.Witnesses
import AccountLedger.Ledger.Overlay

set_option relaxedAutoImplicit false
set_option autoImplicit false

namespace AccountLedger

/-- Is the contract admissible?  Nothing is written. -/
def Contract.check (c : Contract) (ctx : Context) (l : Ledger) : Check Unit :=
  match c with
  | .transfer c => c.check ctx l
  | .transferAsset c => c.check ctx l
  | .assetIssue c => c.check ctx l
  | .participateAssetIssue c => c.check ctx l
  | .freezeBalance c => c.check ctx l
  | .unfreezeBalance c => c.check ctx l
  | .witnessCreate c => c.check ctx l
  | .witnessUpdate c => c.check ctx l
  | .accountUpdate c => c.check ctx l
  | .voteWitness c => c.check ctx l
  | .withdrawBalance c => c.check ctx l

/-- What the contract does to the ledger. -/
def Contract.execute (c : Contract) (ctx : Context) : Execution Unit :=
  match c with
  | .transfer c => c.execute ctx
  | .transferAsset c => c.execute ctx
  | .assetIssue c => c.execute ctx
  | .participateAssetIssue c => c.execute ctx
  | .freezeBalance c => c.execute ctx
  | .unfreezeBalance c => c.execute ctx
  | .witnessCreate c => c.execute ctx
  | .witnessUpdate c => c.execute ctx
  | .accountUpdate c => c.execute ctx
  | .voteWitness c => c.execute ctx
  | .withdrawBalance c => c.execute ctx

/-- The fee of a contract under a policy. -/
def Contract.fee (c : Contract) (ctx : Context) : Int64 := ctx.fee c.kind

namespace Engine

variable {σ : Type} [Backing σ]

/-- Collects a fee in a batch of its own.  The answer says whether it was collected. -/
def collectFee (s : σ) (owner : Bytes) (fee : Int64) : Bool × σ :=
  match Address.ofBytes owner with
  | .error _ => (false, s)
  | .ok a =>
      -- A new overlay: the writes of the failed execution went with the old one.
      match (Update.chargeFee a fee).run.runOver (.on (Backing.ledger s)) with
      | (.error _, _) => (false, s)
      | (.ok (), o) =>
          match Backing.commit s o.batch with
          | (.error _, s') => (false, s')
          | (.ok (), s') => (true, s')

/-- The receipt of a contract that failed, and the store after its fee is settled: a fee that the
policy wants collected but that cannot be is reported as zero. -/
def settle (s : σ) (c : Contract) (ctx : Context) : Receipt × σ :=
  let fee := c.fee ctx
  if ctx.policy.failedFee = .recordOnly ∨ fee = 0 then (⟨fee, .failed⟩, s)
  else
    let (collected, s') := collectFee s c.owner fee
    (⟨if collected then fee else 0, .failed⟩, s')

/-- Carries out a contract without checking it first. -/
def run (c : Contract) (ctx : Context) (s : σ) : Except Failure Receipt × σ :=
  match (c.execute ctx).run.runOver (.on (Backing.ledger s)) with
  | (.ok (), o) =>
      match Backing.commit s o.batch with
      | (.ok (), s') => (.ok ⟨c.fee ctx, .success⟩, s')
      | (.error e, s') => (.error (.notCommitted e), s')
  | (.error fault, _) =>
      let (receipt, s') := settle s c ctx
      (.error (.failed receipt fault), s')

/-- Checks a contract against the store. -/
def validate (c : Contract) (ctx : Context) (s : σ) : Check Unit :=
  c.check ctx (Backing.ledger s)

/-- **Checks a contract and carries it out if it is admissible.** -/
def apply (c : Contract) (ctx : Context) (s : σ) : Except Failure Receipt × σ :=
  match validate c ctx s with
  | .error reason => (.error (.rejected reason), s)
  | .ok () => run c ctx s

end Engine

end AccountLedger
