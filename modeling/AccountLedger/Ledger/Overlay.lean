/-
**Overlays: buffered writes over a ledger.**

An overlay answers reads from the writes buffered so far and, where there is none, from the ledger
beneath, which it never changes.  The buffered writes form a batch that a store accepts as a whole.

Main definitions:

* `Batch`, `Ledger.commit` — buffered writes, and a ledger with all of them applied;
* `Overlay`, `Overlay.view` — a ledger with a batch over it, and the ledger it looks like;
* `Update.runOver` — carrying out an update on an overlay;
* `Backing` — a store that holds a ledger and accepts batches.

Main results:

* `Update.runOver_base` — the ledger beneath an overlay never changes.
-/

import AccountLedger.Ledger.Update

set_option relaxedAutoImplicit false
set_option autoImplicit false

namespace AccountLedger

/-! ### Batches -/

/-- Buffered writes; a later one of the same key replaces the earlier. -/
structure Batch where
  accounts : SortedMap Address Account
  assets : SortedMap String Asset
  witnesses : SortedMap Address Witness
  deriving DecidableEq

namespace Batch

/-- No writes. -/
def empty : Batch := ⟨.empty, .empty, .empty⟩

/-- The number of records written. -/
def size (b : Batch) : Nat := b.accounts.size + b.assets.size + b.witnesses.size

/-- Nothing is written. -/
def isEmpty (b : Batch) : Bool := b.accounts.isEmpty && b.assets.isEmpty && b.witnesses.isEmpty

end Batch

/-- A ledger with every write of a batch applied. -/
def Ledger.commit (l : Ledger) (b : Batch) : Ledger where
  sink := l.sink
  parameters := l.parameters
  accounts := l.accounts.union b.accounts
  assets := l.assets.union b.assets
  witnesses := l.witnesses.union b.witnesses

/-! ### Overlays -/

/-- A ledger with buffered writes over it. -/
structure Overlay where
  base : Ledger
  batch : Batch
  deriving DecidableEq

namespace Overlay

/-- The overlay without writes. -/
def on (l : Ledger) : Overlay := ⟨l, .empty⟩

/-- The ledger that an overlay looks like. -/
def view (o : Overlay) : Ledger := o.base.commit o.batch

/-- The account under an address: the buffered one, else the one beneath. -/
def account? (o : Overlay) (a : Address) : Option Account :=
  (o.batch.accounts.get? a).or (o.base.account? a)

/-- The asset of a name: the buffered one, else the one beneath. -/
def asset? (o : Overlay) (name : String) : Option Asset :=
  (o.batch.assets.get? name).or (o.base.asset? name)

/-- The witness under an address: the buffered one, else the one beneath. -/
def witness? (o : Overlay) (a : Address) : Option Witness :=
  (o.batch.witnesses.get? a).or (o.base.witness? a)

/-- Buffers an account under its own address. -/
def putAccount (o : Overlay) (r : Account) : Overlay :=
  { o with batch.accounts := o.batch.accounts.insert r.address r }

/-- Buffers an asset under its own name. -/
def putAsset (o : Overlay) (r : Asset) : Overlay :=
  { o with batch.assets := o.batch.assets.insert r.name r }

/-- Buffers a witness under its own address. -/
def putWitness (o : Overlay) (r : Witness) : Overlay :=
  { o with batch.witnesses := o.batch.witnesses.insert r.address r }

end Overlay

/-! ### Carrying out an update on an overlay -/

namespace Update

variable {α : Type}

/-- Carries out an update on an overlay; every write is buffered. -/
def runOver : Update α → Overlay → α × Overlay
  | done a, o => (a, o)
  | readAccount a next, o => (next (o.account? a)).runOver o
  | readAsset n next, o => (next (o.asset? n)).runOver o
  | readWitness a next, o => (next (o.witness? a)).runOver o
  | readParameters next, o => (next o.base.parameters).runOver o
  | readSink next, o => (next o.base.sink).runOver o
  | writeAccount r next, o => next.runOver (o.putAccount r)
  | writeAsset r next, o => next.runOver (o.putAsset r)
  | writeWitness r next, o => next.runOver (o.putWitness r)

/-- **The ledger beneath an overlay never changes.** -/
theorem runOver_base (u : Update α) (o : Overlay) : (u.runOver o).2.base = o.base := by
  induction u generalizing o with
  | done a => rfl
  | readAccount a next ih => exact ih _ o
  | readAsset n next ih => exact ih _ o
  | readWitness a next ih => exact ih _ o
  | readParameters next ih => exact ih _ o
  | readSink next ih => exact ih _ o
  | writeAccount r next ih => exact ih _
  | writeAsset r next ih => exact ih _
  | writeWitness r next ih => exact ih _

end Update

/-! ### Stores -/

/-- A store: it holds a ledger and is asked to accept whole batches.  It answers whether it did,
and with the store as it is afterwards. -/
class Backing (σ : Type) where
  ledger : σ → Ledger
  commit : σ → Batch → Except StoreError Unit × σ

/-- A ledger in memory accepts every batch. -/
instance : Backing Ledger where
  ledger l := l
  commit l b := (.ok (), l.commit b)

/-- A store that refuses every batch with the same words. -/
structure Refusing where
  ledger : Ledger
  reason : String

instance : Backing Refusing where
  ledger s := s.ledger
  commit s _ := (.error (.backend s.reason), s)

end AccountLedger
