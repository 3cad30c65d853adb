import NplgMcp.Storage.Commit

/-!
# Leases, deletions and render transactions

Reader leases (`_AssetLease`), `_delete_render_subtree_locked` and `_RenderTransaction`. A
transaction takes the lock several times: it registers its token, deletes what an earlier attempt
left, and at its end may delete again and then releases the token; each is a step of its own.
-/

open Library

namespace NplgMcp

/-- What the operating system answers during a deletion. -/
structure DeleteFaults where
  root : Bool := true
  /-- `_render_tree_bytes` before and after the deletion -/
  measured : Bool := true
  removal : Store.Removal := .complete
  measuredAfter : Bool := true
  scan : Bool := true

namespace Store

/-! ## Reader leases -/

/-- `acquire_asset_lease`, entered by a new `_AssetLease`. `resolved` says that `resolve_asset`
accepts the file it finds. -/
def acquireAssetLease (s : Store) (path : Path) (resolved : Bool) : Outcome Token :=
  if s.transactionTokens path.key ≠ ∅ then (.error .inUseForReading, s)
  else if path ∉ s.files then (.error .missingAsset, s)
  else if !resolved then (.error .corruptedStorage, s)
  else (.ok s.nextToken, { s with
    nextToken := s.nextToken + 1
    assetLeases := s.assetLeases.insert path.key (s.assetLeaseCount path.key + 1)
    leaseHolders := s.leaseHolders.insert s.nextToken path.key })

/-- `_AssetLease.__exit__` with `release_asset_lease`. A lease that is not active does nothing. -/
def releaseAssetLease (s : Store) (lease : Token) : Outcome Unit :=
  match s.leaseHolders.lookup lease with
  | none => (.ok (), s)
  | some key =>
    let s := { s with leaseHolders := s.leaseHolders.erase lease }
    match s.assetLeases.lookup key with
    | none | some 0 => (.error .unbalancedLease, s)
    | some 1 => (.ok (), { s with assetLeases := s.assetLeases.erase key })
    | some (count + 2) => (.ok (), { s with assetLeases := s.assetLeases.insert key (count + 1) })

/-! ## Deletion -/

/-- Who may delete: no reader, and either the transaction's own token or no transaction. -/
def deletionError (s : Store) (key : ObjectKey) (token : Option Token) : Option StoreError :=
  if token.any (· ∉ s.transactionTokens key) then some .noLeaseAuthority
  else if 0 < s.assetLeaseCount key ∨ s.transactionTokens key \ token.toFinset ≠ ∅ then some .inUse
  else none

/-- The `finally` clause: the sequence of an object root is forgotten, and the bytes are scanned
again unless a measurement raises. -/
def afterRemoval (s : Store) (path : Path) (removed : Except StoreError Unit) (f : DeleteFaults) :
    Outcome Bool :=
  let s := if path.parts = [] then s.forgetSequence path.key else s
  if !f.measuredAfter || !f.scan then (.error .os, s)
  else (removed.map fun _ => true, s.rescan)

/-- `_delete_render_subtree_locked`. -/
def deleteRenderSubtreeLocked (s : Store) (path : Path) (token : Option Token)
    (f : DeleteFaults) : Outcome Bool :=
  if !f.root then (.error .rootIdentity, s)
  else match s.deletionError path.key token with
    | some error => (.error error, s)
    | none =>
      if path ∈ s.files || !f.measured then (.error .corruptedStorage, s)
      else if path ∉ s.directories then (.ok false, s)
      else
        let (removed, s') := s.rmtree path f.removal
        s'.afterRemoval path removed f

/-- `_validated_render_subtree`. -/
def isRenderSubtree (path : Path) : Bool :=
  path.key.top = .renders && isRenderId path.key.name && path.isValid

/-- `delete_render_subtree`. -/
def deleteRenderSubtree (s : Store) (path : Path) (f : DeleteFaults) : Outcome Bool :=
  if !isRenderSubtree path then (.error .invalidSubtree, s)
  else s.deleteRenderSubtreeLocked path none f

/-! ## Transactions -/

/-- Change the status of a transaction. -/
def setTransaction (s : Store) (token : Token) (transaction : RenderTransaction) : Store :=
  { s with transactions := s.transactions.insert token transaction }

/-- The first locked section of `begin_render_transaction`: the token is registered and the
completion file looked for. -/
def registerRenderTransaction (s : Store) (caller : Context) (subtree : Path)
    (completionFile : String) (root : Bool) : Outcome Token :=
  let completion : Path := ⟨subtree.key, subtree.parts ++ [completionFile]⟩
  if !root then (.error .rootIdentity, s)
  else if !isRenderSubtree subtree then (.error .invalidSubtree, s)
  else if !isComponent completionFile then (.error .invalidFilename, s)
  else if subtree.key ∈ s.renderTransactionLeases then (.error .transactionActive, s)
  else
    let complete := decide (completion ∈ s.files)
    (.ok s.nextToken, { s with
      nextToken := s.nextToken + 1
      renderTransactionLeases := s.renderTransactionLeases.insert subtree.key {s.nextToken}
      transactions := s.transactions.insert s.nextToken
        { subtree, completion, complete
          status := if complete then .live else .starting
          owner := caller } })

/-- The second locked section of `begin_render_transaction`: an incomplete subtree is deleted. When
that raises the token is released again. -/
def recoverRenderTransaction (s : Store) (token : Token) (f : DeleteFaults) : Outcome Unit :=
  match s.transactions.lookup token with
  | none => (.error .transactionClosed, s)
  | some transaction =>
    if transaction.status ≠ .starting then (.error .transactionClosed, s)
    else match s.deleteRenderSubtreeLocked transaction.subtree (some token) f with
      | (.error error, s') =>
        (.error error, s'.setTransaction token { transaction with status := .closing })
      | (.ok _, s') => (.ok (), s'.setTransaction token { transaction with status := .live })

/-- `rollback` of a transaction that is not closed, up to the release of the lease. -/
def rollbackLive (s : Store) (token : Token) (transaction : RenderTransaction) (root : Bool)
    (f : DeleteFaults) : Outcome Unit :=
  let closing := { transaction with status := .closing }
  if !root then (.error .rootIdentity, s.setTransaction token closing)
  else if transaction.complete then (.ok (), s.setTransaction token closing)
  else
    let (deleted, s') := s.deleteRenderSubtreeLocked transaction.subtree (some token) f
    (deleted.map fun _ => (), s'.setTransaction token closing)

/-- `_RenderTransaction.commit`, up to the release of the lease. -/
def commitRenderTransaction (s : Store) (token : Token) (caller : Context)
    (root rootAgain : Bool) (f : DeleteFaults) : Outcome Unit :=
  match s.transactions.lookup token with
  | none => (.error .transactionClosed, s)
  | some transaction =>
    if transaction.status ≠ .live then (.error .transactionClosed, s)
    else if transaction.owner ≠ caller then (.error .foreignContext, s)
    else if !root then
      (.error .rootIdentity, s.setTransaction token { transaction with status := .closing })
    else if transaction.completion ∉ s.files then
      match s.rollbackLive token transaction rootAgain f with
      | (.error error, s') => (.error error, s')
      | (.ok _, s') => (.error .incompleteRender, s')
    else (.ok (), s.setTransaction token { transaction with status := .closing })

/-- `_RenderTransaction.rollback`, up to the release of the lease. -/
def rollbackRenderTransaction (s : Store) (token : Token) (caller : Context) (root : Bool)
    (f : DeleteFaults) : Outcome Unit :=
  match s.transactions.lookup token with
  | none => (.ok (), s)
  | some transaction =>
    if transaction.status ≠ .live then (.ok (), s)
    else if transaction.owner ≠ caller then (.error .foreignContext, s)
    else s.rollbackLive token transaction root f

/-- `_RenderTransaction.reset`. -/
def resetRenderTransaction (s : Store) (token : Token) (caller : Context) (root : Bool)
    (f : DeleteFaults) : Outcome Unit :=
  match s.transactions.lookup token with
  | none => (.error .transactionClosed, s)
  | some transaction =>
    if transaction.status ≠ .live then (.error .transactionClosed, s)
    else if transaction.owner ≠ caller then (.error .foreignContext, s)
    else if !root then (.error .rootIdentity, s)
    else match s.deleteRenderSubtreeLocked transaction.subtree (some token) f with
      | (.error error, s') => (.error error, s')
      | (.ok _, s') => (.ok (), s'.setTransaction token { transaction with complete := false })

/-- `release_asset_lease` with a transaction's token, the last step of a transaction. -/
def releaseRenderTransaction (s : Store) (token : Token) : Outcome Unit :=
  match s.transactions.lookup token with
  | none => (.error .transactionClosed, s)
  | some transaction =>
    if transaction.status ≠ .closing then (.error .transactionClosed, s)
    else
      let s := s.setTransaction token { transaction with status := .closed }
      if s.transactionTokens transaction.subtree.key ≠ {token} then
        (.error .unbalancedTransactionLease, s)
      else (.ok (), { s with
        renderTransactionLeases := s.renderTransactionLeases.erase transaction.subtree.key })

/-! ## Whole calls -/

/-- `begin_render_transaction` without a fault: when the recovery raises, the token is released. -/
def beginRenderTransaction (s : Store) (caller : Context) (subtree : Path)
    (completionFile : String) : Outcome Token :=
  match s.registerRenderTransaction caller subtree completionFile true with
  | (.error error, s) => (.error error, s)
  | (.ok token, s) =>
    if (s.transactions.lookup token).any (·.complete) then (.ok token, s)
    else match s.recoverRenderTransaction token {} with
      | (.error error, s) => (.error error, (s.releaseRenderTransaction token).2)
      | (.ok _, s) => (.ok token, s)

/-- `_RenderTransaction.commit` without a fault, with the release of its lease. -/
def commitTransaction (s : Store) (token : Token) (caller : Context) : Outcome Unit :=
  match s.commitRenderTransaction token caller true true {} with
  | (.error error, s) => (.error error, (s.releaseRenderTransaction token).2)
  | (.ok _, s) => s.releaseRenderTransaction token

/-- `_RenderTransaction.rollback` without a fault, with the release of its lease. It does nothing to
a transaction that is closed. -/
def rollbackTransaction (s : Store) (token : Token) (caller : Context) : Outcome Unit :=
  match s.rollbackRenderTransaction token caller true {} with
  | (.error error, s) => (.error error, (s.releaseRenderTransaction token).2)
  | (.ok _, s) => (.ok (), (s.releaseRenderTransaction token).2)

end Store

end NplgMcp
