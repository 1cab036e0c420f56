import Aggkit.Sync.Block

/-! `EVMDownloader.Download`, the loop that turns a chain into an ordered stream of blocks.

The loop body is `downloadIteration`; a run is a sequence of passes, each answered by the
downloader's collaborators (`EVMDownloaderInterface`). The check of `ctx.Done()` at the top
of the loop ends the run, so a run is modelled by the finite list of passes it makes. The
test hook `stopDownloaderOnIterationN` only ends a run early and is left out. -/
namespace Aggkit.Sync

/-- The `EVMDownloader` fields `Download` reads. -/
structure EVMDownloader where
  syncBlockChunkSize : Nat
  /-- `finalizedBlockType.IsFinalized()`. -/
  finalizedBlockTypeIsFinalized : Bool

/-- What the `EVMDownloaderInterface` answers during one pass of the loop. -/
structure ChainReplies (Event : Type) where
  /-- `WaitForNewBlocks(ctx, lastBlockSeen)`. -/
  waitForNewBlocks : Nat → Nat
  /-- `GetLastFinalizedBlock(ctx)`: the number of the header, `none` for an error. -/
  getLastFinalizedBlock : Option Nat
  /-- `GetEventsByBlockRange(ctx, fromBlock, toBlock)`; a nil slice is `[]`. -/
  getEventsByBlockRange : Nat → Nat → List (EVMBlock Event)
  /-- `GetBlockHeader(ctx, blockNum)`; `none` when it reports the context cancelled. -/
  getBlockHeader : Nat → Option EVMBlockHeader

/-- The loop variables of `Download`. -/
structure DownloadState where
  fromBlock : Nat
  toBlock : Nat
  lastBlock : Nat
  reachTop : Bool
deriving DecidableEq, Repr

variable {Event : Type}

namespace EVMDownloader

/-- The loop variables on entry: `lastBlock` is the head `WaitForNewBlocks(ctx, 0)` returned. -/
def start (d : EVMDownloader) (fromBlock firstHead : Nat) : DownloadState :=
  { fromBlock, toBlock := add64 fromBlock d.syncBlockChunkSize, lastBlock := firstHead,
    reachTop := false }

/-- `reportBlocks`: every block is sent, marked final when it is at or below the last
finalized block and the finalized-type tag is a final one. -/
def reportBlocks (d : EVMDownloader) (blocks : List (EVMBlock Event))
    (lastFinalizedBlock : Nat) : List (EVMBlock Event) :=
  blocks.map fun block => { block with
    isFinalizedBlock := d.finalizedBlockTypeIsFinalized && decide (block.num ≤ lastFinalizedBlock) }

/-- `reportEmptyBlock`: a block without events at `blockNum`, unless fetching its header
reports the context cancelled. -/
def reportEmptyBlock (d : EVMDownloader) (r : ChainReplies Event)
    (blockNum lastFinalizedBlock : Nat) : List (EVMBlock Event) :=
  match r.getBlockHeader blockNum with
  | none => []
  | some header =>
    [{ toEVMBlockHeader := header, events := [],
       isFinalizedBlock := d.finalizedBlockTypeIsFinalized && decide (header.num ≤ lastFinalizedBlock) }]

/-- The head of a pass: it waits for a new block when the range starts past the last block
seen or has reached it, and then clears `reachTop`. `fromBlock - toBlock` wraps. -/
def waitIfNeeded (d : EVMDownloader) (r : ChainReplies Event) (s : DownloadState) :
    DownloadState :=
  if s.lastBlock < s.fromBlock ∨ (s.reachTop = true ∧ s.lastBlock ≤ s.toBlock) then
    { s with
      lastBlock := r.waitForNewBlocks s.lastBlock
      toBlock := if sub64 s.fromBlock s.toBlock < d.syncBlockChunkSize
        then add64 s.fromBlock d.syncBlockChunkSize else s.toBlock
      reachTop := false }
  else { s with reachTop := false }

/-- `fromBlock = next; toBlock = fromBlock + syncBlockChunkSize`. -/
def advance (d : EVMDownloader) (s : DownloadState) (next : Nat) (reachTop : Bool) :
    DownloadState :=
  { fromBlock := next, toBlock := add64 next d.syncBlockChunkSize, lastBlock := s.lastBlock,
    reachTop }

@[simp] theorem advance_fromBlock (d : EVMDownloader) (s : DownloadState) (next : Nat)
    (reachTop : Bool) : (d.advance s next reachTop).fromBlock = next := rfl

@[simp] theorem advance_toBlock (d : EVMDownloader) (s : DownloadState) (next : Nat)
    (reachTop : Bool) : (d.advance s next reachTop).toBlock = add64 next d.syncBlockChunkSize := rfl

@[simp] theorem advance_lastBlock (d : EVMDownloader) (s : DownloadState) (next : Nat)
    (reachTop : Bool) : (d.advance s next reachTop).lastBlock = s.lastBlock := rfl

/-- `toBlock += syncBlockChunkSize`: the range grows until logs are found or the last
finalized block is reached. -/
def extendRange (d : EVMDownloader) (s : DownloadState) (reachTop : Bool) : DownloadState :=
  { s with toBlock := add64 s.toBlock d.syncBlockChunkSize, reachTop }

@[simp] theorem extendRange_fromBlock (d : EVMDownloader) (s : DownloadState) (reachTop : Bool) :
    (d.extendRange s reachTop).fromBlock = s.fromBlock := rfl

@[simp] theorem extendRange_toBlock (d : EVMDownloader) (s : DownloadState) (reachTop : Bool) :
    (d.extendRange s reachTop).toBlock = add64 s.toBlock d.syncBlockChunkSize := rfl

@[simp] theorem extendRange_lastBlock (d : EVMDownloader) (s : DownloadState) (reachTop : Bool) :
    (d.extendRange s reachTop).lastBlock = s.lastBlock := rfl

/-- The end of the range a pass queries: `toBlock`, cut at the last block seen. -/
def requestToBlock (s : DownloadState) : Nat :=
  if s.lastBlock ≤ s.toBlock then s.lastBlock else s.toBlock

/-- The rest of a pass once the last finalized block is known: query the range, then
report it in the safe zone (at or below the finalized block), or beyond it report what
was found, a checkpoint at the finalized block, or extend the range. -/
def downloadRange (d : EVMDownloader) (r : ChainReplies Event) (s : DownloadState)
    (lastFinalizedBlockNumber : Nat) : DownloadState × List (EVMBlock Event) :=
  let reachTop := decide (s.lastBlock ≤ s.toBlock)
  let blocks := r.getEventsByBlockRange s.fromBlock (requestToBlock s)
  if requestToBlock s ≤ lastFinalizedBlockNumber then
    (d.advance s (add64 (requestToBlock s) 1) reachTop,
      d.reportBlocks blocks lastFinalizedBlockNumber ++
        if blocks.getLast?.all (·.num < requestToBlock s) then
          d.reportEmptyBlock r (requestToBlock s) lastFinalizedBlockNumber
        else [])
  else
    match blocks.getLast? with
    | none =>
      if s.fromBlock ≤ lastFinalizedBlockNumber then
        (d.advance s (add64 lastFinalizedBlockNumber 1) reachTop,
          d.reportEmptyBlock r lastFinalizedBlockNumber lastFinalizedBlockNumber)
      else (d.extendRange s reachTop, [])
    | some last => (d.advance s (add64 last.num 1) reachTop, d.reportBlocks blocks lastFinalizedBlockNumber)

/-- One pass of the `Download` loop: the loop variables after it and the blocks it sends on
`downloadedCh`. An error from `GetLastFinalizedBlock` ends the pass (`continue`). -/
def downloadIteration (d : EVMDownloader) (r : ChainReplies Event) (s : DownloadState) :
    DownloadState × List (EVMBlock Event) :=
  match r.getLastFinalizedBlock with
  | none => (d.waitIfNeeded r s, [])
  | some finalized =>
    let s := d.waitIfNeeded r s
    d.downloadRange r s (min s.lastBlock finalized)

/-- A run of `Download`: the passes are folded over the loop variables, and the blocks they
send are appended to those sent before. -/
def download (d : EVMDownloader) : List (ChainReplies Event) → DownloadState →
    List (EVMBlock Event) → DownloadState × List (EVMBlock Event)
  | [], s, sent => (s, sent)
  | r :: rs, s, sent =>
    d.download rs (d.downloadIteration r s).1 (sent ++ (d.downloadIteration r s).2)

end EVMDownloader

end Aggkit.Sync
