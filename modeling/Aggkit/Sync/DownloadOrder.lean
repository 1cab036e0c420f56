import Aggkit.Sync.Download

/-! The blocks `Download` sends, over every run: their numbers strictly increase, and
with exact event queries every block carrying events is sent once, with its events.

One lemma says what a pass can do (`downloadIteration_cases`): stay on its range sending
nothing, or report its range up to some block `hi` and move past it. The invariants
`Tracked`, `Progress` and `Delivered` are preserved by every pass, and so by every run. -/
namespace Aggkit.Sync

open EVMDownloader

variable {Event : Type} {d : EVMDownloader} {r : ChainReplies Event} {s : DownloadState}

/-- The collaborator answers the claims assume: heads grow, event queries return ascending
blocks of the queried range or nil, and a header is the one asked for. -/
structure RepliesInRange (r : ChainReplies Event) : Prop where
  waitGrows : ∀ x, x < r.waitForNewBlocks x
  eventsAscending : ∀ a b, Ascending (r.getEventsByBlockRange a b)
  eventsInRange : ∀ a b, ∀ blk ∈ r.getEventsByBlockRange a b, a ≤ blk.num ∧ blk.num ≤ b
  headerNumbered : ∀ n header, r.getBlockHeader n = some header → header.num = n

/-- No `uint64` sum of a pass wraps around. -/
structure IterationFits (d : EVMDownloader) (r : ChainReplies Event) (s : DownloadState) :
    Prop where
  restart : s.fromBlock + d.syncBlockChunkSize < 2 ^ 64
  extend : (d.waitIfNeeded r s).toBlock + d.syncBlockChunkSize < 2 ^ 64
  advance : (d.waitIfNeeded r s).lastBlock + 1 + d.syncBlockChunkSize < 2 ^ 64

/-- No `uint64` sum of a run wraps around. -/
def RunFits (d : EVMDownloader) : List (ChainReplies Event) → DownloadState → Prop
  | [], _ => True
  | r :: rs, s => IterationFits d r s ∧ RunFits d rs (d.downloadIteration r s).1

/-! ### Reporting -/

theorem mem_reportBlocks {blocks : List (EVMBlock Event)} {f : Nat} {b : EVMBlock Event}
    (member : b ∈ d.reportBlocks blocks f) : ∃ c ∈ blocks, b.num = c.num ∧ b.events = c.events := by
  obtain ⟨c, mem, rfl⟩ := List.mem_map.mp member
  exact ⟨c, mem, rfl, rfl⟩

theorem ascending_reportBlocks {blocks : List (EVMBlock Event)} (f : Nat)
    (ascending : Ascending blocks) : Ascending (d.reportBlocks blocks f) :=
  List.pairwise_map.mpr ascending

theorem mem_reportEmptyBlock {n f : Nat} {b : EVMBlock Event}
    (numbered : ∀ header, r.getBlockHeader n = some header → header.num = n)
    (member : b ∈ d.reportEmptyBlock r n f) : b.num = n ∧ b.events = [] := by
  unfold reportEmptyBlock at member
  split at member
  · simp at member
  · next header found =>
    simp only [List.mem_singleton] at member
    subst member
    exact ⟨numbered header found, rfl⟩

theorem ascending_reportEmptyBlock (n f : Nat) : Ascending (d.reportEmptyBlock r n f) := by
  unfold reportEmptyBlock
  split <;> simp [Ascending]

/-- Each block a report up to `hi` sends is a block of the query, or the checkpoint at `hi`,
sent only when every block of the query is below `hi`. -/
theorem mem_report {blocks : List (EVMBlock Event)} {hi f : Nat} {b : EVMBlock Event}
    (numbered : ∀ header, r.getBlockHeader hi = some header → header.num = hi)
    (member : b ∈ d.reportBlocks blocks f ++
      if blocks.getLast?.all (·.num < hi) then d.reportEmptyBlock r hi f else []) :
    (∃ c ∈ blocks, b.num = c.num ∧ b.events = c.events) ∨
      (b.num = hi ∧ b.events = [] ∧ blocks.getLast?.all (·.num < hi)) := by
  rcases List.mem_append.mp member with queried | checkpoint
  · exact .inl (mem_reportBlocks queried)
  · split at checkpoint
    · next below =>
      have empty := mem_reportEmptyBlock numbered checkpoint
      exact .inr ⟨empty.1, empty.2, below⟩
    · simp at checkpoint

theorem ascending_report {blocks : List (EVMBlock Event)} {hi : Nat} (f : Nat)
    (numbered : ∀ header, r.getBlockHeader hi = some header → header.num = hi)
    (ascending : Ascending blocks) :
    Ascending (d.reportBlocks blocks f ++
      if blocks.getLast?.all (·.num < hi) then d.reportEmptyBlock r hi f else []) := by
  refine List.pairwise_append.mpr ⟨ascending_reportBlocks f ascending, ?_, ?_⟩
  · split
    · exact ascending_reportEmptyBlock hi f
    · exact List.Pairwise.nil
  · intro a queried b checkpoint
    obtain ⟨c, member, same, -⟩ := mem_reportBlocks queried
    split at checkpoint
    · next below =>
      rw [same, (mem_reportEmptyBlock numbered checkpoint).1]
      exact ascending.lt_of_last below c member
    · simp at checkpoint

/-! ### Waiting for new blocks -/

@[simp] theorem waitIfNeeded_fromBlock : (d.waitIfNeeded r s).fromBlock = s.fromBlock := by
  unfold waitIfNeeded; split <;> rfl

theorem lastBlock_le_waitIfNeeded (grows : ∀ x, x < r.waitForNewBlocks x) :
    s.lastBlock ≤ (d.waitIfNeeded r s).lastBlock := by
  unfold waitIfNeeded
  split
  · exact Nat.le_of_lt (grows _)
  · exact Nat.le_refl _

/-- After the wait the range starts at or below the last block seen, unless it started more
than one block past it. -/
theorem fromBlock_le_waitIfNeeded (grows : ∀ x, x < r.waitForNewBlocks x)
    (near : s.fromBlock ≤ s.lastBlock + 1) : s.fromBlock ≤ (d.waitIfNeeded r s).lastBlock := by
  unfold waitIfNeeded
  split
  · have := grows s.lastBlock
    dsimp only
    omega
  · next stays =>
    dsimp only
    omega

theorem window_waitIfNeeded (window : s.fromBlock ≤ s.toBlock)
    (restart : s.fromBlock + d.syncBlockChunkSize < 2 ^ 64) :
    (d.waitIfNeeded r s).fromBlock ≤ (d.waitIfNeeded r s).toBlock := by
  unfold waitIfNeeded
  split
  · dsimp only
    split
    · rw [add64_of_lt restart]; omega
    · exact window
  · exact window

theorem requestToBlock_le_lastBlock : requestToBlock s ≤ s.lastBlock := by
  unfold requestToBlock; split <;> omega

theorem fromBlock_le_requestToBlock (window : s.fromBlock ≤ s.toBlock)
    (seen : s.fromBlock ≤ s.lastBlock) : s.fromBlock ≤ requestToBlock s := by
  unfold requestToBlock; split <;> omega

/-! ### One pass -/

/-- What the rest of a pass does: it extends its range and sends nothing, or it reports the
blocks of its range up to some `hi` (with a checkpoint at `hi` when no block ends there)
and moves the range past `hi`. -/
theorem downloadRange_cases {w : DownloadState} {f : Nat}
    (ascending : Ascending (r.getEventsByBlockRange w.fromBlock (requestToBlock w)))
    (inRange : ∀ blk ∈ r.getEventsByBlockRange w.fromBlock (requestToBlock w),
      w.fromBlock ≤ blk.num ∧ blk.num ≤ requestToBlock w) :
    d.downloadRange r w f = (d.extendRange w (decide (w.lastBlock ≤ w.toBlock)), []) ∨
    ∃ hi, hi ≤ requestToBlock w ∧
      (∀ b ∈ r.getEventsByBlockRange w.fromBlock (requestToBlock w), b.num ≤ hi) ∧
      (w.fromBlock ≤ hi ∨ hi = requestToBlock w) ∧
      d.downloadRange r w f = (d.advance w (add64 hi 1) (decide (w.lastBlock ≤ w.toBlock)),
        d.reportBlocks (r.getEventsByBlockRange w.fromBlock (requestToBlock w)) f ++
          if (r.getEventsByBlockRange w.fromBlock (requestToBlock w)).getLast?.all (·.num < hi)
          then d.reportEmptyBlock r hi f else []) := by
  unfold downloadRange
  by_cases safe : requestToBlock w ≤ f
  · exact .inr ⟨_, le_rfl, fun b mem => (inRange b mem).2, .inr rfl, by simp only [if_pos safe]⟩
  · simp only [if_neg safe]
    cases isLast : (r.getEventsByBlockRange w.fromBlock (requestToBlock w)).getLast? with
    | none =>
      have empty := List.getLast?_eq_none_iff.mp isLast
      by_cases reached : w.fromBlock ≤ f
      · refine .inr ⟨f, by omega, by simp [empty], .inl reached, ?_⟩
        simp [reached, empty, reportBlocks]
      · exact .inl (by simp only [if_neg reached])
    | some last =>
      have lastIn := inRange last (List.mem_of_getLast?_eq_some isLast)
      refine .inr ⟨last.num, lastIn.2, ascending.le_last isLast, .inl lastIn.1, ?_⟩
      simp [isLast]

/-- What one pass does: the rest of the pass after the wait, or, when the last finalized
block is not known, nothing beyond the wait. -/
theorem downloadIteration_cases :
    d.downloadIteration r s = (d.waitIfNeeded r s, []) ∨
    ∃ f, d.downloadIteration r s = d.downloadRange r (d.waitIfNeeded r s) f := by
  unfold downloadIteration
  cases r.getLastFinalizedBlock with
  | none => exact .inl rfl
  | some finalized => exact .inr ⟨_, rfl⟩

/-! ### Order -/

/-- The invariant of the order of sent blocks: they ascend and lie below the range, the range
starts at most one block past the last block seen once something was sent, and the range
is not empty. -/
structure Tracked (s : DownloadState) (sent : List (EVMBlock Event)) : Prop where
  ascending : Ascending sent
  below : ∀ b ∈ sent, b.num < s.fromBlock
  caughtUp : sent ≠ [] → s.fromBlock ≤ s.lastBlock + 1
  window : s.fromBlock ≤ s.toBlock

/-- A range that starts at most one block past the last block seen starts within the range
the pass queries, once the pass has waited. -/
theorem startsWithin (window : s.fromBlock ≤ s.toBlock) (replies : RepliesInRange r)
    (fits : IterationFits d r s) (near : s.fromBlock ≤ s.lastBlock + 1) :
    s.fromBlock ≤ requestToBlock (d.waitIfNeeded r s) := by
  have seen := fromBlock_le_waitIfNeeded (d := d) replies.waitGrows near
  have window := window_waitIfNeeded (r := r) window fits.restart
  simpa using fromBlock_le_requestToBlock (s := d.waitIfNeeded r s) window (by simpa using seen)

/-- Where a report up to `hi` leaves the range: just past `hi`, without wrapping. -/
theorem advance_fits {hi : Nat} (fits : IterationFits d r s)
    (hiLe : hi ≤ requestToBlock (d.waitIfNeeded r s)) (reachTop : Bool) :
    (d.advance (d.waitIfNeeded r s) (add64 hi 1) reachTop).fromBlock = hi + 1 ∧
    (d.advance (d.waitIfNeeded r s) (add64 hi 1) reachTop).toBlock =
      hi + 1 + d.syncBlockChunkSize ∧
    hi ≤ (d.advance (d.waitIfNeeded r s) (add64 hi 1) reachTop).lastBlock := by
  have hiSeen := hiLe.trans (requestToBlock_le_lastBlock (s := d.waitIfNeeded r s))
  have next : add64 hi 1 = hi + 1 := add64_of_lt (by have := fits.advance; omega)
  refine ⟨by simp [next], ?_, by simpa using hiSeen⟩
  simpa [next] using add64_of_lt (a := hi + 1) (by have := fits.advance; omega)

/-- Every pass keeps `Tracked`. -/
theorem Tracked.iteration {sent : List (EVMBlock Event)} (tracked : Tracked s sent)
    (replies : RepliesInRange r) (fits : IterationFits d r s) :
    Tracked (d.downloadIteration r s).1 (sent ++ (d.downloadIteration r s).2) := by
  have window := window_waitIfNeeded (r := r) tracked.window fits.restart
  have grows : s.lastBlock ≤ (d.waitIfNeeded r s).lastBlock :=
    lastBlock_le_waitIfNeeded replies.waitGrows
  simp only [waitIfNeeded_fromBlock] at window
  rcases downloadIteration_cases (d := d) (r := r) (s := s) with stay | ⟨f, pass⟩
  · rw [stay]
    exact ⟨by simpa using tracked.ascending, by simpa using tracked.below,
      fun sentSome => by have := tracked.caughtUp (by simpa using sentSome); simp; omega,
      by simpa using window⟩
  rw [pass]
  rcases downloadRange_cases (replies.eventsAscending _ _) (replies.eventsInRange _ _) with
    extend | ⟨hi, hiLe, top, start, report⟩
  · rw [extend]
    have extended := add64_of_lt fits.extend
    exact ⟨by simpa using tracked.ascending, by simpa using tracked.below,
      fun sentSome => by have := tracked.caughtUp (by simpa using sentSome); simp; omega,
      by simp only [extendRange_fromBlock, extendRange_toBlock, extended, waitIfNeeded_fromBlock]
         omega⟩
  rw [report]
  dsimp only
  set blocks := r.getEventsByBlockRange (d.waitIfNeeded r s).fromBlock
    (requestToBlock (d.waitIfNeeded r s))
  obtain ⟨next, nextEnd, hiSeen⟩ := advance_fits fits hiLe (decide
    ((d.waitIfNeeded r s).lastBlock ≤ (d.waitIfNeeded r s).toBlock))
  -- once something was sent, the report starts at or after the range
  have after : sent ≠ [] → s.fromBlock ≤ hi := fun sentSome => by
    have := startsWithin tracked.window replies fits (tracked.caughtUp sentSome)
    simp only [waitIfNeeded_fromBlock] at start
    omega
  have reported : ∀ b ∈ d.reportBlocks blocks f ++
      (if blocks.getLast?.all (·.num < hi) then d.reportEmptyBlock r hi f else []),
      (∃ c ∈ blocks, b.num = c.num ∧ b.events = c.events) ∨
        (b.num = hi ∧ b.events = [] ∧ blocks.getLast?.all (·.num < hi)) :=
    fun b member => mem_report (replies.headerNumbered hi) member
  refine ⟨List.pairwise_append.mpr ⟨tracked.ascending,
      ascending_report f (replies.headerNumbered hi) (replies.eventsAscending _ _), ?_⟩, ?_, ?_, ?_⟩
  · intro a old b new
    have sentSome : sent ≠ [] := List.ne_nil_of_mem old
    have := tracked.below a old
    rcases reported b new with ⟨c, member, same, -⟩ | ⟨isHi, -, -⟩
    · have := (replies.eventsInRange _ _ c member).1
      simp only [waitIfNeeded_fromBlock] at this
      omega
    · have := after sentSome
      omega
  · intro b member
    rw [next]
    rcases List.mem_append.mp member with old | new
    · have := tracked.below b old
      have := after (List.ne_nil_of_mem old)
      omega
    · rcases reported b new with ⟨c, mem, same, -⟩ | ⟨isHi, -, -⟩
      · have := top c mem
        omega
      · omega
  · intro _
    omega
  · omega

/-- `Tracked` holds on entry, when the first range does not wrap. -/
theorem Tracked.start (d : EVMDownloader) (f0 firstHead : Nat)
    (fits : f0 + d.syncBlockChunkSize < 2 ^ 64) :
    Tracked (d.start f0 firstHead) ([] : List (EVMBlock Event)) :=
  ⟨List.Pairwise.nil, by simp, by simp, by simp [EVMDownloader.start, add64_of_lt fits]⟩

/-! ### Runs -/

/-- A property of the loop variables and of what was sent that every pass keeps holds after
every run. -/
theorem download_induction {rs : List (ChainReplies Event)}
    (P : DownloadState → List (EVMBlock Event) → Prop)
    (pass : ∀ r ∈ rs, ∀ s sent, IterationFits d r s → P s sent →
      P (d.downloadIteration r s).1 (sent ++ (d.downloadIteration r s).2))
    {sent : List (EVMBlock Event)} (fits : RunFits d rs s) (init : P s sent) :
    P (d.download rs s sent).1 (d.download rs s sent).2 := by
  induction rs generalizing s sent with
  | nil => exact init
  | cons r rs ih =>
    exact ih (fun r' member => pass r' (List.mem_cons_of_mem r member)) fits.2
      (pass r (List.mem_cons_self r rs) s sent fits.1 init)

/-- The invariant of the lower bound: the range never starts below `f0` nor more than one block
past the last block seen, and every block sent is at or above `f0`. -/
structure Progress (f0 : Nat) (s : DownloadState) (sent : List (EVMBlock Event)) : Prop where
  started : f0 ≤ s.fromBlock
  near : s.fromBlock ≤ s.lastBlock + 1
  above : ∀ b ∈ sent, f0 ≤ b.num

/-- Every pass keeps `Progress`. -/
theorem Progress.iteration {f0 : Nat} {sent : List (EVMBlock Event)}
    (progress : Progress f0 s sent) (tracked : Tracked s sent) (replies : RepliesInRange r)
    (fits : IterationFits d r s) :
    Progress f0 (d.downloadIteration r s).1 (sent ++ (d.downloadIteration r s).2) := by
  have grows : s.lastBlock ≤ (d.waitIfNeeded r s).lastBlock :=
    lastBlock_le_waitIfNeeded replies.waitGrows
  have within := startsWithin tracked.window replies fits progress.near
  have := requestToBlock_le_lastBlock (s := d.waitIfNeeded r s)
  rcases downloadIteration_cases (d := d) (r := r) (s := s) with stay | ⟨f, pass⟩
  · rw [stay]
    exact ⟨by simpa using progress.started, by simp; omega, by simpa using progress.above⟩
  rw [pass]
  rcases downloadRange_cases (replies.eventsAscending _ _) (replies.eventsInRange _ _) with
    extend | ⟨hi, hiLe, top, start, report⟩
  · rw [extend]
    exact ⟨by simpa using progress.started, by simp; omega, by simpa using progress.above⟩
  rw [report]
  dsimp only
  obtain ⟨next, -, hiSeen⟩ := advance_fits fits hiLe (decide
    ((d.waitIfNeeded r s).lastBlock ≤ (d.waitIfNeeded r s).toBlock))
  simp only [waitIfNeeded_fromBlock] at start
  have fromHi : s.fromBlock ≤ hi := by omega
  refine ⟨by have := progress.started; omega, by omega, fun b member => ?_⟩
  rcases List.mem_append.mp member with old | new
  · exact progress.above b old
  · have := progress.started
    rcases mem_report (replies.headerNumbered hi) new with ⟨c, mem, same, -⟩ | ⟨isHi, -, -⟩
    · have := (replies.eventsInRange _ _ c mem).1
      simp only [waitIfNeeded_fromBlock] at this
      omega
    · omega

/-- The order of what `Download` sends, as the code guarantees it: on every run whose
collaborators answer as assumed and whose `uint64` sums do not wrap, the numbers of the sent
blocks strictly increase, and they are at or above the starting block `f0` whenever `f0` is
at most one past the first head seen. -/
theorem download_sends_ascending (d : EVMDownloader) (f0 firstHead : Nat)
    (rs : List (ChainReplies Event)) (replies : ∀ r ∈ rs, RepliesInRange r)
    (fits : RunFits d rs (d.start f0 firstHead)) :
    Ascending (d.download rs (d.start f0 firstHead) []).2 ∧
      (f0 ≤ firstHead + 1 → ∀ b ∈ (d.download rs (d.start f0 firstHead) []).2, f0 ≤ b.num) := by
  cases rs with
  | nil => exact ⟨List.Pairwise.nil, by simp [EVMDownloader.download]⟩
  | cons r rs =>
    have init : Tracked (d.start f0 firstHead) ([] : List (EVMBlock Event)) :=
      Tracked.start d f0 firstHead (by simpa using fits.1.restart)
    have tracked := download_induction (@Tracked Event)
      (fun r member _ _ fits tracked => tracked.iteration (replies r member) fits) fits init
    refine ⟨tracked.ascending, fun caughtUp => ?_⟩
    have both := download_induction (fun s sent => Tracked s sent ∧ Progress f0 s sent)
      (fun r member _ _ fits inv =>
        ⟨inv.1.iteration (replies r member) fits, inv.2.iteration inv.1 (replies r member) fits⟩)
      fits ⟨init, ⟨le_rfl, caughtUp, by simp⟩⟩
    exact both.2.above

/-- A chain whose heads grow by one, whose last finalized block is 100, where no range has
events and headers are the ones asked for. -/
def quietChain : ChainReplies Unit :=
  { waitForNewBlocks := fun x => x + 1, getLastFinalizedBlock := some 100,
    getEventsByBlockRange := fun _ _ => [], getBlockHeader := fun n => some ⟨n, 0, 0, 0⟩ }

theorem quietChain_inRange : RepliesInRange quietChain := by
  refine ⟨fun x => Nat.lt_succ_self x, fun _ _ => List.Pairwise.nil, fun _ _ _ member => by
    simp [quietChain] at member, fun n header found => ?_⟩
  simp only [quietChain, Option.some.injEq] at found
  exact found ▸ rfl

/-- The chain of `quietChain` with one event, in block 9. -/
def blockNineChain : ChainReplies Unit :=
  { quietChain with
    getEventsByBlockRange := fun a b =>
      if a ≤ 9 ∧ 9 ≤ b then [⟨⟨9, 0, 0, 0⟩, false, [()]⟩] else [] }

theorem blockNineChain_inRange : RepliesInRange blockNineChain := by
  refine ⟨quietChain_inRange.waitGrows, fun a b => ?_, fun a b blk member => ?_,
    quietChain_inRange.headerNumbered⟩
  · simp only [blockNineChain]
    split_ifs <;> simp [Ascending]
  · simp only [blockNineChain] at member
    split_ifs at member with nine
    · simp only [List.mem_singleton] at member
      exact member ▸ nine
    · cases member

/-- The order theorem on a run of two passes over `blockNineChain` from block 0, which sends
block 9 with its event. -/
theorem download_sends_ascending_blockNine :
    (∀ r ∈ [blockNineChain, blockNineChain], RepliesInRange r) ∧
    RunFits ⟨10, true⟩ [blockNineChain, blockNineChain] ((EVMDownloader.mk 10 true).start 0 10) ∧
    Ascending (EVMDownloader.download ⟨10, true⟩ [blockNineChain, blockNineChain]
      ((EVMDownloader.mk 10 true).start 0 10) []).2 ∧
    ∃ b ∈ (EVMDownloader.download ⟨10, true⟩ [blockNineChain, blockNineChain]
      ((EVMDownloader.mk 10 true).start 0 10) []).2, b.num = 9 ∧ b.events = [()] := by
  have replies : ∀ r ∈ [blockNineChain, blockNineChain], RepliesInRange r := by
    simp [blockNineChain_inRange]
  have fits : RunFits ⟨10, true⟩ [blockNineChain, blockNineChain]
      ((EVMDownloader.mk 10 true).start 0 10) :=
    ⟨⟨by decide, by decide, by decide⟩, ⟨by decide, by decide, by decide⟩, trivial⟩
  exact ⟨replies, fits, (download_sends_ascending _ 0 10 _ replies fits).1, by decide⟩

/-- Two runs that break the order claim as stated. Starting at block 10 when the first head
is 5, the downloader sends a checkpoint at block 6, below its start; with a chunk size of
`2^64 - 1` the range end wraps below its start and block 4 is sent twice. -/
theorem download_order_fails :
    RepliesInRange quietChain ∧
    ¬ (∀ b ∈ (EVMDownloader.download ⟨1, true⟩ [quietChain]
        ((EVMDownloader.mk 1 true).start 10 5) []).2, 10 ≤ b.num) ∧
    ¬ Ascending (EVMDownloader.download ⟨2 ^ 64 - 1, true⟩ [quietChain, quietChain]
        ((EVMDownloader.mk (2 ^ 64 - 1) true).start 5 10) []).2 :=
  ⟨quietChain_inRange, by decide, by decide⟩

end Aggkit.Sync
