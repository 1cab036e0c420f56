import Aggkit.Sync.DownloadOrder

/-! Delivery of events by `Download`: with event queries that answer exactly, every block
carrying events is sent once, with its events, before any later block. A query that gives
up (`getEventsByBlockRangeWithRetry` returns nil once its retries are exhausted) is taken for
an empty range, and the blocks of that range are skipped.

The invariant `Delivered` says that every block below the range carrying events was sent,
and that every block sent carries its own events. -/
namespace Aggkit.Sync

open EVMDownloader

variable {Event : Type} {d : EVMDownloader} {r : ChainReplies Event} {s : DownloadState}

/-- The blocks of `[a, b]` that carry events, in order, with their events. -/
def eventBlocks (events : Nat → List Event) (a b : Nat) : List (Nat × List Event) :=
  ((List.range' a (b + 1 - a)).filter fun m => !(events m).isEmpty).map fun m => (m, events m)

/-- `GetEventsByBlockRange(a, b)` answers with exactly the blocks of `[a, b]` that carry
events, each with its events. -/
def ExactEvents (events : Nat → List Event) (r : ChainReplies Event) : Prop :=
  ∀ a b, (r.getEventsByBlockRange a b).map (fun blk => (blk.num, blk.events)) =
    eventBlocks events a b

/-- The answers of the delivery claim: heads grow, headers are the ones asked for, and every
event query answers exactly. -/
structure RepliesExact (events : Nat → List Event) (r : ChainReplies Event) : Prop where
  waitGrows : ∀ x, x < r.waitForNewBlocks x
  exact : ExactEvents events r
  headerNumbered : ∀ n header, r.getBlockHeader n = some header → header.num = n

/-- The delivery claim as it is written: an event query answers exactly, or with nil. -/
structure RepliesExactOrNil (events : Nat → List Event) (r : ChainReplies Event) : Prop where
  waitGrows : ∀ x, x < r.waitForNewBlocks x
  exactOrNil : ∀ a b, r.getEventsByBlockRange a b = [] ∨
    (r.getEventsByBlockRange a b).map (fun blk => (blk.num, blk.events)) = eventBlocks events a b
  headerNumbered : ∀ n header, r.getBlockHeader n = some header → header.num = n

/-- What the delivery claim asks of the blocks sent: whenever a block is sent, every block
from `f0` up to it that carries events has been sent, before it or as it, exactly once and
with exactly its events. -/
def DeliversEvents (events : Nat → List Event) (f0 : Nat) (sent : List (EVMBlock Event)) :
    Prop :=
  ∀ pre b post, sent = pre ++ b :: post → ∀ m, f0 ≤ m → m ≤ b.num → events m ≠ [] →
    ∃ blk, (pre ++ [b]).filter (fun x => x.num = m) = [blk] ∧ blk.events = events m

/-! ### Exact answers -/

theorem mem_eventBlocks {events : Nat → List Event} {a b m : Nat} {evs : List Event} :
    (m, evs) ∈ eventBlocks events a b ↔ a ≤ m ∧ m ≤ b ∧ events m ≠ [] ∧ evs = events m := by
  simp only [eventBlocks, List.mem_map, List.mem_filter, List.mem_range'_1, Prod.mk.injEq]
  constructor
  · rintro ⟨m', ⟨⟨lo, hi⟩, carries⟩, rfl, rfl⟩
    exact ⟨lo, by omega, by simpa using carries, rfl⟩
  · rintro ⟨lo, hi, carries, rfl⟩
    exact ⟨m, ⟨⟨lo, by omega⟩, by simpa using carries⟩, rfl, rfl⟩

theorem ExactEvents.mem {events : Nat → List Event} (exact : ExactEvents events r) {a b : Nat}
    {blk : EVMBlock Event} (member : blk ∈ r.getEventsByBlockRange a b) :
    a ≤ blk.num ∧ blk.num ≤ b ∧ events blk.num ≠ [] ∧ blk.events = events blk.num := by
  have listed : (blk.num, blk.events) ∈ eventBlocks events a b :=
    exact a b ▸ List.mem_map_of_mem _ member
  exact mem_eventBlocks.mp listed

theorem ExactEvents.complete {events : Nat → List Event} (exact : ExactEvents events r)
    {a b m : Nat} (lo : a ≤ m) (hi : m ≤ b) (carries : events m ≠ []) :
    ∃ blk ∈ r.getEventsByBlockRange a b, blk.num = m := by
  have listed : (m, events m) ∈ (r.getEventsByBlockRange a b).map
      (fun blk => (blk.num, blk.events)) := exact a b ▸ mem_eventBlocks.mpr ⟨lo, hi, carries, rfl⟩
  obtain ⟨blk, member, same⟩ := List.mem_map.mp listed
  exact ⟨blk, member, congrArg Prod.fst same⟩

theorem ExactEvents.ascending {events : Nat → List Event} (exact : ExactEvents events r)
    (a b : Nat) : Ascending (r.getEventsByBlockRange a b) := by
  have numbers : ((List.range' a (b + 1 - a)).filter fun m => !(events m).isEmpty).Pairwise
      (· < ·) := (List.pairwise_lt_range' a _).filter _
  have listed := exact a b
  unfold eventBlocks at listed
  have pairs := (List.pairwise_map (R := fun x y : Nat × List Event => x.1 < y.1)
    (f := fun m => (m, events m))).mpr numbers
  rw [← listed] at pairs
  exact (List.pairwise_map (R := fun x y : Nat × List Event => x.1 < y.1)).mp pairs

theorem RepliesExact.inRange {events : Nat → List Event} (replies : RepliesExact events r) :
    RepliesInRange r :=
  ⟨replies.waitGrows, replies.exact.ascending,
    fun _ _ _ member => ⟨(replies.exact.mem member).1, (replies.exact.mem member).2.1⟩,
    replies.headerNumbered⟩

/-! ### The invariant -/

/-- Every block from `f0` up to the range that carries events was sent, and every block sent
from `f0` on carries its own events. -/
structure Delivered (events : Nat → List Event) (f0 : Nat) (s : DownloadState)
    (sent : List (EVMBlock Event)) : Prop where
  covered : ∀ m, f0 ≤ m → m < s.fromBlock → events m ≠ [] → ∃ b ∈ sent, b.num = m
  faithful : ∀ b ∈ sent, f0 ≤ b.num → b.events = events b.num

/-- Every pass keeps `Delivered`. -/
theorem Delivered.iteration {events : Nat → List Event} {f0 : Nat} {sent : List (EVMBlock Event)}
    (delivered : Delivered events f0 s sent) (tracked : Tracked s sent)
    (replies : RepliesExact events r) (fits : IterationFits d r s) :
    Delivered events f0 (d.downloadIteration r s).1 (sent ++ (d.downloadIteration r s).2) := by
  have inRange := replies.inRange
  rcases downloadIteration_cases (d := d) (r := r) (s := s) with stay | ⟨f, pass⟩
  · rw [stay]
    exact ⟨fun m lo hi carries => by simpa using delivered.covered m lo (by simpa using hi) carries,
      by simpa using delivered.faithful⟩
  rw [pass]
  rcases downloadRange_cases (inRange.eventsAscending _ _) (inRange.eventsInRange _ _) with
    extend | ⟨hi, hiLe, top, start, report⟩
  · rw [extend]
    exact ⟨fun m lo hi carries => by simpa using delivered.covered m lo (by simpa using hi) carries,
      by simpa using delivered.faithful⟩
  rw [report]
  dsimp only
  set blocks := r.getEventsByBlockRange (d.waitIfNeeded r s).fromBlock
    (requestToBlock (d.waitIfNeeded r s))
  obtain ⟨next, -, -⟩ := advance_fits fits hiLe (decide
    ((d.waitIfNeeded r s).lastBlock ≤ (d.waitIfNeeded r s).toBlock))
  simp only [waitIfNeeded_fromBlock] at start
  constructor
  · intro m lo below carries
    rw [next] at below
    by_cases old : m < s.fromBlock
    · obtain ⟨b, member, same⟩ := delivered.covered m lo old carries
      exact ⟨b, List.mem_append_left _ member, same⟩
    -- a block of the reported range carrying events was queried, and so reported
    obtain ⟨c, queried, same⟩ := replies.exact.complete (a := (d.waitIfNeeded r s).fromBlock)
      (b := requestToBlock (d.waitIfNeeded r s)) (by simpa using Nat.le_of_not_lt old) (by omega)
      carries
    exact ⟨_, List.mem_append_right _ (List.mem_append_left _ (List.mem_map_of_mem _ queried)), same⟩
  · intro b member lo
    rcases List.mem_append.mp member with old | new
    · exact delivered.faithful b old lo
    rcases mem_report (inRange.headerNumbered hi) new with ⟨c, queried, same, sameEvents⟩ |
      ⟨isHi, noEvents, allBelow⟩
    · rw [same, sameEvents]
      exact (replies.exact.mem queried).2.2.2
    -- the checkpoint at `hi` is sent only when `hi` carries no events
    rw [isHi, noEvents]
    by_contra carries
    have carries : events hi ≠ [] := Ne.symm carries
    by_cases reached : s.fromBlock ≤ hi
    · obtain ⟨c, queried, same⟩ := replies.exact.complete (a := (d.waitIfNeeded r s).fromBlock)
        (by simpa using reached) hiLe carries
      have := (inRange.eventsAscending _ _).lt_of_last allBelow c queried
      omega
    · -- a checkpoint below the range is sent only before anything else
      have isEnd : hi = requestToBlock (d.waitIfNeeded r s) := by omega
      obtain ⟨b', old, -⟩ := delivered.covered hi (isHi ▸ lo) (by omega) carries
      have := startsWithin tracked.window inRange fits (tracked.caughtUp (List.ne_nil_of_mem old))
      omega

/-- `Delivered` and `Tracked` together give the delivery property of what was sent. -/
theorem Delivered.delivers {events : Nat → List Event} {f0 : Nat} {sent : List (EVMBlock Event)}
    (delivered : Delivered events f0 s sent) (tracked : Tracked s sent) :
    DeliversEvents events f0 sent := by
  intro pre b post split m lo le carries
  have bSent : b ∈ sent := split ▸ List.mem_append_right _ (List.mem_cons_self b post)
  obtain ⟨c, cSent, same⟩ := delivered.covered m lo
    (Nat.lt_of_le_of_lt le (tracked.below b bSent)) carries
  have ascending : Ascending ((pre ++ [b]) ++ post) := by simpa [split] using tracked.ascending
  -- a block numbered at most `b`'s number is sent before `b` or is `b`
  have early : c ∈ pre ++ [b] := by
    have : c ∈ (pre ++ [b]) ++ post := by simpa [split] using cSent
    rcases List.mem_append.mp this with early | late
    · exact early
    · have := (List.pairwise_append.mp ascending).2.2 b (by simp) c late
      omega
  refine ⟨c, ?_, same ▸ delivered.faithful c cSent (same ▸ lo)⟩
  rw [← same]
  exact Ascending.filter_num (List.pairwise_append.mp ascending).1 early

/-- The delivery of events by `Download`, as the code guarantees it: on every run whose
collaborators answer as assumed, whose event queries answer exactly and whose `uint64` sums do
not wrap, whenever a block is sent every block from `f0` up to it carrying events has been sent
exactly once, with its events. -/
theorem download_delivers_events (d : EVMDownloader) (f0 firstHead : Nat)
    (events : Nat → List Event) (rs : List (ChainReplies Event))
    (replies : ∀ r ∈ rs, RepliesExact events r) (fits : RunFits d rs (d.start f0 firstHead)) :
    DeliversEvents events f0 (d.download rs (d.start f0 firstHead) []).2 := by
  cases rs with
  | nil => intro pre b post split; simp [EVMDownloader.download] at split
  | cons r rs =>
    have init : Tracked (d.start f0 firstHead) ([] : List (EVMBlock Event)) :=
      Tracked.start d f0 firstHead (by simpa using fits.1.restart)
    have both := download_induction (fun s sent => Tracked s sent ∧ Delivered events f0 s sent)
      (fun r member _ _ fits inv =>
        ⟨inv.1.iteration (replies r member).inRange fits,
          inv.2.iteration inv.1 (replies r member) fits⟩)
      fits ⟨init, ⟨fun m lo below _ => absurd below (by simp [EVMDownloader.start]; omega),
        by simp⟩⟩
    exact both.2.delivers both.1

/-- The events of a chain whose only block with events is `9`, carrying one event. -/
def blockNineEvents (m : Nat) : List Unit := if m = 9 then [()] else []

/-- Replies of that chain when every event query gives up, as
`getEventsByBlockRangeWithRetry` does once block hash mismatches exhaust its retries; the last
finalized block is 11. -/
def givingUpChain : ChainReplies Unit :=
  { waitForNewBlocks := fun x => x + 1, getLastFinalizedBlock := some 11,
    getEventsByBlockRange := fun _ _ => [], getBlockHeader := fun n => some ⟨n, 0, 0, 0⟩ }

/-- Replies of the same chain when every event query answers exactly. -/
def answeringChain : ChainReplies Unit :=
  { givingUpChain with
    getEventsByBlockRange := fun a b =>
      (eventBlocks blockNineEvents a b).map fun found => ⟨⟨found.1, 0, 0, 0⟩, false, found.2⟩ }

theorem givingUpChain_numbered :
    ∀ n header, givingUpChain.getBlockHeader n = some header → header.num = n := by
  intro n header found
  simp only [givingUpChain, Option.some.injEq] at found
  exact found ▸ rfl

theorem answeringChain_exact : RepliesExact blockNineEvents answeringChain :=
  ⟨fun x => Nat.lt_succ_self x,
    fun a b => by simp [answeringChain, List.map_map, Function.comp_def],
    givingUpChain_numbered⟩

/-- The delivery theorem on a run of two passes over `answeringChain` from block 0. -/
theorem download_delivers_events_blockNine :
    (∀ r ∈ [answeringChain, answeringChain], RepliesExact blockNineEvents r) ∧
    RunFits ⟨10, true⟩ [answeringChain, answeringChain] ((EVMDownloader.mk 10 true).start 0 10) ∧
    DeliversEvents blockNineEvents 0 (EVMDownloader.download ⟨10, true⟩
      [answeringChain, answeringChain] ((EVMDownloader.mk 10 true).start 0 10) []).2 := by
  have replies : ∀ r ∈ [answeringChain, answeringChain], RepliesExact blockNineEvents r := by
    simp [answeringChain_exact]
  have fits : RunFits ⟨10, true⟩ [answeringChain, answeringChain]
      ((EVMDownloader.mk 10 true).start 0 10) :=
    ⟨⟨by decide, by decide, by decide⟩, ⟨by decide, by decide, by decide⟩, trivial⟩
  exact ⟨replies, fits, download_delivers_events _ 0 10 _ _ replies fits⟩

/-- Two runs that break the delivery claim as stated. When the query of `[0, 10]` gives up,
the downloader sends a checkpoint at block 10 and never sends block 9 with its event; with a
chunk size of `2^64 - 2` the range end wraps, block 9 is sent again as an empty checkpoint. -/
theorem download_delivery_fails :
    RepliesExactOrNil blockNineEvents givingUpChain ∧
    ¬ DeliversEvents blockNineEvents 0
      (EVMDownloader.download ⟨10, true⟩ [givingUpChain] ((EVMDownloader.mk 10 true).start 0 10) []).2 ∧
    RepliesExact blockNineEvents answeringChain ∧
    ¬ DeliversEvents blockNineEvents 0
      (EVMDownloader.download ⟨2 ^ 64 - 2, true⟩ [answeringChain, answeringChain]
        ((EVMDownloader.mk (2 ^ 64 - 2) true).start 0 10) []).2 := by
  refine ⟨⟨fun x => Nat.lt_succ_self x, fun _ _ => .inl rfl, givingUpChain_numbered⟩, ?_,
    answeringChain_exact, ?_⟩
  · intro delivers
    obtain ⟨blk, once, -⟩ := delivers [] ⟨⟨10, 0, 0, 0⟩, true, []⟩ [] (by decide) 9
      (by decide) (by decide) (by decide)
    simp at once
  · intro delivers
    obtain ⟨blk, once, -⟩ := delivers [⟨⟨9, 0, 0, 0⟩, true, [()]⟩, ⟨⟨10, 0, 0, 0⟩, true, []⟩]
      ⟨⟨9, 0, 0, 0⟩, true, []⟩ [] (by decide) 9 (by decide) (by decide) (by decide)
    simp at once

end Aggkit.Sync
