import Aggkit.Sync.Block

/-! `GetEventsByBlockRange`: the logs of a range grouped into blocks, each block checked against
the header of its number, and the whole query made again after a block-hash mismatch.

`FilterLogs`, `HeaderByNumber` and the appenders retry their own errors (`Aggkit.Sync.Retry`);
here each call is the value it ends with. The main result says which attempt the query returns
and what its blocks are: one per block number of the kept logs, ascending, with the header's
fields and the events of exactly that block's logs, in order. -/
namespace Aggkit.Sync

variable {Event : Type}

/-- `MaxRetryCountBlockHashMismatch`. -/
def maxRetryCountBlockHashMismatch : Nat := 5

/-- What the chain answers during one attempt of `getEventsByBlockRangeWithRetry`. -/
structure RangeReplies where
  /-- `ctx.Done()` is closed when the attempt starts. -/
  contextDone : Bool
  /-- What the `FilterLogs` loop of `GetLogs` ends with; `none` once it reports the context
  cancelled. -/
  filterLogs : Option (List Log)
  /-- `GetBlockHeader(ctx, blockNum)`; `none` once it reports the context cancelled. -/
  getBlockHeader : Nat → Option EVMBlockHeader

/-- The filter of `GetLogs`: a removed log is dropped, another is kept when its first topic is
queried. `Topics[0]` of a log without topics is an index-out-of-range panic, `none`. -/
def getLogs (topicsToQuery : List Nat) : List Log → Option (List Log)
  | [] => some []
  | l :: rest =>
    if l.removed then getLogs topicsToQuery rest
    else match l.topics with
      | [] => none
      | topic :: _ =>
        if topic ∈ topicsToQuery then (l :: ·) <$> getLogs topicsToQuery rest
        else getLogs topicsToQuery rest

/-- `d.appender[l.Topics[0]]`, called until it succeeds: the event it appends to a block with
header `header`; `none` for the panic of a log without topics or of a nil appender. -/
def LogAppenderMap.appendLog (m : LogAppenderMap Event) (header : EVMBlockHeader) (l : Log) :
    Option Event :=
  (l.topics.head?.bind m.find).map fun appenderFn => appenderFn header l

/-- How one attempt of `getEventsByBlockRangeWithRetry` ends. -/
inductive LogScan (Event : Type) where
  | blocks (blocks : List (EVMBlock Event))
  | mismatch
  | canceled
  | panicked

/-- The header of the block opened for a log: the log's number and block hash, the parent hash
and timestamp of the header `GetBlockHeader` returned. -/
def openedHeader (l : Log) (header : EVMBlockHeader) : EVMBlockHeader :=
  ⟨l.blockNumber, l.blockHash, header.parentHash, header.timestamp⟩

/-- The block opened for a log, with no events yet. -/
def openedBlock (l : Log) (header : EVMBlockHeader) : EVMBlock Event :=
  { toEVMBlockHeader := openedHeader l header, isFinalizedBlock := false, events := [] }

/-- The blocks gathered so far, newest first (the head is `latestBlock`), once the log `l` has a
block to go to: a log past `latestBlock` opens a new block, after checking that the header of its
number has the log's block hash. -/
def openBlock (getBlockHeader : Nat → Option EVMBlockHeader) (gathered : List (EVMBlock Event))
    (l : Log) : Except (LogScan Event) (List (EVMBlock Event)) :=
  if gathered.head?.all (·.num < l.blockNumber) then
    match getBlockHeader l.blockNumber with
    | none => .error .canceled
    | some b =>
      if b.hash ≠ l.blockHash then .error .mismatch
      else .ok (openedBlock l b :: gathered)
  else .ok gathered

/-- The appender loop: the log's event is appended to `latestBlock`. -/
def appendToLatest (m : LogAppenderMap Event) (gathered : List (EVMBlock Event)) (l : Log) :
    Option (List (EVMBlock Event)) :=
  match gathered with
  | [] => none
  | latest :: older =>
    (m.appendLog latest.toEVMBlockHeader l).map fun e =>
      { latest with events := latest.events ++ [e] } :: older

/-- The `for _, l := range logs` loop of `getEventsByBlockRangeWithRetry`. -/
def scanLogs (m : LogAppenderMap Event) (getBlockHeader : Nat → Option EVMBlockHeader) :
    List (EVMBlock Event) → List Log → LogScan Event
  | gathered, [] => .blocks gathered.reverse
  | gathered, l :: rest =>
    match openBlock getBlockHeader gathered l with
    | .error stop => stop
    | .ok opened =>
      match appendToLatest m opened l with
      | none => .panicked
      | some next => scanLogs m getBlockHeader next rest

/-- One attempt: the `select` on `ctx.Done()`, `GetLogs`, then the loop over its logs. A nil
answer of `GetLogs` leaves the empty, non-nil slice of blocks. -/
def rangeAttempt (m : LogAppenderMap Event) (r : RangeReplies) : LogScan Event :=
  if r.contextDone then .canceled
  else match r.filterLogs with
    | none => .blocks []
    | some unfiltered =>
      match getLogs m.getTopics unfiltered with
      | none => .panicked
      | some logs => scanLogs m r.getBlockHeader [] logs

/-- What `GetEventsByBlockRange` returns: blocks, Go's nil, or a panic. -/
inductive RangeResult (Event : Type) where
  | blocks (blocks : List (EVMBlock Event))
  | nil
  | panicked

/-- `getEventsByBlockRangeWithRetry`: `replies k` answers the attempt with `retryCount = k`. -/
def getEventsByBlockRangeWithRetry (m : LogAppenderMap Event) (replies : Nat → RangeReplies)
    (retryCount : Nat) : RangeResult Event :=
  match rangeAttempt m (replies retryCount) with
  | .blocks blocks => .blocks blocks
  | .canceled => .nil
  | .panicked => .panicked
  | .mismatch =>
    if maxRetryCountBlockHashMismatch ≤ retryCount then .nil
    else getEventsByBlockRangeWithRetry m replies (retryCount + 1)
termination_by maxRetryCountBlockHashMismatch - retryCount
decreasing_by all_goals omega

/-- `GetEventsByBlockRange`. -/
def getEventsByBlockRange (m : LogAppenderMap Event) (replies : Nat → RangeReplies) :
    RangeResult Event :=
  getEventsByBlockRangeWithRetry m replies 0

/-! ### What an attempt keeps and sees -/

/-- The logs `GetLogs` keeps when every log has a topic: not removed, first topic registered. -/
def keptLogs (m : LogAppenderMap Event) (logs : List Log) : List Log :=
  logs.filter fun l => !l.removed && l.topics.head?.any fun topic => topic ∈ m.getTopics

/-- `GetLogs` on any answer: it panics exactly when a log that is not removed has no topics,
and otherwise keeps the logs of `keptLogs`. -/
theorem getLogs_eq_ite (m : LogAppenderMap Event) (logs : List Log) :
    getLogs m.getTopics logs =
      if logs.any (fun l => !l.removed && l.topics.isEmpty) then none else some (keptLogs m logs) := by
  induction logs with
  | nil => rfl
  | cons l rest ih =>
    rcases l with ⟨n, hash, _ | ⟨topic, more⟩, _ | _, data⟩
    · simp [getLogs]
    · simpa [getLogs, keptLogs] using ih
    · cases bad : rest.any (fun l => !l.removed && l.topics.isEmpty) <;>
        by_cases registered : topic ∈ m.getTopics <;> simp [getLogs, keptLogs, registered, ih, bad]
    · simpa [getLogs, keptLogs] using ih

theorem getLogs_eq_keptLogs (m : LogAppenderMap Event) (logs : List Log)
    (topics : ∀ l ∈ logs, l.topics ≠ []) : getLogs m.getTopics logs = some (keptLogs m logs) := by
  rw [getLogs_eq_ite, if_neg]
  simpa using fun l member _ => topics l member

/-- For every block number of `logs`, the header of that number has the block hash of the
number's first log: what an attempt must see to return its blocks. -/
def HeadersMatch (getBlockHeader : Nat → Option EVMBlockHeader) (logs : List Log) : Prop :=
  ∀ l ∈ logs, (getBlockHeader l.blockNumber).map (·.hash) =
    (logs.find? fun x => x.blockNumber = l.blockNumber).map (·.blockHash)

instance (getBlockHeader : Nat → Option EVMBlockHeader) (logs : List Log) :
    Decidable (HeadersMatch getBlockHeader logs) :=
  inferInstanceAs (Decidable (∀ l ∈ logs, (getBlockHeader l.blockNumber).map (·.hash) =
    (logs.find? fun x => x.blockNumber = l.blockNumber).map (·.blockHash)))

/-- An attempt on a live context whose `FilterLogs` answer is sorted by block number and has a
topic on every log. -/
structure LiveAttempt (r : RangeReplies) (logs : List Log) : Prop where
  running : r.contextDone = false
  answered : r.filterLogs = some logs
  headers : ∀ n, (r.getBlockHeader n).isSome
  sorted : logs.Pairwise fun a b => a.blockNumber ≤ b.blockNumber
  topics : ∀ l ∈ logs, l.topics ≠ []

/-! ### The blocks gathered from the logs -/

section Scan

variable (m : LogAppenderMap Event) (getBlockHeader : Nat → Option EVMBlockHeader)

/-- The blocks built from `logs`: one per block number of the logs, ascending, each with the
fields of the header of its number, the block hash of its first log, and as events the
appender outputs of exactly its logs, in order. -/
structure Gathered (logs : List Log) (blocks : List (EVMBlock Event)) : Prop where
  ascending : Ascending blocks
  numbers : ∀ n, n ∈ blocks.map (·.num) ↔ n ∈ logs.map (·.blockNumber)
  headers : ∀ b ∈ blocks, ∃ header, getBlockHeader b.num = some header ∧
    header.hash = b.hash ∧ header.parentHash = b.parentHash ∧ header.timestamp = b.timestamp
  firstHash : ∀ b ∈ blocks,
    (logs.find? fun l => l.blockNumber = b.num).map (·.blockHash) = some b.hash
  unfinalized : ∀ b ∈ blocks, b.isFinalizedBlock = false
  events : ∀ b ∈ blocks, (logs.filter fun l => l.blockNumber = b.num).map
    (m.appendLog b.toEVMBlockHeader) = b.events.map some

variable {m getBlockHeader}

theorem Gathered.nil : Gathered m getBlockHeader [] [] :=
  ⟨.nil, by simp, by simp, by simp, by simp, by simp⟩

private theorem find?_append_blockHash {seen : List Log} (more : List Log) {p : Log → Bool}
    {hash : Nat} (found : (seen.find? p).map (·.blockHash) = some hash) :
    ((seen ++ more).find? p).map (·.blockHash) = some hash := by
  cases first : seen.find? p with
  | none => simp [first] at found
  | some x => simpa [List.find?_append, first] using found

/-- Every log seen is below a number the newest block is below. -/
theorem Gathered.lt_of_head {seen : List Log} {gathered : List (EVMBlock Event)} {n : Nat}
    (g : Gathered m getBlockHeader seen gathered.reverse)
    (below : gathered.head?.all (·.num < n)) : ∀ x ∈ seen, x.blockNumber < n := by
  intro x seenX
  obtain ⟨b, member, numbered⟩ :=
    List.mem_map.mp ((g.numbers x.blockNumber).mpr (List.mem_map_of_mem _ seenX))
  exact numbered ▸ g.ascending.lt_of_last (by rwa [List.getLast?_reverse]) b member

/-- A log past every log seen opens a block of its own. -/
theorem Gathered.openNew {seen : List Log} {blocks : List (EVMBlock Event)} {l : Log}
    {header : EVMBlockHeader} {e : Event} (g : Gathered m getBlockHeader seen blocks)
    (below : ∀ x ∈ seen, x.blockNumber < l.blockNumber)
    (found : getBlockHeader l.blockNumber = some header) (same : header.hash = l.blockHash)
    (appended : m.appendLog (openedHeader l header) l = some e) :
    Gathered m getBlockHeader (seen ++ [l])
      (blocks ++ [{ (openedBlock l header : EVMBlock Event) with events := [e] }]) := by
  have older : ∀ b ∈ blocks, b.num < l.blockNumber := fun b member => by
    obtain ⟨x, seenX, numbered⟩ :=
      List.mem_map.mp ((g.numbers b.num).mp (List.mem_map_of_mem _ member))
    exact numbered ▸ below x seenX
  have unseen : ∀ x ∈ seen, ¬ x.blockNumber = l.blockNumber := fun x member =>
    Nat.ne_of_lt (below x member)
  have noFind : seen.find? (fun x => x.blockNumber = l.blockNumber) = none :=
    List.find?_eq_none.mpr fun x member => by simpa using unseen x member
  have noFilter : seen.filter (fun x => x.blockNumber = l.blockNumber) = [] :=
    List.filter_eq_nil_iff.mpr fun x member => by simpa using unseen x member
  constructor
  · exact List.pairwise_append.mpr ⟨g.ascending, List.pairwise_singleton _ _,
      fun a member => List.forall_mem_singleton.mpr (older a member)⟩
  · intro n
    simp [g.numbers, openedBlock, openedHeader]
  · rw [List.forall_mem_append, List.forall_mem_singleton]
    exact ⟨g.headers, header, found, same, rfl, rfl⟩
  · rw [List.forall_mem_append, List.forall_mem_singleton]
    exact ⟨fun b old => find?_append_blockHash _ (g.firstHash b old),
      by simp [List.find?_append, noFind, openedBlock, openedHeader]⟩
  · rw [List.forall_mem_append, List.forall_mem_singleton]
    exact ⟨g.unfinalized, rfl⟩
  · rw [List.forall_mem_append, List.forall_mem_singleton]
    exact ⟨fun b old => by
        simpa [List.filter_append, Nat.ne_of_gt (older b old)] using g.events b old,
      by simpa [List.filter_append, noFilter, openedBlock, openedHeader] using appended⟩

/-- A log of the newest block's number joins that block, its event appended last. -/
theorem Gathered.appendSame {seen : List Log} {older : List (EVMBlock Event)}
    {latest : EVMBlock Event} {l : Log} {e : Event}
    (g : Gathered m getBlockHeader seen (older ++ [latest])) (same : l.blockNumber = latest.num)
    (appended : m.appendLog latest.toEVMBlockHeader l = some e) :
    Gathered m getBlockHeader (seen ++ [l])
      (older ++ [{ latest with events := latest.events ++ [e] }]) := by
  have earlier : ∀ b ∈ older, b.num < latest.num := fun b member =>
    (List.pairwise_append.mp g.ascending).2.2 b member latest (List.mem_singleton_self _)
  have seenLatest : latest.num ∈ seen.map (·.blockNumber) := (g.numbers _).mp (by simp)
  constructor
  · exact List.pairwise_append.mpr ⟨(List.pairwise_append.mp g.ascending).1,
      List.pairwise_singleton _ _, by simpa using earlier⟩
  · intro n
    have numbers := g.numbers n
    simp only [List.map_append, List.mem_append, List.map_cons, List.map_nil,
      List.mem_singleton] at numbers ⊢
    rw [numbers, same]
    exact ⟨Or.inl, fun seenN => seenN.elim id fun equal => equal ▸ seenLatest⟩
  · rw [List.forall_mem_append, List.forall_mem_singleton]
    exact ⟨fun b old => g.headers b (List.mem_append_left _ old), g.headers latest (by simp)⟩
  · rw [List.forall_mem_append, List.forall_mem_singleton]
    exact ⟨fun b old => find?_append_blockHash _ (g.firstHash b (List.mem_append_left _ old)),
      find?_append_blockHash _ (g.firstHash latest (by simp))⟩
  · rw [List.forall_mem_append, List.forall_mem_singleton]
    exact ⟨fun b old => g.unfinalized b (List.mem_append_left _ old),
      g.unfinalized latest (by simp)⟩
  · rw [List.forall_mem_append, List.forall_mem_singleton]
    refine ⟨fun b old => ?_,
      by simpa [List.filter_append, same, appended] using g.events latest (by simp)⟩
    have other : l.blockNumber ≠ b.num := same ▸ Nat.ne_of_gt (earlier b old)
    simpa [List.filter_append, other] using g.events b (List.mem_append_left _ old)

/-- Blocks gathered from `logs` show that the attempt saw matching headers. -/
theorem Gathered.headersMatch {logs : List Log} {blocks : List (EVMBlock Event)}
    (g : Gathered m getBlockHeader logs blocks) : HeadersMatch getBlockHeader logs := by
  intro l member
  obtain ⟨b, inBlocks, numbered⟩ :=
    List.mem_map.mp ((g.numbers _).mpr (List.mem_map_of_mem _ member))
  obtain ⟨header, found, hash, -⟩ := g.headers b inBlocks
  rw [← numbered, found, g.firstHash b inBlocks, Option.map_some', hash]

/-- Over logs sorted by block number, each with a registered topic, the loop either stops at a
block whose header does not match, or gathers the blocks of all the logs. -/
theorem scanLogs_spec (live : ∀ n, (getBlockHeader n).isSome) :
    ∀ (rest seen : List Log) (gathered : List (EVMBlock Event)),
      (seen ++ rest).Pairwise (fun a b => a.blockNumber ≤ b.blockNumber) →
      (∀ l ∈ rest, ∃ topic ∈ m.getTopics, l.topics.head? = some topic) →
      Gathered m getBlockHeader seen gathered.reverse →
      (scanLogs m getBlockHeader gathered rest = .mismatch ∧
          ¬ HeadersMatch getBlockHeader (seen ++ rest)) ∨
        ∃ blocks, scanLogs m getBlockHeader gathered rest = .blocks blocks ∧
          Gathered m getBlockHeader (seen ++ rest) blocks := by
  intro rest
  induction rest with
  | nil => exact fun seen gathered _ _ g => .inr ⟨_, rfl, by simpa using g⟩
  | cons l rest ih =>
    intro seen gathered sorted registered g
    have next := fun gathered' => ih (seen ++ [l]) gathered' (by simpa using sorted)
      (fun x member => registered x (List.mem_cons_of_mem l member))
    simp only [List.append_assoc, List.singleton_append] at next
    obtain ⟨topic, known, first⟩ := registered l (List.mem_cons_self l rest)
    have appends : ∀ header, ∃ e, m.appendLog header l = some e := fun header => by
      obtain ⟨appenderFn, found⟩ := Option.isSome_iff_exists.mp (m.find_isSome topic known)
      exact ⟨appenderFn header l, by simp [LogAppenderMap.appendLog, first, found]⟩
    by_cases fresh : gathered.head?.all (·.num < l.blockNumber)
    · obtain ⟨header, found⟩ := Option.isSome_iff_exists.mp (live l.blockNumber)
      by_cases same : header.hash = l.blockHash
      · -- a new block, whose header matches
        obtain ⟨e, appended⟩ := appends (openedHeader l header)
        have step : scanLogs m getBlockHeader gathered (l :: rest) =
            scanLogs m getBlockHeader
              ({ (openedBlock l header : EVMBlock Event) with events := [e] } :: gathered)
              rest := by
          simp [scanLogs, openBlock, appendToLatest, fresh, found, same, openedBlock, appended]
        rw [step]
        exact next _ (by simpa using g.openNew (g.lt_of_head fresh) found same appended)
      · -- a new block whose header has another hash
        refine .inl ⟨by simp [scanLogs, openBlock, fresh, found, same], fun matched => same ?_⟩
        have noFind : seen.find? (fun x => x.blockNumber = l.blockNumber) = none :=
          List.find?_eq_none.mpr fun x member => by
            simpa using Nat.ne_of_lt (g.lt_of_head fresh x member)
        simpa [found, List.find?_append, noFind] using matched l (by simp)
    · -- the latest block, which has the log's number
      cases gathered with
      | nil => simp at fresh
      | cons latest older =>
        have notPast : ¬ latest.num < l.blockNumber := by simpa using fresh
        obtain ⟨x, seenX, numbered⟩ :=
          List.mem_map.mp ((g.numbers latest.num).mp (List.mem_map_of_mem _ (by simp)))
        have atMost := (List.pairwise_append.mp sorted).2.2 x seenX l (List.mem_cons_self l rest)
        have same : l.blockNumber = latest.num := by omega
        obtain ⟨e, appended⟩ := appends latest.toEVMBlockHeader
        have step : scanLogs m getBlockHeader (latest :: older) (l :: rest) =
            scanLogs m getBlockHeader ({ latest with events := latest.events ++ [e] } :: older)
              rest := by
          simp [scanLogs, openBlock, appendToLatest, notPast, appended]
        have inOrder : Gathered m getBlockHeader seen (older.reverse ++ [latest]) := by simpa using g
        rw [step]
        exact next _ (by simpa using inOrder.appendSame same appended)

end Scan

/-! ### Attempts and retries -/

section Retry

variable (m : LogAppenderMap Event)

/-- On a live attempt, a query whose headers match returns the blocks of the kept logs, and
one whose headers do not match ends in a block-hash mismatch. -/
theorem rangeAttempt_spec {r : RangeReplies} {logs : List Log} (live : LiveAttempt r logs) :
    (HeadersMatch r.getBlockHeader (keptLogs m logs) → ∃ blocks,
        rangeAttempt m r = .blocks blocks ∧ Gathered m r.getBlockHeader (keptLogs m logs) blocks) ∧
      (¬ HeadersMatch r.getBlockHeader (keptLogs m logs) → rangeAttempt m r = .mismatch) := by
  have scan : rangeAttempt m r = scanLogs m r.getBlockHeader [] (keptLogs m logs) := by
    simp [rangeAttempt, live.running, live.answered, getLogs_eq_keptLogs m logs live.topics]
  have registered : ∀ l ∈ keptLogs m logs, ∃ topic ∈ m.getTopics, l.topics.head? = some topic := by
    intro l member
    simp only [keptLogs, List.mem_filter, Bool.and_eq_true] at member
    cases first : l.topics.head? with
    | none => simp [first] at member
    | some topic => exact ⟨topic, by simpa [first] using member.2.2, rfl⟩
  rcases scanLogs_spec live.headers (keptLogs m logs) [] []
      (by simpa using live.sorted.sublist (List.filter_sublist _)) registered Gathered.nil with
    ⟨mismatch, unmatched⟩ | ⟨blocks, found, gathered⟩
  · rw [scan, mismatch]
    exact ⟨fun matched => absurd (by simpa using matched) unmatched, fun _ => rfl⟩
  · rw [scan, found]
    refine ⟨fun _ => ⟨blocks, rfl, by simpa using gathered⟩, fun unmatched => ?_⟩
    exact absurd (by simpa using gathered.headersMatch) unmatched

variable (replies : Nat → RangeReplies) (logs : Nat → List Log)

/-- An attempt whose headers match ends the recursion with its blocks. -/
theorem getEventsByBlockRangeWithRetry_of_match {k : Nat} (live : LiveAttempt (replies k) (logs k))
    (matched : HeadersMatch (replies k).getBlockHeader (keptLogs m (logs k))) :
    ∃ blocks, getEventsByBlockRangeWithRetry m replies k = .blocks blocks ∧
      Gathered m (replies k).getBlockHeader (keptLogs m (logs k)) blocks := by
  obtain ⟨blocks, found, gathered⟩ := (rangeAttempt_spec m live).1 matched
  exact ⟨blocks, by rw [getEventsByBlockRangeWithRetry, found], gathered⟩

/-- From `retryCount = k`, with `gap` attempts left after it: the first attempt whose headers
match is returned, and nil when none does. -/
theorem getEventsByBlockRangeWithRetry_spec
    (live : ∀ k ≤ maxRetryCountBlockHashMismatch, LiveAttempt (replies k) (logs k)) (gap : Nat) :
    ∀ k, k + gap = maxRetryCountBlockHashMismatch →
      (∀ j, k ≤ j → j ≤ maxRetryCountBlockHashMismatch →
        (∀ i, k ≤ i → i < j → ¬ HeadersMatch (replies i).getBlockHeader (keptLogs m (logs i))) →
        HeadersMatch (replies j).getBlockHeader (keptLogs m (logs j)) →
        ∃ blocks, getEventsByBlockRangeWithRetry m replies k = .blocks blocks ∧
          Gathered m (replies j).getBlockHeader (keptLogs m (logs j)) blocks) ∧
      ((∀ j, k ≤ j → j ≤ maxRetryCountBlockHashMismatch →
          ¬ HeadersMatch (replies j).getBlockHeader (keptLogs m (logs j))) →
        getEventsByBlockRangeWithRetry m replies k = .nil) := by
  induction gap with
  | zero =>
    intro k last
    refine ⟨fun j lo hi _ matched => ?_, fun unmatched => ?_⟩
    · obtain rfl : j = k := by omega
      exact getEventsByBlockRangeWithRetry_of_match m replies logs (live j hi) matched
    · have mismatch := (rangeAttempt_spec m (live k (by omega))).2 (unmatched k le_rfl (by omega))
      rw [getEventsByBlockRangeWithRetry, mismatch, if_pos (by omega)]
  | succ gap ih =>
    intro k below
    obtain ⟨later, none⟩ := ih (k + 1) (by omega)
    by_cases matched : HeadersMatch (replies k).getBlockHeader (keptLogs m (logs k))
    · refine ⟨fun j lo _ before matchedJ => ?_, fun unmatched => absurd matched ?_⟩
      · obtain rfl : j = k := by
          by_contra other
          exact before k le_rfl (by omega) matched
        exact getEventsByBlockRangeWithRetry_of_match m replies logs (live j (by omega)) matchedJ
      · exact unmatched k le_rfl (by omega)
    · have retried : getEventsByBlockRangeWithRetry m replies k =
          getEventsByBlockRangeWithRetry m replies (k + 1) := by
        rw [getEventsByBlockRangeWithRetry, (rangeAttempt_spec m (live k (by omega))).2 matched,
          if_neg (by omega)]
      rw [retried]
      refine ⟨fun j lo hi before matchedJ => ?_, fun unmatched => none fun j lo hi =>
        unmatched j (by omega) hi⟩
      have past : k ≠ j := fun equal => matched (equal ▸ matchedJ)
      exact later j (by omega) hi (fun i lo' => before i (by omega)) matchedJ

/-- `GetEventsByBlockRange` on live attempts, each answered by `FilterLogs` with logs sorted by
block number and carrying topics: when one of the first `MaxRetryCountBlockHashMismatch + 1`
attempts sees, for every block, a header with the block's hash, it returns the blocks of the
first such attempt, gathered from its kept logs; otherwise it returns nil. -/
theorem getEventsByBlockRange_first_match
    (live : ∀ k ≤ maxRetryCountBlockHashMismatch, LiveAttempt (replies k) (logs k)) :
    (∀ k ≤ maxRetryCountBlockHashMismatch,
        (∀ j < k, ¬ HeadersMatch (replies j).getBlockHeader (keptLogs m (logs j))) →
        HeadersMatch (replies k).getBlockHeader (keptLogs m (logs k)) →
        ∃ blocks, getEventsByBlockRange m replies = .blocks blocks ∧
          Gathered m (replies k).getBlockHeader (keptLogs m (logs k)) blocks) ∧
      ((∀ k ≤ maxRetryCountBlockHashMismatch,
          ¬ HeadersMatch (replies k).getBlockHeader (keptLogs m (logs k))) →
        getEventsByBlockRange m replies = .nil) := by
  obtain ⟨first, none⟩ := getEventsByBlockRangeWithRetry_spec m replies logs live
    maxRetryCountBlockHashMismatch 0 (by omega)
  exact ⟨fun k last before matched => first k (Nat.zero_le k) last (fun i _ => before i) matched,
    fun unmatched => none fun j _ => unmatched j⟩

/-- One registered topic, whose event records the block number and the log's first data word. -/
def sampleAppender : LogAppenderMap Nat :=
  [(7, fun header l => header.num * 100 + l.data.headD 0)]

/-- Two logs of block 3, a log of block 4 with an unregistered topic, a removed log of block 5. -/
def sampleLogs : List Log :=
  [⟨3, 30, [7], false, [1]⟩, ⟨3, 30, [7, 9], false, [2]⟩, ⟨4, 40, [8], false, []⟩,
    ⟨5, 50, [7], true, []⟩]

/-- The headers of the first attempt carry other hashes, as after a reorg; later ones match. -/
def reorgReplies (retryCount : Nat) : RangeReplies :=
  { contextDone := false, filterLogs := some sampleLogs,
    getBlockHeader := fun n => some ⟨n, 10 * n + (if retryCount = 0 then 1 else 0), n, 1000 + n⟩ }

theorem getEventsByBlockRange_first_match_reorg :
    ∃ blocks, getEventsByBlockRange sampleAppender reorgReplies = .blocks blocks ∧
      Gathered sampleAppender (reorgReplies 1).getBlockHeader
        (keptLogs sampleAppender sampleLogs) blocks :=
  (getEventsByBlockRange_first_match sampleAppender reorgReplies (fun _ => sampleLogs)
    (fun _ _ => ⟨rfl, rfl, fun _ => rfl,
      (by decide : sampleLogs.Pairwise fun a b => a.blockNumber ≤ b.blockNumber),
      (by decide : ∀ l ∈ sampleLogs, l.topics ≠ [])⟩)).1 1 (by decide)
    (fun j before => by obtain rfl : j = 0 := Nat.lt_one_iff.mp before; decide) (by decide)

/-- `GetLogs` reads `Topics[0]` of every log that is not removed, before it looks at the
appenders: when the first attempt is answered with such a log without topics (an anonymous
event of a watched contract), the query panics, whatever the other logs and the appenders. -/
theorem getEventsByBlockRange_anonymous_log (logs : List Log)
    (running : (replies 0).contextDone = false) (answered : (replies 0).filterLogs = some logs)
    (anonymous : ∃ l ∈ logs, l.removed = false ∧ l.topics = []) :
    getEventsByBlockRange m replies = .panicked := by
  obtain ⟨l, member, live, empty⟩ := anonymous
  have read : logs.any (fun l => !l.removed && l.topics.isEmpty) := by
    simpa using ⟨l, member, live, empty⟩
  rw [getEventsByBlockRange, getEventsByBlockRangeWithRetry, rangeAttempt, if_neg (by simp [running]),
    answered]
  simp only [getLogs_eq_ite, read, if_true]

/-- Every attempt is answered with one log of block 3, not removed, with the given topics. -/
def singleLogReplies (topics : List Nat) : Nat → RangeReplies := fun _ =>
  { contextDone := false, filterLogs := some [⟨3, 30, topics, false, []⟩],
    getBlockHeader := fun n => some ⟨n, 10 * n, n, 1000 + n⟩ }

theorem getEventsByBlockRange_anonymous_log_sample :
    getEventsByBlockRange sampleAppender (singleLogReplies []) = .panicked :=
  getEventsByBlockRange_anonymous_log sampleAppender (singleLogReplies []) _ rfl rfl
    ⟨_, List.mem_singleton_self _, rfl, rfl⟩

/-- The same log with a topic that has no appender is dropped. -/
example : getEventsByBlockRange sampleAppender (singleLogReplies [8]) = .blocks [] := by
  rw [getEventsByBlockRange, getEventsByBlockRangeWithRetry]
  rfl

end Retry

end Aggkit.Sync
