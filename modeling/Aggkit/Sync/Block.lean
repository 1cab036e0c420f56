import Aggkit.Common.Word
import Mathlib.Data.List.Sort

/-! The data the EVM sync engine moves: block headers, blocks carrying the events decoded
from their logs, and the logs an EVM node returns for a filter query. -/
namespace Aggkit.Sync

/-- `EVMBlockHeader`; hashes are 32-byte words, written here as naturals. -/
structure EVMBlockHeader where
  num : Nat
  hash : Nat
  parentHash : Nat
  timestamp : Nat
deriving DecidableEq, Repr

/-- `EVMBlock`: a header, whether the block is final, and its decoded events. -/
structure EVMBlock (Event : Type) extends EVMBlockHeader where
  isFinalizedBlock : Bool
  events : List Event
deriving DecidableEq, Repr

/-- The fields of a `types.Log` that the downloader reads; the rest of the log only
reaches the appenders, through `data`. -/
structure Log where
  blockNumber : Nat
  blockHash : Nat
  topics : List Nat
  removed : Bool
  data : List Nat
deriving DecidableEq, Repr

/-- `LogAppenderMap`. Every appender of the repository decodes the log, reads the header
of the block it is given (`ParentHash`, `Timestamp`) and appends one event to it, or
fails and is called again; the map keeps, per topic, the event a successful call appends. -/
def LogAppenderMap (Event : Type) := List (Nat × (EVMBlockHeader → Log → Event))

/-- `LogAppenderMap.GetTopics`: the topics that have an appender. -/
def LogAppenderMap.getTopics {Event : Type} (m : LogAppenderMap Event) : List Nat :=
  List.map Prod.fst m

/-- `m[topic]`: the appender of a topic, `none` for Go's nil function. -/
def LogAppenderMap.find {Event : Type} (m : LogAppenderMap Event) (topic : Nat) :
    Option (EVMBlockHeader → Log → Event) :=
  List.lookup topic m

theorem LogAppenderMap.find_isSome {Event : Type} (m : LogAppenderMap Event) (topic : Nat)
    (member : topic ∈ m.getTopics) : (m.find topic).isSome := by
  induction m with
  | nil => simp [getTopics] at member
  | cons entry rest ih =>
    obtain ⟨key, appenderFn⟩ := entry
    by_cases first : topic = key
    · simp [find, List.lookup_cons, first]
    · have later : topic ∈ getTopics rest := by
        simpa [getTopics, first] using member
      have differs : (topic == key) = false := by simpa using first
      simpa [find, List.lookup_cons, differs] using ih later

/-- The block numbers of a list of blocks strictly increase. -/
def Ascending {Event : Type} (blocks : List (EVMBlock Event)) : Prop :=
  blocks.Pairwise fun a b => a.num < b.num

instance {Event : Type} (blocks : List (EVMBlock Event)) : Decidable (Ascending blocks) :=
  inferInstanceAs (Decidable (List.Pairwise _ blocks))

/-- In an ascending list every block is at or below the last one. -/
theorem Ascending.le_last {Event : Type} {blocks : List (EVMBlock Event)} {last : EVMBlock Event}
    (ascending : Ascending blocks) (isLast : blocks.getLast? = some last) :
    ∀ b ∈ blocks, b.num ≤ last.num := by
  obtain ⟨init, rfl⟩ := List.getLast?_eq_some_iff.mp isLast
  intro b member
  rcases List.mem_append.mp member with early | final
  · exact Nat.le_of_lt ((List.pairwise_append.mp ascending).2.2 b early last (by simp))
  · simp only [List.mem_singleton] at final
    exact Nat.le_of_eq (congrArg (·.num) final)

/-- An ascending list whose last block is below `bound` lies below `bound`. -/
theorem Ascending.lt_of_last {Event : Type} {blocks : List (EVMBlock Event)} {bound : Nat}
    (ascending : Ascending blocks) (below : blocks.getLast?.all (·.num < bound)) :
    ∀ b ∈ blocks, b.num < bound := by
  cases isLast : blocks.getLast? with
  | none => simp_all
  | some last =>
    simp only [isLast, Option.all_some, decide_eq_true_eq] at below
    exact fun b member => Nat.lt_of_le_of_lt (ascending.le_last isLast b member) below

/-- In an ascending list a block is the only one with its number. -/
theorem Ascending.filter_num {Event : Type} {blocks : List (EVMBlock Event)} {c : EVMBlock Event}
    (ascending : Ascending blocks) (member : c ∈ blocks) :
    blocks.filter (fun b => b.num = c.num) = [c] := by
  induction blocks with
  | nil => simp at member
  | cons x rest ih =>
    have later : ∀ b ∈ rest, x.num < b.num := fun _ mem => List.rel_of_pairwise_cons ascending mem
    rcases List.mem_cons.mp member with rfl | inRest
    · have none : rest.filter (fun b => b.num = c.num) = [] :=
        List.filter_eq_nil_iff.mpr fun b mem => by simpa using Nat.ne_of_gt (later b mem)
      simp [none]
    · have smaller : x.num ≠ c.num := Nat.ne_of_lt (later c inRest)
      simp [smaller, ih ascending.of_cons inRest]

end Aggkit.Sync
