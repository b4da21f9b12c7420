/-!
What a client counts: commands by how they ended, measured commands, and the hits that queries
found.
-/

namespace DocumentSearch

/-- How often each of some things has come up, in the order of their first coming up. -/
abbrev Tally (α : Type) := List (α × Nat)

namespace Tally

variable {α : Type} [DecidableEq α]

def count : Tally α → α → Nat
  | [], _ => 0
  | (b, n) :: rest, a => if b = a then n else count rest a

/-- Counts a thing once more. -/
def bump : Tally α → α → Tally α
  | [], a => [(a, 1)]
  | (b, n) :: rest, a => if b = a then (b, n + 1) :: rest else (b, n) :: bump rest a

/-- Counting a thing once more adds one to it and nothing to any other. -/
theorem count_bump (tally : Tally α) (a b : α) :
    count (bump tally a) b = count tally b + if a = b then 1 else 0 := by
  induction tally with
  | nil => simp [bump, count]
  | cons entry rest ih =>
    obtain ⟨c, n⟩ := entry
    by_cases hc : c = a
    · subst hc
      by_cases hb : c = b <;> simp [bump, count, hb]
    · by_cases hb : c = b
      · subst hb
        have : ¬ a = c := fun h => hc h.symm
        simp [bump, count, hc, this]
      · simp [bump, count, hc, hb, ih]

end Tally

/-- What a client has counted so far. -/
structure Metrics where
  /-- Finished commands, by first word and by whether they succeeded. -/
  finished : Tally (String × Bool) := []
  /-- Measured commands, by first word. -/
  measured : Tally String := []
  /-- The number of hits of each query that was answered, in order. -/
  hits : List Nat := []
deriving DecidableEq

namespace Metrics

def recordCommand (metrics : Metrics) (word : String) (succeeded : Bool) : Metrics :=
  { metrics with
    finished := metrics.finished.bump (word, succeeded)
    measured := metrics.measured.bump word }

/-- Notes how many hits a query found. -/
def recordHits (metrics : Metrics) (count : Nat) : Metrics :=
  { metrics with hits := metrics.hits ++ [count] }

/-- What a row of a report tells. -/
inductive Reading where
  | total (count : Nat)
  | samples (values : List Nat)

structure Row where
  name : String
  labels : List String
  reading : Reading

/-- Rows by their labels. -/
def byLabels (rows : List Row) : List Row :=
  rows.mergeSort fun a b => !decide (b.labels < a.labels)

def measuredRows (metrics : Metrics) : List Row :=
  byLabels <| metrics.measured.map fun (word, count) =>
    ⟨"search_index_command_seconds", ["command=" ++ word], .total count⟩

def finishedRows (metrics : Metrics) : List Row :=
  byLabels <| metrics.finished.map fun ((word, succeeded), count) =>
    ⟨"search_index_commands_total",
      ["command=" ++ word, "status=" ++ if succeeded then "success" else "error"], .total count⟩

/-- The row for the hits of queries, in ascending order; none before the first query. -/
def hitRows (metrics : Metrics) : List Row :=
  if metrics.hits.isEmpty then []
  else [⟨"search_index_query_results", [], .samples (metrics.hits.mergeSort (· ≤ ·))⟩]

/-- All rows, by name and then by labels. -/
def rows (metrics : Metrics) : List Row :=
  metrics.measuredRows ++ metrics.finishedRows ++ metrics.hitRows

end Metrics

end DocumentSearch
