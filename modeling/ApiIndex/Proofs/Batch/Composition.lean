import ApiIndex.Proofs.Batch.Permutation
import ApiIndex.Proofs.Reference.WriteOnce

namespace ApiIndex.Batch

open ApiIndex.Reference (Operation Registry)

/-!
# Batches compose

Merging registries is associative and the empty registry changes nothing, on
either side.  So it does not matter whether documents are built in one batch or
in two of which the second is merged into the first, and a batch keeps what it
says when further documents are added behind its own.
-/

/-- A report in which another one goes on. -/
structure Report.Continues
    (later earlier : Report) : Prop where
  entries : earlier.registry.entries <+: later.registry.entries
  diagnostics : earlier.diagnostics <+: later.diagnostics
  forests : earlier.forests <+: later.forests

namespace Report.Continues

theorem refl
    (report : Report) :
    report.Continues report where
  entries := List.prefix_refl _
  diagnostics := List.prefix_refl _
  forests := List.prefix_refl _

theorem trans
    {last later earlier : Report}
    (continuesLater : last.Continues later)
    (continues : later.Continues earlier) :
    last.Continues earlier where
  entries := continues.entries.trans continuesLater.entries
  diagnostics := continues.diagnostics.trans continuesLater.diagnostics
  forests := continues.forests.trans continuesLater.forests

end Report.Continues

variable {config : Config} {sources : List Source}

/-- One more document only adds to a report. -/
theorem Accounts.continues_add
    {report : Report}
    (accounts : Accounts config sources report)
    (source : Source) :
    (report.add (source.outcome config)).Continues report := by
  rw [accounts.add_eq]
  exact {
    entries := List.prefix_append _ _
    diagnostics := List.prefix_append _ _
    forests := List.prefix_append _ _
  }

/-- Further documents only add to a report. -/
theorem continues_run_append
    (config : Config)
    (sources others : List Source) :
    (run config (sources ++ others)).Continues (run config sources) := by
  induction others using List.reverseRecOn with
  | nil =>
      rw [List.append_nil]
      exact .refl _
  | append_singleton others source inductionHypothesis =>
      rw [← List.append_assoc, run_append_singleton]
      exact ((run_accounts config _).continues_add source).trans
        inductionHypothesis

/-- Building documents behind others registers what merging the two batches
registers. -/
theorem registry_run_append
    (config : Config)
    (sources others : List Source) :
    (run config (sources ++ others)).registry =
      ((run config sources).registry.merge
        (run config others).registry).1 := by
  have entries
      (given : List Source) :
      (run config given).registry =
        ⟨Registry.distinct (entriesOf config given)⟩ :=
    congrArg Registry.mk (run_accounts config given).entries
  have divided :
      entriesOf config (sources ++ others) =
        entriesOf config sources ++ entriesOf config others :=
    List.flatMap_append
  rw [Registry.merge_eq (nodup_keys_run config sources)
      (nodup_keys_run config others),
    entries, entries, entries, divided,
    Registry.distinct_distinct_append, Registry.distinct_append_distinct]

/-- Three registries that were filled by any operations have the same entries in
the same order, and as many duplicates, whether the first two or the last two
are merged first, and merging the empty registry into one or one into the empty
registry changes nothing.  Building two lists of documents in one batch
therefore registers what building them apart and merging the registries does,
and the report of the first list is a prefix of the report of both. -/
theorem merge_assoc_and_run_append
    {Slot : Type}
    [DecidableEq Slot]
    (operations : List (Operation Slot))
    (first second third : Slot)
    (config : Config)
    (sources others : List Source) :
    let shelf := Reference.Shelf.filled operations
    let left := shelf first
    let middle := shelf second
    let right := shelf third
    let report := run config (sources ++ others)
    ((left.merge middle).1.merge right).1 =
        (left.merge (middle.merge right).1).1 ∧
      (left.merge middle).2.length +
          ((left.merge middle).1.merge right).2.length =
        (middle.merge right).2.length +
          (left.merge (middle.merge right).1).2.length ∧
      left.merge {} = (left, []) ∧
      Registry.merge {} left = (left, []) ∧
      report.registry =
        ((run config sources).registry.merge
          (run config others).registry).1 ∧
      (run config sources).registry.entries <+: report.registry.entries ∧
      (run config sources).diagnostics <+: report.diagnostics ∧
      (run config sources).forests <+: report.forests := by
  intro shelf left middle right report
  have unique : shelf.Unique := Reference.Shelf.unique_filled operations
  have continues := continues_run_append config sources others
  exact ⟨Registry.merge_assoc (unique first) (unique second) (unique third),
    Registry.length_merge_assoc (unique first) (unique second)
      (unique third),
    left.merge_empty,
    Registry.empty_merge (unique first),
    registry_run_append config sources others,
    continues.entries, continues.diagnostics, continues.forests⟩

end ApiIndex.Batch
