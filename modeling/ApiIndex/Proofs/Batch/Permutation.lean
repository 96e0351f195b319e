import ApiIndex.Proofs.Batch.Account

namespace ApiIndex.Batch

open ApiIndex.Reference (Key Registry)

/-!
# Batches in another order

The order of the documents decides which document a key belongs to, and by that
what is reported at which line.  It does not decide which keys are registered,
and since every directive is registered or reported, not how much is reported
either.
-/

/-- Whether two documents have no key in common. -/
def Source.Apart
    (config : Config)
    (source other : Source) :
    Prop :=
  ∀ key ∈ (source.outcome config).registry.keys,
    key ∉ (other.outcome config).registry.keys

instance
    (config : Config)
    (source other : Source) :
    Decidable (source.Apart config other) :=
  inferInstanceAs
    (Decidable (∀ key ∈ (source.outcome config).registry.keys,
      key ∉ (other.outcome config).registry.keys))

variable {config : Config} {sources others : List Source}

section Keys

/-- The keys of a batch are those that its documents register by themselves. -/
theorem mem_keys_run_iff
    {key : Key} :
    key ∈ (run config sources).registry.keys ↔
      ∃ source ∈ sources, key ∈ (source.outcome config).registry.keys := by
  have answer := (run_accounts config sources).find?_eq key
  have absent :
      key ∉ (run config sources).registry.keys ↔
        key ∉ Registry.keys ⟨entriesOf config sources⟩ := by
    rw [← Registry.find?_eq_none_iff, ← Registry.find?_eq_none_iff, answer]
  rw [← not_iff_not, absent, Registry.keys, entriesOf, List.map_flatMap]
  simp only [List.mem_flatMap, Registry.keys]

theorem nodup_keys_run
    (config : Config)
    (sources : List Source) :
    (run config sources).registry.keys.Nodup := by
  rw [Registry.keys, (run_accounts config sources).entries]
  exact Registry.nodup_keys_distinct _

/-- The target of a key is that of the first document that has the key. -/
theorem find?_run
    (config : Config)
    (sources : List Source)
    (key : Key) :
    (run config sources).registry.find? key =
      sources.findSome? fun source =>
        (source.outcome config).registry.find? key := by
  rw [(run_accounts config sources).find?_eq, Registry.find?, entriesOf,
    List.find?_flatMap, List.map_findSome?]
  rfl

end Keys

theorem Report.hasWarnings_eq
    (report : Report) :
    report.hasWarnings = decide (0 < report.diagnostics.length) := by
  rw [hasWarnings]
  cases report.diagnostics <;> rfl

section Reordered

theorem keys_run_perm
    (reordered : sources.Perm others) :
    (run config sources).registry.keys.Perm
      (run config others).registry.keys := by
  apply (List.perm_ext_iff_of_nodup (nodup_keys_run config sources)
    (nodup_keys_run config others)).mpr
  intro key
  simp only [mem_keys_run_iff, reordered.mem_iff]

/-- A batch registers as many keys and reports as much in every order. -/
theorem sizes_run_eq
    (reordered : sources.Perm others) :
    (run config sources).registry.size =
        (run config others).registry.size ∧
      (run config sources).diagnostics.length =
        (run config others).diagnostics.length := by
  have sameSize :
      (run config sources).registry.size =
        (run config others).registry.size := by
    simpa [Registry.keys, Registry.size] using
      (keys_run_perm reordered).length_eq
  have sameDirectives :
      (directivesOf config sources).length =
        (directivesOf config others).length :=
    (reordered.flatMap_right _).length_eq
  refine ⟨sameSize, ?_⟩
  rw [← (run_accounts config sources).total,
    ← (run_accounts config others).total, sameSize] at sameDirectives
  exact Nat.add_left_cancel sameDirectives

/-- Where no two documents register the same key, every key has the same target
in every order. -/
theorem find?_run_eq_of_apart
    (reordered : sources.Perm others)
    (apart : sources.Pairwise (Source.Apart config))
    (key : Key) :
    (run config sources).registry.find? key =
      (run config others).registry.find? key := by
  have unique : (Registry.keys ⟨entriesOf config sources⟩).Nodup := by
    rw [Registry.keys, entriesOf, List.map_flatMap]
    exact List.nodup_flatMap.mpr
      ⟨fun source _ => source.nodup_keys_outcome config,
        apart.imp fun here key => here key⟩
  rw [(run_accounts config sources).find?_eq,
    (run_accounts config others).find?_eq]
  exact Registry.find?_eq_of_perm unique (reordered.flatMap_right _)

/-- Reordering the documents of a batch changes neither the registered keys nor
their number, nor the number of diagnostics, nor whether anything is reported.
A key has its target from the first document that registers it, so where no two
documents register the same key, the order does not matter at all for the
registry. -/
theorem run_agrees_of_perm
    (config : Config)
    (sources others : List Source)
    (reordered : sources.Perm others) :
    let report := run config sources
    let other := run config others
    (∀ key,
      key ∈ report.registry.keys ↔ key ∈ other.registry.keys) ∧
      report.registry.size = other.registry.size ∧
      report.diagnostics.length = other.diagnostics.length ∧
      report.hasWarnings = other.hasWarnings ∧
      (∀ key,
        report.registry.find? key =
            sources.findSome? (fun source =>
              (source.outcome config).registry.find? key) ∧
          other.registry.find? key =
            others.findSome? fun source =>
              (source.outcome config).registry.find? key) ∧
      (sources.Pairwise (Source.Apart config) →
        ∀ key, report.registry.find? key = other.registry.find? key) := by
  intro report other
  obtain ⟨sameSize, sameLength⟩ := @sizes_run_eq config _ _ reordered
  refine ⟨fun _ => (keys_run_perm reordered).mem_iff, sameSize, sameLength,
    ?_, fun key => ⟨find?_run config sources key,
      find?_run config others key⟩,
    fun apart => find?_run_eq_of_apart reordered apart⟩
  rw [report.hasWarnings_eq, other.hasWarnings_eq, sameLength]

/-- Two documents without a common key, of which the second one also has a
rejected directive, register their keys in another order when they are swapped
and agree in everything else. -/
theorem run_of_swapped_documents :
    let sources : List Source :=
      [⟨"shapes", ".. dn:class:: Shape\n"⟩,
        ⟨"edges", ".. dn:class:: Edge\n.. dn:class:: 2D\n"⟩]
    let report := run {} sources
    let other := run {} sources.reverse
    report.registry.keys.map Key.name = ["Shape", "Edge"] ∧
      other.registry.keys.map Key.name = ["Edge", "Shape"] ∧
      report.diagnostics.length = other.diagnostics.length ∧
      ∀ key, report.registry.find? key = other.registry.find? key := by
  intro sources report other
  obtain ⟨-, -, sameLength, -, -, sameTargets⟩ :=
    run_agrees_of_perm {} sources sources.reverse
      (List.reverse_perm sources).symm
  refine ⟨by decide +kernel, by decide +kernel, sameLength, ?_⟩
  apply sameTargets
  decide +kernel

end Reordered

end ApiIndex.Batch
