import ApiIndex.Proofs.Batch.Account

namespace ApiIndex.Batch

open ApiIndex.Reference (Entry)

/-!
# The order of a batch's diagnostics

The diagnostics of a batch come in document order.  Within a document they need
not come in line order: the entries that a document loses are reported behind
all its own diagnostics, and in the order of its registry, in which what is
nested comes first.  They come in line order exactly if no own diagnostic
stands behind a lost entry and the lost entries are registered line by line.
-/

/-- The diagnostics of a batch with the positions of their documents. -/
def located
    (config : Config)
    (sources : List Source) :
    List (Nat × Diagnostic) :=
  (sources.mapIdx fun position source =>
    (block config (sources.take position) source).map fun diagnostic =>
      (position, diagnostic)).flatten

/-- In document order, and in line order within a document. -/
def InOrder
    (first second : Nat × Diagnostic) :
    Prop :=
  first.1 < second.1 ∨
    first.1 = second.1 ∧ first.2.line ≤ second.2.line

instance : DecidableRel InOrder :=
  fun _ _ => inferInstanceAs (Decidable (_ ∨ _))

/-- The entries that a document loses behind others. -/
def losses
    (config : Config)
    (earlier : List Source)
    (source : Source) :
    List Entry :=
  (source.outcome config).registry.entries.filter fun entry =>
    (lossReport? (entriesOf config earlier) entry).isSome

/-- No lost entry stands before an own diagnostic of the document, and the lost
entries are registered in line order. -/
structure LossesInOrder
    (config : Config)
    (earlier : List Source)
    (source : Source) : Prop where
  behindOwn :
    ∀ own ∈ (source.outcome config).diagnostics,
      ∀ lost ∈ losses config earlier source,
        own.line ≤ lost.target.line
  byLine :
    (losses config earlier source).Pairwise fun first second =>
      first.target.line ≤ second.target.line

section Block

variable {config : Config} {earlier : List Source} {source : Source}

/-- The reports of losses stand at the lines of the lost entries. -/
theorem map_line_losses
    (before entries : List Entry) :
    (entries.filterMap (lossReport? before)).map Diagnostic.line =
      (entries.filter fun entry =>
        (lossReport? before entry).isSome).map (·.target.line) := by
  induction entries with
  | nil =>
      rfl
  | cons entry rest inductionHypothesis =>
      cases reported : lossReport? before entry with
      | none =>
          simpa [reported] using inductionHypothesis
      | some diagnostic =>
          obtain ⟨first, -, rfl⟩ := Option.map_eq_some_iff.mp reported
          simpa [reported] using inductionHypothesis

/-- A block is in line order exactly if the losses of its document are in
order. -/
theorem block_pairwise_line_iff :
    (block config earlier source).Pairwise
        (fun first second => first.line ≤ second.line) ↔
      LossesInOrder config earlier source := by
  have own :
      (source.outcome config).diagnostics.Pairwise fun first second =>
        first.line ≤ second.line :=
    (Document.diagnostics_build_ordered config source.name
      source.text).imp Nat.le_of_lt
  have lines :
      (block config earlier source).map Diagnostic.line =
        (source.outcome config).diagnostics.map Diagnostic.line ++
          (losses config earlier source).map (·.target.line) := by
    rw [block, List.map_append, map_line_losses]
    rfl
  have byLine :
      (block config earlier source).Pairwise
          (fun first second => first.line ≤ second.line) ↔
        ((block config earlier source).map Diagnostic.line).Pairwise
          (· ≤ ·) :=
    List.pairwise_map.symm
  rw [byLine, lines, List.pairwise_append, List.pairwise_map,
    List.pairwise_map, List.forall_mem_map]
  constructor
  · rintro ⟨-, lostOrdered, across⟩
    exact ⟨fun first member => List.forall_mem_map.mp (across first member),
      lostOrdered⟩
  · rintro ⟨across, lostOrdered⟩
    exact ⟨own, lostOrdered, fun first member =>
      List.forall_mem_map.mpr (across first member)⟩

end Block

section Located

variable {config : Config} {sources : List Source}

/-- The located diagnostics are the diagnostics of the batch. -/
theorem map_snd_located
    (config : Config)
    (sources : List Source) :
    (located config sources).map Prod.snd =
      (run config sources).diagnostics := by
  rw [(run_accounts config sources).diagnostics, located, inTurn,
    List.map_flatten, List.mapIdx_eq_zipIdx_map,
    List.mapIdx_eq_zipIdx_map, List.map_map]
  simp [Function.comp_def]

/-- The diagnostics of a document come before those of all later ones. -/
theorem located_pairwise_iff
    (relation : Nat × Diagnostic → Nat × Diagnostic → Prop)
    (acrossDocuments :
      ∀ first second, first.1 < second.1 → relation first second) :
    (located config sources).Pairwise relation ↔
      ∀ position source,
        sources[position]? = some source →
          (block config (sources.take position) source).Pairwise
            fun first second =>
              relation (position, first) (position, second) := by
  rw [located, List.pairwise_flatten]
  constructor
  · rintro ⟨within, -⟩ position source here
    obtain ⟨inBounds, rfl⟩ := List.getElem?_eq_some_iff.mp here
    exact List.pairwise_map.mp
      (within _ (List.mem_mapIdx.mpr ⟨position, inBounds, rfl⟩))
  · intro within
    refine ⟨?_, ?_⟩
    · intro part member
      obtain ⟨position, inBounds, rfl⟩ := List.mem_mapIdx.mp member
      exact List.pairwise_map.mpr
        (within position _ (List.getElem?_eq_getElem inBounds))
    · rw [List.pairwise_iff_getElem]
      intro position later inBounds laterInBounds before
      rw [List.getElem_mapIdx, List.getElem_mapIdx, List.forall_mem_map]
      intro first _
      rw [List.forall_mem_map]
      intro second _
      exact acrossDocuments _ _ before

end Located

/-- The diagnostics of a batch come in document order.  They come in line order
within every document exactly if the losses of every document are in order. -/
theorem diagnostics_in_order_iff_losses_in_order
    (config : Config)
    (sources : List Source) :
    (located config sources).map Prod.snd =
        (run config sources).diagnostics ∧
      (located config sources).Pairwise
        (fun first second => first.1 ≤ second.1) ∧
      ((located config sources).Pairwise InOrder ↔
        ∀ position source,
          sources[position]? = some source →
            LossesInOrder config (sources.take position) source) := by
  refine ⟨map_snd_located config sources, ?_, ?_⟩
  · rw [located_pairwise_iff _ fun _ _ => Nat.le_of_lt]
    intro position source _
    exact List.pairwise_of_forall fun _ _ => Nat.le_refl position
  · rw [located_pairwise_iff _ fun _ _ => .inl]
    refine forall_congr' fun position => forall_congr' fun source =>
      imp_congr_right fun _ => ?_
    rw [← block_pairwise_line_iff]
    simp [InOrder]

/-- A class that an earlier document has is reported behind a rejected
signature on a later line. -/
theorem loss_reported_behind_later_line :
    let sources : List Source :=
      [⟨"shapes", ".. dn:class:: Shape\n"⟩,
        ⟨"edges", ".. dn:class:: Shape\n.. dn:class:: 2D\n"⟩]
    (run {} sources).diagnostics.map
        (fun diagnostic => (diagnostic.document, diagnostic.line)) =
          [("edges", 2), ("edges", 1)] ∧
      ¬ (located {} sources).Pairwise InOrder := by
  decide +kernel

end ApiIndex.Batch
