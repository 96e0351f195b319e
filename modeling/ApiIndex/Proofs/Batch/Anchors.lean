import ApiIndex.Proofs.Batch.Permutation
import ApiIndex.Proofs.Text.Run

namespace ApiIndex

/-!
# Anchors

The anchor of a declaration is written from its kind and its qualified name
without any escape.  The two can still be told apart, because no kind has a dash
in its name: whatever characters the qualified name has, the kind ends at the
first dash behind the mark of the domain.  In a batch, where no key is
registered twice, every entry therefore has an anchor of its own, and it leads
to the directive that declares the entry.
-/

namespace Reference.Key

/-- A kind is named without a dash. -/
theorem dash_not_mem_kind
    (kind : Kind) :
    '-' ∉ kind.name.toList := by
  cases kind <;> decide +kernel

/-- Keys with the same anchor are the same. -/
theorem eq_of_anchor_eq
    {key other : Key}
    (same : key.anchor = other.anchor) :
    key = other := by
  have noDash
      (kind : Kind) :
      ∀ character ∈ kind.name.toList, (character != '-') = true := by
    intro character member
    rw [bne_iff_ne]
    rintro rfl
    exact dash_not_mem_kind kind member
  have atDash
      (name : String) :
      ∀ first, ('-' :: name.toList).head? = some first →
        (first != '-') = false := by
    simp
  have written :
      key.kind.name.toList ++ '-' :: key.name.toList =
        other.kind.name.toList ++ '-' :: other.name.toList := by
    simpa [anchor, ← String.toList_inj] using same
  obtain ⟨sameKind, sameName⟩ :=
    Text.run_append_inj (noDash key.kind) (noDash other.kind)
      (atDash key.name) (atDash other.name) written
  have kinds := congrArg Kind.ofName? (String.toList_inj.mp sameKind)
  rw [Kind.ofName?_name, Kind.ofName?_name] at kinds
  have names := String.toList_inj.mp (List.cons.inj sameName).2
  cases key
  cases other
  exact congr (congrArg mk (Option.some.inj kinds)) names

end Reference.Key

namespace Document

open Reference (Key Target)

variable {name : String} {rule : NestingRule} {directives : List Directive}

/-- A directive that declares a key in a document: it is accepted with the kind
of the key, and the qualified name of what it declares is the name of the
key. -/
def Declares
    (outcome : Outcome)
    (directives : List Directive)
    (key : Key)
    (directive : Directive) :
    Prop :=
  ∃ earlier later signature,
    directives = earlier ++ directive :: later ∧
      directive.resolve = .ok (key.kind, signature) ∧
      outcome.forest.qualifiedName? (rank earlier) = some key.name

/-- What a document registers leads to the line of a directive that declares
it, with the anchor of its key. -/
theorem exists_declares_of_find?
    {key : Key}
    {target : Target}
    (found :
      (ofDirectives name rule directives).registry.find? key =
        some target) :
    target.document = name ∧
      target.anchor = key.anchor ∧
      ∃ directive,
        directive.line = target.line ∧
          Declares (ofDirectives name rule directives) directives key
            directive := by
  rw [find?_ofDirectives] at found
  obtain ⟨place, isFirst, rfl⟩ := Option.map_eq_some_iff.mp found
  have member := List.mem_of_find?_eq_some isFirst
  have hasKey : place.key? rule = some key := by
    simpa using List.find?_some isFirst
  obtain ⟨⟨kind, signature⟩, declared, rfl⟩ :=
    Option.map_eq_some_iff.mp hasKey
  obtain ⟨later, whole⟩ := exists_behind_of_mem_places member
  have qualified :=
    (records_ofDirectives name rule directives).qualifiedName?_eq
      (suffix_of_mem_places member) declared
  rw [rule_ofDirectives, ← rank_reverse] at qualified
  exact ⟨rfl, rfl, place.directive, rfl, place.earlier.reverse, later,
    signature, whole, Directive.declared?_eq_some_iff.mp declared,
    qualified⟩

end Document

namespace Batch

open Document (Declares outline)

/-- Every entry of a batch has the anchor that is written from its own kind and
name, no two entries have the same anchor, and every entry leads to a line of a
document on which a directive declares it. -/
theorem entries_have_own_anchors
    (config : Config)
    (sources : List Source) :
    let registry := (run config sources).registry
    (∀ entry ∈ registry.entries,
        entry.target.anchor =
          "dn-" ++ entry.key.kind.name ++ "-" ++ entry.key.name) ∧
      (registry.entries.map (·.target.anchor)).Nodup ∧
      ∀ entry ∈ registry.entries,
        ∃ source ∈ sources,
          source.name = entry.target.document ∧
            ∃ directive,
              directive.line = entry.target.line ∧
                Declares (source.outcome config)
                  (outline config.domain source.text) entry.key
                  directive := by
  intro registry
  have unique : registry.keys.Nodup := nodup_keys_run config sources
  have declared :
      ∀ entry ∈ registry.entries,
        entry.target.anchor = entry.key.anchor ∧
          ∃ source ∈ sources,
            source.name = entry.target.document ∧
              ∃ directive,
                directive.line = entry.target.line ∧
                  Declares (source.outcome config)
                    (outline config.domain source.text) entry.key
                    directive := by
    intro entry member
    have found :=
      (Reference.Registry.find?_eq_some_iff unique).mpr member
    rw [find?_run] at found
    obtain ⟨source, isSource, inSource⟩ :=
      List.exists_of_findSome?_eq_some found
    obtain ⟨document, anchored, directive, onLine, declares⟩ :=
      Document.exists_declares_of_find? inSource
    exact ⟨anchored, source, isSource, document.symm, directive, onLine,
      declares⟩
  refine ⟨fun entry member => (declared entry member).1, ?_,
    fun entry member => (declared entry member).2⟩
  have anchors :
      registry.entries.map (·.target.anchor) =
        registry.keys.map Reference.Key.anchor := by
    rw [Reference.Registry.keys, List.map_map]
    exact List.map_congr_left fun entry member =>
      (declared entry member).1
  rw [anchors]
  exact unique.map fun _ _ => Reference.Key.eq_of_anchor_eq

end Batch

end ApiIndex
