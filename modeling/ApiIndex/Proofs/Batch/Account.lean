import ApiIndex.Batch
import ApiIndex.Proofs.Document.Outcome
import ApiIndex.Proofs.Reference.Merge

namespace ApiIndex.Batch

open ApiIndex.Document (Outcome outline)
open ApiIndex.Reference (Duplicate Entry Key Registry Target)

/-!
# A batch accounts for every directive

What a batch amounts to is said here document by document, without a registry
that grows.  An entry of a document is kept if no document before it has the
key, and is reported otherwise with the target of the first entry that has it.
So every directive of every document is registered or reported once.
-/

/-- What a document amounts to by itself. -/
def Source.outcome
    (config : Config)
    (source : Source) :
    Outcome :=
  Document.build config source.name source.text

/-- The entries that documents register by themselves, behind each other. -/
def entriesOf
    (config : Config)
    (sources : List Source) :
    List Entry :=
  sources.flatMap fun source => (source.outcome config).registry.entries

/-- The directives of documents, behind each other. -/
def directivesOf
    (config : Config)
    (sources : List Source) :
    List Document.Directive :=
  sources.flatMap fun source => outline config.domain source.text

/-- The warning for an entry whose key is among those before it.  It stands at
the line of the entry, names the kind and the name of the key and quotes the
document, the line and the anchor of its first target. -/
def lossReport?
    (before : List Entry)
    (entry : Entry) :
    Option Diagnostic :=
  (before.find? (·.key == entry.key)).map fun first =>
    ⟨entry.target.document, entry.target.line, .warning,
      "Duplicate reference target: " ++ entry.key.kind.name ++ " \"" ++
        entry.key.name ++ "\" (first declared at " ++
        first.target.document ++ ":" ++ first.target.line.repr ++ "#" ++
        first.target.anchor ++ ")"⟩

/-- The entries that a document keeps behind others. -/
def share
    (config : Config)
    (earlier : List Source)
    (source : Source) :
    List Entry :=
  (source.outcome config).registry.entries.filter fun entry =>
    (lossReport? (entriesOf config earlier) entry).isNone

/-- What is reported for a document behind others: its own diagnostics and then
the entries that it loses. -/
def block
    (config : Config)
    (earlier : List Source)
    (source : Source) :
    List Diagnostic :=
  (source.outcome config).diagnostics ++
    (source.outcome config).registry.entries.filterMap
      (lossReport? (entriesOf config earlier))

/-- For every document, in order, what is given for it behind those before
it. -/
def inTurn
    {Share : Type}
    (give : List Source → Source → Share)
    (sources : List Source) :
    List Share :=
  sources.mapIdx fun position source => give (sources.take position) source

variable {config : Config} {sources : List Source} {source : Source}

theorem inTurn_append_singleton
    {Share : Type}
    (give : List Source → Source → Share)
    (sources : List Source)
    (source : Source) :
    inTurn give (sources ++ [source]) =
      inTurn give sources ++ [give sources source] := by
  have sameBefore :
      (sources.mapIdx fun position other =>
          give ((sources ++ [source]).take position) other) =
        sources.mapIdx fun position other =>
          give (sources.take position) other := by
    rw [List.mapIdx_eq_mapIdx_iff]
    intro position inBounds
    rw [List.take_append_of_le_length (Nat.le_of_lt inBounds)]
  simp [inTurn, List.mapIdx_concat, sameBefore]

/-- No document registers a key twice. -/
theorem Source.nodup_keys_outcome
    (config : Config)
    (source : Source) :
    (source.outcome config).registry.keys.Nodup :=
  Document.nodup_keys_ofDirectives

theorem run_append_singleton
    (config : Config)
    (sources : List Source)
    (source : Source) :
    run config (sources ++ [source]) =
      (run config sources).add (source.outcome config) := by
  simp [run, List.foldl_append, Source.outcome]

section Losses

/-- The wording of a duplicate, written out. -/
theorem message_duplicate
    (key : Key)
    (existing : Target) :
    (Duplicate.mk key existing).message =
      "Duplicate reference target: " ++ key.kind.name ++ " \"" ++
        key.name ++ "\" (first declared at " ++ existing.document ++
        ":" ++ existing.line.repr ++ "#" ++ existing.anchor ++ ")" := by
  -- The closing quote belongs to the key.
  have divided :
      "\" (first declared at " = "\"" ++ " (first declared at " := by
    decide
  unfold Duplicate.message Key.display Target.display
  simp only [divided, String.append_assoc]

variable {before : List Entry} {registry : Registry}

/-- A registry that answers like the entries before reports what is lost
against them. -/
theorem map_collisionDiagnostic_colliding
    (sameAnswers : ∀ key, registry.find? key = Registry.find? ⟨before⟩ key)
    (entries : List Entry) :
    (registry.colliding entries).map Report.collisionDiagnostic =
      entries.filterMap (lossReport? before) := by
  rw [Registry.colliding, List.map_filterMap]
  apply List.filterMap_congr
  intro entry _
  rw [sameAnswers, lossReport?, Registry.find?, Option.map_map,
    Option.map_map]
  refine Option.map_congr fun first _ => ?_
  exact congrArg (Diagnostic.mk entry.target.document entry.target.line
    .warning) (message_duplicate entry.key first.target)

/-- A registry that answers like the entries before lacks what is not lost
against them. -/
theorem lacking_eq_filter_lossReport?
    (sameAnswers : ∀ key, registry.find? key = Registry.find? ⟨before⟩ key)
    (entries : List Entry) :
    registry.lacking entries =
      entries.filter fun entry => (lossReport? before entry).isNone := by
  apply List.filter_congr
  intro entry _
  rw [sameAnswers, lossReport?, Registry.find?, Option.isNone_map,
    Option.isNone_map]

end Losses

/-- How a report accounts for the documents of a batch. -/
structure Accounts
    (config : Config)
    (sources : List Source)
    (report : Report) : Prop where
  entries :
    report.registry.entries = Registry.distinct (entriesOf config sources)
  shares :
    report.registry.entries = (inTurn (share config) sources).flatten
  forests :
    report.forests =
      sources.map fun source =>
        (source.name, (source.outcome config).forest)
  diagnostics :
    report.diagnostics = (inTurn (block config) sources).flatten
  total :
    report.registry.size + report.diagnostics.length =
      (directivesOf config sources).length

namespace Accounts

variable {report : Report}

theorem nil
    (config : Config) :
    Accounts config [] {} where
  entries := rfl
  shares := rfl
  forests := rfl
  diagnostics := rfl
  total := rfl

/-- The registry of a batch answers like all entries behind each other. -/
theorem find?_eq
    (accounts : Accounts config sources report)
    (key : Key) :
    report.registry.find? key =
      Registry.find? ⟨entriesOf config sources⟩ key := by
  have answers := Registry.find?_distinct (entriesOf config sources) key
  rw [← accounts.entries] at answers
  exact answers

/-- Adding a document registers its share and reports its block. -/
theorem add_eq
    (accounts : Accounts config sources report)
    (source : Source) :
    report.add (source.outcome config) =
      { registry :=
          ⟨report.registry.entries ++ share config sources source⟩
        diagnostics := report.diagnostics ++ block config sources source
        forests :=
          report.forests ++
            [(source.name, (source.outcome config).forest)] } := by
  have named : (source.outcome config).name = source.name :=
    Document.name_ofDirectives
  simp only [Report.add, Registry.merge,
    Registry.mergeEntries_eq (source.nodup_keys_outcome config),
    map_collisionDiagnostic_colliding accounts.find?_eq,
    lacking_eq_filter_lossReport? accounts.find?_eq, named,
    List.append_assoc]
  rfl

/-- Of the entries of a document, those that it keeps and those that it loses
are all. -/
theorem length_share_add_length_block
    (config : Config)
    (earlier : List Source)
    (source : Source) :
    (share config earlier source).length +
        (block config earlier source).length =
      (outline config.domain source.text).length := by
  have divided :=
    Registry.length_lacking_add_length_colliding
      ⟨entriesOf config earlier⟩ (source.outcome config).registry.entries
  rw [lacking_eq_filter_lossReport? fun _ => rfl,
    ← List.length_map Report.collisionDiagnostic,
    map_collisionDiagnostic_colliding fun _ => rfl] at divided
  have accounted :
      (source.outcome config).registry.size +
          (source.outcome config).diagnostics.length =
        (outline config.domain source.text).length :=
    Document.accounted_ofDirectives
  rw [Registry.size] at accounted
  rw [share, block, List.length_append]
  omega

theorem add
    (accounts : Accounts config sources report)
    (source : Source) :
    Accounts config (sources ++ [source])
      (report.add (source.outcome config)) := by
  have divided := length_share_add_length_block config sources source
  have total := accounts.total
  rw [accounts.add_eq]
  exact {
    entries := by
      rw [entriesOf, List.flatMap_append, List.flatMap_singleton,
        Registry.distinct_append (source.nodup_keys_outcome config),
        lacking_eq_filter_lossReport? fun _ => rfl]
      exact congrArg (· ++ _) accounts.entries
    shares := by
      simp [inTurn_append_singleton, accounts.shares]
    forests := by
      simp [accounts.forests]
    diagnostics := by
      simp [inTurn_append_singleton, accounts.diagnostics]
    total := by
      simp only [Registry.size, directivesOf, List.flatMap_append,
        List.flatMap_singleton, List.length_append] at total ⊢
      omega
  }

end Accounts

/-- The report of a batch accounts for its documents. -/
theorem run_accounts
    (config : Config)
    (sources : List Source) :
    Accounts config sources (run config sources) := by
  induction sources using List.reverseRecOn with
  | nil =>
      exact .nil config
  | append_singleton sources source inductionHypothesis =>
      rw [run_append_singleton]
      exact inductionHypothesis.add source

/-- The entries of a batch are those of its documents behind each other without
the ones whose key comes earlier, so that the first target of a key stays;
document by document, they are the entries for which no loss is reported.  The
declarations are listed by document.  The diagnostics are, document by document,
its own ones and a warning for every entry that it loses, and all directives are
either registered or reported. -/
theorem run_merges_in_order_and_accounts_for_directives
    (config : Config)
    (sources : List Source) :
    let report := run config sources
    report.registry.entries =
        Registry.distinct (entriesOf config sources) ∧
      (∀ key,
        report.registry.find? key =
          Registry.find? ⟨entriesOf config sources⟩ key) ∧
      report.registry.entries =
        (inTurn (share config) sources).flatten ∧
      report.forests =
        sources.map (fun source =>
          (source.name, (source.outcome config).forest)) ∧
      report.diagnostics =
        (inTurn (block config) sources).flatten ∧
      (directivesOf config sources).length =
        report.registry.size + report.diagnostics.length := by
  intro report
  have accounts := run_accounts config sources
  exact ⟨accounts.entries, accounts.find?_eq, accounts.shares,
    accounts.forests, accounts.diagnostics, accounts.total.symm⟩

/-- A class that is declared again in a second document keeps the target that
the first one gives it, and the warning for the second one quotes it. -/
theorem run_keeps_target_of_first_document :
    let sources : List Source :=
      [⟨"first", ".. dn:namespace:: N\n\n    .. dn:class:: A\n"⟩,
        ⟨"second", ".. dn:class:: N.A\n.. dn:class:: N.B\n"⟩]
    let report := run {} sources
    report.registry.entries =
        [⟨⟨.classType, "N.A"⟩, ⟨"first", 3, "dn-class-N.A"⟩⟩,
          ⟨⟨.namespaceScope, "N"⟩, ⟨"first", 1, "dn-namespace-N"⟩⟩,
          ⟨⟨.classType, "N.B"⟩, ⟨"second", 2, "dn-class-N.B"⟩⟩] ∧
      report.forests.map Prod.fst = ["first", "second"] ∧
      report.diagnostics =
        [⟨"second", 1, .warning,
          "Duplicate reference target: class \"N.A\" (first" ++
            " declared at first:3#dn-class-N.A)"⟩] ∧
      report.diagnostics.map Diagnostic.display =
        ["second:1: WARNING: Duplicate reference target: class" ++
          " \"N.A\" (first declared at first:3#dn-class-N.A)"] ∧
      (directivesOf {} sources).length =
        report.registry.size + report.diagnostics.length := by
  intro sources report
  obtain ⟨entries, -, -, forests, diagnostics, total⟩ :=
    run_merges_in_order_and_accounts_for_directives {} sources
  refine ⟨entries.trans ?_, ?_, diagnostics.trans ?_, ?_, total⟩
  · decide +kernel
  · rw [forests]
    rfl
  · decide +kernel
  · rw [diagnostics]
    decide +kernel

end ApiIndex.Batch
