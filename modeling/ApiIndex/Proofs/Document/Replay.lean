import ApiIndex.Proofs.Document.Nesting

namespace ApiIndex.Document

open ApiIndex.Reference (Entry Key Registry Target)

/-!
# What a document amounts to

Every directive has its verdict by itself and what comes before it: its key
follows from the directives around it, the first directive with a key is the
one that a reference leads to, and every further one is reported.  A document
built with scopes and claims has exactly these entries and these reports.
-/

/-- The places of directives, in order, behind a history. -/
def placesBehind :
    List Directive →
      List Directive →
      List Place
  | _, [] =>
      []
  | earlier, directive :: later =>
      ⟨directive, earlier⟩ :: placesBehind (directive :: earlier) later

/-- The places of the directives of a document, in order. -/
def places
    (directives : List Directive) :
    List Place :=
  placesBehind [] directives

/-- The names that places contribute to what is nested in them. -/
def contributed
    (rule : NestingRule)
    (around : List Place) :
    List String :=
  ((around.filterMap (·.directive.declared?)).filter fun declaration =>
    rule.contributes declaration.1).map (·.2.fullName)

namespace Place

/-- The key of an accepted directive. -/
def key?
    (rule : NestingRule)
    (place : Place) :
    Option Key :=
  place.directive.declared?.map fun (kind, signature) =>
    ⟨kind, NestingRule.render
      ((contributed rule
          (enclosing place.directive.indent place.earlier)).reverse ++
        [signature.fullName])⟩

/-- Where a reference to a key leads, if the key is declared at a place. -/
def target
    (name : String)
    (key : Key)
    (place : Place) :
    Target :=
  ⟨name, place.directive.line,
    "dn-" ++ key.kind.name ++ "-" ++ key.name⟩

end Place

/-- The target of the first of the directives that has a key. -/
def firstTarget?
    (name : String)
    (rule : NestingRule)
    (directives : List Directive)
    (key : Key) :
    Option Target :=
  ((places directives).find? fun place =>
    place.key? rule == some key).map (Place.target name key)

/-- What is reported at a place: an unknown kind, a rejected signature, or a
key that an earlier directive has. -/
def Place.report?
    (name : String)
    (rule : NestingRule)
    (place : Place) :
    Option Diagnostic :=
  let directive := place.directive
  match place.key? rule with
  | some key =>
      (firstTarget? name rule place.earlier.reverse key).map fun first =>
        ⟨name, directive.line, .warning,
          "Duplicate reference target: " ++ key.display ++
            " (first declared at " ++ first.display ++ ")"⟩
  | none =>
      match Kind.parse? directive.kind with
      | none =>
          some ⟨name, directive.line, .error,
            "Unknown directive kind \"" ++ directive.kind ++ "\""⟩
      | some _ =>
          some ⟨name, directive.line, .warning,
            "Parsing signature failed: \"" ++ directive.signature ++
              "\""⟩

section Places

variable {name : String} {rule : NestingRule} {directive : Directive}

theorem placesBehind_append
    (earlier directives more : List Directive) :
    placesBehind earlier (directives ++ more) =
      placesBehind earlier directives ++
        placesBehind (directives.reverse ++ earlier) more := by
  induction directives generalizing earlier with
  | nil =>
      rfl
  | cons directive directives inductionHypothesis =>
      simp [placesBehind, inductionHypothesis]

theorem places_append_singleton
    (history : List Directive)
    (directive : Directive) :
    places (history.reverse ++ [directive]) =
      places history.reverse ++ [⟨directive, history⟩] := by
  simp [places, placesBehind_append, placesBehind]

/-- A place of a document comes with all directives before it. -/
theorem suffix_of_mem_placesBehind
    {earlier directives : List Directive}
    {place : Place}
    (member : place ∈ placesBehind earlier directives) :
    place.directive :: place.earlier <:+
      directives.reverse ++ earlier := by
  induction directives generalizing earlier with
  | nil =>
      simp [placesBehind] at member
  | cons directive directives inductionHypothesis =>
      rw [placesBehind] at member
      rcases List.mem_cons.mp member with rfl | isLater
      · exact ⟨directives.reverse, by simp⟩
      · simpa using inductionHypothesis isLater

theorem suffix_of_mem_places
    {directives : List Directive}
    {place : Place}
    (member : place ∈ places directives) :
    place.directive :: place.earlier <:+ directives.reverse := by
  simpa using suffix_of_mem_placesBehind member

/-- A place cuts a document into what is before it, its directive and what is
behind. -/
theorem exists_behind_of_mem_places
    {directives : List Directive}
    {place : Place}
    (member : place ∈ places directives) :
    ∃ later,
      directives = place.earlier.reverse ++ place.directive :: later := by
  obtain ⟨later, shape⟩ := suffix_of_mem_places member
  have reversed := congrArg List.reverse shape
  exact ⟨later.reverse, by simpa using reversed.symm⟩

theorem directive_mem_of_mem_places
    {directives : List Directive}
    {place : Place}
    (member : place ∈ places directives) :
    place.directive ∈ directives := by
  obtain ⟨later, whole⟩ := exists_behind_of_mem_places member
  rw [whole]
  exact List.mem_append_right _ List.mem_cons_self

/-- The places before a place of a document are places of the document. -/
theorem mem_places_of_mem_earlier
    {directives : List Directive}
    {place earlier : Place}
    (member : place ∈ places directives)
    (isEarlier : earlier ∈ places place.earlier.reverse) :
    earlier ∈ places directives := by
  obtain ⟨later, whole⟩ := exists_behind_of_mem_places member
  rw [whole, places, placesBehind_append]
  exact List.mem_append_left _ isEarlier

/-- One more directive is the first with its key if none before it has the
key. -/
theorem firstTarget?_append_singleton
    (history : List Directive)
    (key : Key) :
    firstTarget? name rule (history.reverse ++ [directive]) key =
      (firstTarget? name rule history.reverse key).or
        (if Place.key? rule ⟨directive, history⟩ = some key then
          some (Place.target name key ⟨directive, history⟩)
        else
          none) := by
  simp only [firstTarget?, places_append_singleton, List.find?_append,
    Option.map_or]
  by_cases hasKey : Place.key? rule ⟨directive, history⟩ = some key <;>
    simp [hasKey]

theorem key?_of_declared
    {kind : Kind}
    {signature : Signature}
    {history : List Directive}
    (declared : directive.declared? = some (kind, signature)) :
    Place.key? rule ⟨directive, history⟩ =
      some ⟨kind, NestingRule.render
        ((contributed rule
            (enclosing directive.indent history)).reverse ++
          [signature.fullName])⟩ := by
  simp [Place.key?, declared]

theorem key?_of_rejected
    {history : List Directive}
    (rejected : directive.declared? = none) :
    Place.key? rule ⟨directive, history⟩ = none := by
  simp [Place.key?, rejected]

/-- A rejection quotes the text that was read. -/
theorem raw_of_parse_error
    {raw : String}
    {kind : Kind}
    {rejection : Signature.Rejection}
    (rejected : Signature.parse raw kind = .error rejection) :
    rejection.raw = raw := by
  unfold Signature.parse at rejected
  split at rejected
  · cases rejected
    rfl
  · cases rejected

/-- A rejected directive is reported with its problem. -/
theorem report?_of_error
    {problem : Problem}
    {history : List Directive}
    (rejected : directive.resolve = .error problem) :
    Place.report? name rule ⟨directive, history⟩ =
      some (Diagnostic.ofProblem name directive.line problem) := by
  have noKey :=
    @key?_of_rejected rule directive history
      (Directive.declared?_of_error rejected)
  unfold Directive.resolve at rejected
  cases isKind : Kind.parse? directive.kind with
  | none =>
      rw [isKind] at rejected
      cases rejected
      simp only [Place.report?, noKey, isKind]
      rfl
  | some kind =>
      cases parsed : Signature.parse directive.signature kind with
      | ok signature =>
          simp [isKind, parsed] at rejected
      | error rejection =>
          simp only [isKind, parsed] at rejected
          cases rejected
          simp only [Place.report?, noKey, isKind]
          rw [← raw_of_parse_error parsed]
          rfl

/-- An accepted directive is reported if an earlier one has its key. -/
theorem report?_of_key?
    {history : List Directive}
    {key : Key}
    (hasKey : Place.key? rule ⟨directive, history⟩ = some key) :
    Place.report? name rule ⟨directive, history⟩ =
      (firstTarget? name rule history.reverse key).map fun first =>
        Diagnostic.ofProblem name directive.line
          (.duplicate ⟨key, first⟩) := by
  simp only [Place.report?, hasKey]
  rfl

end Places

section Names

variable {history : List Directive} {forest : Forest}

theorem climb_none
    (steps : Nat) :
    forest.climb steps none = [] := by
  cases steps <;> rfl

theorem rank_le_of_suffix
    {earlier : List Directive}
    (isSuffix : earlier <:+ history) :
    rank earlier ≤ rank history :=
  isSuffix.sublist.countP_le

/-- Climbing from the parent of a place leads through the accepted places
around it. -/
theorem Records.climb_enclosing
    {bound steps : Nat}
    {earlier : List Directive}
    (records : Records history forest)
    (isSuffix : earlier <:+ history)
    (enough : rank earlier ≤ steps) :
    (forest.climb steps
        ((enclosing bound earlier).filterMap Place.node?).head?).map
          (fun node => (node.kind, node.signature)) =
      (enclosing bound earlier).filterMap (·.directive.declared?) := by
  induction earlier generalizing bound steps with
  | nil =>
      simp [enclosing, climb_none]
  | cons directive earlier inductionHypothesis =>
      have restSuffix : earlier <:+ history :=
        (List.suffix_cons directive earlier).trans isSuffix
      rw [rank_cons] at enough
      rw [enclosing]
      split
      · cases declared : directive.declared? with
        | none =>
            have later :=
              @inductionHypothesis directive.indent steps restSuffix
                (by omega)
            simpa [Place.node?, declared] using later
        | some declaration =>
            obtain ⟨kind, signature⟩ := declaration
            obtain ⟨children, found⟩ :=
              records.nodes directive earlier kind signature isSuffix
                declared
            simp only [declared, Option.isSome_some, ↓reduceIte] at enough
            obtain ⟨fewer, rfl⟩ :=
              Nat.exists_eq_add_of_le' (Nat.le_of_add_left_le enough)
            have later :=
              @inductionHypothesis directive.indent fewer restSuffix
                (by omega)
            simpa [Place.node?, declared, Forest.climb, found,
              Place.parent?] using later
      · exact inductionHypothesis restSuffix (by omega)

/-- The qualified name of a declaration is composed of the names that the
places around it contribute and its own. -/
theorem Records.qualifiedName?_eq
    {directive : Directive}
    {earlier : List Directive}
    {kind : Kind}
    {signature : Signature}
    (records : Records history forest)
    (isSuffix : directive :: earlier <:+ history)
    (declared : directive.declared? = some (kind, signature)) :
    forest.qualifiedName? (rank earlier) =
      some (NestingRule.render
        ((contributed forest.rule
            (enclosing directive.indent earlier)).reverse ++
          [signature.fullName])) := by
  obtain ⟨children, found⟩ :=
    records.nodes directive earlier kind signature isSuffix declared
  have restSuffix : earlier <:+ history :=
    (List.suffix_cons directive earlier).trans isSuffix
  have ancestors :=
    @records.climb_enclosing _ _ directive.indent forest.size earlier
      restSuffix (by
        rw [records.size]
        exact rank_le_of_suffix restSuffix)
  have names :
      ((forest.climb forest.size
          (Place.parent? ⟨directive, earlier⟩)).filter fun ancestor =>
            forest.rule.contributes ancestor.kind).map
          (fun ancestor => ancestor.signature.fullName) =
        contributed forest.rule (enclosing directive.indent earlier) := by
    rw [contributed, ← ancestors, List.filter_map, List.map_map]
    rfl
  simp only [Forest.qualifiedName?, Forest.segments?, found,
    Option.map_some, Forest.ancestors, names]

end Names

namespace Builder

/-- A document that has taken in a history and has claimed and reported what
the history amounts to. -/
structure Replays
    (name : String)
    (rule : NestingRule)
    (history : List Directive)
    (builder : Builder) : Prop where
  follows : Follows name rule history builder
  claimed :
    ∀ key,
      builder.claimed.find? key =
        firstTarget? name rule history.reverse key
  diagnostics :
    builder.diagnostics =
      (places history.reverse).filterMap (Place.report? name rule)
  accounted :
    builder.claimed.size + builder.diagnostics.length = history.length

namespace Replays

variable
  {name : String}
  {rule : NestingRule}
  {history : List Directive}
  {builder : Builder}

theorem start
    (name : String)
    (rule : NestingRule) :
    Replays name rule [] (Builder.start name rule) where
  follows := .start name rule
  claimed := fun _ => rfl
  diagnostics := rfl
  accounted := rfl

/-- Ending scopes leaves claims and reports alone. -/
theorem closeFrom_unchanged
    (replays : Replays name rule history builder)
    (indent : Nat) :
    (builder.closeFrom indent).name = name ∧
      (builder.closeFrom indent).forest.rule = rule ∧
      (builder.closeFrom indent).claimed = builder.claimed ∧
      (builder.closeFrom indent).diagnostics = builder.diagnostics := by
  rw [replays.follows.coherent.closeFrom_eq]
  exact ⟨replays.follows.name, replays.follows.rule, rfl, rfl⟩

/-- The name of a declaration that is just opened is the name in its key. -/
theorem named
    (replays : Replays name rule history builder)
    {directive : Directive}
    {kind : Kind}
    {signature : Signature}
    (declared : directive.declared? = some (kind, signature)) :
    let closed := builder.closeFrom directive.indent
    ∃ qualified,
      (closed.forest.openNode kind signature).qualifiedName?
          closed.forest.size = some qualified ∧
        Place.key? rule ⟨directive, history⟩ =
          some ⟨kind, qualified⟩ := by
  have sameRule := (replays.closeFrom_unchanged directive.indent).2.1
  have records := replays.follows.records_closeFrom directive.indent
  have opened :=
    records.openNode declared
      (replays.follows.current?_closeFrom directive)
  have qualified :=
    opened.qualifiedName?_eq (List.suffix_refl _) declared
  rw [← records.size, Forest.rule_openNode, sameRule] at qualified
  exact ⟨_, qualified, key?_of_declared declared⟩

/-- A rejected directive is reported and claims nothing. -/
theorem push_rejected
    {directive : Directive}
    {problem : Problem}
    (replays : Replays name rule history builder)
    (resolved : directive.resolve = .error problem) :
    Replays name rule (directive :: history)
      (builder.push directive) := by
  have follows := replays.follows.push directive
  have accounted := replays.accounted
  have rejected := Directive.declared?_of_error resolved
  obtain ⟨sameName, -, sameClaims, sameReports⟩ :=
    replays.closeFrom_unchanged directive.indent
  rw [push_of_error resolved] at follows ⊢
  exact {
    follows := follows
    claimed := by
      intro key
      rw [List.reverse_cons, firstTarget?_append_singleton,
        key?_of_rejected rejected, ← replays.claimed key]
      simp [Builder.reject, report, sameClaims]
    diagnostics := by
      rw [List.reverse_cons, places_append_singleton,
        List.filterMap_append, ← replays.diagnostics]
      simp [Builder.reject, report, report?_of_error resolved, sameName,
        sameReports]
    accounted := by
      simp only [Builder.reject, report, sameClaims, sameReports,
        List.length_append, List.length_cons, List.length_nil]
      omega
  }

/-- An accepted directive with a new key claims it and is not reported. -/
theorem push_new
    {directive : Directive}
    {kind : Kind}
    {signature : Signature}
    {qualified : String}
    (replays : Replays name rule history builder)
    (resolved : directive.resolve = .ok (kind, signature))
    (named :
      ((builder.closeFrom directive.indent).forest.openNode kind
        signature).qualifiedName?
          (builder.closeFrom directive.indent).forest.size =
        some qualified)
    (hasKey :
      Place.key? rule ⟨directive, history⟩ = some ⟨kind, qualified⟩)
    (noneYet : builder.claimed.find? ⟨kind, qualified⟩ = none) :
    Replays name rule (directive :: history)
      (builder.push directive) := by
  have follows := replays.follows.push directive
  have accounted := replays.accounted
  have before := replays.claimed ⟨kind, qualified⟩
  obtain ⟨sameName, -, sameClaims, sameReports⟩ :=
    replays.closeFrom_unchanged directive.indent
  have absent :
      ⟨kind, qualified⟩ ∉
        (builder.closeFrom directive.indent).claimed.keys := by
    rw [sameClaims]
    exact Registry.find?_eq_none_iff.mp noneYet
  rw [push_of_ok resolved, accept_of_absent named absent] at follows ⊢
  exact {
    follows := follows
    claimed := by
      intro key
      rw [List.reverse_cons, firstTarget?_append_singleton, hasKey,
        ← replays.claimed key, Registry.find?_append_singleton,
        sameClaims, sameName]
      by_cases same : ⟨kind, qualified⟩ = key
      · subst key
        simp only [↓reduceIte]
        rfl
      · simp [same]
    diagnostics := by
      rw [List.reverse_cons, places_append_singleton,
        List.filterMap_append, ← replays.diagnostics]
      simp [report?_of_key? hasKey, ← before, noneYet, sameReports]
    accounted := by
      simp only [Registry.size, sameClaims, sameReports,
        List.length_append, List.length_cons,
        List.length_nil] at accounted ⊢
      omega
  }

/-- An accepted directive whose key is taken is reported and claims
nothing. -/
theorem push_taken
    {directive : Directive}
    {kind : Kind}
    {signature : Signature}
    {qualified : String}
    {existing : Target}
    (replays : Replays name rule history builder)
    (resolved : directive.resolve = .ok (kind, signature))
    (named :
      ((builder.closeFrom directive.indent).forest.openNode kind
        signature).qualifiedName?
          (builder.closeFrom directive.indent).forest.size =
        some qualified)
    (hasKey :
      Place.key? rule ⟨directive, history⟩ = some ⟨kind, qualified⟩)
    (found :
      builder.claimed.find? ⟨kind, qualified⟩ = some existing) :
    Replays name rule (directive :: history)
      (builder.push directive) := by
  have follows := replays.follows.push directive
  have accounted := replays.accounted
  have before := replays.claimed ⟨kind, qualified⟩
  obtain ⟨sameName, -, sameClaims, sameReports⟩ :=
    replays.closeFrom_unchanged directive.indent
  have taken :
      (builder.closeFrom directive.indent).claimed.find?
          ⟨kind, qualified⟩ =
        some existing := by
    rw [sameClaims]
    exact found
  rw [push_of_ok resolved, accept_of_taken named taken] at follows ⊢
  exact {
    follows := follows
    claimed := by
      intro key
      rw [List.reverse_cons, firstTarget?_append_singleton, hasKey,
        ← replays.claimed key]
      by_cases same : ⟨kind, qualified⟩ = key
      · subst key
        simp [sameClaims, found]
      · simp [sameClaims, same]
    diagnostics := by
      rw [List.reverse_cons, places_append_singleton,
        List.filterMap_append, ← replays.diagnostics]
      simp [report?_of_key? hasKey, ← before, found, sameReports,
        sameName]
    accounted := by
      simp only [sameClaims, sameReports, List.length_append,
        List.length_cons, List.length_nil]
      omega
  }

theorem push
    (replays : Replays name rule history builder)
    (directive : Directive) :
    Replays name rule (directive :: history)
      (builder.push directive) := by
  cases resolved : directive.resolve with
  | error problem =>
      exact replays.push_rejected resolved
  | ok declaration =>
      obtain ⟨kind, signature⟩ := declaration
      have declared := Directive.declared?_eq_some_iff.mpr resolved
      obtain ⟨qualified, named, hasKey⟩ := replays.named declared
      cases found : builder.claimed.find? ⟨kind, qualified⟩ with
      | none =>
          exact replays.push_new resolved named hasKey found
      | some existing =>
          exact replays.push_taken resolved named hasKey found

theorem foldl
    (replays : Replays name rule history builder)
    (directives : List Directive) :
    Replays name rule (directives.reverse ++ history)
      (directives.foldl Builder.push builder) := by
  induction directives generalizing history builder with
  | nil =>
      simpa using replays
  | cons directive directives inductionHypothesis =>
      simpa using inductionHypothesis (replays.push directive)

end Replays

end Builder

/-- A finished document registers every key of its accepted directives with
the target of the first one that has it.  Rejected directives and those whose
key an earlier one has are reported, in order, and no others are.  So every
directive is either registered or reported, and every accepted one is
declared, with the name of its key as its qualified name. -/
theorem ofDirectives_registers_first_and_reports_rest
    (name : String)
    (rule : NestingRule)
    (directives : List Directive) :
    let outcome := ofDirectives name rule directives
    outcome.registry.keys.Nodup ∧
      (∀ key,
        outcome.registry.find? key =
          firstTarget? name rule directives key) ∧
      (∀ place ∈ places directives, ∀ kind signature,
        place.directive.declared? = some (kind, signature) →
          ∃ qualified,
            outcome.forest.qualifiedName? (rank place.earlier) =
                some qualified ∧
              place.key? rule = some ⟨kind, qualified⟩) ∧
      outcome.diagnostics =
        (places directives).filterMap (Place.report? name rule) ∧
      outcome.registry.size + outcome.diagnostics.length =
        directives.length ∧
      outcome.forest.size = rank directives := by
  intro outcome
  have replays := (Builder.Replays.start name rule).foldl directives
  rw [List.append_nil] at replays
  have coherent := replays.follows.coherent
  have records := records_ofDirectives name rule directives
  have finished : outcome = _ := coherent.finish_eq
  have registered :
      outcome.registry.entries.Perm
        (directives.foldl Builder.push
          (Builder.start name rule)).claimed.entries := by
    rw [finished]
    exact coherent.claims.symm
  have unique : outcome.registry.keys.Nodup := by
    rw [finished]
    exact coherent.unique
  have reported :
      outcome.diagnostics =
        (places directives).filterMap (Place.report? name rule) := by
    rw [finished]
    simpa using replays.diagnostics
  refine ⟨unique, ?_, ?_, reported, ?_, ?_⟩
  · intro key
    rw [Registry.find?_eq_of_perm unique registered, replays.claimed,
      List.reverse_reverse]
  · intro place member kind signature declared
    have isSuffix :
        place.directive :: place.earlier <:+ directives.reverse := by
      simpa using suffix_of_mem_placesBehind member
    have sameRule : outcome.forest.rule = rule := by
      rw [finished]
      exact replays.follows.rule
    have qualified := records.qualifiedName?_eq isSuffix declared
    rw [sameRule] at qualified
    exact ⟨_, qualified, key?_of_declared declared⟩
  · have accounted := replays.accounted
    rw [Registry.size, registered.length_eq, finished]
    simpa [Registry.size] using accounted
  · rw [records.size, rank_reverse]

/-- A class that is nested twice in the same class is registered once, with
the first of its two lines. -/
theorem registers_first_of_nested_duplicates :
    let directives : List Directive :=
      [⟨1, 0, "class", "Shape"⟩, ⟨2, 4, "class", "Edge"⟩,
        ⟨3, 2, "class", "Edge"⟩]
    let outcome := ofDirectives "shapes" .legacy directives
    outcome.registry.find? ⟨.classType, "Shape.Edge"⟩ =
        some ⟨"shapes", 2, "dn-class-Shape.Edge"⟩ ∧
      outcome.forest.qualifiedName? 1 = some "Shape.Edge" ∧
      outcome.diagnostics =
        [⟨"shapes", 3, .warning,
          "Duplicate reference target: class \"Shape.Edge\" (first" ++
            " declared at shapes:2#dn-class-Shape.Edge)"⟩] := by
  intro directives outcome
  obtain ⟨-, registered, named, reported, -⟩ :=
    ofDirectives_registers_first_and_reports_rest "shapes" .legacy
      directives
  have declared :
      (Directive.mk 2 4 "class" "Edge").declared? =
        some (.classType, ⟨"Edge", none, "Edge", none⟩) := by
    decide +kernel
  obtain ⟨qualified, isName, hasKey⟩ :=
    named ⟨⟨2, 4, "class", "Edge"⟩, [⟨1, 0, "class", "Shape"⟩]⟩
      (by simp [directives, places, placesBehind]) _ _ declared
  have before : rank [⟨1, 0, "class", "Shape"⟩] = 1 := by
    decide +kernel
  have key :
      Place.key? .legacy
          ⟨⟨2, 4, "class", "Edge"⟩, [⟨1, 0, "class", "Shape"⟩]⟩ =
        some ⟨.classType, "Shape.Edge"⟩ := by
    decide +kernel
  rw [key] at hasKey
  cases hasKey
  rw [before] at isName
  refine ⟨?_, isName, ?_⟩
  · rw [registered]
    decide +kernel
  · rw [reported]
    decide +kernel

end ApiIndex.Document
