import ApiIndex.Document.Builder

namespace ApiIndex.Document

/-!
# Places in a document

A history lists the directives so far, nearest first.  Which directives of a
history are around the next one depends on the indentations alone: walking
back, a directive is around it if it is indented less than all that was met
before.  This is said here without scopes, forests or claims.
-/

/-- The kind and the signature that an accepted directive declares. -/
def Directive.declared?
    (directive : Directive) :
    Option (Kind × Signature) :=
  directive.resolve.toOption

/-- The number of accepted directives. -/
def rank
    (directives : List Directive) :
    Nat :=
  directives.countP fun directive => directive.declared?.isSome

/-- A directive together with those before it, nearest first. -/
structure Place where
  directive : Directive
  earlier : List Directive

namespace Place

/-- The identifier of what is declared at a place: the number of declarations
before it. -/
def node?
    (place : Place) :
    Option NodeId :=
  place.directive.declared?.map fun _ => rank place.earlier

end Place

/-- The places of a history that are around what is indented by `bound`,
innermost first. -/
def enclosing :
    Nat →
      List Directive →
      List Place
  | _, [] =>
      []
  | bound, directive :: earlier =>
      if directive.indent < bound then
        ⟨directive, earlier⟩ :: enclosing directive.indent earlier
      else
        enclosing bound earlier

/-- The last place of a history and the places around it, innermost first. -/
def openPlaces : List Directive → List Place
  | [] =>
      []
  | directive :: earlier =>
      ⟨directive, earlier⟩ :: enclosing directive.indent earlier

theorem rank_cons
    (directive : Directive)
    (history : List Directive) :
    rank (directive :: history) =
      rank history + if directive.declared?.isSome then 1 else 0 := by
  simp [rank, List.countP_cons]

theorem rank_reverse
    (directives : List Directive) :
    rank directives.reverse = rank directives :=
  List.countP_reverse

theorem Directive.declared?_eq_some_iff
    {directive : Directive}
    {kind : Kind}
    {signature : Signature} :
    directive.declared? = some (kind, signature) ↔
      directive.resolve = .ok (kind, signature) := by
  unfold declared?
  cases directive.resolve <;> simp [Except.toOption]

theorem Directive.declared?_of_error
    {directive : Directive}
    {problem : Problem}
    (rejected : directive.resolve = .error problem) :
    directive.declared? = none := by
  simp [declared?, rejected, Except.toOption]

/-- No directive is a duplicate by itself. -/
theorem Directive.not_duplicate_of_resolve
    {directive : Directive}
    {problem : Problem}
    (resolved : directive.resolve = .error problem) :
    ¬ ∃ repeated, problem = .duplicate repeated := by
  rintro ⟨repeated, rfl⟩
  unfold resolve at resolved
  split at resolved
  · cases resolved
  · split at resolved <;> cases resolved

section Enclosing

variable {bound : Nat} {history : List Directive} {place : Place}

/-- A smaller indentation ends further places. -/
theorem dropWhile_enclosing
    {wider : Nat}
    (isWider : bound ≤ wider) :
    (enclosing wider history).dropWhile
        (fun place => bound ≤ place.directive.indent) =
      enclosing bound history := by
  induction history generalizing wider with
  | nil =>
      rfl
  | cons directive earlier inductionHypothesis =>
      by_cases less : directive.indent < bound
      · have lessWide : directive.indent < wider :=
          Nat.lt_of_lt_of_le less isWider
        simp [enclosing, less, lessWide]
      · have reaches : bound ≤ directive.indent := Nat.le_of_not_lt less
        by_cases lessWide : directive.indent < wider
        · simp [enclosing, less, lessWide, reaches,
            inductionHypothesis reaches]
        · simp [enclosing, less, lessWide, inductionHypothesis isWider]

/-- Ending the open places that are indented at least as far leaves those that
are around the next directive. -/
theorem dropWhile_openPlaces
    (bound : Nat)
    (history : List Directive) :
    (openPlaces history).dropWhile
        (fun place => bound ≤ place.directive.indent) =
      enclosing bound history := by
  cases history with
  | nil =>
      rfl
  | cons directive earlier =>
      by_cases less : directive.indent < bound
      · simp [openPlaces, enclosing, less]
      · have reaches : bound ≤ directive.indent := Nat.le_of_not_lt less
        simp [openPlaces, enclosing, less, reaches,
          dropWhile_enclosing reaches]

/-- A place is around what follows exactly if it is indented less than all
directives behind it. -/
theorem mem_enclosing_iff :
    place ∈ enclosing bound history ↔
      ∃ between,
        history = between ++ place.directive :: place.earlier ∧
          place.directive.indent < bound ∧
          ∀ other ∈ between,
            place.directive.indent < other.indent := by
  induction history generalizing bound with
  | nil =>
      simp [enclosing]
  | cons directive earlier inductionHypothesis =>
      rw [enclosing]
      split
      · next less =>
          rw [List.mem_cons, inductionHypothesis]
          constructor
          · rintro (rfl | ⟨between, rfl, lessThanThis, lessThanAll⟩)
            · exact ⟨[], rfl, less, by simp⟩
            · exact ⟨directive :: between, rfl,
                Nat.lt_trans lessThanThis less,
                by simpa using ⟨lessThanThis, lessThanAll⟩⟩
          · rintro ⟨between, shape, lessThanBound, lessThanAll⟩
            cases between with
            | nil =>
                obtain ⟨rfl, rfl⟩ := List.cons.inj shape
                exact .inl rfl
            | cons first between =>
                obtain ⟨rfl, rfl⟩ := List.cons.inj shape
                rw [List.forall_mem_cons] at lessThanAll
                exact .inr ⟨between, rfl, lessThanAll.1, lessThanAll.2⟩
      · next notLess =>
          rw [inductionHypothesis]
          constructor
          · rintro ⟨between, rfl, lessThanBound, lessThanAll⟩
            have lessThanThis :
                place.directive.indent < directive.indent :=
              Nat.lt_of_lt_of_le lessThanBound (Nat.le_of_not_lt notLess)
            exact ⟨directive :: between, rfl, lessThanBound,
              by simpa using ⟨lessThanThis, lessThanAll⟩⟩
          · rintro ⟨between, shape, lessThanBound, lessThanAll⟩
            cases between with
            | nil =>
                obtain ⟨rfl, rfl⟩ := List.cons.inj shape
                exact (notLess lessThanBound).elim
            | cons first between =>
                obtain ⟨rfl, rfl⟩ := List.cons.inj shape
                rw [List.forall_mem_cons] at lessThanAll
                exact ⟨between, rfl, lessThanBound, lessThanAll.2⟩

/-- The places around a directive are listed from the latest to the
earliest. -/
theorem enclosing_ordered
    (bound : Nat)
    (history : List Directive) :
    (enclosing bound history).Pairwise fun inner outer =>
      outer.earlier.length < inner.earlier.length := by
  induction history generalizing bound with
  | nil =>
      exact .nil
  | cons directive earlier inductionHypothesis =>
      rw [enclosing]
      split
      · refine .cons ?_ (inductionHypothesis _)
        intro place member
        obtain ⟨between, rfl, -⟩ := mem_enclosing_iff.mp member
        simp
        omega
      · exact inductionHypothesis _

end Enclosing

section Positions

variable
  {directives : List Directive}
  {directive : Directive}
  {inner outer : Nat}

/-- Whether the directive at one position is accepted and indented less than
all directives behind it up to another position. -/
def Encloses
    (directives : List Directive)
    (outer inner : Nat) :
    Prop :=
  outer < inner ∧
    ∃ directive,
      directives[outer]? = some directive ∧
        directive.declared?.isSome ∧
        ∀ position other,
          outer < position → position ≤ inner →
            directives[position]? = some other →
              directive.indent < other.indent

theorem eq_take_append_cons_drop
    {position : Nat}
    (here : directives[position]? = some directive) :
    directives =
      directives.take position ++
        directive :: directives.drop (position + 1) := by
  obtain ⟨inBounds, rfl⟩ := List.getElem?_eq_some_iff.mp here
  rw [← List.drop_eq_getElem_cons inBounds, List.take_append_drop]

/-- A directive in front of a position is around it if it is indented less than
all that follow up to the position. -/
theorem mem_enclosing_of_position
    {placed : Directive}
    (before : outer < inner)
    (here : directives[inner]? = some directive)
    (found : directives[outer]? = some placed)
    (lessThanAll :
      ∀ position other,
        outer < position → position ≤ inner →
          directives[position]? = some other →
            placed.indent < other.indent) :
    ⟨placed, (directives.take outer).reverse⟩ ∈
      enclosing directive.indent (directives.take inner).reverse := by
  have foundBefore :
      (directives.take inner)[outer]? = some placed := by
    rw [List.getElem?_take_of_lt before]
    exact found
  have front := eq_take_append_cons_drop foundBefore
  rw [List.take_take, Nat.min_eq_left (Nat.le_of_lt before)] at front
  rw [mem_enclosing_iff]
  refine ⟨((directives.take inner).drop (outer + 1)).reverse, ?_, ?_, ?_⟩
  · have reversed := congrArg List.reverse front
    simpa using reversed
  · exact lessThanAll inner directive before (Nat.le_refl _) here
  · intro other member
    obtain ⟨offset, atOffset⟩ :=
      List.mem_iff_getElem?.mp (List.mem_reverse.mp member)
    rw [List.getElem?_drop, List.getElem?_take] at atOffset
    split at atOffset
    · next notBehind =>
        exact lessThanAll _ other (by omega) (Nat.le_of_lt notBehind)
          atOffset
    · cases atOffset

/-- A place around a directive stands at a position before it. -/
theorem exists_position_of_mem_enclosing
    {place : Place}
    (here : directives[inner]? = some directive)
    (member :
      place ∈
        enclosing directive.indent (directives.take inner).reverse) :
    ∃ outer,
      outer < inner ∧
        directives[outer]? = some place.directive ∧
        place.earlier = (directives.take outer).reverse ∧
        ∀ position other,
          outer < position → position ≤ inner →
            directives[position]? = some other →
              place.directive.indent < other.indent := by
  obtain ⟨placed, earlier⟩ := place
  obtain ⟨between, shape, lessThanHere, lessThanAll⟩ :=
    mem_enclosing_iff.mp member
  have front :
      directives.take inner =
        earlier.reverse ++ placed :: between.reverse := by
    have reversed := congrArg List.reverse shape
    simpa using reversed
  have whole := eq_take_append_cons_drop here
  rw [front] at whole
  have size : inner = earlier.length + (between.length + 1) := by
    have inBounds := (List.getElem?_eq_some_iff.mp here).1
    have lengths := congrArg List.length front
    simp only [List.length_take, List.length_append,
      List.length_reverse, List.length_cons] at lengths
    omega
  refine ⟨earlier.length, by omega, ?_, ?_, ?_⟩
  · rw [whole]
    simp
  · rw [whole]
    simp
  · intro position other behind notBehind found
    have regrouped :
        directives =
          (earlier.reverse ++ [placed]) ++
            (between.reverse ++ [directive]) ++
              directives.drop (inner + 1) := by
      simpa using whole
    have inside : other ∈ between.reverse ++ [directive] := by
      rw [regrouped, List.getElem?_append_left (by simp; omega),
        List.getElem?_append_right (by simp; omega)] at found
      exact List.mem_of_getElem? found
    rcases List.mem_append.mp inside with isBetween | isHere
    · exact lessThanAll other (List.mem_reverse.mp isBetween)
    · rw [List.mem_singleton.mp isHere]
      exact lessThanHere

end Positions

end ApiIndex.Document
