import ApiIndex.Proofs.Text.Run

namespace ApiIndex.Text

/-!
# Patterns

A pattern is matched from left to right, and where it can go on in several ways
these have an order: a repetition goes on with as many characters as it can and
then with fewer, an optional part goes on with the part and then without it.
The match is the first way through the whole pattern at the first position that
has one.

A repetition that is followed by something its characters cannot start is never
matched with fewer characters than it can have.  A pattern in which all
repetitions but the last are of this kind is therefore read in one pass.
-/

/-- What a pattern asks of a text. -/
inductive Pattern where
  /-- One character of a class. -/
  | one (accepts : Char → Bool)
  /-- Any number of characters of a class, as many as possible. -/
  | many (accepts : Char → Bool)
  /-- One pattern and another one behind it. -/
  | append (first second : Pattern)
  /-- A pattern if possible, or nothing. -/
  | optional (inner : Pattern)
  /-- A pattern whose text is kept under a name. -/
  | group (name : String) (inner : Pattern)
  /-- The start of the text. -/
  | start
  /-- The end of the text. -/
  | stop

/-- A text that has been read up to a point. -/
structure Reading where
  front : List Char
  rest : List Char
  /-- The texts of the groups so far, the last one first. -/
  groups : List (String × List Char) := []
  deriving Repr, DecidableEq

namespace Reading

/-- The text of the last group with a name. -/
def group?
    (reading : Reading)
    (name : String) :
    Option (List Char) :=
  reading.groups.lookup name

/-- Keep what has been read since an earlier point. -/
def keep
    (reading earlier : Reading)
    (name : String) :
    Reading :=
  { reading with
    groups :=
      (name, reading.front.drop earlier.front.length) :: reading.groups }

/-- The ways to read characters of a class: as many as possible first. -/
def runs
    (accepts : Char → Bool)
    (groups : List (String × List Char)) :
    List Char →
      List Char →
      List Reading
  | front, [] =>
      [⟨front, [], groups⟩]
  | front, character :: rest =>
      if accepts character then
        runs accepts groups (front ++ [character]) rest ++
          [⟨front, character :: rest, groups⟩]
      else
        [⟨front, character :: rest, groups⟩]

end Reading

namespace Pattern

/-- One or more characters of a class, as many as possible. -/
def oneOrMore
    (accepts : Char → Bool) :
    Pattern :=
  .append (.one accepts) (.many accepts)

/-- A given character. -/
def literal
    (character : Char) :
    Pattern :=
  .one (· == character)

/-- The ways in which a pattern can go on from a point of a text, in the order
in which they are tried. -/
def readings :
    Pattern →
      Reading →
      List Reading
  | .one accepts, reading =>
      match reading.rest with
      | [] =>
          []
      | character :: rest =>
          if accepts character then
            [⟨reading.front ++ [character], rest, reading.groups⟩]
          else
            []
  | .many accepts, reading =>
      Reading.runs accepts reading.groups reading.front reading.rest
  | .append first second, reading =>
      (first.readings reading).flatMap second.readings
  | .optional inner, reading =>
      inner.readings reading ++ [reading]
  | .group name inner, reading =>
      (inner.readings reading).map (·.keep reading name)
  | .start, reading =>
      if reading.front = [] then
        [reading]
      else
        []
  | .stop, reading =>
      if reading.rest = [] then
        [reading]
      else
        []

/-- The match of a pattern: the first way at the first position that has
one. -/
def match?
    (pattern : Pattern)
    (text : List Char) :
    Option Reading :=
  (List.range (text.length + 1)).findSome? fun position =>
    (pattern.readings ⟨text.take position, text.drop position, []⟩).head?

/-- No character of a class can start what the pattern reads. -/
def Refuses
    (pattern : Pattern)
    (accepts : Char → Bool) :
    Prop :=
  ∀ front character rest groups,
    accepts character = true →
      pattern.readings ⟨front, character :: rest, groups⟩ = []

end Pattern

section Readings

variable
  {accepts : Char → Bool}
  {groups : List (String × List Char)}
  {front rest : List Char}

/-- The first way to read characters of a class reads all there are. -/
theorem Reading.head?_runs :
    (Reading.runs accepts groups front rest).head? =
      some
        ⟨front ++ rest.takeWhile accepts, rest.dropWhile accepts,
          groups⟩ := by
  induction rest generalizing front with
  | nil =>
      simp [Reading.runs]
  | cons character rest inductionHypothesis =>
      rw [Reading.runs]
      split
      · next accepted =>
          simp [inductionHypothesis, accepted]
      · next refused =>
          simp [refused]

/-- Reading fewer characters than there are leads nowhere where the next one
cannot go on with any of them. -/
theorem Reading.flatMap_runs
    {next : Reading → List Reading}
    (refuses :
      ∀ front character rest,
        accepts character = true →
          next ⟨front, character :: rest, groups⟩ = []) :
    (Reading.runs accepts groups front rest).flatMap next =
      next
        ⟨front ++ rest.takeWhile accepts, rest.dropWhile accepts,
          groups⟩ := by
  induction rest generalizing front with
  | nil =>
      simp [Reading.runs]
  | cons character rest inductionHypothesis =>
      rw [Reading.runs]
      split
      · next accepted =>
          simp [inductionHypothesis, refuses _ _ _ accepted, accepted]
      · next refused =>
          simp [refused]

namespace Pattern

variable
  {first next inner : Pattern}
  {name : String}
  {reading way last : Reading}

theorem readings_one_nil :
    (one accepts).readings ⟨front, [], groups⟩ = [] :=
  rfl

theorem readings_one_cons
    {character : Char} :
    (one accepts).readings ⟨front, character :: rest, groups⟩ =
      if accepts character then
        [⟨front ++ [character], rest, groups⟩]
      else
        [] :=
  rfl

theorem readings_many :
    (many accepts).readings ⟨front, rest, groups⟩ =
      Reading.runs accepts groups front rest :=
  rfl

theorem readings_append :
    (append first next).readings reading =
      (first.readings reading).flatMap next.readings :=
  rfl

theorem readings_optional :
    (optional inner).readings reading =
      inner.readings reading ++ [reading] :=
  rfl

theorem readings_group :
    (group name inner).readings reading =
      (inner.readings reading).map (·.keep reading name) :=
  rfl

theorem readings_start :
    start.readings reading = if reading.front = [] then [reading] else [] :=
  rfl

theorem readings_stop :
    stop.readings reading = if reading.rest = [] then [reading] else [] :=
  rfl

/-- The first way through a pattern that goes on through another one is the
first way through both. -/
theorem head?_readings_append
    (firstWay : (first.readings reading).head? = some way)
    (goesOn : (next.readings way).head? = some last) :
    ((Pattern.append first next).readings reading).head? = some last := by
  obtain ⟨others, ways⟩ := List.head?_eq_some_iff.mp firstWay
  simp [readings_append, ways, goesOn]

/-- An optional part that can be there is there. -/
theorem head?_readings_optional
    (firstWay : (inner.readings reading).head? = some way) :
    ((Pattern.optional inner).readings reading).head? = some way := by
  simp [readings_optional, firstWay]

theorem head?_readings_oneOrMore
    {character : Char}
    (accepted : accepts character = true) :
    ((oneOrMore accepts).readings
        ⟨front, character :: rest, groups⟩).head? =
      some
        ⟨front ++ character :: rest.takeWhile accepts,
          rest.dropWhile accepts, groups⟩ := by
  simp [oneOrMore, readings_append, readings_one_cons, readings_many,
    accepted, Reading.head?_runs]

theorem head?_readings_group_many :
    ((Pattern.group name (.many accepts)).readings
        ⟨front, rest, groups⟩).head? =
      some
        ⟨front ++ rest.takeWhile accepts, rest.dropWhile accepts,
          (name, rest.takeWhile accepts) :: groups⟩ := by
  simp [readings_group, readings_many, Reading.head?_runs, Reading.keep]

/-- A character goes before everything but itself. -/
theorem refuses_literal_append
    {character : Char}
    (excluded : accepts character = false)
    (next : Pattern) :
    (Pattern.append (.literal character) next).Refuses accepts := by
  intro front first rest groups accepted
  have different : first ≠ character := by
    rintro rfl
    simp [excluded] at accepted
  simp [literal, readings_append, readings_one_cons, different]

/-- A run of characters of one class goes before everything of another one. -/
theorem refuses_group_oneOrMore_append
    {other : Char → Bool}
    (apart :
      ∀ character, accepts character = true → other character = false)
    (name : String)
    (next : Pattern) :
    (Pattern.append (.group name (.oneOrMore other)) next).Refuses
      accepts := by
  intro front first rest groups accepted
  simp [oneOrMore, readings_append, readings_group, readings_one_cons,
    apart first accepted]

/-- Any number of characters before a pattern that refuses them are read as far
as possible. -/
theorem readings_group_many_append
    (refuses : next.Refuses accepts) :
    (Pattern.append (.group name (.many accepts)) next).readings
        ⟨front, rest, groups⟩ =
      next.readings
        ⟨front ++ rest.takeWhile accepts, rest.dropWhile accepts,
          (name, rest.takeWhile accepts) :: groups⟩ := by
  have longest :=
    @Reading.flatMap_runs accepts groups front rest
      (fun reading => next.readings (reading.keep ⟨front, rest, groups⟩ name))
      (fun front character rest accepted =>
        refuses front character rest _ accepted)
  simpa [readings_append, readings_group, readings_many,
    List.flatMap_map, Reading.keep] using longest

/-- One or more characters are read as far as possible, if there are any, where
none of them can start what comes next. -/
private theorem flatMap_readings_oneOrMore
    {next : Reading → List Reading}
    (refuses :
      ∀ front character rest,
        accepts character = true →
          next ⟨front, character :: rest, groups⟩ = []) :
    ((oneOrMore accepts).readings ⟨front, rest, groups⟩).flatMap next =
      if rest.takeWhile accepts = [] then
        []
      else
        next
          ⟨front ++ rest.takeWhile accepts, rest.dropWhile accepts,
            groups⟩ := by
  cases rest with
  | nil =>
      simp [oneOrMore, readings_append, readings_one_nil]
  | cons character rest =>
      by_cases accepted : accepts character = true
      · simp [oneOrMore, readings_append, readings_one_cons, readings_many,
          accepted, Reading.flatMap_runs refuses]
      · simp [oneOrMore, readings_append, readings_one_cons, accepted]

theorem readings_oneOrMore_append
    (refuses : next.Refuses accepts) :
    (Pattern.append (.oneOrMore accepts) next).readings
        ⟨front, rest, groups⟩ =
      if rest.takeWhile accepts = [] then
        []
      else
        next.readings
          ⟨front ++ rest.takeWhile accepts, rest.dropWhile accepts,
            groups⟩ :=
  flatMap_readings_oneOrMore fun front character rest =>
    refuses front character rest groups

theorem readings_group_oneOrMore_append
    (refuses : next.Refuses accepts) :
    (Pattern.append (.group name (.oneOrMore accepts)) next).readings
        ⟨front, rest, groups⟩ =
      if rest.takeWhile accepts = [] then
        []
      else
        next.readings
          ⟨front ++ rest.takeWhile accepts, rest.dropWhile accepts,
            (name, rest.takeWhile accepts) :: groups⟩ := by
  have longest :=
    @flatMap_readings_oneOrMore accepts groups front rest
      (fun reading => next.readings (reading.keep ⟨front, rest, groups⟩ name))
      (fun front character rest accepted =>
        refuses front character rest _ accepted)
  simpa [readings_append, readings_group, List.flatMap_map, Reading.keep]
    using longest

/-- A character is read where it stands. -/
theorem readings_literal_append
    (character : Char)
    (next : Pattern) :
    (Pattern.append (.literal character) next).readings
        ⟨front, rest, groups⟩ =
      match rest with
      | [] =>
          []
      | first :: rest =>
          if first = character then
            next.readings ⟨front ++ [character], rest, groups⟩
          else
            [] := by
  cases rest with
  | nil =>
      simp [literal, readings_append, readings_one_nil]
  | cons first rest =>
      by_cases same : first = character
      · simp [literal, readings_append, readings_one_cons, same]
      · simp [literal, readings_append, readings_one_cons, same]

/-- A pattern that starts with the start of the text is matched there or
nowhere. -/
theorem match?_start_append
    (next : Pattern)
    (text : List Char) :
    (Pattern.append .start next).match? text =
      (next.readings ⟨[], text, []⟩).head? := by
  have nowhereElse :
      ((List.range text.length).map Nat.succ).findSome? (fun position =>
        ((Pattern.append .start next).readings
          ⟨text.take position, text.drop position, []⟩).head?) =
        none := by
    rw [List.findSome?_eq_none_iff]
    intro position member
    obtain ⟨before, inside, rfl⟩ := List.mem_map.mp member
    have notStart : text.take (before + 1) ≠ [] := by
      have positive : 0 < text.length := by
        have bound := List.mem_range.mp inside
        omega
      simpa using List.length_pos_iff.mp positive
    simp [readings_append, readings_start, notStart]
  rw [match?, List.range_succ_eq_map, List.findSome?_cons, nowhereElse]
  simp only [readings_append, readings_start, List.take_zero,
    List.drop_zero, ↓reduceIte, List.flatMap_cons, List.flatMap_nil,
    List.append_nil]
  cases (next.readings ⟨[], text, []⟩).head? <;> rfl

end Pattern

end Readings

end ApiIndex.Text
