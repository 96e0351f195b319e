import ApiIndex.Config
import ApiIndex.Document.Outline
import ApiIndex.Proofs.Text.Cut
import ApiIndex.Proofs.Text.Lines
import ApiIndex.Proofs.Text.Pattern
import Mathlib.Data.List.Basic

namespace ApiIndex.Document

open ApiIndex.Text

/-!
# Which lines are directives

A line is a directive of a domain if it consists of an indent, two dots, a gap,
the domain, a colon, the kind, two colons and a tail that is empty or starts
with a gap.  A line can be divided into these parts in one way only.  The reader
finds exactly these lines, and so does the pattern of directives.
-/

/-- A text is a word if it is not empty and has word characters only. -/
structure IsWord
    (text : List Char) : Prop where
  nonempty : text ≠ []
  word : ∀ character ∈ text, isWord character = true

/-- The parts of a directive line apart from its domain. -/
structure LineParts where
  indent : List Char
  gap : List Char
  kind : List Char
  /-- What stands behind the two colons. -/
  tail : List Char
  deriving Repr, DecidableEq

namespace LineParts

/-- Indent and gap consist of spaces and tabs, the gap is not empty, the kind is
a word, and the tail is empty or starts with a space or a tab. -/
structure WellFormed
    (parts : LineParts) : Prop where
  indent : ∀ character ∈ parts.indent, isGap character = true
  gap : ∀ character ∈ parts.gap, isGap character = true
  someGap : parts.gap ≠ []
  kind : IsWord parts.kind
  tail :
    ∀ first, parts.tail.head? = some first → isGap first = true

/-- The line that the parts make up for a domain. -/
def line
    (parts : LineParts)
    (domain : List Char) :
    List Char :=
  parts.indent ++ ['.', '.'] ++ parts.gap ++ domain ++ [':'] ++
    parts.kind ++ [':', ':'] ++ parts.tail

/-- The directive that the parts stand for on a line with a number. -/
def directive
    (parts : LineParts)
    (number : Nat) :
    Directive where
  line := number
  indent := byteSize parts.indent
  kind := String.ofList parts.kind
  signature := String.ofList (trimEnd (parts.tail.dropWhile isGap))

end LineParts

/-- The pattern of a signature behind two colons. -/
def signaturePattern : Pattern :=
  .append
    (.optional
      (.append (.oneOrMore isGap) (.group "sig" (.many (· != '\n')))))
    .stop

/-- The pattern of a kind and a signature behind a domain. -/
def kindPattern : Pattern :=
  .append (.literal ':')
    (.append (.group "kind" (.oneOrMore isWord))
      (.append (.literal ':') (.append (.literal ':') signaturePattern)))

/-- The pattern of a directive behind its indent. -/
def bodyPattern : Pattern :=
  .append (.literal '.')
    (.append (.literal '.')
      (.append (.oneOrMore isGap)
        (.append (.group "domain" (.oneOrMore isWord)) kindPattern)))

/-- The pattern of a directive line. -/
def linePattern : Pattern :=
  .append .start (.append (.group "indent" (.many isGap)) bodyPattern)

/-- The directive that the groups of a match stand for, if they name the
domain. -/
def ofReading?
    (domain : String)
    (number : Nat)
    (found : Reading) :
    Option Directive :=
  if found.group? "domain" = some domain.toList then
    some {
      line := number
      indent := byteSize ((found.group? "indent").getD [])
      kind := String.ofList ((found.group? "kind").getD [])
      signature :=
        ((found.group? "sig").map fun text =>
          String.ofList (trimEnd text)).getD ""
    }
  else
    none

/-- The directive on a line that matches the pattern, if it is one for the
domain. -/
def matchLine?
    (domain : String)
    (number : Nat)
    (line : List Char) :
    Option Directive :=
  (linePattern.match? line).bind (ofReading? domain number)

section Characters

/-- A gap takes one byte for each character. -/
theorem byteSize_gap
    {text : List Char}
    (areGaps : ∀ character ∈ text, isGap character = true) :
    byteSize text = text.length := by
  apply byteSize_eq_length
  intro character member
  have gap := areGaps character member
  simp only [isGap, Bool.or_eq_true, beq_iff_eq] at gap
  rcases gap with rfl | rfl
  · decide
  · decide

theorem isWord_of_isGap
    {character : Char}
    (gap : isGap character = true) :
    isWord character = false := by
  simp only [isGap, Bool.or_eq_true, beq_iff_eq] at gap
  rcases gap with rfl | rfl
  · decide
  · decide

/-- No word starts with a gap. -/
theorem IsWord.stops_gap
    {word : List Char}
    (isWord : IsWord word)
    (rest : List Char) :
    ∀ first, (word ++ rest).head? = some first → isGap first = false := by
  obtain ⟨nonempty, areWord⟩ := isWord
  obtain ⟨character, others, rfl⟩ := List.exists_cons_of_ne_nil nonempty
  rintro first isFirst
  obtain rfl : character = first := by
    simpa using isFirst
  have inWord := areWord character List.mem_cons_self
  apply Bool.eq_false_iff.mpr
  intro gap
  simp [isWord_of_isGap gap] at inWord

theorem colon_stops_word
    (rest : List Char) :
    ∀ first, (':' :: rest).head? = some first → isWord first = false := by
  rintro first isFirst
  cases isFirst
  decide

theorem dot_stops_gap
    (rest : List Char) :
    ∀ first, ('.' :: rest).head? = some first → isGap first = false := by
  rintro first isFirst
  cases isFirst
  decide

/-- Letters and digits of ASCII are word characters. -/
theorem isWord_of_isAlphanum
    {character : Char}
    (alphanumeric : character.isAlphanum = true) :
    isWord character = true := by
  have small : character.toNat < 128 := by
    have classes :
        ((character.isUpper || character.isLower) ||
          character.isDigit) = true :=
      alphanumeric
    rw [Bool.or_eq_true, Bool.or_eq_true] at classes
    rcases classes with (upper | lower) | digit
    · have bounds : 'A'.val ≤ character.val ∧ character.val ≤ 'Z'.val :=
        of_decide_eq_true upper
      exact Nat.lt_of_le_of_lt bounds.2 (by decide)
    · have atMost : character.val ≤ 'z'.val :=
        of_decide_eq_true (Bool.and_eq_true_iff.mp lower).2
      exact Nat.lt_of_le_of_lt atMost (by decide)
    · have atMost : character.val ≤ '9'.val :=
        of_decide_eq_true (Bool.and_eq_true_iff.mp digit).2
      exact Nat.lt_of_le_of_lt atMost (by decide)
  have listed :
      ∀ code < 128,
        (Char.ofNat code).isAlphanum = true →
          isWord (Char.ofNat code) = true := by
    decide +kernel
  have word := listed character.toNat small
  rw [Char.ofNat_toNat] at word
  exact word alphanumeric

end Characters

section Reading

variable {domain : String} {number : Nat} {text tail : List Char}

/-- A signature is read behind a gap, or where nothing is left. -/
theorem readSignature?_eq_some_iff
    {signature : String} :
    readSignature? tail = some signature ↔
      (∀ first, tail.head? = some first → isGap first = true) ∧
        signature = String.ofList (trimEnd (tail.dropWhile isGap)) := by
  cases tail with
  | nil =>
      rw [eq_comm]
      simp [readSignature?, trimEnd]
  | cons first rest =>
      rw [eq_comm (a := signature)]
      by_cases gap : isGap first = true
      · simp [readSignature?, gap]
      · simp [readSignature?, gap]

/-- A kind is read as the word between one colon and two. -/
theorem readKind?_eq_some_iff
    {kind signature : String} :
    readKind? text = some (kind, signature) ↔
      ∃ word tail,
        text = ':' :: (word ++ ':' :: ':' :: tail) ∧
          IsWord word ∧ kind = String.ofList word ∧
          readSignature? tail = some signature := by
  constructor
  · intro read
    unfold readKind? at read
    split at read
    · next rest =>
        dsimp only at read
        split at read
        · next first others tail word_eq behind =>
            obtain ⟨found, readTail, same⟩ :=
              Option.map_eq_some_iff.mp read
            cases same
            refine ⟨rest.takeWhile isWord, tail, ?_, ⟨?_, ?_⟩, rfl, readTail⟩
            · rw [← behind, List.takeWhile_append_dropWhile]
            · simp [word_eq]
            · exact fun character member => List.mem_takeWhile_imp member
        · contradiction
    · contradiction
  · rintro ⟨word, tail, rfl, isKind, rfl, readTail⟩
    have cut :=
      @takeWhile_dropWhile_run isWord word (':' :: ':' :: tail)
        isKind.word (colon_stops_word _)
    obtain ⟨first, others, rfl⟩ :=
      List.exists_cons_of_ne_nil isKind.nonempty
    simp only [readKind?, cut.1, cut.2, readTail, Option.map_some]

/-- A directive is read as two dots, a gap and the domain, before its kind. -/
theorem readBody?_eq_some_iff
    {kind signature : String} :
    readBody? domain text = some (kind, signature) ↔
      IsWord domain.toList ∧
        ∃ gap rest,
          text = '.' :: '.' :: (gap ++ (domain.toList ++ rest)) ∧
            gap ≠ [] ∧ (∀ character ∈ gap, isGap character = true) ∧
            readKind? rest = some (kind, signature) := by
  constructor
  · intro read
    unfold readBody? at read
    split at read
    · next first rest =>
        split at read
        · next firstGap =>
            dsimp only at read
            split at read
            · next named =>
                obtain ⟨nonempty, isDomain⟩ := named
                refine ⟨⟨isDomain ▸ nonempty, ?_⟩,
                  first :: rest.takeWhile isGap, _, ?_, by simp, ?_, read⟩
                · rw [← isDomain]
                  exact fun character member =>
                    List.mem_takeWhile_imp member
                · rw [← isDomain, List.takeWhile_append_dropWhile,
                    List.cons_append, List.takeWhile_append_dropWhile]
                · rw [List.forall_mem_cons]
                  exact ⟨firstGap, fun character member =>
                    List.mem_takeWhile_imp member⟩
            · contradiction
        · contradiction
    · contradiction
  · rintro ⟨isDomain, gap, rest, rfl, someGap, areGaps, readRest⟩
    obtain ⟨first, others, rfl⟩ := List.exists_cons_of_ne_nil someGap
    rw [List.forall_mem_cons] at areGaps
    have gapCut :=
      @takeWhile_dropWhile_run isGap others (domain.toList ++ rest)
        areGaps.2 (isDomain.stops_gap rest)
    have restStops :
        ∀ first, rest.head? = some first → isWord first = false := by
      obtain ⟨word, tail, rfl, -⟩ := readKind?_eq_some_iff.mp readRest
      exact colon_stops_word _
    have wordCut :=
      takeWhile_dropWhile_run isDomain.word restStops
    simp only [readBody?, List.cons_append, areGaps.1, ↓reduceIte,
      gapCut.2, wordCut.1, wordCut.2, readRest, isDomain.nonempty, ne_eq,
      not_false_eq_true, and_self]

/-- The parts of a line in the order in which they are read. -/
theorem LineParts.line_eq
    (parts : LineParts)
    (domain : List Char) :
    parts.line domain =
      parts.indent ++ '.' :: '.' ::
        (parts.gap ++ (domain ++
          ':' :: (parts.kind ++ ':' :: ':' :: parts.tail))) := by
  simp [line]

/-- A line is read as a directive exactly if it has the parts of one, and as
the directive that the parts stand for. -/
theorem readLine?_eq_some_iff
    {line : List Char}
    {directive : Directive} :
    readLine? domain number line = some directive ↔
      IsWord domain.toList ∧
        ∃ parts : LineParts,
          parts.WellFormed ∧ line = parts.line domain.toList ∧
            directive = parts.directive number := by
  constructor
  · intro read
    obtain ⟨⟨kind, signature⟩, readBody, rfl⟩ :=
      Option.map_eq_some_iff.mp read
    obtain ⟨isDomain, gap, rest, body, someGap, areGaps, readKind⟩ :=
      readBody?_eq_some_iff.mp readBody
    obtain ⟨word, tail, rfl, isKind, rfl, readTail⟩ :=
      readKind?_eq_some_iff.mp readKind
    obtain ⟨tailGap, rfl⟩ := readSignature?_eq_some_iff.mp readTail
    have indentGap :
        ∀ character ∈ line.takeWhile isGap, isGap character = true :=
      fun character member => List.mem_takeWhile_imp member
    refine ⟨isDomain, ⟨line.takeWhile isGap, gap, word, tail⟩,
      ⟨indentGap, areGaps, someGap, isKind, tailGap⟩, ?_, ?_⟩
    · rw [LineParts.line_eq, ← body, List.takeWhile_append_dropWhile]
    · simp only [LineParts.directive, byteSize_gap indentGap]
  · rintro ⟨isDomain, parts, wellFormed, rfl, rfl⟩
    have cut :=
      takeWhile_dropWhile_run wellFormed.indent (dot_stops_gap
        ('.' :: (parts.gap ++ (domain.toList ++
          ':' :: (parts.kind ++ ':' :: ':' :: parts.tail)))))
    have readTail :=
      readSignature?_eq_some_iff.mpr ⟨wellFormed.tail, rfl⟩
    have readKind :=
      readKind?_eq_some_iff.mpr
        ⟨parts.kind, parts.tail, rfl, wellFormed.kind, rfl, readTail⟩
    have readBody :=
      readBody?_eq_some_iff.mpr
        ⟨isDomain, parts.gap, _, rfl, wellFormed.someGap, wellFormed.gap,
          readKind⟩
    rw [LineParts.line_eq, readLine?, cut.1, cut.2, readBody,
      Option.map_some, LineParts.directive,
      byteSize_gap wellFormed.indent]

/-- A line can be divided into the parts of a directive in one way only. -/
theorem LineParts.WellFormed.unique
    {parts other : LineParts}
    {domain otherDomain : List Char}
    (wellFormed : parts.WellFormed)
    (otherWellFormed : other.WellFormed)
    (isDomain : IsWord domain)
    (otherIsDomain : IsWord otherDomain)
    (same : parts.line domain = other.line otherDomain) :
    parts = other ∧ domain = otherDomain := by
  rw [LineParts.line_eq, LineParts.line_eq] at same
  obtain ⟨sameIndent, sameBody⟩ :=
    run_append_inj wellFormed.indent otherWellFormed.indent
      (dot_stops_gap _) (dot_stops_gap _) same
  obtain ⟨sameGap, sameNamed⟩ :=
    run_append_inj wellFormed.gap otherWellFormed.gap
      (isDomain.stops_gap _) (otherIsDomain.stops_gap _)
      (List.cons.inj (List.cons.inj sameBody).2).2
  obtain ⟨sameDomain, sameKindTail⟩ :=
    run_append_inj isDomain.word otherIsDomain.word
      (colon_stops_word _) (colon_stops_word _) sameNamed
  obtain ⟨sameKind, sameTail⟩ :=
    run_append_inj wellFormed.kind.word otherWellFormed.kind.word
      (colon_stops_word _) (colon_stops_word _)
      (List.cons.inj sameKindTail).2
  refine ⟨?_, sameDomain⟩
  cases parts
  cases other
  simp only [mk.injEq]
  exact ⟨sameIndent, sameGap, sameKind,
    (List.cons.inj (List.cons.inj sameTail).2).2⟩

end Reading

section Matching

variable
  {domain : String}
  {number : Nat}
  {front rest : List Char}
  {groups : List (String × List Char)}

/-- The pattern of a signature leads to what is read as one. -/
theorem bind_readings_signaturePattern
    (noFeed : '\n' ∉ rest)
    (noSignature : groups.lookup "sig" = none) :
    (signaturePattern.readings ⟨front, rest, groups⟩).head?.bind
        (ofReading? domain number) =
      if groups.lookup "domain" = some domain.toList then
        (readSignature? rest).map fun signature =>
          ⟨number, byteSize ((groups.lookup "indent").getD []),
            String.ofList ((groups.lookup "kind").getD []), signature⟩
      else
        none := by
  cases rest with
  | nil =>
      simp [signaturePattern, Pattern.oneOrMore, Pattern.readings_append,
        Pattern.readings_optional, Pattern.readings_one_nil,
        Pattern.readings_stop, ofReading?, Reading.group?, noSignature,
        readSignature?]
  | cons first rest =>
      by_cases gap : isGap first = true
      · have accepted :
            ∀ character ∈ rest.dropWhile isGap,
              (character != '\n') = true := by
          intro character member
          have inRest := (List.dropWhile_suffix isGap).subset member
          rw [bne_iff_ne]
          rintro rfl
          exact noFeed (List.mem_cons_of_mem first inRest)
        have whole :=
          @takeWhile_dropWhile_run (· != '\n') (rest.dropWhile isGap) []
            accepted (by simp)
        rw [List.append_nil] at whole
        -- The gap is read as a whole, and the signature takes in all behind it.
        have firstWay :
            (signaturePattern.readings ⟨front, first :: rest, groups⟩).head? =
              some ⟨front ++ first :: rest, [],
                ("sig", rest.dropWhile isGap) :: groups⟩ := by
          refine Pattern.head?_readings_append
            (Pattern.head?_readings_optional
              (Pattern.head?_readings_append
                (Pattern.head?_readings_oneOrMore gap)
                Pattern.head?_readings_group_many)) ?_
          simp [Pattern.readings_stop, whole.1, whole.2,
            List.takeWhile_append_dropWhile]
        simp [firstWay, ofReading?, Reading.group?, readSignature?, gap,
          List.lookup_cons]
      · simp [signaturePattern, Pattern.oneOrMore,
          Pattern.readings_append, Pattern.readings_optional,
          Pattern.readings_one_cons, Pattern.readings_stop, gap,
          readSignature?]

/-- The pattern of a kind leads to what is read as one. -/
theorem bind_readings_kindPattern
    (noFeed : '\n' ∉ rest)
    (noSignature : groups.lookup "sig" = none) :
    (kindPattern.readings ⟨front, rest, groups⟩).head?.bind
        (ofReading? domain number) =
      if groups.lookup "domain" = some domain.toList then
        (readKind? rest).map fun (kind, signature) =>
          ⟨number, byteSize ((groups.lookup "indent").getD []), kind,
            signature⟩
      else
        none := by
  have refuses :=
    Pattern.refuses_literal_append
      (show isWord ':' = false by decide)
      (.append (.literal ':') signaturePattern)
  rw [kindPattern, Pattern.readings_literal_append]
  cases rest with
  | nil =>
      simp [readKind?]
  | cons first text =>
      by_cases colon : first = ':'
      · subst colon
        simp only [↓reduceIte, readKind?,
          Pattern.readings_group_oneOrMore_append refuses]
        cases word : text.takeWhile isWord with
        | nil =>
            simp
        | cons character others =>
            simp only [reduceCtorEq, ↓reduceIte,
              Pattern.readings_literal_append]
            match behind : text.dropWhile isWord with
            | [] =>
                simp
            | [last] =>
                by_cases isColon : last = ':' <;> simp [isColon]
            | second :: third :: tail =>
                have noFeedBehind : '\n' ∉ tail := by
                  intro member
                  have inText :=
                    (List.dropWhile_suffix isWord).subset
                      (behind ▸ by simp [member] :
                        '\n' ∈ text.dropWhile isWord)
                  exact noFeed (List.mem_cons_of_mem _ inText)
                by_cases isSecond : second = ':'
                · by_cases isThird : third = ':'
                  · simp only [isSecond, isThird, ↓reduceIte]
                    rw [bind_readings_signaturePattern noFeedBehind
                      (by simpa [List.lookup_cons] using noSignature)]
                    simp [List.lookup_cons, Function.comp_def]
                  · simp [isSecond, isThird]
                · simp [isSecond]
      · simp [colon, readKind?]

/-- The pattern behind the indent leads to what is read there. -/
theorem bind_readings_bodyPattern
    (noFeed : '\n' ∉ rest)
    (noSignature : groups.lookup "sig" = none) :
    (bodyPattern.readings ⟨front, rest, groups⟩).head?.bind
        (ofReading? domain number) =
      (readBody? domain rest).map fun (kind, signature) =>
        ⟨number, byteSize ((groups.lookup "indent").getD []), kind,
          signature⟩ := by
  have kindRefuses : kindPattern.Refuses isWord :=
    Pattern.refuses_literal_append (by decide) _
  have domainRefuses :
      (Pattern.append (.group "domain" (.oneOrMore isWord))
        kindPattern).Refuses isGap :=
    Pattern.refuses_group_oneOrMore_append
      (fun _ gap => isWord_of_isGap gap) _ _
  rw [bodyPattern, Pattern.readings_literal_append]
  match rest, noFeed with
  | [], _ =>
      simp [readBody?]
  | [first], _ =>
      by_cases isFirst : first = '.' <;>
        simp [isFirst, readBody?, Pattern.readings_literal_append]
  | [first, second], _ =>
      by_cases isFirst : first = '.' <;>
        by_cases isSecond : second = '.' <;>
          simp [isFirst, isSecond, readBody?,
            Pattern.readings_literal_append,
            Pattern.readings_oneOrMore_append domainRefuses]
  | first :: second :: character :: text, noFeed =>
      by_cases isFirst : first = '.'
      · by_cases isSecond : second = '.'
        · subst isFirst isSecond
          simp only [↓reduceIte, Pattern.readings_literal_append,
            Pattern.readings_oneOrMore_append domainRefuses, readBody?]
          by_cases gap : isGap character = true
          · have noFeedBehind :
                '\n' ∉ (text.dropWhile isGap).dropWhile isWord := by
              intro member
              have inText :=
                (List.dropWhile_suffix isGap).subset
                  ((List.dropWhile_suffix isWord).subset member)
              simp [inText] at noFeed
            simp only [gap, List.takeWhile_cons_of_pos, reduceCtorEq,
              ↓reduceIte, List.dropWhile_cons_of_pos,
              Pattern.readings_group_oneOrMore_append kindRefuses]
            cases word : (text.dropWhile isGap).takeWhile isWord with
            | nil =>
                simp
            | cons head others =>
                simp only [reduceCtorEq, ↓reduceIte]
                rw [bind_readings_kindPattern noFeedBehind
                  (by simpa [List.lookup_cons] using noSignature)]
                by_cases named : head :: others = domain.toList
                · simp [List.lookup_cons, ← named]
                · simp [named]
          · simp [gap]
        · simp [isFirst, isSecond, readBody?,
            Pattern.readings_literal_append]
      · simp [isFirst, readBody?]

/-- The reader reads a line as the pattern matches it. -/
theorem matchLine?_eq_readLine?
    {line : List Char}
    (noFeed : '\n' ∉ line) :
    matchLine? domain number line = readLine? domain number line := by
  have refuses :
      bodyPattern.Refuses isGap :=
    Pattern.refuses_literal_append (by decide) _
  have noFeedBehind : '\n' ∉ line.dropWhile isGap :=
    fun member => noFeed ((List.dropWhile_suffix isGap).subset member)
  have indentGap :
      ∀ character ∈ line.takeWhile isGap, isGap character = true :=
    fun character member => List.mem_takeWhile_imp member
  rw [matchLine?, linePattern, Pattern.match?_start_append,
    Pattern.readings_group_many_append refuses,
    bind_readings_bodyPattern noFeedBehind (by simp [List.lookup_cons])]
  simp [readLine?, byteSize_gap indentGap]

end Matching

section Lines

/-- Lines are read one by one, with their numbers. -/
theorem readLines_eq_filterMap
    (domain : String)
    (number : Nat)
    (lines : List (List Char)) :
    readLines domain number lines =
      (lines.zipIdx number).filterMap fun (line, number) =>
        readLine? domain number line := by
  induction lines generalizing number with
  | nil =>
      rfl
  | cons line rest inductionHypothesis =>
      rw [readLines, List.zipIdx_cons, List.filterMap_cons,
        inductionHypothesis]
      dsimp only
      cases readLine? domain number line <;> rfl

/-- Lines are read in order, from the given number on. -/
theorem readLines_ordered
    (domain : String)
    (number : Nat)
    (lines : List (List Char)) :
    (readLines domain number lines).Pairwise
        (fun first second => first.line < second.line) ∧
      ∀ directive ∈ readLines domain number lines,
        number ≤ directive.line := by
  induction lines generalizing number with
  | nil =>
      simp [readLines]
  | cons line rest inductionHypothesis =>
      obtain ⟨ordered, bounded⟩ := inductionHypothesis (number + 1)
      rw [readLines]
      split
      · next directive read =>
          have here : directive.line = number := by
            obtain ⟨parts, -, rfl⟩ := Option.map_eq_some_iff.mp read
            rfl
          rw [List.pairwise_cons, List.forall_mem_cons]
          refine ⟨⟨?_, ordered⟩, here.ge, ?_⟩
          · intro later member
            rw [here]
            exact bounded later member
          · intro later member
            exact Nat.le_of_succ_le (bounded later member)
      · exact ⟨ordered, fun later member =>
          Nat.le_of_succ_le (bounded later member)⟩

/-- The directives of a text stand on increasing lines. -/
theorem outline_ordered
    (domain text : String) :
    (outline domain text).Pairwise fun first second =>
      first.line < second.line :=
  (readLines_ordered domain 1 (lines text.toList)).1

/-- The directives of a text are the directives on its lines. -/
theorem mem_outline_iff
    {domain text : String}
    {directive : Directive} :
    directive ∈ outline domain text ↔
      IsWord domain.toList ∧
        ∃ index parts,
          LineParts.WellFormed parts ∧
            (lines text.toList)[index]? =
              some (parts.line domain.toList) ∧
            directive = parts.directive (index + 1) := by
  rw [outline, readLines_eq_filterMap, List.mem_filterMap]
  constructor
  · rintro ⟨⟨line, number⟩, member, read⟩
    obtain ⟨isDomain, parts, wellFormed, rfl, rfl⟩ :=
      readLine?_eq_some_iff.mp read
    rw [List.mk_mem_zipIdx_iff_le_and_getElem?_sub] at member
    obtain ⟨positive, found⟩ := member
    refine ⟨isDomain, number - 1, parts, wellFormed, found, ?_⟩
    rw [Nat.sub_add_cancel positive]
  · rintro ⟨isDomain, index, parts, wellFormed, found, rfl⟩
    refine ⟨⟨parts.line domain.toList, index + 1⟩, ?_, ?_⟩
    · rw [List.mk_mem_zipIdx_iff_le_and_getElem?_sub]
      exact ⟨Nat.le_add_left _ _, by simpa using found⟩
    · exact readLine?_eq_some_iff.mpr
        ⟨isDomain, parts, wellFormed, rfl, rfl⟩

/-- Matching the pattern on every line gives the outline. -/
theorem outline_eq_filterMap_matchLine?
    (domain text : String) :
    outline domain text =
      ((lines text.toList).zipIdx 1).filterMap fun (line, number) =>
        matchLine? domain number line := by
  rw [outline, readLines_eq_filterMap]
  apply List.filterMap_congr
  rintro ⟨line, number⟩ member
  have isLine : line ∈ lines text.toList :=
    List.fst_mem_of_mem_zipIdx member
  exact (matchLine?_eq_readLine? (newline_not_mem isLine)).symm

/-- The domain of a valid configuration is a word. -/
theorem isWord_of_validate
    {config valid : Config}
    (validated : config.validate = .ok valid) :
    IsWord config.domain.toList := by
  have isName : Config.isDomainName config.domain = true := by
    apply Bool.not_eq_false _ |>.mp
    intro notName
    simp [Config.validate, Config.fault?, notName] at validated
  rw [Config.isDomainName, Bool.and_eq_true, List.all_eq_true] at isName
  obtain ⟨nonempty, alphanumeric⟩ := isName
  refine ⟨?_, fun character member =>
    isWord_of_isAlphanum (alphanumeric character member)⟩
  simpa using nonempty

/-- The outline of a text has, in line order, one directive for each line that
consists of the parts of one for the domain, and no others. -/
theorem outline_reads_directive_lines
    (domain text : String) :
    outline domain text =
        (((lines text.toList).zipIdx 1).filterMap fun (line, number) =>
          matchLine? domain number line) ∧
      (∀ parts other first second,
        LineParts.WellFormed parts → LineParts.WellFormed other →
          IsWord first → IsWord second →
            parts.line first = other.line second →
              parts = other ∧ first = second) ∧
      (∀ directive,
        directive ∈ outline domain text ↔
          IsWord domain.toList ∧
            ∃ index parts,
              LineParts.WellFormed parts ∧
                (lines text.toList)[index]? =
                  some (parts.line domain.toList) ∧
                directive = parts.directive (index + 1)) ∧
      ((outline domain text).Pairwise fun first second =>
        first.line < second.line) ∧
      (∀ index parts other,
        LineParts.WellFormed parts → IsWord other →
          other ≠ domain.toList →
            (lines text.toList)[index]? = some (parts.line other) →
              ∀ directive ∈ outline domain text,
                directive.line ≠ index + 1) ∧
      ∀ config valid : Config,
        config.validate = .ok valid → config.domain = domain →
          ∀ index parts,
            LineParts.WellFormed parts →
              (lines text.toList)[index]? =
                some (parts.line domain.toList) →
                parts.directive (index + 1) ∈ outline domain text := by
  refine ⟨outline_eq_filterMap_matchLine? domain text, ?_,
    fun _ => mem_outline_iff, outline_ordered domain text, ?_, ?_⟩
  · intro parts other first second wellFormed otherWellFormed isFirst
      isSecond same
    exact wellFormed.unique otherWellFormed isFirst isSecond same
  · intro index parts other wellFormed isOther different found directive
      member sameLine
    obtain ⟨isDomain, position, own, ownWellFormed, ownFound, rfl⟩ :=
      mem_outline_iff.mp member
    obtain rfl : position = index := by
      simpa [LineParts.directive] using sameLine
    rw [ownFound, Option.some_inj] at found
    exact different
      (ownWellFormed.unique wellFormed isDomain isOther found).2.symm
  · rintro config valid validated rfl index parts wellFormed found
    exact mem_outline_iff.mpr
      ⟨isWord_of_validate validated, index, parts, wellFormed, found, rfl⟩

/-- A directive before a no-break space and a carriage return and one behind a
tab are read; the line of another domain between them is not. -/
theorem outline_of_mixed_lines :
    let text :=
      ".. dn:class:: Map\u00a0\r\n.. py:class:: Map\n\t.. \tdn:méthode::\n"
    let parts : LineParts :=
      ⟨[], [' '], "class".toList, " Map\u00a0".toList⟩
    parts.WellFormed ∧
      outline "dn" text =
        [⟨1, 0, "class", "Map"⟩, ⟨3, 1, "méthode", ""⟩] ∧
      parts.directive 1 ∈ outline "dn" text ∧
      ∀ directive ∈ outline "dn" text, directive.line ≠ 2 := by
  intro text parts
  have isClass : IsWord "class".toList :=
    ⟨by decide, by simp; decide⟩
  have wellFormed : parts.WellFormed :=
    ⟨by simp [parts], by simp [parts]; decide, by simp [parts], isClass,
      by simp [parts]; decide⟩
  have isOther : IsWord "py".toList :=
    ⟨by decide, by simp; decide⟩
  obtain ⟨-, -, -, -, others, valid⟩ :=
    outline_reads_directive_lines "dn" text
  refine ⟨wellFormed, by decide +kernel, ?_, ?_⟩
  · exact valid {} {} rfl rfl 0 parts wellFormed (by decide +kernel)
  · exact others 1 ⟨[], [' '], "class".toList, " Map".toList⟩ "py".toList
      ⟨by simp, by simp; decide, by simp, isClass, by simp; decide⟩
      isOther (by decide) (by decide +kernel)

end Lines

end ApiIndex.Document
