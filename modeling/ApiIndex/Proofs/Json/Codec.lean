import ApiIndex.Config.File
import ApiIndex.Proofs.Json.Writing
import Mathlib.Data.List.Basic

namespace ApiIndex

open Json (record? wordLimit)

/-!
# JSON forms lose nothing

Every value of the public types is read back from the text that it is written
as, so no two values have the same text.  A record with keys is read by its
keys: their order does not matter, and neither do members that the record does
not know.  A configuration that leaves out some of its settings has the defaults
for them.
-/

namespace Json

section Records

variable
  {slots : List (String × Option Json)}
  {extra members : List (String × Json)}

/-- The members of the fields that have a value. -/
def written
    (slots : List (String × Option Json)) :
    List (String × Json) :=
  slots.filterMap fun (field, slot) => slot.map fun value => (field, value)

/-- Only fields are written. -/
theorem field_mem_of_mem_written
    {entry : String × Json}
    (member : entry ∈ written slots) :
    entry.1 ∈ slots.map Prod.fst := by
  obtain ⟨⟨field, slot⟩, listed, isEntry⟩ := List.mem_filterMap.mp member
  obtain ⟨value, -, rfl⟩ := Option.map_eq_some_iff.mp isEntry
  exact List.mem_map_of_mem listed

/-- A field that is listed once is written at most once. -/
theorem filter_written
    {field : String}
    {slot : Option Json}
    (unique : (slots.map Prod.fst).Nodup)
    (listed : (field, slot) ∈ slots) :
    (written slots).filter (·.1 == field) =
      (slot.map fun value => (field, value)).toList := by
  induction slots with
  | nil =>
      simp at listed
  | cons first slots inductionHypothesis =>
      obtain ⟨key, value⟩ := first
      rw [List.map_cons, List.nodup_cons] at unique
      have split :
          written ((key, value) :: slots) =
            (value.map fun value => (key, value)).toList ++ written slots := by
        cases value <;> rfl
      rw [split, List.filter_append]
      rcases List.mem_cons.mp listed with isFirst | later
      · cases isFirst
        -- The field is not listed again, so nothing else is written for it.
        have absent : (written slots).filter (·.1 == field) = [] := by
          rw [List.filter_eq_nil_iff]
          intro entry member same
          exact unique.1
            (eq_of_beq same ▸ field_mem_of_mem_written member)
        rw [absent, List.append_nil]
        cases slot <;> simp
      · have seen : field ∈ slots.map Prod.fst := List.mem_map_of_mem later
        have different : key ≠ field := by
          rintro rfl
          exact unique.1 seen
        rw [inductionHypothesis unique.2 later]
        cases value <;> simp [different]

/-- A field is found by its key, in whatever order the members stand and
whatever else there is. -/
theorem slot?_of_perm
    {field : String}
    {slot : Option Json}
    (unique : (slots.map Prod.fst).Nodup)
    (reordered : members.Perm (written slots ++ extra))
    (unknown : ∀ entry ∈ extra, entry.1 ∉ slots.map Prod.fst)
    (listed : (field, slot) ∈ slots) :
    slot? (members.map fun (key, value) => (some key, value)) field =
      some slot := by
  have noneUnknown : extra.filter (·.1 == field) = [] := by
    rw [List.filter_eq_nil_iff]
    intro entry member same
    exact unknown entry member
      (eq_of_beq same ▸ List.mem_map_of_mem listed)
  have found := reordered.filter (·.1 == field)
  rw [List.filter_append, noneUnknown, List.append_nil,
    filter_written unique listed] at found
  have keyed :
      (members.map fun (key, value) => (some key, value)).filter
          (·.1 == some field) =
        (members.filter (·.1 == field)).map fun (key, value) =>
          (some key, value) := by
    rw [List.filter_map]
    rfl
  rw [slot?, keyed]
  cases slot with
  | none =>
      rw [List.perm_nil.mp found]
      rfl
  | some value =>
      rw [List.perm_singleton.mp found]
      rfl

/-- Decoding a list succeeds where each item is decoded. -/
theorem mapM_eq_some_map
    {decode : α → Option β}
    {result : α → β}
    {items : List α}
    (each : ∀ item ∈ items, decode item = some (result item)) :
    items.mapM decode = some (items.map result) := by
  induction items with
  | nil =>
      rfl
  | cons item items inductionHypothesis =>
      rw [List.mapM_cons, each item List.mem_cons_self,
        inductionHypothesis fun other member =>
          each other (List.mem_cons_of_mem item member)]
      rfl

/-- A record is read by its keys. -/
theorem record?_of_perm
    {fields : List String}
    (unique : fields.Nodup)
    (isListed : slots.map Prod.fst = fields)
    (reordered : members.Perm (written slots ++ extra))
    (unknown : ∀ entry ∈ extra, entry.1 ∉ fields) :
    record? fields (.ofFields members) =
      some ⟨true, slots.map Prod.snd⟩ := by
  subst isListed
  have found :
      (slots.map Prod.fst).mapM
          (slot? (members.map fun (key, value) => (some key, value))) =
        some (slots.map Prod.snd) := by
    rw [List.mapM_map]
    refine mapM_eq_some_map ?_
    intro entry listed
    exact slot?_of_perm unique reordered unknown listed
  simp [record?, ofFields, found]

/-- A record that is written with all its fields is read as it was written. -/
theorem record?_ofFields
    {fields : List String}
    (unique : fields.Nodup)
    (isListed : members.map Prod.fst = fields) :
    record? fields (.ofFields members) =
      some ⟨true, members.map fun entry => some entry.2⟩ := by
  have isWritten :
      written (members.map fun entry => (entry.1, some entry.2)) =
        members := by
    simp [written, List.filterMap_map]
  have read :=
    @record?_of_perm (members.map fun entry => (entry.1, some entry.2))
      [] members fields unique (by rwa [List.map_map])
      (by rw [isWritten, List.append_nil]) (by simp)
  rwa [List.map_map] at read

end Records

section Fields

/-- A list of texts is read back. -/
theorem texts?_map_text
    (values : List String) :
    texts? (.array (values.map .text)) = some values := by
  have found : values.mapM (text? ∘ text) = some (values.map id) :=
    mapM_eq_some_map fun _ _ => rfl
  simpa [texts?, items?, List.mapM_map] using found

/-- A field is read back, or has its default where it was left out. -/
theorem withDefault_map
    {toJson : α → Json}
    {ofJson? : Json → Option α}
    (readsBack : ∀ value, ofJson? (toJson value) = some value)
    (fallback : α)
    (slot : Option α) :
    withDefault fallback ofJson? (slot.map toJson) =
      some (slot.getD fallback) := by
  cases slot with
  | none =>
      rfl
  | some value =>
      exact readsBack value

/-- A record can be written when the values of its fields can. -/
theorem expressible_ofFields
    {members : List (String × Json)}
    (each : (members.map Prod.snd).Forall Expressible) :
    Expressible (.ofFields members) := by
  rw [List.forall_iff_forall_mem] at each
  refine .object ?_
  intro keyed member
  obtain ⟨entry, listed, rfl⟩ := List.mem_map.mp member
  exact each entry.2 (List.mem_map_of_mem listed)

end Fields

/-- What it means that the JSON form of a type loses nothing on the values that
are valid: each is read back from both of its layouts and from every other text
that writes it, and no two of them have the same text in either layout. -/
structure Lossless
    (toJson : α → Json)
    (ofJson? : Json → Option α)
    (Valid : α → Prop) : Prop where
  compact :
    ∀ value, Valid value →
      (parse? (toJson value).render).bind ofJson? = some value
  indented :
    ∀ value, Valid value →
      (parse? (toJson value).pretty).bind ofJson? = some value
  anyText :
    ∀ value text, Valid value → Writes (toJson value) text →
      (parse? text).bind ofJson? = some value
  compactInjective :
    ∀ value other, Valid value → Valid other →
      (toJson value).render = (toJson other).render →
      value = other
  indentedInjective :
    ∀ value other, Valid value → Valid other →
      (toJson value).pretty = (toJson other).pretty →
      value = other

/-- A form loses nothing when it is expressible and read back as a value. -/
theorem Lossless.of_readsBack
    {toJson : α → Json}
    {ofJson? : Json → Option α}
    {Valid : α → Prop}
    (expressible : ∀ value, Expressible (toJson value))
    (readsBack : ∀ value, Valid value → ofJson? (toJson value) = some value) :
    Lossless toJson ofJson? Valid := by
  have anyText
      (value : α)
      (text : String)
      (valid : Valid value)
      (writes : Writes (toJson value) text) :
      (parse? text).bind ofJson? = some value := by
    rw [parse?_of_writes writes]
    exact readsBack value valid
  have compact
      (value : α)
      (valid : Valid value) :=
    anyText value _ valid (writes_render (expressible value))
  have indented
      (value : α)
      (valid : Valid value) :=
    anyText value _ valid (writes_pretty (expressible value))
  refine ⟨compact, indented, anyText, ?_, ?_⟩
  · intro value other valid validOther same
    have readsOther := compact other validOther
    rw [← same, compact value valid] at readsOther
    exact Option.some.inj readsOther
  · intro value other valid validOther same
    have readsOther := indented other validOther
    rw [← same, indented value valid] at readsOther
    exact Option.some.inj readsOther

end Json

namespace Kind

/-- A kind is read back. -/
theorem ofJson?_toJson
    (kind : Kind) :
    ofJson? kind.toJson = some kind :=
  ofName?_name kind

end Kind

namespace Bracket.Family

/-- A family is read back. -/
theorem ofJson?_toJson
    (family : Family) :
    ofJson? family.toJson = some family := by
  cases family <;> decide

end Bracket.Family

namespace Severity

/-- A severity is read back. -/
theorem ofJson?_toJson
    (severity : Severity) :
    ofJson? severity.toJson = some severity := by
  cases severity <;> decide

end Severity

namespace NestingRule

/-- A nesting rule is read back. -/
theorem ofJson?_toJson
    (rule : NestingRule) :
    ofJson? rule.toJson = some rule := by
  cases rule <;> decide

end NestingRule

namespace Signature

/-- A signature is read back: a part that is absent and a part that is empty
stay apart. -/
theorem ofJson?_toJson
    (signature : Signature) :
    ofJson? signature.toJson = some signature := by
  obtain ⟨raw, qualifier, member, arguments⟩ := signature
  have read :
      record? fields (toJson ⟨raw, qualifier, member, arguments⟩) =
        some ⟨true,
          [some (.text raw), some (.ofOption .text qualifier),
            some (.text member),
            some
              (.ofOption (fun arguments => .array (arguments.map .text))
                arguments)]⟩ :=
    Json.record?_ofFields (by decide) rfl
  have readsQualifier :
      Json.nullable true Json.text? (some (.ofOption .text qualifier)) =
        some qualifier := by
    cases qualifier <;> rfl
  have readsArguments :
      Json.nullable true Json.texts?
          (some
            (.ofOption (fun arguments => .array (arguments.map .text))
              arguments)) =
        some arguments := by
    cases arguments with
    | none =>
        rfl
    | some arguments =>
        simp [Json.nullable, Json.ofOption, Json.texts?_map_text]
  rw [ofJson?, read]
  simp [Json.required, Json.text, Json.text?, readsQualifier, readsArguments]

/-- A signature can be written. -/
theorem expressible_toJson
    (signature : Signature) :
    Json.Expressible signature.toJson := by
  have optional
      {α : Type}
      {toJson : α → Json}
      (each : ∀ value, Json.Expressible (toJson value))
      (value : Option α) :
      Json.Expressible (.ofOption toJson value) := by
    cases value with
    | none =>
        exact .null
    | some value =>
        exact each value
  have texts
      (values : List String) :
      Json.Expressible (.array (values.map .text)) := by
    refine .array ?_
    intro item member
    obtain ⟨value, -, rfl⟩ := List.mem_map.mp member
    exact .string _
  exact
    Json.expressible_ofFields
      ⟨.string _, optional (fun _ => .string _) _, .string _,
        optional texts _⟩

end Signature

namespace Reference

namespace Target

/-- A target is read back if its line fits into 64 bits. -/
theorem ofJson?_toJson
    (target : Target)
    (fits : target.line < wordLimit) :
    ofJson? target.toJson = some target := by
  obtain ⟨document, line, anchor⟩ := target
  have read :
      record? fields (toJson ⟨document, line, anchor⟩) =
        some ⟨true,
          [some (.text document), some (.natural line),
            some (.text anchor)]⟩ :=
    Json.record?_ofFields (by decide) rfl
  have readsLine : Json.word? (.natural line) = some line :=
    if_pos fits
  rw [ofJson?, read]
  simp [Json.required, Json.text, Json.text?, readsLine]

/-- A target can be written. -/
theorem expressible_toJson
    (target : Target) :
    Json.Expressible target.toJson :=
  Json.expressible_ofFields ⟨.string _, .natural _, .string _⟩

end Target

namespace Key

/-- A key is read back. -/
theorem ofJson?_toJson
    (key : Key) :
    ofJson? key.toJson = some key := by
  obtain ⟨kind, name⟩ := key
  have read :
      record? fields (toJson ⟨kind, name⟩) =
        some ⟨true, [some kind.toJson, some (.text name)]⟩ :=
    Json.record?_ofFields (by decide) rfl
  rw [ofJson?, read]
  simp [Json.required, Json.text, Json.text?, Kind.ofJson?_toJson]

/-- A key can be written. -/
theorem expressible_toJson
    (key : Key) :
    Json.Expressible key.toJson :=
  Json.expressible_ofFields ⟨.string _, .string _⟩

end Key

end Reference

namespace Diagnostic

/-- A diagnostic is read back if its line fits into 64 bits. -/
theorem ofJson?_toJson
    (diagnostic : Diagnostic)
    (fits : diagnostic.line < wordLimit) :
    ofJson? diagnostic.toJson = some diagnostic := by
  obtain ⟨document, line, severity, message⟩ := diagnostic
  have read :
      record? fields (toJson ⟨document, line, severity, message⟩) =
        some ⟨true,
          [some (.text document), some (.natural line), some severity.toJson,
            some (.text message)]⟩ :=
    Json.record?_ofFields (by decide) rfl
  have readsLine : Json.word? (.natural line) = some line :=
    if_pos fits
  rw [ofJson?, read]
  simp [Json.required, Json.text, Json.text?, readsLine,
    Severity.ofJson?_toJson]

/-- A diagnostic can be written. -/
theorem expressible_toJson
    (diagnostic : Diagnostic) :
    Json.Expressible diagnostic.toJson :=
  Json.expressible_ofFields ⟨.string _, .natural _, .string _, .string _⟩

end Diagnostic

namespace Config

/-- The settings that a configuration file gives.  Each may be left out. -/
structure Given where
  nesting : Option NestingRule := none
  sourceSuffix : Option String := none
  failOnWarning : Option Bool := none
  domain : Option String := none

namespace Given

/-- The value of each field, where it is given. -/
def slots
    (given : Given) :
    List (String × Option Json) :=
  [("nesting", given.nesting.map NestingRule.toJson),
   ("source_suffix", given.sourceSuffix.map .text),
   ("fail_on_warning", given.failOnWarning.map .bool),
   ("domain", given.domain.map .text)]

/-- The members that write the settings that are given. -/
def members
    (given : Given) :
    List (String × Json) :=
  Json.written given.slots

/-- The given settings with the defaults for the others. -/
def completed
    (given : Given) :
    Config :=
  let fallback : Config := {}
  { nesting := given.nesting.getD fallback.nesting
    sourceSuffix := given.sourceSuffix.getD fallback.sourceSuffix
    failOnWarning := given.failOnWarning.getD fallback.failOnWarning
    domain := given.domain.getD fallback.domain }

end Given

/-- The settings that are given are read by their keys, and the others have
their defaults. -/
theorem ofJson?_ofFields
    {given : Given}
    {extra members : List (String × Json)}
    (reordered : members.Perm (given.members ++ extra))
    (unknown : ∀ entry ∈ extra, entry.1 ∉ fields) :
    ofJson? (.ofFields members) = some given.completed := by
  have read :
      record? fields (.ofFields members) =
        some ⟨true, given.slots.map Prod.snd⟩ :=
    Json.record?_of_perm (by decide) rfl reordered unknown
  rw [ofJson?, read]
  have readsText
      (value : String) :
      Json.text? (.text value) = some value :=
    rfl
  have readsBool
      (value : Bool) :
      Json.bool? (.bool value) = some value :=
    rfl
  simp only [Given.slots, List.map_cons, List.map_nil,
    Json.withDefault_map NestingRule.ofJson?_toJson,
    Json.withDefault_map readsText, Json.withDefault_map readsBool]
  rfl

/-- A configuration is read back. -/
theorem ofJson?_toJson
    (config : Config) :
    ofJson? config.toJson = some config :=
  @ofJson?_ofFields
    ⟨config.nesting, config.sourceSuffix, config.failOnWarning, config.domain⟩
    [] _ (by rw [List.append_nil]; rfl) (by simp)

/-- A configuration can be written. -/
theorem expressible_toJson
    (config : Config) :
    Json.Expressible config.toJson :=
  Json.expressible_ofFields ⟨.string _, .string _, .bool _, .string _⟩

end Config

namespace Json

/-- The JSON forms of the public types lose nothing: every value is read back
from whatever text writes it, with lines that fit into 64 bits.  A configuration
object that gives some of the settings, in any order and with any members that
are not settings, is read as these settings with the defaults for the others. -/
theorem forms_lose_nothing :
    Lossless Kind.toJson Kind.ofJson? (fun _ => True) ∧
    Lossless Bracket.Family.toJson Bracket.Family.ofJson? (fun _ => True) ∧
    Lossless Severity.toJson Severity.ofJson? (fun _ => True) ∧
    Lossless NestingRule.toJson NestingRule.ofJson? (fun _ => True) ∧
    Lossless Signature.toJson Signature.ofJson? (fun _ => True) ∧
    Lossless Reference.Target.toJson Reference.Target.ofJson?
      (fun target => target.line < wordLimit) ∧
    Lossless Reference.Key.toJson Reference.Key.ofJson? (fun _ => True) ∧
    Lossless Diagnostic.toJson Diagnostic.ofJson?
      (fun diagnostic => diagnostic.line < wordLimit) ∧
    Lossless Config.toJson Config.ofJson? (fun _ => True) ∧
    ∀ (given : Config.Given)
      (extra members : List (String × Json))
      (text : String),
      members.Perm (given.members ++ extra) →
      (∀ entry ∈ extra, entry.1 ∉ Config.fields) →
      Writes (.ofFields members) text →
      Config.decode? text = some given.completed := by
  refine
    ⟨.of_readsBack (fun _ => .string _) fun kind _ => kind.ofJson?_toJson,
      .of_readsBack (fun _ => .string _) fun family _ =>
        family.ofJson?_toJson,
      .of_readsBack (fun _ => .string _) fun severity _ =>
        severity.ofJson?_toJson,
      .of_readsBack (fun _ => .string _) fun rule _ => rule.ofJson?_toJson,
      .of_readsBack Signature.expressible_toJson fun signature _ =>
        signature.ofJson?_toJson,
      .of_readsBack Reference.Target.expressible_toJson
        Reference.Target.ofJson?_toJson,
      .of_readsBack Reference.Key.expressible_toJson fun key _ =>
        key.ofJson?_toJson,
      .of_readsBack Diagnostic.expressible_toJson Diagnostic.ofJson?_toJson,
      .of_readsBack Config.expressible_toJson fun config _ =>
        config.ofJson?_toJson,
      ?_⟩
  intro given extra members text reordered unknown writes
  rw [Config.decode?, parse?_of_writes writes]
  exact Config.ofJson?_ofFields reordered unknown

/-- A target on the last line that fits, and a domain behind a member that is
no setting. -/
theorem last_line_and_lone_domain_read :
    let target : Reference.Target :=
      ⟨"shapes", 0xffffffffffffffff, "dn-class-Shape"⟩
    (parse? target.toJson.render).bind Reference.Target.ofJson? =
      some target ∧
    Config.decode? "\x7b\"tags\":[\"new\",null],\"domain\":\"vb\"\x7d" =
      some { domain := "vb" } := by
  have tags : Expressible (.array [.text "new", .null]) := by
    refine .array ?_
    simp only [List.mem_cons, List.not_mem_nil, or_false,
      forall_eq_or_imp, forall_eq]
    exact ⟨.string _, .null⟩
  have writes :
      Writes
        (.ofFields
          [("tags", .array [.text "new", .null]), ("domain", .text "vb")])
        "\x7b\"tags\":[\"new\",null],\"domain\":\"vb\"\x7d" :=
    writes_render (expressible_ofFields ⟨tags, .string _⟩)
  obtain ⟨-, -, -, -, -, targets, -, -, -, partialSettings⟩ :=
    forms_lose_nothing
  refine ⟨targets.compact _ (by decide), ?_⟩
  exact
    partialSettings { domain := some "vb" }
      [("tags", .array [.text "new", .null])] _ _
      (.swap ..) (by decide) writes

end Json

end ApiIndex
