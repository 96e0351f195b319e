import ApiIndex.Naming

namespace ApiIndex.Command

/-!
# Command line requests

A command line names a command, followed by its options and positional
arguments in any order.  An option is given once, its value behind an equals
sign or as the next argument; only the kinds of a search may be repeated.
Behind two dashes everything is positional.  A signature may start with a dash
as long as it is none of the known options.
-/

/-- Which documents a build reads, and how. -/
structure Selection where
  paths : List String
  config : Option String
  nesting : Option NestingRule
  deriving Repr, DecidableEq

/-- What a command line asks for. -/
inductive Request where
  | parse (kind : Kind) (signature : String) (json : Bool)
  | build (selection : Selection) (json failOnWarning : Bool)
  | find (selection : Selection) (name : String) (kinds : List Kind)
  | schema
  deriving Repr, DecidableEq

/-- The paths that a request reads, if they are there.  Without a configuration
file the one in the working directory counts. -/
def Request.paths
    (configName : String) :
    Request →
      List String
  | .build selection _ _ =>
      selection.config.getD configName :: selection.paths
  | .find selection _ _ =>
      selection.config.getD configName :: selection.paths
  | _ =>
      []

/-- Why a command line is no request. -/
inductive Stop where
  | usage
  | help
  | version
  deriving Repr, DecidableEq

/-- The commands. -/
inductive Verb where
  | parse
  | build
  | find
  | schema
  deriving Repr, DecidableEq

/-- The options of all commands. -/
inductive Flag where
  | help
  | json
  | failOnWarning
  | config
  | nesting
  | name
  | kind
  deriving Repr, DecidableEq

/-- The command with a name. -/
def Verb.ofName? : String → Option Verb
  | "parse" => some .parse
  | "build" => some .build
  | "find" => some .find
  | "schema" => some .schema
  | _ => none

/-- The long options of a command. -/
def Verb.flags : Verb → List (String × Flag)
  | .parse =>
      [("help", .help), ("json", .json)]
  | .build =>
      [("help", .help), ("json", .json),
       ("fail-on-warning", .failOnWarning),
       ("config", .config), ("nesting", .nesting)]
  | .find =>
      [("help", .help), ("name", .name), ("kind", .kind),
       ("config", .config), ("nesting", .nesting)]
  | .schema =>
      [("help", .help)]

/-- The option of a command with a long name. -/
def Verb.flag?
    (verb : Verb)
    (name : String) :
    Option Flag :=
  verb.flags.lookup name

/-- Whether an option is followed by a value. -/
def Flag.takesValue : Flag → Bool
  | .config | .nesting | .name | .kind => true
  | _ => false

/-- The shape of one argument. -/
inductive Token where
  | dashes
  | long (name : String) (value : Option String)
  | short (letters : List Char)
  | plain
  deriving Repr, DecidableEq

/-- Divide a long option at its first equals sign. -/
def Token.ofLong
    (text : List Char) :
    Token :=
  let name := String.ofList (text.takeWhile (· != '='))
  match text.dropWhile (· != '=') with
  | [] =>
      .long name none
  | _ :: value =>
      .long name (some (String.ofList value))

/-- The shape of an argument.  A single dash is an ordinary value. -/
def Token.ofText
    (text : String) :
    Token :=
  match text.toList with
  | ['-', '-'] =>
      .dashes
  | '-' :: '-' :: rest =>
      .ofLong rest
  | '-' :: letter :: rest =>
      .short (letter :: rest)
  | _ =>
      .plain

/-- The arguments that have been read so far. -/
structure Draft where
  positionals : List String := []
  json : Bool := false
  failOnWarning : Bool := false
  config : Option String := none
  nesting : Option NestingRule := none
  name : Option String := none
  kinds : List Kind := []
  deriving Repr, DecidableEq

namespace Draft

/-- Whether the next positional argument may start with a dash. -/
def takesDash
    (verb : Verb)
    (draft : Draft) :
    Bool :=
  verb = .parse && draft.positionals.length == 1

/-- Add a positional argument: a kind and a signature, or a path that is not
empty. -/
def addPositional
    (verb : Verb)
    (draft : Draft)
    (text : String) :
    Except Stop Draft :=
  let accepted :=
    match verb with
    | .parse =>
        match draft.positionals with
        | [] =>
            (Kind.parse? text).isSome
        | [_] =>
            true
        | _ =>
            false
    | .schema =>
        false
    | _ =>
        !text.isEmpty
  if accepted then
    .ok { draft with positionals := draft.positionals ++ [text] }
  else
    .error .usage

/-- Add positional arguments one after the other. -/
def addPositionals
    (verb : Verb) :
    Draft →
      List String →
      Except Stop Draft
  | draft, [] =>
      .ok draft
  | draft, text :: rest =>
      match draft.addPositional verb text with
      | .error stop =>
          .error stop
      | .ok next =>
          addPositionals verb next rest

/-- Set an option without a value. -/
def switch
    (draft : Draft) :
    Flag →
      Except Stop Draft
  | .help =>
      .error .help
  | .json =>
      if draft.json then
        .error .usage
      else
        .ok { draft with json := true }
  | .failOnWarning =>
      if draft.failOnWarning then
        .error .usage
      else
        .ok { draft with failOnWarning := true }
  | _ =>
      .error .usage

/-- Set an option to a value. -/
def assign
    (draft : Draft)
    (value : String) :
    Flag →
      Except Stop Draft
  | .config =>
      if draft.config.isSome || value.isEmpty then
        .error .usage
      else
        .ok { draft with config := some value }
  | .nesting =>
      match draft.nesting, NestingRule.parse value with
      | none, .ok rule =>
          .ok { draft with nesting := some rule }
      | _, _ =>
          .error .usage
  | .name =>
      if draft.name.isSome then
        .error .usage
      else
        .ok { draft with name := some value }
  | .kind =>
      match Kind.parse? value with
      | some kind =>
          .ok { draft with kinds := draft.kinds ++ [kind] }
      | none =>
          .error .usage
  | _ =>
      .error .usage

/-- Read a cluster of short options.  The only one is the request for help. -/
def readShort
    (verb : Verb)
    (draft : Draft)
    (text : String)
    (letters : List Char) :
    Except Stop Draft :=
  if draft.takesDash verb && letters.any (· != 'h') then
    draft.addPositional verb text
  else if letters.head? = some 'h' then
    .error .help
  else
    .error .usage

/-- Read the arguments behind a command. -/
def read
    (verb : Verb) :
    Draft →
      List String →
      Except Stop Draft
  | draft, [] =>
      .ok draft
  | draft, text :: rest =>
      match Token.ofText text with
      | .dashes =>
          draft.addPositionals verb rest
      | .plain =>
          match draft.addPositional verb text with
          | .error stop =>
              .error stop
          | .ok next =>
              read verb next rest
      | .short letters =>
          match draft.readShort verb text letters with
          | .error stop =>
              .error stop
          | .ok next =>
              read verb next rest
      | .long name value =>
          match verb.flag? name, value with
          | none, _ =>
              if draft.takesDash verb then
                match draft.addPositional verb text with
                | .error stop =>
                    .error stop
                | .ok next =>
                    read verb next rest
              else
                .error .usage
          | some flag, some attached =>
              match draft.assign attached flag with
              | .error stop =>
                  .error stop
              | .ok next =>
                  read verb next rest
          | some flag, none =>
              if flag.takesValue then
                match rest with
                | [] =>
                    .error .usage
                | following :: later =>
                    if Token.ofText following = .plain then
                      match draft.assign following flag with
                      | .error stop =>
                          .error stop
                      | .ok next =>
                          read verb next later
                    else
                      .error .usage
              else
                match draft.switch flag with
                | .error stop =>
                    .error stop
                | .ok next =>
                    read verb next rest

/-- The selection of documents; at least one path is needed. -/
def selection?
    (draft : Draft) :
    Option Selection :=
  if draft.positionals.isEmpty then
    none
  else
    some ⟨draft.positionals, draft.config, draft.nesting⟩

/-- The request of a command whose arguments have all been read. -/
def request?
    (draft : Draft) :
    Verb →
      Option Request
  | .parse =>
      match draft.positionals with
      | [kind, signature] =>
          (Kind.parse? kind).map fun kind =>
            .parse kind signature draft.json
      | _ =>
          none
  | .build =>
      draft.selection?.map fun selection =>
        .build selection draft.json draft.failOnWarning
  | .find =>
      match draft.selection?, draft.name with
      | some selection, some name =>
          some (.find selection name draft.kinds)
      | _, _ =>
          none
  | .schema =>
      some .schema

end Draft

/-- Read the arguments of a help request: nothing, or one command. -/
def readHelp : List String → Stop
  | [] =>
      .help
  | [name] =>
      if (Verb.ofName? name).isSome || name == "help" then
        .help
      else
        .usage
  | _ =>
      .usage

/-- Read a first argument that is no command. -/
def readGlobal
    (text : String) :
    Stop :=
  match Token.ofText text with
  | .long "version" none =>
      .version
  | .long "help" none =>
      .help
  | .short ('V' :: _) =>
      .version
  | .short ('h' :: _) =>
      .help
  | _ =>
      .usage

/-- Read a command line. -/
def readRequest : List String → Except Stop Request
  | [] =>
      .error .usage
  | first :: rest =>
      match Verb.ofName? first with
      | some verb =>
          match Draft.read verb {} rest with
          | .error stop =>
              .error stop
          | .ok draft =>
              match draft.request? verb with
              | some request =>
                  .ok request
              | none =>
                  .error .usage
      | none =>
          if first = "help" then
            .error (readHelp rest)
          else
            .error (readGlobal first)

end ApiIndex.Command
