import ApiIndex.Config
import ApiIndex.Diagnostic
import ApiIndex.Document.Outline
import ApiIndex.Forest
import ApiIndex.Signature.Parser

namespace ApiIndex.Document

open ApiIndex.Reference (Duplicate Entry Key Registry Target)

/-!
# Building one document

The directives of a document are pushed one after the other.  A directive ends
every open scope that is not indented less, and opens a scope of its own.  An
accepted directive opens a declaration and claims its key; a key that is
already claimed, even by a scope that is still open, makes the directive a
duplicate.  A claim is registered when its scope ends, so nested declarations
are registered before the one around them.  A rejected directive keeps its
place in the indentation but opens no declaration: what is nested in it belongs
to the nearest accepted scope around it.
-/

/-- A directive whose content may still follow. -/
structure Scope where
  indent : Nat
  /-- The declaration, unless the directive was rejected. -/
  node : Option NodeId
  /-- The claimed key with its target, unless the key was taken. -/
  claim : Option Entry
  deriving Repr, DecidableEq

/-- A document in the middle of its directives. -/
structure Builder where
  name : String
  forest : Forest
  registry : Registry := {}
  /-- All claims so far, those of open scopes included. -/
  claimed : Registry := {}
  diagnostics : List Diagnostic := []
  /-- The open scopes, innermost first. -/
  scopes : List Scope := []
  deriving Repr, DecidableEq

/-- What a document contributes to a build. -/
structure Outcome where
  name : String
  forest : Forest
  registry : Registry
  diagnostics : List Diagnostic
  deriving Repr, DecidableEq

/-- The kind and the signature of a directive, or what is wrong with it. -/
def Directive.resolve
    (directive : Directive) :
    Except Problem (Kind × Signature) :=
  match Kind.parse? directive.kind with
  | none =>
      .error (.unknownKind directive.kind)
  | some kind =>
      match Signature.parse directive.signature kind with
      | .error rejection =>
          .error (.rejected rejection)
      | .ok signature =>
          .ok (kind, signature)

namespace Builder

/-- A document without directives. -/
def start
    (name : String)
    (rule : NestingRule) :
    Builder where
  name := name
  forest := { rule := rule }

/-- Add a diagnostic for a line of the document. -/
def report
    (builder : Builder)
    (line : Nat)
    (problem : Problem) :
    Builder :=
  { builder with
    diagnostics :=
      builder.diagnostics ++
        [Diagnostic.ofProblem builder.name line problem] }

/-- Register the claim of a scope that ends. -/
def settle
    (builder : Builder) :
    Option Entry →
      Builder
  | none =>
      builder
  | some claim =>
      match builder.registry.register claim.key claim.target with
      | .ok registry =>
          { builder with registry := registry }
      | .error duplicate =>
          builder.report claim.target.line (.duplicate duplicate)

/-- End the innermost scope, if there is one. -/
def closeScope
    (builder : Builder) :
    Builder :=
  match builder.scopes with
  | [] =>
      builder
  | scope :: outer =>
      let ended := { builder with scopes := outer }
      match scope.node with
      | none =>
          ended
      | some _ =>
          { ended with forest := ended.forest.closeNode }.settle scope.claim

/-- Settling a claim leaves the open scopes alone. -/
@[simp] theorem settle_scopes
    (builder : Builder)
    (claim : Option Entry) :
    (builder.settle claim).scopes = builder.scopes := by
  unfold settle
  split
  · rfl
  · split <;> rfl

/-- Ending a scope removes the innermost one. -/
@[simp] theorem closeScope_scopes
    (builder : Builder) :
    builder.closeScope.scopes = builder.scopes.tail := by
  unfold closeScope
  split
  · next noScope =>
      simp [noScope]
  · next scope outer shape =>
      split <;> simp [shape]

/-- End the scopes that are indented at least as far as `indent`. -/
def closeFrom
    (indent : Nat)
    (builder : Builder) :
    Builder :=
  match _shape : builder.scopes with
  | [] =>
      builder
  | scope :: _ =>
      if indent ≤ scope.indent then
        closeFrom indent builder.closeScope
      else
        builder
  termination_by builder.scopes.length
  decreasing_by
    simp [*]

/-- Open a declaration and claim its key for a line.  The scope of the
declaration is opened without a claim when the key is taken. -/
def accept
    (builder : Builder)
    (directive : Directive)
    (kind : Kind)
    (signature : Signature) :
    Builder :=
  let id := builder.forest.size
  let forest := builder.forest.openNode kind signature
  let opened := { builder with forest := forest }
  match forest.qualifiedName? id with
  | none =>
      { opened with
        scopes := ⟨directive.indent, some id, none⟩ :: opened.scopes }
  | some name =>
      let key : Key := ⟨kind, name⟩
      let target := Target.ofKey builder.name directive.line key
      match builder.claimed.register key target with
      | .ok claimed =>
          { opened with
            claimed := claimed
            scopes :=
              ⟨directive.indent, some id, some ⟨key, target⟩⟩ ::
                opened.scopes }
      | .error duplicate =>
          { opened.report directive.line (.duplicate duplicate) with
            scopes := ⟨directive.indent, some id, none⟩ :: opened.scopes }

/-- Report a problem and keep a scope for what is nested in the directive. -/
def reject
    (builder : Builder)
    (directive : Directive)
    (problem : Problem) :
    Builder :=
  { builder.report directive.line problem with
    scopes := ⟨directive.indent, none, none⟩ :: builder.scopes }

/-- Push the next directive. -/
def push
    (builder : Builder)
    (directive : Directive) :
    Builder :=
  let enclosing := builder.closeFrom directive.indent
  match directive.resolve with
  | .ok (kind, signature) =>
      enclosing.accept directive kind signature
  | .error problem =>
      enclosing.reject directive problem

/-- End all scopes. -/
def finish
    (builder : Builder) :
    Outcome :=
  let closed := builder.closeFrom 0
  ⟨closed.name, closed.forest, closed.registry, closed.diagnostics⟩

end Builder

/-- Build a document from its directives. -/
def ofDirectives
    (name : String)
    (rule : NestingRule)
    (directives : List Directive) :
    Outcome :=
  (directives.foldl Builder.push (Builder.start name rule)).finish

/-- Build a document from its text. -/
def build
    (config : Config)
    (name : String)
    (text : String) :
    Outcome :=
  ofDirectives name config.nesting (outline config.domain text)

end ApiIndex.Document
