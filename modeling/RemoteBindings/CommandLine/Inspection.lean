import RemoteBindings.Console.Print
import RemoteBindings.Generation

/-!
# What `inspect` prints

For each model: its class, a table of its properties, a table of its selectors, its scopes with the
return types of their accessors, and the classes that it relates to. `inspection` gives what is
printed piece by piece.
-/

namespace RemoteBindings.CommandLine

open Console (Table Printed)

/-- A text or a table to be printed. -/
inductive Piece where
  | line (s : String)
  | table (t : Table)
deriving Repr, DecidableEq

def Piece.printed : Piece → Printed
  | line s => Console.printed s
  | table t => t.printed

def titleLine (m : Model) : String :=
  "\n[bold]" ++ m.className ++ "[/bold] : " ++ m.baseClass ++ "  (model " ++ m.name ++ ", /" ++
    m.pluralName ++ ")"

/-- A selector on one line. -/
def onOneLine (s : String) : String := String.intercalate " " (Text.splitBlank s)

def propertyTable (m : Model) : Table :=
  [⟨"Property", m.declaredProperties.map (·.name)⟩,
    ⟨"Type", m.declaredProperties.map fun p => Text.trimBlank p.type⟩]

def selectorTable (m : Model) : Table :=
  [⟨"Remote method", m.selectors.map (·.rawName)⟩,
    ⟨"Selector", m.selectors.map fun s => onOneLine s.prototype⟩,
    ⟨"Returns", m.selectors.map (·.returnType)⟩]

/-- The return type of an accessor, which need not be supported. -/
def accessorType (r : Registry) (model : Model) (m : Method) : String :=
  match ObjC.returnType? r model.name model.className m.returnsArray m.result.type with
  | none | some "" => "unsupported"
  | some type => type

def scopePieces (r : Registry) (model : Model) : String × Option Scope → List Piece
  | (name, none) => [.line ("  scope " ++ name ++ ": skipped")]
  | (name, some scope) =>
    .line ("  scope " ++ name ++ " -> " ++ scope.targetClass) ::
      scope.methods.map fun (apiName, m) =>
        .line ("    " ++ apiName ++ ": " ++ accessorType r model m)

def modelPieces (r : Registry) (m : Model) : List Piece :=
  .line (titleLine m) ::
    (if m.declaredProperties.isEmpty then [] else [.table (propertyTable m)]) ++
    .table (selectorTable m) :: m.scopes.flatMap (scopePieces r m) ++
    (if m.includes.isEmpty then []
      else [.line ("  includes: " ++ String.intercalate ", " m.includes)])

def inspection (b : Bindings) : List Piece := b.models.values.flatMap (modelPieces b.registry)

end RemoteBindings.CommandLine
