import RemoteBindings.ObjC.Class
import RemoteBindings.Text.Case

/-!
# Source files

Each model has a header and a source file for its class and for its repository, and one more header
imports all of them. `renderFiles` writes them into a map by file name: a name that comes up again
replaces the text of the file.
-/

namespace RemoteBindings.ObjC

open Journal (Record)

/-- Lines, each with a line feed. -/
def lines (ls : List String) : String := String.join (ls.map (· ++ "\n"))

def aggregateName : String := "LoopbackModelImport.h"

/-- The head of a file of a model. -/
def fileHead (fileName : String) (model : Model) : String :=
  lines
    ["// " ++ fileName,
     "// Generated from the LoopBack model \"" ++ model.name ++ "\". Do not edit.",
     ""]

def importLine (fileName : String) : String := "#import \"" ++ fileName ++ "\""

def libraryImport : String := "#import <LoopBack/LoopBack.h>"

def forwardLine (cls : String) : String := "@class " ++ cls ++ ";"

def propertyLine (p : DeclaredProperty) : String := "@property " ++ p.type ++ p.name ++ ";"

def modelHeader (forward : List String) (model : Model) : String :=
  fileHead (model.className ++ ".h") model ++ lines [libraryImport] ++
    lines (forward.map forwardLine) ++
    lines
      ["",
       "/**",
       " * Client-side representation of the \"" ++ model.name ++ "\" model.",
       " */",
       "@interface " ++ model.className ++ " : " ++ model.baseClass,
       ""] ++
    lines (model.declaredProperties.map propertyLine) ++ lines ["", "@end"]

def modelSource (model : Model) : String :=
  fileHead (model.className ++ ".m") model ++
    lines
      [importLine (model.className ++ ".h"),
       "",
       "@implementation " ++ model.className,
       "",
       "@end"]

/-- The declaration of a selector, with the remote method that it invokes. -/
def selectorDeclaration (s : Selector) : String :=
  lines
    ["/**",
     " * Invokes the remote method \"" ++ s.rawName ++ "\" (" ++ s.httpVerb ++ " " ++ s.httpPath ++
       ").",
     " */",
     "- " ++ s.prototype ++ ";",
     ""]

def repositoryHeader (forward : List String) (model : Model) : String :=
  fileHead (model.repositoryName ++ ".h") model ++
    lines [libraryImport, importLine (model.className ++ ".h")] ++
    lines (forward.map forwardLine) ++
    lines
      ["",
       "/**",
       " * Repository of " ++ model.className ++ " instances, served under \"/" ++
         model.pluralName ++ "\".",
       " */",
       "@interface " ++ model.repositoryName ++ " : " ++ model.baseClass ++ "Repository",
       "",
       "+ (instancetype)repository;",
       ""] ++
    String.join (model.selectors.map selectorDeclaration) ++ lines ["@end"]

/-- The selectors whose remote method comes up for the first time, without regard to case. -/
def firstOfEachMethod (seen : List String) : List Selector → List Selector
  | [] => []
  | s :: ss =>
    let key := Text.lower s.rawName
    if seen.contains key then firstOfEachMethod seen ss
    else s :: firstOfEachMethod (key :: seen) ss

/-- The item of the contract that gives a remote method its route. -/
def contractItem (pluralName : String) (s : Selector) : String :=
  lines
    ["    [contract addItem:[SLRESTContractItem itemWithPattern:@\"/" ++ pluralName ++ s.httpPath ++
       "\" verb:@\"" ++ s.httpVerb ++ "\"]",
     "            forMethod:@\"" ++ pluralName ++ "." ++ s.rawName ++ "\"];"]

/-- What is done with a value that arrives. -/
def successLines (modelName : String) (s : Selector) : List String :=
  match s.returnKind with
  | .void => ["success();"]
  | .primitive => ["success([value boolValue]);"]
  | .model => ["success((" ++ s.returnType ++ " *)[self modelWithDictionary:value]);"]
  | .foreignModel =>
    ["success((" ++ s.returnType ++ " *)[[" ++ s.returnType ++
      "Repository repository] modelWithDictionary:value]);"]
  | .collection =>
    if s.elementType = modelName then
      ["NSMutableArray *models = [NSMutableArray array];",
       "[value enumerateObjectsUsingBlock:^(id obj, NSUInteger idx, BOOL *stop) \x7b",
       "    [models addObject:[self modelWithDictionary:obj]];",
       "\x7d];",
       "success(models);"]
    else ["success(value);"]
  | .object => ["success(value);"]

/-- A text where an empty one is left out. -/
def orElse (default : String) : Option String → String
  | none | some "" => default
  | some s => s

def successIndent : String := String.ofList (List.replicate 25 ' ')

def selectorDefinition (modelName : String) (s : Selector) : String :=
  lines
    ["- " ++ s.prototype ++ " \x7b",
     "    [self invokeStaticMethod:@\"" ++ s.rawName ++ "\"",
     "                  parameters:@\x7b " ++ orElse "" s.paramAssignments ++ " \x7d",
     "              bodyParameters:" ++ orElse "nil" s.bodyAssignment,
     "                     success:^(id value) \x7b"] ++
    lines ((successLines modelName s).map (successIndent ++ ·)) ++
    lines
      ["                     \x7d",
       "                     failure:failure];",
       "\x7d",
       ""]

/-- The source of a repository whose contract has the items of the given selectors. -/
def repositorySourceWith (items : List Selector) (forward : List String) (model : Model) :
    String :=
  fileHead (model.repositoryName ++ ".m") model ++
    lines [importLine (model.repositoryName ++ ".h")] ++
    lines (forward.flatMap fun cls =>
      [importLine (cls ++ ".h"), importLine (cls ++ "Repository.h")]) ++
    lines
      ["",
       "@implementation " ++ model.repositoryName,
       "",
       "+ (instancetype)repository \x7b",
       "    " ++ model.repositoryName ++ " *repository = [self repositoryWithClassName:@\"" ++
         model.pluralName ++ "\"];",
       "    repository.modelClass = [" ++ model.className ++ " class];",
       "    return repository;",
       "\x7d",
       "",
       "- (SLRESTContract *)contract \x7b",
       "    SLRESTContract *contract = [super contract];"] ++
    String.join (items.map (contractItem model.pluralName)) ++
    lines ["    return contract;", "\x7d", ""] ++
    String.join (model.selectors.map (selectorDefinition model.name)) ++ lines ["@end"]

def repositorySource (forward : List String) (model : Model) : String :=
  repositorySourceWith (firstOfEachMethod [] model.selectors) forward model

/-- The header that imports the headers of all models. -/
def aggregateHeader (models : List Model) : String :=
  lines
    ["// " ++ aggregateName,
     "// Imports every generated model and repository. Do not edit.",
     "",
     libraryImport] ++
    lines (models.flatMap fun m =>
      [importLine (m.className ++ ".h"), importLine (m.repositoryName ++ ".h")])

/-- The files of a model, by name. -/
def modelFiles (generated : List String) (model : Model) : List (String × String) :=
  let forward := referencedClasses generated model
  [(model.className ++ ".h", modelHeader forward model),
   (model.className ++ ".m", modelSource model),
   (model.className ++ "Repository.h", repositoryHeader forward model),
   (model.className ++ "Repository.m", repositorySource forward model)]

def renderRecord (model : Model) : Record :=
  .ofModel model.name "RENDER"
    (model.className ++ " (" ++ toString model.selectors.length ++ " methods)")

/-- All files of some models in the order in which they are written. -/
def writtenFiles (models : List Model) : List (String × String) :=
  models.flatMap (modelFiles (models.map Model.className)) ++
    [(aggregateName, aggregateHeader models)]

def renderFiles (models : Models) : Entries String String :=
  Entries.ofList (writtenFiles models.values)

def renderRecords (models : Models) : List Record := models.values.map renderRecord

end RemoteBindings.ObjC
