import RemoteBindings.Descriptor.Basic
import RemoteBindings.Descriptor.Schema

/-!
# Validation of a descriptor

One check for each kind of part, from the endpoint up to the service (`checkService`). Several
fields may be written in a short form, which is expanded before the check: a single parameter for a
list of them, a type for a property definition, a mapping of classes by name for a list of classes.
-/

namespace RemoteBindings.Descriptor

/-- A single mapping or nothing where a list belongs. -/
def asList (v : Value) : Value :=
  match v.exposed with
  | .null => .list []
  | .map _ => .list [v]
  | _ => v

/-- Nothing where a list belongs. -/
def orNoItems : Value → Value
  | .null => .list []
  | v => v

/-- Nothing where a mapping belongs. -/
def orNoEntries : Value → Value
  | .null => .map []
  | v => v

/-- Any empty value where a mapping belongs. -/
def emptyAsMapping (v : Value) : Value := if v.isTruthy then v else .map []

def verbField := plain "verb"
def pathField := plain "path"

def checkEndpoint : Check Endpoint
  | .endpoint verb path extra => .accepted ⟨verb, path, extra⟩
  | v => checkPart "EndpointDescriptor" (fun es =>
      Endpoint.mk <$> verbField.optional "post" checkText es <*>
        pathField.optional none checkOptionalText es <*> extraFields [verbField, pathField] es) v

def argField := plain "arg"
def typeField := plain "type"
def requiredField := plain "required"
def httpField := plain "http"
def modelField := plain "model"
def descriptionField := plain "description"

def checkParam : Check Param :=
  checkPart "ParamDescriptor" fun es =>
    Param.mk <$> argField.required checkText es <*> typeField.optional (.text "any") checkAny es <*>
      requiredField.optional false checkTruth es <*> httpField.optional .null checkAny es <*>
      modelField.optional none checkOptionalText es <*>
      descriptionField.optional .null checkAny es <*>
      extraFields [argField, typeField, requiredField, httpField, modelField, descriptionField] es

def rootField := plain "root"

def checkReturn : Check Return :=
  checkPart "ReturnDescriptor" fun es =>
    Return.mk <$> argField.optional none checkOptionalText es <*>
      typeField.optional .null checkAny es <*> rootField.optional false checkTruth es <*>
      extraFields [argField, typeField, rootField] es

/-- Of several routes the first counts. -/
def firstRoute (v : Value) : Value :=
  match v.exposed with
  | .list [] => .null
  | .list (first :: _) => first
  | _ => v

def checkOptionalEndpoint : Check (Option Endpoint)
  | .null => .accepted none
  | v => (checkEndpoint v).map some

def nameField := plain "name"
def acceptsField := plain "accepts"
def returnsField := plain "returns"
def isStaticField : Field := ⟨"isStatic", "is_static"⟩
def deprecatedField := plain "deprecated"
def internalField := plain "internal"

def checkMethod : Check Method :=
  checkPart "MethodDescriptor" fun es =>
    Method.mk <$> nameField.required checkText es <*>
      acceptsField.optional [] (fun v => checkList checkParam (asList v)) es <*>
      returnsField.optional [] (fun v => checkList checkReturn (asList v)) es <*>
      isStaticField.optional true checkTruth es <*>
      httpField.optional none (fun v => checkOptionalEndpoint (firstRoute v)) es <*>
      deprecatedField.optional false checkTruth es <*>
      internalField.optional false checkTruth es <*>
      descriptionField.optional .null checkAny es <*>
      extraFields [nameField, acceptsField, returnsField, isStaticField, httpField, deprecatedField,
        internalField, descriptionField] es

/-- The route of a constructor without a path goes to an instance by its id. -/
def bindingEntries (es : Mapping) : Mapping :=
  match (Value.field? "path" es).getD .null with
  | .null => Entries.put (.text "path") (.text "/:id")
      (Entries.ofList ((.text "verb", .text "get") :: es))
  | _ => es

def completeBinding (v : Value) : Value :=
  match v.exposed with
  | .null => .map [(.text "verb", .text "get"), (.text "path", .text "/:id")]
  | .endpoint verb path extra => .map (bindingEntries (Value.endpointFields verb path extra))
  | .map es => .map (bindingEntries es)
  | v => v

def checkBinding (v : Value) : Checked Binding :=
  (checkEndpoint (completeBinding v)).map fun e => ⟨e.verb, e.path.getD "/:id", e.extra⟩

def checkCtor : Check Ctor :=
  checkPart "CtorDescriptor" fun es =>
    Ctor.mk <$> acceptsField.optional [] (fun v => checkList checkParam (asList v)) es <*>
      httpField.optional Binding.default checkBinding es <*>
      extraFields [acceptsField, httpField] es

def checkOptionalCtor : Check (Option Ctor)
  | .null => .accepted none
  | v => (checkCtor v).map some

/-- What a property definition may state next to its type. -/
def propertyAttributes : List String :=
  ["type", "id", "generated", "required", "default", "defaultFn", "description", "doc", "index",
   "hidden", "protected", "length", "precision", "scale", "format", "jsonSchema", "updateOnly",
   "mysql", "postgresql", "mongodb", "oracle", "mssql", "db2"]

/-- Whether an entry can only be a field of an anonymous nested object: its key is no attribute and
its value could be a type. -/
def declaresField : Value × Value → Bool
  | (k, v) =>
    (match k with
      | .text name => !propertyAttributes.contains name
      | _ => true) &&
    (match v.exposed with
      | .text _ | .list _ | .map _ => true
      | _ => false)

/-- Whether a mapping defines a property, rather than being an anonymous object type. -/
def isPropertyDefinition (es : Mapping) : Bool :=
  (Value.field? "type" es).isSome && !es.any declaresField

/-- The definition that a value in the place of a property stands for. -/
def propertyEntries (v : Value) : Mapping :=
  match v.exposed with
  | .map es => if isPropertyDefinition es then es else [(.text "type", v)]
  | _ => [(.text "type", v)]

def idField := plain "id"
def generatedField := plain "generated"

def checkPropertyEntries (es : Mapping) : Checked Property :=
  Property.mk <$> typeField.optional .null checkAny es <*>
    idField.optional (.bool false) checkAny es <*> generatedField.optional false checkTruth es <*>
    requiredField.optional false checkTruth es <*>
    extraFields [typeField, idField, generatedField, requiredField] es

def checkProperty : Check Property
  | .property type id generated required extra => .accepted ⟨type, id, generated, required, extra⟩
  | v => checkPropertyEntries (propertyEntries v)

def throughField := plain "through"
def foreignKeyField : Field := ⟨"foreignKey", "foreign_key"⟩

def checkRelation : Check Relation :=
  checkPart "RelationDescriptor" fun es =>
    Relation.mk <$> typeField.optional none checkOptionalText es <*>
      modelField.optional none checkOptionalText es <*>
      throughField.optional none checkOptionalText es <*>
      foreignKeyField.optional none checkOptionalText es <*>
      extraFields [typeField, modelField, throughField, foreignKeyField] es

def baseField := plain "base"
def relationsField := plain "relations"
def aclsField := plain "acls"
def validationsField := plain "validations"

def checkSettings : Check Settings :=
  checkPart "ModelSettingsDescriptor" fun es =>
    Settings.mk <$> baseField.optional .null checkAny es <*>
      relationsField.optional [] (fun v => checkMapping checkRelation (orNoEntries v)) es <*>
      aclsField.optional [] (fun v => checkList checkAny (orNoItems v)) es <*>
      validationsField.optional (.list []) checkAny es <*>
      extraFields [baseField, relationsField, aclsField, validationsField] es

def pluralNameField : Field := ⟨"pluralName", "plural_name"⟩
def ctorField := plain "ctor"
def isUserField : Field := ⟨"isUser", "is_user"⟩
def propertiesField := plain "properties"
def settingsField := plain "settings"
def methodsField := plain "methods"
def scopeTargetsField : Field := ⟨"scopeTargets", "scope_targets"⟩

def checkModelClass : Check ModelClass :=
  checkPart "ModelClassDescriptor" fun es =>
    ModelClass.mk <$> nameField.required checkText es <*>
      pluralNameField.optional none checkOptionalText es <*>
      ctorField.optional none checkOptionalCtor es <*> isUserField.optional false checkTruth es <*>
      propertiesField.optional [] (fun v => checkMapping checkProperty (emptyAsMapping v)) es <*>
      settingsField.optional Settings.default (fun v => checkSettings (emptyAsMapping v)) es <*>
      methodsField.optional [] (checkList checkMethod) es <*>
      scopeTargetsField.optional []
        (fun v => checkMapping checkOptionalText (emptyAsMapping v)) es <*>
      extraFields [nameField, pluralNameField, ctorField, isUserField, propertiesField,
        settingsField, methodsField, scopeTargetsField] es

/-- A class under its name: the name is a field like any other, and the class may state another. -/
def namedClass (e : Value × Value) : Value :=
  match e.2.exposed with
  | .map es => Value.mapOfList ((.text "name", e.1) :: es)
  | v => v

/-- Classes by name, or any empty value, where a list of classes belongs. -/
def classList (v : Value) : Value :=
  match v.exposed with
  | .map es => .list (es.map namedClass)
  | v => if v.isTruthy then v else .list []

def modelsField := plain "models"

/-- A bare list of classes where the whole service belongs. -/
def serviceEntries (v : Value) : Value :=
  match v.exposed with
  | .list items => .map [(.text "models", .list items)]
  | v => v

def checkService (v : Value) : Checked Service :=
  checkPart "ServiceDescriptor" (fun es =>
    Service.mk <$> modelsField.optional [] (fun v => checkList checkModelClass (classList v)) es <*>
      extraFields [modelsField] es) (serviceEntries v)

/-- Why a value is no service descriptor. -/
inductive Refusal where
  | empty
  | invalid (issues : List Issue)

def Refusal.message : Refusal → String
  | empty => "Descriptor is empty"
  | invalid _ => "Invalid service descriptor:"

/-- The service that a value describes. -/
def build : Value → Except Refusal Service
  | .null => .error .empty
  | v => match checkService v with
    | .accepted s => .ok s
    | .rejected issues => .error (.invalid issues)

end RemoteBindings.Descriptor
