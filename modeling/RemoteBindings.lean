import RemoteBindings.Main
import RemoteBindings.Journal.Routing
import RemoteBindings.Proofs.Keywords
import RemoteBindings.Proofs.Declarations
import RemoteBindings.Proofs.RejectedCode
import RemoteBindings.Proofs.Resynthesis
import RemoteBindings.Proofs.Repetition
import RemoteBindings.Proofs.FileMap
import RemoteBindings.Proofs.Contract
import RemoteBindings.Proofs.DeclarationOrder
import RemoteBindings.Proofs.UnreferencedClass
import RemoteBindings.Proofs.ClassPrefix
import RemoteBindings.Proofs.ServerParams
import RemoteBindings.Proofs.Grouping
import RemoteBindings.Proofs.Warnings
import RemoteBindings.Proofs.Imports
import RemoteBindings.Proofs.OwnModels
import RemoteBindings.Proofs.OwnClasses
import RemoteBindings.Proofs.Inspection
import RemoteBindings.Proofs.Routing
import RemoteBindings.Proofs.UserModels
import RemoteBindings.Proofs.Abridgement
import RemoteBindings.Proofs.FirstFault
import RemoteBindings.Proofs.AccessorNames
import RemoteBindings.Proofs.RelatedModels
import RemoteBindings.Proofs.KeptAccessors
import RemoteBindings.Proofs.ScopeNamespace
import RemoteBindings.Proofs.RootedPaths
import RemoteBindings.Proofs.ParameterNames
import RemoteBindings.Proofs.Classification
import RemoteBindings.Proofs.TypeNames
import RemoteBindings.Proofs.ArrayElements
import RemoteBindings.Proofs.NamedProperties
import RemoteBindings.Proofs.NullFields
import RemoteBindings.Proofs.PropertyNormalForm
import RemoteBindings.Proofs.PascalCase
import RemoteBindings.Proofs.JsonAsYaml
