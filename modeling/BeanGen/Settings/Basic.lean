import BeanGen.Java.Name

/-!
# Settings

What a run is told besides the model: the package for unqualified types, how collections are held,
which parts are generated, which strategies are known, and the names of the classes of the runtime.
-/

namespace BeanGen

/-- How collection fields are held and reached. -/
inductive CollectionPolicy where
  | legacyIndexed
  | modernIndexed
  | noIndex
  | externalStoreBacked
  deriving DecidableEq, Repr, Inhabited

def CollectionPolicy.name : CollectionPolicy → String
  | .legacyIndexed => "legacy_indexed"
  | .modernIndexed => "modern_indexed"
  | .noIndex => "no_index"
  | .externalStoreBacked => "external_store_backed"

/-- The classes of the runtime that generated descriptors refer to. -/
structure RuntimeClasses where
  xmlDescriptorBase : String
  jdoDescriptorBase : String
  fieldDescriptor : String
  xmlFieldDescriptor : String
  xmlFieldHandler : String
  fieldValidator : String
  typeValidator : String
  nodeType : String
  accessMode : String
  externalStoreFactory : String
  externalStoreType : String
  deriving DecidableEq, Repr, Inhabited

def RuntimeClasses.standard : RuntimeClasses where
  xmlDescriptorBase := "org.exolab.castor.xml.util.XMLClassDescriptorImpl"
  jdoDescriptorBase := "org.exolab.castor.mapping.loader.ClassDescriptorImpl"
  fieldDescriptor := "org.exolab.castor.xml.XMLFieldDescriptor"
  xmlFieldDescriptor := "org.exolab.castor.xml.util.XMLFieldDescriptorImpl"
  xmlFieldHandler := "org.exolab.castor.xml.XMLFieldHandler"
  fieldValidator := "org.exolab.castor.xml.FieldValidator"
  typeValidator := "org.exolab.castor.xml.TypeValidator"
  nodeType := "org.exolab.castor.xml.NodeType"
  accessMode := "org.exolab.castor.mapping.AccessMode"
  externalStoreFactory := "org.odmg.ODMG.getImplementation().newDArray()"
  externalStoreType := "org.odmg.DArray"

structure Settings where
  package : String
  collectionPolicy : CollectionPolicy
  modernMode : Bool
  boundProperties : Bool
  extraCollectionMethods : Bool
  conflictStrategies : String
  conflictStrategy : String
  descriptorSuffix : String
  jdoDescriptorSuffix : String
  superClass : Option String
  generateDescriptors : Bool
  generateJdoDescriptors : Bool
  arrayMarkers : List String
  logLevel : String
  runtime : RuntimeClasses
  deriving DecidableEq, Repr, Inhabited

namespace Settings

def standard : Settings where
  package := ""
  collectionPolicy := .modernIndexed
  modernMode := true
  boundProperties := false
  extraCollectionMethods := false
  conflictStrategies :=
    "schemabind_conflict::InformViaLogStrategy, schemabind_conflict::WarnViaConsoleDialogStrategy"
  conflictStrategy := "warnViaConsoleDialog"
  descriptorSuffix := "Descriptor"
  jdoDescriptorSuffix := "JDODescriptor"
  superClass := none
  generateDescriptors := true
  generateJdoDescriptors := false
  arrayMarkers := []
  logLevel := "info"
  runtime := .standard

/-- The name with the package of the settings, unless it is qualified or there is no package. -/
def qualify (s : Settings) (name : String) : String :=
  if Java.isQualified name || s.package.isEmpty then name else s.package ++ "." ++ name

end Settings

end BeanGen
