/-
# Entry points and feature groups

An entry point is one function of the driver interface.  Entry points stand in feature groups, and a
driver exports one getter for each group it implements; the getter fills the slots of that group's
sub-table.  `EntryPoint.countFor?` says where the element count of an array stands: always directly
before it.
-/

import DriverLoader.Parameter
import DriverLoader.Version

namespace DriverLoader

/-- The description of one function of the interface. -/
structure EntryPoint where
  name : String
  category : Category
  /-- The feature group whose sub-table holds its slot. -/
  group : String
  /-- The version that introduced it. -/
  version : Version
  parameters : List Parameter
  /-- A successful call destroys the object named by its first handle. -/
  releases : Bool
  /-- Calls are routed by their first handle; the others are served by the loader itself. -/
  routed : Bool

/-- A named set of entry points whose slots are fetched together. -/
structure FeatureGroup where
  category : Category
  name : String
  /-- The category cannot be built without this group. -/
  required : Bool
  /-- The entry points in the order of their slots. -/
  entries : List EntryPoint

namespace EntryPoint

instance : ToString EntryPoint :=
  ⟨name⟩

/-- The position of the parameter that counts the array at position `index`. -/
def countFor? (entry : EntryPoint) : Nat → Option Nat
  | 0 => none
  | before + 1 => (entry.parameters[before]?.filter (·.count)).map fun _ => before

/-- The parameter of a given name. -/
def parameter? (entry : EntryPoint) (name : String) : Option Parameter :=
  entry.parameters.find? (fun p => p.name = name)

/-- An entry point introduced at version 1.`minor`, before its group is known. -/
def draft (minor : UInt16) (name : String) (parameters : List Parameter) : EntryPoint where
  name := name
  category := .compute
  group := ""
  version := Version.ofParts 1 minor
  parameters := parameters
  releases := false
  routed := false

/-- An entry point that the loader serves itself. -/
def served (minor : UInt16) (name : String) (parameters : List Parameter) : EntryPoint :=
  draft minor name parameters

/-- An entry point routed by its first handle. -/
def forwarded (minor : UInt16) (name : String) (parameters : List Parameter) : EntryPoint :=
  { draft minor name parameters with routed := true }

/-- A forwarded entry point that destroys the object it is called on. -/
def destroyer (minor : UInt16) (name : String) (parameters : List Parameter) : EntryPoint :=
  { draft minor name parameters with routed := true, releases := true }

end EntryPoint

namespace FeatureGroup

/-- The symbol of the getter that fills the sub-table of this group. -/
def symbol (group : FeatureGroup) : String :=
  group.category.mark ++ "Get" ++ group.name ++ "ProcAddrTable"

/-- A group of a category with its entry points, each told where it belongs. -/
def ofEntries (required : Bool) (name : String) (entries : List EntryPoint) (category : Category) :
    FeatureGroup where
  category := category
  name := name
  required := required
  entries := entries.map fun entry => { entry with category := category, group := name }

/-- A group that every driver of the category has to export. -/
def mandatory : String → List EntryPoint → Category → FeatureGroup :=
  ofEntries true

/-- A group that a driver of the category may leave out. -/
def voluntary : String → List EntryPoint → Category → FeatureGroup :=
  ofEntries false

/-- The groups of one category. -/
def declare (category : Category) (groups : List (Category → FeatureGroup)) : List FeatureGroup :=
  groups.map (· category)

end FeatureGroup
end DriverLoader
