/-
# The interface

All feature groups and entry points of the three categories.  Names are unique across categories, so
an entry point and a getter are each found by name alone.
-/

import DriverLoader.Api.Compute
import DriverLoader.Api.Sysman
import DriverLoader.Api.Tools

namespace DriverLoader
namespace Api

/-- The feature groups of a category, in the order of their getters. -/
def groups : Category → List FeatureGroup
  | .compute => computeGroups
  | .tools => toolsGroups
  | .sysman => sysmanGroups

/-- The entry points of a category, in the order of their slots. -/
def entries (category : Category) : List EntryPoint :=
  (groups category).flatMap (·.entries)

/-- The entry point of a given name. -/
def entry? (name : String) : Option EntryPoint :=
  (Category.all.flatMap entries).find? (fun entry => entry.name = name)

/-- The group of a given name in a category. -/
def group? (category : Category) (name : String) : Option FeatureGroup :=
  (groups category).find? (fun group => group.name = name)

/-- The group whose getter has the given symbol. -/
def groupOfSymbol? (symbol : String) : Option FeatureGroup :=
  (Category.all.flatMap groups).find? (fun group => group.symbol = symbol)

end Api
end DriverLoader
