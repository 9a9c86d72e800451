/-
# Categories

The interface falls into three categories.  A driver negotiates each of them on its own, and the
symbols that it exports for one begin with the mark of that category.
-/

namespace DriverLoader

/-- A category of the driver interface. -/
inductive Category where
  /-- Contexts, command lists, modules, kernels and events. -/
  | compute
  /-- Metrics, debugging and tracing. -/
  | tools
  /-- System management. -/
  | sysman
  deriving DecidableEq, Inhabited

namespace Category

/-- The categories in the order in which they are looked up. -/
def all : List Category :=
  [compute, tools, sysman]

/-- What the symbols of a category begin with. -/
def mark : Category → String
  | compute => "ze"
  | tools => "zet"
  | sysman => "zes"

/-- The name shown to people. -/
def name : Category → String
  | compute => "compute"
  | tools => "tools"
  | sysman => "sysman"

instance : ToString Category :=
  ⟨name⟩

end Category
end DriverLoader
