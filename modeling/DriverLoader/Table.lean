/-
# Dispatch tables

A driver module exports getters.  A getter, asked at a version, answers with a result code and a
sub-table: the functions that the module offers for the entry points of one feature group.  The table
of a category holds the sub-tables fetched at one negotiated version, and a driver has one table for
each category.

Functions are known by the module that offers them and the entry point they serve; what they do is
not part of a table.  A driver's tables never change while anything refers to them, so they are plain
values, and the number `Driver.id` tells two builds of the same module apart.
-/

import DriverLoader.EntryPoint
import DriverLoader.ResultCode
import DriverLoader.Text.Quoted

namespace DriverLoader

/-- Where the functions of a driver come from. -/
inductive DriverModule where
  /-- The null driver, which needs no hardware, at its newest version. -/
  | null (newest : Version)
  /-- A library opened by name. -/
  | library (name : String)
  /-- A module handed to the loader within the process. -/
  | custom (id : Nat)
  deriving DecidableEq

/-- A function that a module offers for an entry point. -/
structure DriverFunction where
  module : DriverModule
  /-- The name of the entry point that the function was made for. -/
  entry : String
  deriving DecidableEq

/-- The filled slots of a feature group: the function for each entry point that has one. -/
abbrev SubTable := List (String × DriverFunction)

/-- What a getter answers when it is asked for its sub-table at a version. -/
abbrev Getter := Version → ResultCode × SubTable

/-- The getters that a module exports, by symbol. -/
abbrev Exports := String → Option Getter

/-- The dispatch table of one driver in one category. -/
structure Table where
  /-- Calls are routed only through a valid table. -/
  valid : Bool
  /-- The version that was negotiated. -/
  version : Version
  /-- The sub-tables that are present, by the name of their group. -/
  groups : List (String × SubTable)

/-- The dispatch tables of one driver. -/
structure Driver where
  /-- The identity of these tables. -/
  id : Nat
  name : String
  /-- The number of drivers that were held when this one was built. -/
  index : Nat
  module : DriverModule
  compute : Table
  tools : Table
  sysman : Table

namespace DriverModule

/-- A module opened by name as a diagnostic shows it. -/
def libraryDiagnostic (name : String) : String :=
  "DynamicDriver \x7b name: " ++ Text.quoted name ++ " \x7d"

end DriverModule

namespace Table

/-- A table that routes nothing. -/
def invalid : Table where
  valid := false
  version := Version.oldest
  groups := []

/-- The sub-table of a group. -/
def group? (table : Table) (group : String) : Option SubTable :=
  table.groups.lookup group

/-- The function in the slot of an entry point of a group. -/
def function? (table : Table) (group entry : String) : Option DriverFunction :=
  (table.group? group).bind (·.lookup entry)

/-- The number of sub-tables that are present. -/
def populated (table : Table) : Nat :=
  table.groups.length

/-- The table without its sub-tables, which routes nothing any more. -/
def cleared (table : Table) : Table :=
  { table with valid := false, groups := [] }

end Table

namespace Driver

/-- The table of a category. -/
def table (driver : Driver) : Category → Table
  | .compute => driver.compute
  | .tools => driver.tools
  | .sysman => driver.sysman

/-- Some category is routable. -/
def isValid (driver : Driver) : Bool :=
  driver.compute.valid || driver.tools.valid || driver.sysman.valid

/-- The number of sub-tables that are present in all categories. -/
def populated (driver : Driver) : Nat :=
  driver.compute.populated + driver.tools.populated + driver.sysman.populated

/-- The driver with all its tables cleared. -/
def cleared (driver : Driver) : Driver :=
  { driver with
    compute := driver.compute.cleared
    tools := driver.tools.cleared
    sysman := driver.sysman.cleared }

end Driver
end DriverLoader
