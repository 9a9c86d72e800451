/-
# The table builder

The builder builds the tables of every driver once and holds them by name, in the order of names.  A
category that cannot be negotiated keeps an invalid table; a driver for which no category can be
negotiated is not built at all, and the failure of its system management category is reported.
-/

import DriverLoader.Negotiation

namespace DriverLoader

/-- The drivers that are held, in ascending order of their names. -/
structure Builder where
  drivers : List Driver

namespace Builder

/-- A builder that holds nothing. -/
def empty : Builder :=
  ⟨[]⟩

/-- The driver held under a name. -/
def find? (b : Builder) (name : String) : Option Driver :=
  b.drivers.find? (fun driver => driver.name = name)

/-- A driver is held under this name. -/
def contains (b : Builder) (name : String) : Bool :=
  (b.find? name).isSome

/-- The number of drivers that are held. -/
def size (b : Builder) : Nat :=
  b.drivers.length

/-- A list of drivers in the order of names with one more driver at its place. -/
def place (driver : Driver) : List Driver → List Driver
  | [] => [driver]
  | first :: rest =>
    if driver.name < first.name then driver :: first :: rest else first :: place driver rest

/-- The builder without the driver held under a name. -/
def remove (b : Builder) (name : String) : Builder :=
  ⟨b.drivers.filter fun driver => driver.name ≠ name⟩

/-- The drivers that are held in ascending order of their indices; drivers of one index keep the
order of their names. -/
def drain (b : Builder) : List Driver :=
  b.drivers.mergeSort fun first second => first.index ≤ second.index

/-- The number of references to a driver's tables that the builder holds. -/
def references (b : Builder) (driver : Driver) : Nat :=
  (b.drivers.filter (·.id = driver.id)).length

/-- The builder as a diagnostic shows it. -/
def diagnostic (b : Builder) : String :=
  "TableBuilder \x7b modules: " ++ Text.quotedList (b.drivers.map (·.name)) ++ " \x7d"

variable {ω : Type}

/-- The table of a category, invalid where the negotiation fails, which is logged. -/
def attempt (exports : Exports) (name : String) (module : DriverModule) (category : Category)
    (a : Ambient ω) : Table × Option BuildFailure × Ambient ω :=
  match Negotiation.negotiate exports module category a with
  | (.ok table, a) => (table, none, a)
  | (.error failure, a) => (Table.invalid, some failure, a.write .warn s!"{name}: {failure}")

/-- The driver held under a name, or else a driver built from a module and held from now on.

The new driver gets the identity `id` and the number of drivers held so far as its index. -/
def build (exports : Exports) (name : String) (module : DriverModule) (id : Nat) (b : Builder)
    (a : Ambient ω) : Except BuildFailure Driver × Builder × Ambient ω :=
  match b.find? name with
  | some driver => (.ok driver, b, a)
  | none =>
    let (compute, computeFailure, a) := attempt exports name module .compute a
    let (tools, toolsFailure, a) := attempt exports name module .tools a
    let (sysman, sysmanFailure, a) := attempt exports name module .sysman a
    match computeFailure, toolsFailure, sysmanFailure with
    | some _, some _, some failure =>
      (.error failure, b, a.write .error s!"{name}: excluded, no category could be built")
    | _, _, _ =>
      let driver : Driver := ⟨id, name, b.size, module, compute, tools, sysman⟩
      let text := s!"{name}: tables built (driver " ++ toString b.size ++ ")"
      (.ok driver, ⟨place driver b.drivers⟩, a.write .info text)

end Builder

namespace Driver

variable {ω : Type}

/-- The number of sub-tables that a driver gives back when its tables are cleared, which is
logged. -/
def tearDown (driver : Driver) (a : Ambient ω) : Nat × Driver × Ambient ω :=
  let text := s!"{driver.name}: released " ++ toString driver.populated ++ " sub-tables"
  (driver.populated, driver.cleared, a.write .debug text)

/-- A driver as a diagnostic shows it. -/
def diagnostic (driver : Driver) : String :=
  let state := fun (table : Table) =>
    "(" ++ toString table.valid ++ ", " ++ table.version.diagnostic ++ ")"
  "DriverDispatch \x7b name: " ++ Text.quoted driver.name ++ ", index: " ++
    toString driver.index ++ ", compute: " ++ state driver.compute ++ ", tools: " ++
    state driver.tools ++ ", sysman: " ++ state driver.sysman ++ " \x7d"

/-- A list of drivers as a diagnostic shows it. -/
def listDiagnostic (drivers : List Driver) : String :=
  "[" ++ ", ".intercalate (drivers.map diagnostic) ++ "]"

end Driver
end DriverLoader
