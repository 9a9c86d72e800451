/-
# Driver discovery

The driver libraries that a loader tries to open, in the order in which they are loaded.  Order tokens
move drivers to the front: a number selects the driver at that position of the list, a type selects
all drivers of that type, and a type with a number selects one of them.  Positions always count in the
list as it was given.  Invalid tokens and positions beyond the list select nothing, a driver selected
twice keeps its first place, and drivers that are not selected follow in the order given.
-/

import DriverLoader.Config
import DriverLoader.Text.Decimal

namespace DriverLoader

/-- The kind of device that a driver serves. -/
inductive DriverType where
  | discreteGpu
  | gpu
  | integratedGpu
  | npu
  /-- No recognised kind. -/
  | other
  deriving DecidableEq

/-- What one order token selects. -/
inductive DriverOrder where
  /-- The driver at a position of the list. -/
  | index (position : Nat)
  /-- Every driver of a type. -/
  | type (type : DriverType)
  /-- The driver at a position among those of a type. -/
  | typeIndex (type : DriverType) (position : Nat)
  deriving DecidableEq

namespace DriverType

/-- The type that a token names, in capital letters. -/
def ofName? (name : String) : Option DriverType :=
  if name = "DISCRETE_GPU_ONLY" then some discreteGpu
  else if name = "GPU" then some gpu
  else if name = "INTEGRATED_GPU_ONLY" then some integratedGpu
  else if name = "NPU" then some npu
  else none

/-- The text occurs in a list of characters. -/
def mentions (text : String) : List Char → Bool
  | [] => text.toList.isEmpty
  | c :: rest => text.toList.isPrefixOf (c :: rest) || mentions text rest

/-- The type that the name of a library suggests, in any mixture of ASCII cases. -/
def classify (library : String) : DriverType :=
  let name := library.toList.map Char.toLower
  if mentions "dgpu" name || mentions "discrete" name then discreteGpu
  else if mentions "igpu" name || mentions "integrated" name then integratedGpu
  else if mentions "npu" name || mentions "vpu" name then npu
  else if mentions "gpu" name then gpu
  else other

/-- A type selects itself; the type of neural processing units also selects what no kind was
recognised for. -/
def selects (type kind : DriverType) : Bool :=
  kind = type || (type = npu && kind = other)

end DriverType

namespace DriverOrder

/-- What a token selects.  Only the parts of a token with a colon are trimmed. -/
def parse? (token : String) : Option DriverOrder :=
  match Text.splitFirst? ':' token.toList with
  | some (name, position) =>
    (DriverType.ofName? (String.ofList (Text.trimChars name))).bind fun type =>
      (Text.word? (Text.trimChars position)).map (typeIndex type)
  | none =>
    match Text.word? token.toList with
    | some position => some (index position)
    | none => (DriverType.ofName? token).map type

/-- The positions in a list of kinds that a type selects, in ascending order. -/
def positions (kinds : List DriverType) (type : DriverType) : List Nat :=
  (List.range kinds.length).filter fun i => kinds[i]?.any type.selects

/-- The positions in a list of kinds that an order selects. -/
def selected (kinds : List DriverType) : DriverOrder → List Nat
  | index position => if position < kinds.length then [position] else []
  | type t => positions kinds t
  | typeIndex t position => (positions kinds t)[position]?.toList

/-- The positions picked so far with one more, unless it was picked before. -/
def pick (picked : List Nat) (position : Nat) : List Nat :=
  if picked.contains position then picked else picked ++ [position]

/-- The positions that orders select one after the other, each at its first occurrence. -/
def picks (kinds : List DriverType) (orders : List DriverOrder) : List Nat :=
  (orders.flatMap (selected kinds)).foldl pick []

/-- The items with the selected ones in front. -/
def arrange {α : Type} (items : List α) (kind : α → DriverType) (orders : List DriverOrder) :
    List α :=
  let picked := picks (items.map kind) orders
  picked.filterMap (items[·]?) ++
    (items.zipIdx.filter fun (_, i) => !picked.contains i).map Prod.fst

end DriverOrder

namespace Discovery

/-- The driver libraries that are tried unless a configuration replaces them. -/
def knownDrivers : List String :=
  ["libze_intel_gpu.so.1", "libze_intel_vpu.so.1"]

/-- The orders that tokens name; invalid tokens are left out, which is logged. -/
def orders : List String → Log → List DriverOrder × Log
  | [], log => ([], log)
  | token :: rest, log =>
    match DriverOrder.parse? (Text.trim token) with
    | some order =>
      let (more, log) := orders rest log
      (order :: more, log)
    | none => orders rest (log.add .warn ("ignoring driver order token " ++ Text.quoted token))

/-- The names of the libraries to load, in order. -/
def names (config : Config) (log : Log) : List String × Log :=
  let candidates :=
    if config.alternativeDrivers.isEmpty then knownDrivers else config.alternativeDrivers
  let (orders, log) := orders config.driverOrder log
  (DriverOrder.arrange candidates DriverType.classify orders, log)

end Discovery
end DriverLoader
