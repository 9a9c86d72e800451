/-
# Simulated driver libraries

The search path holds four driver libraries.  Two of them export working getters, one exports getters
that always fail, and one exports nothing.  No other name can be opened.

A name or symbol crosses into a library as a text that ends at a zero character: one at its end is
ignored, and one within makes it no name at all.
-/

import DriverLoader.NullDriver

namespace DriverLoader
namespace Simulation

/-- A driver library. -/
structure Library where
  name : String
  /-- The groups whose getters are exported, with the code that the getter always fails with. -/
  getters : List (Category × String × Option ResultCode)
  /-- The newest version that its getters accept. -/
  newest : Version
  /-- The number behind which its handles begin. -/
  base : UInt64

namespace Library

/-- The libraries on the search path. -/
def all : List Library := [
  ⟨"libzel_fixture_gpu.so",
    [(.compute, "Global", none), (.compute, "Driver", none), (.compute, "Device", none),
      (.sysman, "Global", none), (.sysman, "Driver", none), (.sysman, "Device", none)],
    .ofParts 1 9, 0xd000⟩,
  ⟨"libzel_fixture_npu.so",
    [(.compute, "Global", none), (.compute, "Driver", none), (.compute, "Device", none),
      (.tools, "Device", none)],
    .ofParts 1 5, 0xe000⟩,
  ⟨"libzel_fixture_reject.so",
    [(.compute, "Device", some ⟨0x70000001⟩), (.tools, "Device", some ⟨0x70000002⟩),
      (.sysman, "Device", some ⟨0x70000003⟩)],
    .ofParts 1 0, 0⟩,
  ⟨"libzel_fixture_blank.so", [], .ofParts 1 0, 0⟩]

/-- The text before a zero character at its end, if no other zero character is in it. -/
def terminated? (text : String) : Option String :=
  let chars := text.toList
  let chars := if chars.getLast? = some '\x00' then chars.dropLast else chars
  if chars.contains '\x00' then none else some (String.ofList chars)

/-- The library that a name opens. -/
def find? (name : String) : Option Library :=
  (terminated? name).bind fun name => all.find? fun library => library.name = name

/-- The entry points that the libraries implement. -/
def implemented : List String :=
  ["zeInit", "zesInit", "zeDriverGet", "zesDriverGet", "zeDeviceGet", "zesDeviceGet",
    "zesDeviceReset", "zesDeviceEccAvailable", "zetDeviceGetDebugProperties"]

/-- The functions that a library offers for a group. -/
def subTable (module : DriverModule) (group : FeatureGroup) : SubTable :=
  (group.entries.filter fun entry => implemented.contains entry.name).map fun entry =>
    (entry.name, ⟨module, entry.name⟩)

/-- The getter of a group. -/
def getter (library : Library) (module : DriverModule) (group : FeatureGroup)
    (failing : Option ResultCode) : Getter := fun asked =>
  match failing with
  | some code => (code, [])
  | none =>
    if library.newest.accepts asked then (.success, subTable module group)
    else (.unsupportedVersion, [])

/-- The getters that a library exports. -/
def exports (library : Library) (module : DriverModule) : Exports := fun symbol => do
  let group ← (terminated? symbol).bind Api.groupOfSymbol?
  let failing ← library.getters.findSome? fun (category, name, failing) =>
    if category = group.category ∧ name = group.name then some failing else none
  return library.getter module group failing

/-- Handles are listed: their number is reported, and as many as there is room for are written. -/
def list (handles : List Handle) (args : List CallArgument) (memory : Memory) : Memory :=
  match args.reverse with
  | .handles array :: .pointer (some counter) :: _ =>
    match array with
    | none => memory.writeCount counter (UInt32.ofNat handles.length)
    | some array =>
      let n := min (memory.readCount counter).toNat handles.length
      (memory.writeHandles array (handles.take n)).writeCount counter (UInt32.ofNat n)
  | _ => memory

/-- The unsigned argument at a position. -/
def unsignedAt (args : List CallArgument) (index : Nat) : UInt64 :=
  match args[index]? with
  | some (.unsigned n) => n
  | _ => 0

/-- The answer of a library to a call. -/
def answer (library : Library) (entry : String) (args : List CallArgument) (memory : Memory) :
    ResultCode × Memory :=
  if entry = "zeInit" ∨ entry = "zesInit" then
    (if unsignedAt args 0 = 2 then .unsupportedFeature else .success, memory)
  else if entry = "zeDriverGet" ∨ entry = "zesDriverGet" then
    (.success, list [⟨library.base + 1⟩] args memory)
  else if entry = "zeDeviceGet" ∨ entry = "zesDeviceGet" then
    (.success, list [⟨library.base + 0x11⟩, ⟨library.base + 0x12⟩] args memory)
  else if entry = "zesDeviceReset" then
    (if unsignedAt args 1 = 0 then .success else .deviceRequiresReset, memory)
  else if entry = "zesDeviceEccAvailable" then (.notAvailable, memory)
  else (.success, memory)

end Library
end Simulation
end DriverLoader
