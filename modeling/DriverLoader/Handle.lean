/-
# Handles

A handle is an opaque 64-bit value made by a driver.  The loader never looks behind it: it only
compares values, and it treats zero as the null handle.  Each type of handle belongs to the category
whose entry points hand it out; the tools types of compute objects carry the values of their compute
counterparts.
-/

import DriverLoader.Category
import DriverLoader.Text.Hex

namespace DriverLoader

/-- An untyped handle. -/
structure Handle where
  /-- The value that the driver chose. -/
  value : UInt64
  deriving DecidableEq, Inhabited

namespace Handle

/-- The handle that names no object. -/
def null : Handle := ⟨0⟩

/-- Only the value zero is null. -/
def isNull (h : Handle) : Bool :=
  h = null

instance : ToString Handle :=
  ⟨fun h => Text.hex h.value.toNat⟩

/-- The handle as a diagnostic shows it. -/
def diagnostic (h : Handle) : String :=
  s!"RawHandle({h})"

end Handle

/-- A type of handle and the category that hands it out. -/
structure HandleType where
  name : String
  category : Category

namespace HandleType

/-- A handle of this type as a diagnostic shows it. -/
def diagnostic (type : HandleType) (h : Handle) : String :=
  s!"{type.name}({h})"

/-- The types of handles that entry points take. -/
def all : List HandleType := [
  ⟨"ZeDriverHandle", .compute⟩,
  ⟨"ZeDeviceHandle", .compute⟩,
  ⟨"ZeContextHandle", .compute⟩,
  ⟨"ZeCommandListHandle", .compute⟩,
  ⟨"ZeModuleHandle", .compute⟩,
  ⟨"ZeModuleBuildLogHandle", .compute⟩,
  ⟨"ZeKernelHandle", .compute⟩,
  ⟨"ZeEventPoolHandle", .compute⟩,
  ⟨"ZeEventHandle", .compute⟩,
  ⟨"ZesDriverHandle", .sysman⟩,
  ⟨"ZesDeviceHandle", .sysman⟩,
  ⟨"ZesDiagHandle", .sysman⟩,
  ⟨"ZesEngineHandle", .sysman⟩,
  ⟨"ZesFabricPortHandle", .sysman⟩,
  ⟨"ZesFanHandle", .sysman⟩,
  ⟨"ZesFirmwareHandle", .sysman⟩,
  ⟨"ZesFreqHandle", .sysman⟩,
  ⟨"ZesLedHandle", .sysman⟩,
  ⟨"ZesMemHandle", .sysman⟩,
  ⟨"ZesOverclockHandle", .sysman⟩,
  ⟨"ZesPerfHandle", .sysman⟩,
  ⟨"ZesPsuHandle", .sysman⟩,
  ⟨"ZesPwrHandle", .sysman⟩,
  ⟨"ZesRasHandle", .sysman⟩,
  ⟨"ZesSchedHandle", .sysman⟩,
  ⟨"ZesStandbyHandle", .sysman⟩,
  ⟨"ZesTempHandle", .sysman⟩,
  ⟨"ZesVfHandle", .sysman⟩,
  ⟨"ZetDeviceHandle", .tools⟩,
  ⟨"ZetContextHandle", .tools⟩,
  ⟨"ZetCommandListHandle", .tools⟩,
  ⟨"ZetModuleHandle", .tools⟩,
  ⟨"ZetKernelHandle", .tools⟩,
  ⟨"ZetDebugSessionHandle", .tools⟩,
  ⟨"ZetMetricGroupHandle", .tools⟩,
  ⟨"ZetMetricHandle", .tools⟩,
  ⟨"ZetMetricStreamerHandle", .tools⟩,
  ⟨"ZetMetricQueryPoolHandle", .tools⟩,
  ⟨"ZetMetricQueryHandle", .tools⟩,
  ⟨"ZetTracerExpHandle", .tools⟩,
  ⟨"ZetMetricProgrammableExpHandle", .tools⟩,
  ⟨"ZetMetricTracerExpHandle", .tools⟩,
  ⟨"ZetMetricDecoderExpHandle", .tools⟩]

/-- The type of a given name. -/
def find? (name : String) : Option HandleType :=
  all.find? (fun type => type.name = name)

end HandleType
end DriverLoader
