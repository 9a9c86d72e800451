/-
# Result codes

Every entry point answers with one 32-bit code.  Drivers own the whole range of codes: a code that
has no name here crosses the loader unchanged, and is written by its number.
-/

import DriverLoader.Text.Hex

namespace DriverLoader

/-- The answer of an entry point. -/
structure ResultCode where
  /-- The number that crosses the interface. -/
  raw : UInt32
  deriving DecidableEq, Inhabited

namespace ResultCode

/-- The codes that have a name, with the part of the name after `ZE_RESULT_`. -/
def named : List (UInt32 × String) := [
  (0x00000000, "SUCCESS"),
  (0x00000001, "NOT_READY"),
  (0x70000001, "ERROR_DEVICE_LOST"),
  (0x70000002, "ERROR_OUT_OF_HOST_MEMORY"),
  (0x70000003, "ERROR_OUT_OF_DEVICE_MEMORY"),
  (0x70000004, "ERROR_MODULE_BUILD_FAILURE"),
  (0x70000005, "ERROR_MODULE_LINK_FAILURE"),
  (0x70000006, "ERROR_DEVICE_REQUIRES_RESET"),
  (0x70000007, "ERROR_DEVICE_IN_LOW_POWER_STATE"),
  (0x70010000, "ERROR_INSUFFICIENT_PERMISSIONS"),
  (0x70010001, "ERROR_NOT_AVAILABLE"),
  (0x70020000, "ERROR_DEPENDENCY_UNAVAILABLE"),
  (0x70020001, "WARNING_DROPPED_DATA"),
  (0x78000001, "ERROR_UNINITIALIZED"),
  (0x78000002, "ERROR_UNSUPPORTED_VERSION"),
  (0x78000003, "ERROR_UNSUPPORTED_FEATURE"),
  (0x78000004, "ERROR_INVALID_ARGUMENT"),
  (0x78000005, "ERROR_INVALID_NULL_HANDLE"),
  (0x78000006, "ERROR_HANDLE_OBJECT_IN_USE"),
  (0x78000007, "ERROR_INVALID_NULL_POINTER"),
  (0x78000008, "ERROR_INVALID_SIZE"),
  (0x78000009, "ERROR_UNSUPPORTED_SIZE"),
  (0x7800000a, "ERROR_UNSUPPORTED_ALIGNMENT"),
  (0x7800000b, "ERROR_INVALID_SYNCHRONIZATION_OBJECT"),
  (0x7800000c, "ERROR_INVALID_ENUMERATION"),
  (0x7800000d, "ERROR_UNSUPPORTED_ENUMERATION"),
  (0x7800000e, "ERROR_UNSUPPORTED_IMAGE_FORMAT"),
  (0x7800000f, "ERROR_INVALID_NATIVE_BINARY"),
  (0x78000010, "ERROR_INVALID_GLOBAL_NAME"),
  (0x78000011, "ERROR_INVALID_KERNEL_NAME"),
  (0x78000012, "ERROR_INVALID_FUNCTION_NAME"),
  (0x78000013, "ERROR_INVALID_GROUP_SIZE_DIMENSION"),
  (0x78000014, "ERROR_INVALID_GLOBAL_WIDTH_DIMENSION"),
  (0x78000015, "ERROR_INVALID_KERNEL_ARGUMENT_INDEX"),
  (0x78000016, "ERROR_INVALID_KERNEL_ARGUMENT_SIZE"),
  (0x78000017, "ERROR_INVALID_KERNEL_ATTRIBUTE_VALUE"),
  (0x78000018, "ERROR_INVALID_MODULE_UNLINKED"),
  (0x78000019, "ERROR_INVALID_COMMAND_LIST_TYPE"),
  (0x7800001a, "ERROR_OVERLAPPING_REGIONS"),
  (0x7800001b, "WARNING_ACTION_REQUIRED"),
  (0x7800001c, "ERROR_INVALID_KERNEL_HANDLE"),
  (0x7ffffffe, "ERROR_UNKNOWN")]

/-- The call did what it was asked to. -/
def success : ResultCode := ⟨0x00000000⟩

/-- A device has to be reset before it can be used. -/
def deviceRequiresReset : ResultCode := ⟨0x70000006⟩

/-- The host ran out of room. -/
def outOfHostMemory : ResultCode := ⟨0x70000002⟩

/-- The resource cannot be used at present. -/
def notAvailable : ResultCode := ⟨0x70010001⟩

/-- Something that the call depends on is missing. -/
def dependencyUnavailable : ResultCode := ⟨0x70020000⟩

/-- Data may have been dropped. -/
def droppedData : ResultCode := ⟨0x70020001⟩

/-- The driver is not initialised, or the targeted entry of its table is absent. -/
def uninitialized : ResultCode := ⟨0x78000001⟩

/-- The version is not supported. -/
def unsupportedVersion : ResultCode := ⟨0x78000002⟩

/-- The feature is not supported. -/
def unsupportedFeature : ResultCode := ⟨0x78000003⟩

/-- An argument is invalid. -/
def invalidArgument : ResultCode := ⟨0x78000004⟩

/-- A handle that has to be given is null. -/
def invalidNullHandle : ResultCode := ⟨0x78000005⟩

/-- The object is still in use. -/
def handleObjectInUse : ResultCode := ⟨0x78000006⟩

/-- A pointer that has to be given is null. -/
def invalidNullPointer : ResultCode := ⟨0x78000007⟩

/-- A size is invalid. -/
def invalidSize : ResultCode := ⟨0x78000008⟩

/-- An action has to be taken after the call. -/
def actionRequired : ResultCode := ⟨0x7800001b⟩

/-- The full name of a code that has one. -/
def name? (code : ResultCode) : Option String :=
  (named.lookup code.raw).map ("ZE_RESULT_" ++ ·)

instance : ToString ResultCode :=
  ⟨fun code => code.name?.getD ("ZE_RESULT_0x" ++ Text.hexPadded 8 code.raw.toNat)⟩

/-- Only the code zero signals success. -/
def isSuccess (code : ResultCode) : Bool :=
  code = success

/-- The codes from `0x70000000` on are errors, but for the two warnings among them. -/
def isError (code : ResultCode) : Bool :=
  0x70000000 ≤ code.raw && code ≠ droppedData && code ≠ actionRequired

/-- A code as a computation that fails with everything but success. -/
def toExcept (code : ResultCode) : Except ResultCode Unit :=
  if code.isSuccess then .ok () else .error code

end ResultCode
end DriverLoader
