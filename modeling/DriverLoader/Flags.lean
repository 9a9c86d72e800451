/-
# Flag sets

A flag set is a number whose bits have names.  Bits without a name cross the loader unchanged, so a
set is valid only if all its bits are named.
-/

namespace DriverLoader

/-- The flags of one flag type: bit `i` belongs to the name at position `i`. -/
structure FlagType where
  name : String
  flags : List String

namespace FlagType

/-- The flag types of the interface. -/
def all : List FlagType := [
  ⟨"ZesEventTypeFlags", [
    "DEVICE_DETACH", "DEVICE_ATTACH", "DEVICE_SLEEP_STATE_ENTER", "DEVICE_SLEEP_STATE_EXIT",
    "FREQ_THROTTLED", "ENERGY_THRESHOLD_CROSSED", "TEMP_CRITICAL", "TEMP_THRESHOLD1",
    "TEMP_THRESHOLD2", "MEM_HEALTH", "FABRIC_PORT_HEALTH", "PCI_LINK_HEALTH",
    "RAS_CORRECTABLE_ERRORS", "RAS_UNCORRECTABLE_ERRORS", "DEVICE_RESET_REQUIRED",
    "SURVIVABILITY_MODE_DETECTED"]⟩,
  ⟨"ZeInitFlags", ["GPU_ONLY", "VPU_ONLY"]⟩,
  ⟨"ZesInitFlags", ["PLACEHOLDER"]⟩,
  ⟨"ZesVfInfoUtilExpFlags", ["MEM_CPU", "MEM_GPU", "ENGINE"]⟩,
  ⟨"ZetMetricGroupSamplingTypeFlags", ["EVENT_BASED", "TIME_BASED", "EXP_TRACER_BASED"]⟩]

/-- The flag type of a given name. -/
def find? (name : String) : Option FlagType :=
  all.find? (fun type => type.name = name)

/-- The bits that have a name: the lowest ones, as many as there are flags. -/
def defined (type : FlagType) : UInt32 :=
  UInt32.ofNat (1 <<< type.flags.length - 1)

/-- The named bits among the given ones. -/
def truncate (type : FlagType) (bits : UInt32) : UInt32 :=
  bits &&& type.defined

/-- All given bits are named. -/
def isValid (type : FlagType) (bits : UInt32) : Bool :=
  type.truncate bits = bits

/-- All named bits are given. -/
def containsAll (type : FlagType) (bits : UInt32) : Bool :=
  type.truncate bits = type.defined

/-- The names of the given bits, lowest bit first. -/
def names (type : FlagType) (bits : UInt32) : List String :=
  (type.flags.zipIdx.filter fun (_, i) => bits.toNat.testBit i).map Prod.fst

end FlagType
end DriverLoader
