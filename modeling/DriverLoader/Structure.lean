/-
# Structures behind pointers

Descriptors and properties belong to the driver and cross the loader only behind a pointer, so all
that is known of them is their name.  A pointer to one of them is never a pointer to handles.
-/

namespace DriverLoader
namespace Structure

/-- The names of the structures that are only ever passed by pointer. -/
def names : List String := [
  "ZeCommandListDesc", "ZeCommandQueueDesc", "ZeContextDesc", "ZeEventDesc", "ZeEventPoolDesc",
  "ZeKernelDesc", "ZeModuleDesc", "ZesControlProperty", "ZesDeviceEccDesc",
  "ZesDeviceEccProperties", "ZesDeviceProperties", "ZesDeviceState", "ZesDiagProperties",
  "ZesDiagResult", "ZesDiagTest", "ZesDriverExtensionProperties", "ZesEnergyThreshold",
  "ZesEngineProperties", "ZesEngineStats", "ZesFabricLinkType", "ZesFabricPortConfig",
  "ZesFabricPortErrorCounters", "ZesFabricPortProperties", "ZesFabricPortState",
  "ZesFabricPortThroughput", "ZesFanConfig", "ZesFanProperties", "ZesFanSpeed",
  "ZesFanSpeedTable", "ZesFirmwareProperties", "ZesFreqProperties", "ZesFreqRange",
  "ZesFreqState", "ZesFreqThrottleTime", "ZesLedColor", "ZesLedProperties", "ZesLedState",
  "ZesMemBandwidth", "ZesMemProperties", "ZesMemState", "ZesOcCapabilities",
  "ZesOverclockProperties", "ZesPciBarProperties", "ZesPciProperties", "ZesPciState",
  "ZesPciStats", "ZesPerfProperties", "ZesPowerBurstLimit", "ZesPowerEnergyCounter",
  "ZesPowerLimitExtDesc", "ZesPowerPeakLimit", "ZesPowerProperties", "ZesPowerSustainedLimit",
  "ZesProcessState", "ZesPsuProperties", "ZesPsuState", "ZesRasConfig", "ZesRasProperties",
  "ZesRasState", "ZesRasStateExp", "ZesResetProperties", "ZesSchedProperties",
  "ZesSchedTimeoutProperties", "ZesSchedTimesliceProperties", "ZesStandbyProperties",
  "ZesSubdeviceExpProperties", "ZesTempConfig", "ZesTempProperties", "ZesVfExp2Capabilities",
  "ZesVfExpCapabilities", "ZesVfExpProperties", "ZesVfProperty", "ZesVfUtilEngineExp",
  "ZesVfUtilEngineExp2", "ZesVfUtilMemExp", "ZesVfUtilMemExp2", "ZetCoreCallbacks",
  "ZetDebugConfig", "ZetDebugEvent", "ZetDebugMemorySpaceDesc", "ZetDebugRegsetProperties",
  "ZetDeviceDebugProperties", "ZetMetricCalculateExpDesc", "ZetMetricEntryExp",
  "ZetMetricGroupProperties", "ZetMetricProgrammableExpProperties",
  "ZetMetricProgrammableParamInfoExp", "ZetMetricProgrammableParamValueExp",
  "ZetMetricProgrammableParamValueInfoExp", "ZetMetricProperties", "ZetMetricQueryPoolDesc",
  "ZetMetricStreamerDesc", "ZetMetricTracerExpDesc", "ZetProfileProperties", "ZetTracerExpDesc",
  "ZetTypedValue"]

/-- Whether a structure of this name is passed by pointer. -/
def isKnown (name : String) : Bool :=
  names.contains name

end Structure
end DriverLoader
