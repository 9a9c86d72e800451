/-
# System management entry points

The system management (`zes`) category.  Entry points newer than the first layout of their group stand
at its end in the order of their versions, so an older table is an initial part of a newer one.
`zesInit` and `zesDriverGet` are served by the loader itself.
-/

import DriverLoader.EntryPoint

namespace DriverLoader
namespace Api

open FeatureGroup EntryPoint

/-- The feature groups of the system management category, in the order of their getters. -/
def sysmanGroups : List FeatureGroup :=
  declare .sysman [
    voluntary "Global" [
      served 0 "zesInit" [.unsigned 32 "flags"]],
    mandatory "Device" [
      forwarded 0 "zesDeviceGetProperties" [.handle .sysman "h_device", .pointer "p_properties"],
      forwarded 0 "zesDeviceGetState" [.handle .sysman "h_device", .pointer "p_state"],
      forwarded 0 "zesDeviceReset" [.handle .sysman "h_device", .unsigned 8 "force"],
      forwarded 0 "zesDeviceProcessesGetState" [
        .handle .sysman "h_device", .counter "p_count", .nullable (.pointer "p_processes")],
      forwarded 0 "zesDevicePciGetProperties" [.handle .sysman "h_device", .pointer "p_properties"],
      forwarded 0 "zesDevicePciGetState" [.handle .sysman "h_device", .pointer "p_state"],
      forwarded 0 "zesDevicePciGetBars" [
        .handle .sysman "h_device", .counter "p_count", .nullable (.pointer "p_properties")],
      forwarded 0 "zesDevicePciGetStats" [.handle .sysman "h_device", .pointer "p_stats"],
      forwarded 0 "zesDeviceEnumDiagnosticTestSuites" [
        .handle .sysman "h_device", .counter "p_count", .nullable (.handles "ph_diagnostics")],
      forwarded 0 "zesDeviceEnumEngineGroups" [
        .handle .sysman "h_device", .counter "p_count", .nullable (.handles "ph_engine")],
      forwarded 0 "zesDeviceEventRegister" [.handle .sysman "h_device", .unsigned 32 "events"],
      forwarded 0 "zesDeviceEnumFabricPorts" [
        .handle .sysman "h_device", .counter "p_count", .nullable (.handles "ph_port")],
      forwarded 0 "zesDeviceEnumFans" [
        .handle .sysman "h_device", .counter "p_count", .nullable (.handles "ph_fan")],
      forwarded 0 "zesDeviceEnumFirmwares" [
        .handle .sysman "h_device", .counter "p_count", .nullable (.handles "ph_firmware")],
      forwarded 0 "zesDeviceEnumFrequencyDomains" [
        .handle .sysman "h_device", .counter "p_count", .nullable (.handles "ph_frequency")],
      forwarded 0 "zesDeviceEnumLeds" [
        .handle .sysman "h_device", .counter "p_count", .nullable (.handles "ph_led")],
      forwarded 0 "zesDeviceEnumMemoryModules" [
        .handle .sysman "h_device", .counter "p_count", .nullable (.handles "ph_memory")],
      forwarded 0 "zesDeviceEnumPerformanceFactorDomains" [
        .handle .sysman "h_device", .counter "p_count", .nullable (.handles "ph_perf")],
      forwarded 0 "zesDeviceEnumPowerDomains" [
        .handle .sysman "h_device", .counter "p_count", .nullable (.handles "ph_power")],
      forwarded 0 "zesDeviceGetCardPowerDomain" [.handle .sysman "h_device", .handles "ph_power"],
      forwarded 0 "zesDeviceEnumPsus" [
        .handle .sysman "h_device", .counter "p_count", .nullable (.handles "ph_psu")],
      forwarded 0 "zesDeviceEnumRasErrorSets" [
        .handle .sysman "h_device", .counter "p_count", .nullable (.handles "ph_ras")],
      forwarded 0 "zesDeviceEnumSchedulers" [
        .handle .sysman "h_device", .counter "p_count", .nullable (.handles "ph_scheduler")],
      forwarded 0 "zesDeviceEnumStandbyDomains" [
        .handle .sysman "h_device", .counter "p_count", .nullable (.handles "ph_standby")],
      forwarded 0 "zesDeviceEnumTemperatureSensors" [
        .handle .sysman "h_device", .counter "p_count", .nullable (.handles "ph_temperature")],
      forwarded 4 "zesDeviceEccAvailable" [.handle .sysman "h_device", .pointer "p_available"],
      forwarded 4 "zesDeviceEccConfigurable" [.handle .sysman "h_device", .pointer "p_configurable"],
      forwarded 4 "zesDeviceGetEccState" [.handle .sysman "h_device", .pointer "p_state"],
      forwarded 4 "zesDeviceSetEccState" [
        .handle .sysman "h_device", .pointer "new_state", .pointer "p_state"],
      forwarded 0 "zesDeviceGet" [
        .handle .sysman "h_driver", .counter "p_count", .nullable (.handles "ph_devices")],
      forwarded 5 "zesDeviceSetOverclockWaiver" [.handle .sysman "h_device"],
      forwarded 5 "zesDeviceGetOverclockDomains" [
        .handle .sysman "h_device", .pointer "p_overclock_domains"],
      forwarded 5 "zesDeviceGetOverclockControls" [
        .handle .sysman "h_device", .unsigned 32 "domain_type", .pointer "p_available_controls"],
      forwarded 5 "zesDeviceResetOverclockSettings" [
        .handle .sysman "h_device", .unsigned 8 "on_shipped_state"],
      forwarded 5 "zesDeviceReadOverclockState" [
        .handle .sysman "h_device", .pointer "p_overclock_mode", .pointer "p_waiver_setting",
        .pointer "p_overclock_state", .pointer "p_pending_action", .pointer "p_pending_reset"],
      forwarded 5 "zesDeviceEnumOverclockDomains" [
        .handle .sysman "h_device", .counter "p_count", .nullable (.handles "ph_domain_handle")],
      forwarded 7 "zesDeviceResetExt" [.handle .sysman "h_device", .pointer "p_properties"]],
    voluntary "Driver" [
      forwarded 0 "zesDriverEventListen" [
        .handle .compute "h_driver", .unsigned 32 "timeout", .unsigned 32 "count",
        .given (.handles "ph_devices"), .pointer "p_num_device_events", .pointer "p_events"],
      forwarded 1 "zesDriverEventListenEx" [
        .handle .compute "h_driver", .unsigned 64 "timeout", .unsigned 32 "count",
        .given (.handles "ph_devices"), .pointer "p_num_device_events", .pointer "p_events"],
      served 0 "zesDriverGet" [.counter "p_count", .nullable (.handles "ph_drivers")],
      forwarded 8 "zesDriverGetExtensionProperties" [
        .handle .sysman "h_driver", .counter "p_count",
        .nullable (.pointer "p_extension_properties")],
      forwarded 8 "zesDriverGetExtensionFunctionAddress" [
        .handle .sysman "h_driver", .pointer "name", .pointer "pp_function_address"]],
    voluntary "Diagnostics" [
      forwarded 0 "zesDiagnosticsGetProperties" [
        .handle .sysman "h_diagnostics", .pointer "p_properties"],
      forwarded 0 "zesDiagnosticsGetTests" [
        .handle .sysman "h_diagnostics", .counter "p_count", .nullable (.pointer "p_tests")],
      forwarded 0 "zesDiagnosticsRunTests" [
        .handle .sysman "h_diagnostics", .unsigned 32 "start_index", .unsigned 32 "end_index",
        .pointer "p_result"]],
    voluntary "Engine" [
      forwarded 0 "zesEngineGetProperties" [.handle .sysman "h_engine", .pointer "p_properties"],
      forwarded 7 "zesEngineGetActivity" [.handle .sysman "h_engine", .pointer "p_stats"],
      forwarded 7 "zesEngineGetActivityExt" [
        .handle .sysman "h_engine", .counter "p_count", .nullable (.pointer "p_stats")]],
    voluntary "FabricPort" [
      forwarded 0 "zesFabricPortGetProperties" [.handle .sysman "h_port", .pointer "p_properties"],
      forwarded 0 "zesFabricPortGetLinkType" [.handle .sysman "h_port", .pointer "p_link_type"],
      forwarded 0 "zesFabricPortGetConfig" [.handle .sysman "h_port", .pointer "p_config"],
      forwarded 0 "zesFabricPortSetConfig" [.handle .sysman "h_port", .pointer "p_config"],
      forwarded 0 "zesFabricPortGetState" [.handle .sysman "h_port", .pointer "p_state"],
      forwarded 0 "zesFabricPortGetThroughput" [.handle .sysman "h_port", .pointer "p_throughput"],
      forwarded 7 "zesFabricPortGetFabricErrorCounters" [
        .handle .sysman "h_port", .pointer "p_errors"],
      forwarded 7 "zesFabricPortGetMultiPortThroughput" [
        .handle .sysman "h_device", .unsigned 32 "num_ports", .given (.handles "ph_port"),
        .pointer "p_throughput"]],
    voluntary "Fan" [
      forwarded 0 "zesFanGetProperties" [.handle .sysman "h_fan", .pointer "p_properties"],
      forwarded 0 "zesFanGetConfig" [.handle .sysman "h_fan", .pointer "p_config"],
      forwarded 0 "zesFanSetDefaultMode" [.handle .sysman "h_fan"],
      forwarded 0 "zesFanSetFixedSpeedMode" [.handle .sysman "h_fan", .pointer "speed"],
      forwarded 0 "zesFanSetSpeedTableMode" [.handle .sysman "h_fan", .pointer "speed_table"],
      forwarded 0 "zesFanGetState" [
        .handle .sysman "h_fan", .unsigned 32 "units", .pointer "p_speed"]],
    voluntary "Firmware" [
      forwarded 0 "zesFirmwareGetProperties" [.handle .sysman "h_firmware", .pointer "p_properties"],
      forwarded 0 "zesFirmwareFlash" [
        .handle .sysman "h_firmware", .pointer "p_image", .unsigned 32 "size"],
      forwarded 8 "zesFirmwareGetFlashProgress" [
        .handle .sysman "h_firmware", .pointer "p_completion_percent"],
      forwarded 9 "zesFirmwareGetConsoleLogs" [
        .handle .sysman "h_firmware", .pointer "p_size", .nullable (.pointer "p_firmware_log")]],
    voluntary "Frequency" [
      forwarded 0 "zesFrequencyGetProperties" [
        .handle .sysman "h_frequency", .pointer "p_properties"],
      forwarded 0 "zesFrequencyGetAvailableClocks" [
        .handle .sysman "h_frequency", .counter "p_count", .nullable (.pointer "ph_frequency")],
      forwarded 0 "zesFrequencyGetRange" [.handle .sysman "h_frequency", .pointer "p_limits"],
      forwarded 0 "zesFrequencySetRange" [.handle .sysman "h_frequency", .pointer "p_limits"],
      forwarded 0 "zesFrequencyGetState" [.handle .sysman "h_frequency", .pointer "p_state"],
      forwarded 0 "zesFrequencyGetThrottleTime" [
        .handle .sysman "h_frequency", .pointer "p_throttle_time"],
      forwarded 0 "zesFrequencyOcGetCapabilities" [
        .handle .sysman "h_frequency", .pointer "p_oc_capabilities"],
      forwarded 0 "zesFrequencyOcGetFrequencyTarget" [
        .handle .sysman "h_frequency", .pointer "p_current_oc_frequency"],
      forwarded 0 "zesFrequencyOcSetFrequencyTarget" [
        .handle .sysman "h_frequency", .float "current_oc_frequency"],
      forwarded 0 "zesFrequencyOcGetVoltageTarget" [
        .handle .sysman "h_frequency", .pointer "p_current_voltage_target",
        .pointer "p_current_voltage_offset"],
      forwarded 0 "zesFrequencyOcSetVoltageTarget" [
        .handle .sysman "h_frequency", .float "current_voltage_target",
        .float "current_voltage_offset"],
      forwarded 0 "zesFrequencyOcSetMode" [
        .handle .sysman "h_frequency", .unsigned 32 "current_oc_mode"],
      forwarded 0 "zesFrequencyOcGetMode" [
        .handle .sysman "h_frequency", .pointer "p_current_oc_mode"],
      forwarded 0 "zesFrequencyOcGetIccMax" [.handle .sysman "h_frequency", .pointer "p_oc_icc_max"],
      forwarded 0 "zesFrequencyOcSetIccMax" [.handle .sysman "h_frequency", .float "oc_icc_max"],
      forwarded 0 "zesFrequencyOcGetTjMax" [.handle .sysman "h_frequency", .pointer "p_oc_tj_max"],
      forwarded 0 "zesFrequencyOcSetTjMax" [.handle .sysman "h_frequency", .float "oc_tj_max"]],
    voluntary "Led" [
      forwarded 0 "zesLedGetProperties" [.handle .sysman "h_led", .pointer "p_properties"],
      forwarded 0 "zesLedGetState" [.handle .sysman "h_led", .pointer "p_state"],
      forwarded 0 "zesLedSetState" [.handle .sysman "h_led", .unsigned 8 "enable"],
      forwarded 0 "zesLedSetColor" [.handle .sysman "h_led", .pointer "p_color"]],
    voluntary "Memory" [
      forwarded 0 "zesMemoryGetProperties" [.handle .sysman "h_memory", .pointer "p_properties"],
      forwarded 0 "zesMemoryGetState" [.handle .sysman "h_memory", .pointer "p_state"],
      forwarded 0 "zesMemoryGetBandwidth" [.handle .sysman "h_memory", .pointer "p_bandwidth"]],
    voluntary "Overclock" [
      forwarded 5 "zesOverclockGetDomainProperties" [
        .handle .sysman "h_domain_handle", .pointer "p_domain_properties"],
      forwarded 5 "zesOverclockGetDomainVFProperties" [
        .handle .sysman "h_domain_handle", .pointer "p_vf_properties"],
      forwarded 5 "zesOverclockGetDomainControlProperties" [
        .handle .sysman "h_domain_handle", .unsigned 32 "domain_control",
        .pointer "p_control_properties"],
      forwarded 5 "zesOverclockGetControlCurrentValue" [
        .handle .sysman "h_domain_handle", .unsigned 32 "domain_control", .pointer "p_value"],
      forwarded 5 "zesOverclockGetControlPendingValue" [
        .handle .sysman "h_domain_handle", .unsigned 32 "domain_control", .pointer "p_value"],
      forwarded 5 "zesOverclockSetControlUserValue" [
        .handle .sysman "h_domain_handle", .unsigned 32 "domain_control", .float "p_value",
        .pointer "p_pending_action"],
      forwarded 5 "zesOverclockGetControlState" [
        .handle .sysman "h_domain_handle", .unsigned 32 "domain_control",
        .pointer "p_control_state", .pointer "p_pending_action"],
      forwarded 5 "zesOverclockGetVFPointValues" [
        .handle .sysman "h_domain_handle", .unsigned 32 "vf_type", .unsigned 32 "vf_array_type",
        .unsigned 32 "point_index", .pointer "point_value"],
      forwarded 5 "zesOverclockSetVFPointValues" [
        .handle .sysman "h_domain_handle", .unsigned 32 "vf_type", .unsigned 32 "point_index",
        .unsigned 32 "point_value"]],
    voluntary "PerformanceFactor" [
      forwarded 0 "zesPerformanceFactorGetProperties" [
        .handle .sysman "h_perf", .pointer "p_properties"],
      forwarded 0 "zesPerformanceFactorGetConfig" [.handle .sysman "h_perf", .pointer "p_factor"],
      forwarded 0 "zesPerformanceFactorSetConfig" [.handle .sysman "h_perf", .float "factor"]],
    voluntary "Power" [
      forwarded 0 "zesPowerGetProperties" [.handle .sysman "h_power", .pointer "p_properties"],
      forwarded 0 "zesPowerGetEnergyCounter" [.handle .sysman "h_power", .pointer "p_energy"],
      forwarded 0 "zesPowerGetLimits" [
        .handle .sysman "h_power", .nullable (.pointer "p_sustained"),
        .nullable (.pointer "p_burst"), .nullable (.pointer "p_peak")],
      forwarded 0 "zesPowerSetLimits" [
        .handle .sysman "h_power", .nullable (.pointer "p_sustained"),
        .nullable (.pointer "p_burst"), .nullable (.pointer "p_peak")],
      forwarded 0 "zesPowerGetEnergyThreshold" [.handle .sysman "h_power", .pointer "p_threshold"],
      forwarded 0 "zesPowerSetEnergyThreshold" [.handle .sysman "h_power", .float "threshold"],
      forwarded 0 "zesPowerGetLimitsExt" [
        .handle .sysman "h_power", .counter "p_count", .nullable (.pointer "p_sustained")],
      forwarded 0 "zesPowerSetLimitsExt" [
        .handle .sysman "h_power", .counter "p_count", .nullable (.pointer "p_sustained")]],
    voluntary "Psu" [
      forwarded 0 "zesPsuGetProperties" [.handle .sysman "h_psu", .pointer "p_properties"],
      forwarded 0 "zesPsuGetState" [.handle .sysman "h_psu", .pointer "p_state"]],
    voluntary "Ras" [
      forwarded 0 "zesRasGetProperties" [.handle .sysman "h_ras", .pointer "p_properties"],
      forwarded 0 "zesRasGetConfig" [.handle .sysman "h_ras", .pointer "p_config"],
      forwarded 0 "zesRasSetConfig" [.handle .sysman "h_ras", .pointer "p_config"],
      forwarded 0 "zesRasGetState" [.handle .sysman "h_ras", .unsigned 8 "clear", .pointer "p_state"]],
    voluntary "RasExp" [
      forwarded 0 "zesRasGetStateExp" [
        .handle .sysman "h_ras", .counter "p_count", .nullable (.pointer "p_state")],
      forwarded 0 "zesRasClearStateExp" [.handle .sysman "h_ras", .unsigned 32 "category"]],
    voluntary "Scheduler" [
      forwarded 0 "zesSchedulerGetProperties" [
        .handle .sysman "h_scheduler", .pointer "p_properties"],
      forwarded 0 "zesSchedulerGetCurrentMode" [.handle .sysman "h_scheduler", .pointer "p_mode"],
      forwarded 0 "zesSchedulerGetTimeoutModeProperties" [
        .handle .sysman "h_scheduler", .unsigned 8 "get_defaults", .pointer "p_config"],
      forwarded 0 "zesSchedulerGetTimesliceModeProperties" [
        .handle .sysman "h_scheduler", .unsigned 8 "get_defaults", .pointer "p_config"],
      forwarded 0 "zesSchedulerSetTimeoutMode" [
        .handle .sysman "h_scheduler", .pointer "p_properties", .pointer "p_need_reload"],
      forwarded 0 "zesSchedulerSetTimesliceMode" [
        .handle .sysman "h_scheduler", .pointer "p_properties", .pointer "p_need_reload"],
      forwarded 0 "zesSchedulerSetExclusiveMode" [
        .handle .sysman "h_scheduler", .pointer "p_need_reload"],
      forwarded 0 "zesSchedulerSetComputeUnitDebugMode" [
        .handle .sysman "h_scheduler", .pointer "p_need_reload"]],
    voluntary "Standby" [
      forwarded 0 "zesStandbyGetProperties" [.handle .sysman "h_standby", .pointer "p_properties"],
      forwarded 0 "zesStandbyGetMode" [.handle .sysman "h_standby", .pointer "p_mode"],
      forwarded 0 "zesStandbySetMode" [.handle .sysman "h_standby", .unsigned 32 "mode"]],
    voluntary "Temperature" [
      forwarded 0 "zesTemperatureGetProperties" [
        .handle .sysman "h_temperature", .pointer "p_properties"],
      forwarded 0 "zesTemperatureGetConfig" [.handle .sysman "h_temperature", .pointer "p_config"],
      forwarded 0 "zesTemperatureSetConfig" [.handle .sysman "h_temperature", .pointer "p_config"],
      forwarded 0 "zesTemperatureGetState" [
        .handle .sysman "h_temperature", .pointer "p_temperature"]],
    voluntary "FirmwareExp" [
      forwarded 9 "zesFirmwareGetSecurityVersionExp" [
        .handle .sysman "h_firmware", .pointer "p_version"],
      forwarded 9 "zesFirmwareSetSecurityVersionExp" [.handle .sysman "h_firmware"]],
    voluntary "DeviceExp" [
      forwarded 9 "zesDeviceGetSubDevicePropertiesExp" [
        .handle .sysman "h_device", .counter "p_count", .nullable (.pointer "p_subdevice_props")],
      forwarded 9 "zesDeviceEnumActiveVFExp" [
        .handle .sysman "h_device", .counter "p_count", .nullable (.handles "ph_vf_handle")],
      forwarded 10 "zesDeviceEnumEnabledVFExp" [
        .handle .sysman "h_device", .counter "p_count", .nullable (.handles "ph_vf_handle")]],
    voluntary "DriverExp" [
      forwarded 9 "zesDriverGetDeviceByUuidExp" [
        .handle .sysman "h_driver", .aggregate "uuid", .handles "ph_device",
        .pointer "on_subdevice", .pointer "subdevice_id"]],
    voluntary "VFManagementExp" [
      forwarded 9 "zesVFManagementGetVFPropertiesExp" [
        .handle .sysman "h_vf_handle", .pointer "p_properties"],
      forwarded 9 "zesVFManagementGetVFMemoryUtilizationExp" [
        .handle .sysman "h_vf_handle", .counter "p_count", .nullable (.pointer "p_mem_util")],
      forwarded 9 "zesVFManagementGetVFEngineUtilizationExp" [
        .handle .sysman "h_vf_handle", .counter "p_count", .nullable (.pointer "p_engine_util")],
      forwarded 9 "zesVFManagementSetVFTelemetryModeExp" [
        .handle .sysman "h_vf_handle", .unsigned 32 "flags", .unsigned 8 "enable"],
      forwarded 9 "zesVFManagementSetVFTelemetrySamplingIntervalExp" [
        .handle .sysman "h_vf_handle", .unsigned 32 "flag", .unsigned 64 "sampling_interval"],
      forwarded 10 "zesVFManagementGetVFCapabilitiesExp" [
        .handle .sysman "h_vf_handle", .pointer "p_capability"],
      forwarded 10 "zesVFManagementGetVFMemoryUtilizationExp2" [
        .handle .sysman "h_vf_handle", .counter "p_count", .nullable (.pointer "p_mem_util")],
      forwarded 10 "zesVFManagementGetVFEngineUtilizationExp2" [
        .handle .sysman "h_vf_handle", .counter "p_count", .nullable (.pointer "p_engine_util")],
      forwarded 12 "zesVFManagementGetVFCapabilitiesExp2" [
        .handle .sysman "h_vf_handle", .pointer "p_capability"]]]

end Api
end DriverLoader
