/-
# Compute entry points

The compute (`ze`) category: initialisation, enumeration of drivers and devices, and the create and
destroy pairs of the objects that the tools category works on.  `zeInit` and `zeDriverGet` are served
by the loader itself, every other entry point is routed by its first handle.
-/

import DriverLoader.EntryPoint

namespace DriverLoader
namespace Api

open FeatureGroup EntryPoint

/-- The feature groups of the compute category, in the order of their getters. -/
def computeGroups : List FeatureGroup :=
  declare .compute [
    voluntary "Global" [
      served 0 "zeInit" [.unsigned 32 "flags"]],
    voluntary "Driver" [
      served 0 "zeDriverGet" [.counter "p_count", .nullable (.handles "ph_drivers")]],
    mandatory "Device" [
      forwarded 0 "zeDeviceGet" [
        .handle .compute "h_driver", .counter "p_count", .nullable (.handles "ph_devices")],
      forwarded 0 "zeDeviceGetSubDevices" [
        .handle .compute "h_device", .counter "p_count", .nullable (.handles "ph_sub_devices")]],
    voluntary "Context" [
      forwarded 0 "zeContextCreate" [
        .handle .compute "h_driver", .pointer "desc", .handles "ph_context"],
      destroyer 0 "zeContextDestroy" [.handle .compute "h_context"]],
    voluntary "CommandList" [
      forwarded 0 "zeCommandListCreate" [
        .handle .compute "h_context", .handle .compute "h_device", .pointer "desc",
        .handles "ph_command_list"],
      forwarded 0 "zeCommandListCreateImmediate" [
        .handle .compute "h_context", .handle .compute "h_device", .pointer "altdesc",
        .handles "ph_command_list"],
      destroyer 0 "zeCommandListDestroy" [.handle .compute "h_command_list"]],
    voluntary "Module" [
      forwarded 0 "zeModuleCreate" [
        .handle .compute "h_context", .handle .compute "h_device", .pointer "desc",
        .handles "ph_module", .nullable (.handles "ph_build_log")],
      destroyer 0 "zeModuleDestroy" [.handle .compute "h_module"]],
    voluntary "ModuleBuildLog" [
      destroyer 0 "zeModuleBuildLogDestroy" [.handle .compute "h_module_build_log"]],
    voluntary "Kernel" [
      forwarded 0 "zeKernelCreate" [
        .handle .compute "h_module", .pointer "desc", .handles "ph_kernel"],
      destroyer 0 "zeKernelDestroy" [.handle .compute "h_kernel"]],
    voluntary "EventPool" [
      forwarded 0 "zeEventPoolCreate" [
        .handle .compute "h_context", .pointer "desc", .unsigned 32 "num_devices",
        .nullable (.given (.handles "ph_devices")), .handles "ph_event_pool"],
      destroyer 0 "zeEventPoolDestroy" [.handle .compute "h_event_pool"]],
    voluntary "Event" [
      forwarded 0 "zeEventCreate" [
        .handle .compute "h_event_pool", .pointer "desc", .handles "ph_event"],
      destroyer 0 "zeEventDestroy" [.handle .compute "h_event"]]]

end Api
end DriverLoader
