/-
# Tools entry points

The tools (`zet`) category: metrics, debugging, tracing and instrumentation of compute objects.  Every
entry point is routed by its first handle.
-/

import DriverLoader.EntryPoint

namespace DriverLoader
namespace Api

open FeatureGroup EntryPoint

/-- The feature groups of the tools category, in the order of their getters. -/
def toolsGroups : List FeatureGroup :=
  declare .tools [
    mandatory "Device" [
      forwarded 0 "zetDeviceGetDebugProperties" [
        .handle .tools "h_device", .pointer "p_debug_properties"]],
    voluntary "Context" [
      forwarded 0 "zetContextActivateMetricGroups" [
        .handle .tools "h_context", .handle .tools "h_device", .unsigned 32 "count",
        .nullable (.given (.handles "ph_metric_groups"))]],
    voluntary "CommandList" [
      forwarded 0 "zetCommandListAppendMetricStreamerMarker" [
        .handle .tools "h_command_list", .handle .tools "h_metric_streamer", .unsigned 32 "value"],
      forwarded 0 "zetCommandListAppendMetricQueryBegin" [
        .handle .tools "h_command_list", .handle .tools "h_metric_query"],
      forwarded 0 "zetCommandListAppendMetricQueryEnd" [
        .handle .tools "h_command_list", .handle .tools "h_metric_query",
        .nullable (.handle .compute "h_signal_event"), .unsigned 32 "num_wait_events",
        .nullable (.given (.handles "ph_wait_events"))],
      forwarded 0 "zetCommandListAppendMetricMemoryBarrier" [.handle .tools "h_command_list"]],
    voluntary "Kernel" [
      forwarded 0 "zetKernelGetProfileInfo" [
        .handle .tools "h_kernel", .pointer "p_profile_properties"]],
    voluntary "Module" [
      forwarded 0 "zetModuleGetDebugInfo" [
        .handle .tools "h_module", .unsigned 32 "format", .pointer "p_size",
        .nullable (.pointer "p_debug_info")]],
    voluntary "Debug" [
      forwarded 0 "zetDebugAttach" [
        .handle .tools "h_device", .pointer "config", .handles "ph_debug"],
      destroyer 0 "zetDebugDetach" [.handle .tools "h_debug"],
      forwarded 0 "zetDebugReadEvent" [
        .handle .tools "h_debug", .unsigned 64 "timeout", .pointer "event"],
      forwarded 0 "zetDebugAcknowledgeEvent" [.handle .tools "h_debug", .pointer "event"],
      forwarded 0 "zetDebugInterrupt" [.handle .tools "h_debug", .aggregate "thread"],
      forwarded 0 "zetDebugResume" [.handle .tools "h_debug", .aggregate "thread"],
      forwarded 0 "zetDebugReadMemory" [
        .handle .tools "h_debug", .aggregate "thread", .pointer "desc", .unsigned 64 "size",
        .pointer "buffer"],
      forwarded 0 "zetDebugWriteMemory" [
        .handle .tools "h_debug", .aggregate "thread", .pointer "desc", .unsigned 64 "size",
        .pointer "buffer"],
      forwarded 0 "zetDebugGetRegisterSetProperties" [
        .handle .tools "h_device", .counter "p_count",
        .nullable (.pointer "p_register_set_properties")],
      forwarded 0 "zetDebugReadRegisters" [
        .handle .tools "h_debug", .aggregate "thread", .unsigned 32 "ty", .unsigned 32 "start",
        .unsigned 32 "count", .nullable (.pointer "p_register_values")],
      forwarded 0 "zetDebugWriteRegisters" [
        .handle .tools "h_debug", .aggregate "thread", .unsigned 32 "ty", .unsigned 32 "start",
        .unsigned 32 "count", .nullable (.pointer "p_register_values")],
      forwarded 5 "zetDebugGetThreadRegisterSetProperties" [
        .handle .tools "h_debug", .aggregate "thread", .counter "p_count",
        .nullable (.pointer "p_register_set_properties")]],
    voluntary "Metric" [
      forwarded 0 "zetMetricGet" [
        .handle .tools "h_metric_group", .counter "p_count", .nullable (.handles "ph_metrics")],
      forwarded 0 "zetMetricGetProperties" [.handle .tools "h_metric", .pointer "p_properties"]],
    voluntary "MetricGroup" [
      forwarded 0 "zetMetricGroupGet" [
        .handle .tools "h_device", .counter "p_count", .nullable (.handles "ph_metric_groups")],
      forwarded 0 "zetMetricGroupGetProperties" [
        .handle .tools "h_metric_group", .pointer "p_properties"],
      forwarded 0 "zetMetricGroupCalculateMetricValues" [
        .handle .tools "h_metric_group", .unsigned 32 "ty", .unsigned 64 "raw_data_size",
        .pointer "p_raw_data", .pointer "p_metric_value_count",
        .nullable (.pointer "p_metric_values")]],
    voluntary "MetricGroupExp" [
      forwarded 2 "zetMetricGroupCalculateMultipleMetricValuesExp" [
        .handle .tools "h_metric_group", .unsigned 32 "ty", .unsigned 64 "raw_data_size",
        .pointer "p_raw_data", .pointer "p_set_count", .pointer "p_total_metric_value_count",
        .nullable (.pointer "p_metric_counts"), .nullable (.pointer "p_metric_values")],
      forwarded 5 "zetMetricGroupGetGlobalTimestampsExp" [
        .handle .tools "h_metric_group", .unsigned 8 "synchronized_with_host",
        .pointer "global_timestamp", .pointer "metric_timestamp"],
      forwarded 6 "zetMetricGroupGetExportDataExp" [
        .handle .tools "h_metric_group", .pointer "p_raw_data", .unsigned 64 "raw_data_size",
        .pointer "p_export_data_size", .nullable (.pointer "p_export_data")],
      forwarded 6 "zetMetricGroupCalculateMetricExportDataExp" [
        .handle .compute "h_driver", .unsigned 32 "ty", .unsigned 64 "export_data_size",
        .pointer "p_export_data", .pointer "p_calculate_descriptor", .pointer "p_set_count",
        .pointer "p_total_metric_value_count", .nullable (.pointer "p_metric_counts"),
        .nullable (.pointer "p_metric_values")],
      forwarded 9 "zetMetricGroupCreateExp" [
        .handle .tools "h_device", .pointer "p_name", .pointer "p_description",
        .unsigned 32 "sampling_type", .handles "ph_metric_group"],
      forwarded 9 "zetMetricGroupAddMetricExp" [
        .handle .tools "h_metric_group", .handle .tools "h_metric",
        .nullable (.pointer "p_error_string_size"), .nullable (.pointer "p_error_string")],
      forwarded 9 "zetMetricGroupRemoveMetricExp" [
        .handle .tools "h_metric_group", .handle .tools "h_metric"],
      forwarded 9 "zetMetricGroupCloseExp" [.handle .tools "h_metric_group"],
      destroyer 9 "zetMetricGroupDestroyExp" [.handle .tools "h_metric_group"]],
    voluntary "MetricQuery" [
      forwarded 0 "zetMetricQueryCreate" [
        .handle .tools "h_metric_query_pool", .unsigned 32 "index", .handles "ph_metric_query"],
      destroyer 0 "zetMetricQueryDestroy" [.handle .tools "h_metric_query"],
      forwarded 0 "zetMetricQueryReset" [.handle .tools "h_metric_query"],
      forwarded 0 "zetMetricQueryGetData" [
        .handle .tools "h_metric_query", .pointer "p_raw_data_size",
        .nullable (.pointer "p_raw_data")]],
    voluntary "MetricQueryPool" [
      forwarded 0 "zetMetricQueryPoolCreate" [
        .handle .tools "h_context", .handle .tools "h_device", .handle .tools "h_metric_group",
        .pointer "desc", .handles "ph_metric_query_pool"],
      destroyer 0 "zetMetricQueryPoolDestroy" [.handle .tools "h_metric_query_pool"]],
    voluntary "MetricStreamer" [
      forwarded 0 "zetMetricStreamerOpen" [
        .handle .tools "h_context", .handle .tools "h_device", .handle .tools "h_metric_group",
        .pointer "desc", .nullable (.handle .compute "h_notification_event"),
        .handles "ph_metric_streamer"],
      destroyer 0 "zetMetricStreamerClose" [.handle .tools "h_metric_streamer"],
      forwarded 0 "zetMetricStreamerReadData" [
        .handle .tools "h_metric_streamer", .unsigned 32 "max_report_count",
        .pointer "p_raw_data_size", .nullable (.pointer "p_raw_data")]],
    voluntary "TracerExp" [
      forwarded 0 "zetTracerExpCreate" [
        .handle .tools "h_context", .pointer "desc", .handles "ph_tracer"],
      destroyer 0 "zetTracerExpDestroy" [.handle .tools "h_tracer"],
      forwarded 0 "zetTracerExpSetPrologues" [.handle .tools "h_tracer", .pointer "p_core_cbs"],
      forwarded 0 "zetTracerExpSetEpilogues" [.handle .tools "h_tracer", .pointer "p_core_cbs"],
      forwarded 0 "zetTracerExpSetEnabled" [.handle .tools "h_tracer", .unsigned 8 "enable"]],
    voluntary "MetricProgrammableExp" [
      forwarded 9 "zetMetricProgrammableGetExp" [
        .handle .tools "h_device", .counter "p_count",
        .nullable (.handles "ph_metric_programmables")],
      forwarded 9 "zetMetricProgrammableGetPropertiesExp" [
        .handle .tools "h_metric_programmable", .pointer "p_properties"],
      forwarded 9 "zetMetricProgrammableGetParamInfoExp" [
        .handle .tools "h_metric_programmable", .pointer "p_parameter_count",
        .pointer "p_parameter_info"],
      forwarded 9 "zetMetricProgrammableGetParamValueInfoExp" [
        .handle .tools "h_metric_programmable", .unsigned 32 "parameter_ordinal",
        .pointer "p_value_info_count", .pointer "p_value_info"]],
    voluntary "MetricExp" [
      forwarded 9 "zetMetricCreateFromProgrammableExp" [
        .handle .tools "h_metric_programmable", .pointer "p_parameter_values",
        .unsigned 32 "parameter_count", .pointer "p_name", .pointer "p_description",
        .counter "p_metric_handle_count", .nullable (.handles "ph_metric_handles")],
      destroyer 9 "zetMetricDestroyExp" [.handle .tools "h_metric"],
      forwarded 11 "zetMetricCreateFromProgrammableExp2" [
        .handle .tools "h_metric_programmable", .unsigned 32 "parameter_count",
        .pointer "p_parameter_values", .pointer "p_name", .pointer "p_description",
        .counter "p_metric_handle_count", .nullable (.handles "ph_metric_handles")]],
    voluntary "DeviceExp" [
      forwarded 10 "zetDeviceGetConcurrentMetricGroupsExp" [
        .handle .tools "h_device", .unsigned 32 "metric_group_count",
        .given (.handles "ph_metric_groups"),
        .nullable (.pointer "p_metric_groups_count_per_concurrent_group"),
        .pointer "p_concurrent_group_count"],
      forwarded 10 "zetDeviceCreateMetricGroupsFromMetricsExp" [
        .handle .tools "h_device", .unsigned 32 "metric_count", .given (.handles "ph_metrics"),
        .pointer "p_metric_group_name_prefix", .pointer "p_description",
        .counter "p_metric_group_count", .nullable (.handles "ph_metric_group")],
      forwarded 13 "zetDeviceEnableMetricsExp" [.handle .tools "h_device"],
      forwarded 13 "zetDeviceDisableMetricsExp" [.handle .tools "h_device"]],
    voluntary "MetricTracerExp" [
      forwarded 10 "zetMetricTracerCreateExp" [
        .handle .tools "h_context", .handle .tools "h_device", .unsigned 32 "metric_group_count",
        .given (.handles "ph_metric_groups"), .pointer "desc",
        .nullable (.handle .compute "h_notification_event"), .handles "ph_metric_tracer"],
      destroyer 10 "zetMetricTracerDestroyExp" [.handle .tools "h_metric_tracer"],
      forwarded 10 "zetMetricTracerEnableExp" [
        .handle .tools "h_metric_tracer", .unsigned 8 "synchronous"],
      forwarded 10 "zetMetricTracerDisableExp" [
        .handle .tools "h_metric_tracer", .unsigned 8 "synchronous"],
      forwarded 10 "zetMetricTracerReadDataExp" [
        .handle .tools "h_metric_tracer", .pointer "p_raw_data_size",
        .nullable (.pointer "p_raw_data")],
      forwarded 10 "zetMetricTracerDecodeExp" [
        .handle .tools "ph_metric_decoder", .pointer "p_raw_data_size",
        .nullable (.pointer "p_raw_data"), .unsigned 32 "metrics_count",
        .given (.handles "ph_metrics"), .pointer "p_set_count",
        .nullable (.pointer "p_metric_entries_count_per_set"), .pointer "p_metric_entries_count",
        .nullable (.pointer "p_metric_entries")]],
    voluntary "MetricDecoderExp" [
      forwarded 10 "zetMetricDecoderCreateExp" [
        .handle .tools "h_metric_tracer", .handles "ph_metric_decoder"],
      destroyer 10 "zetMetricDecoderDestroyExp" [.handle .tools "ph_metric_decoder"],
      forwarded 10 "zetMetricDecoderGetDecodableMetricsExp" [
        .handle .tools "h_metric_decoder", .counter "p_count", .handles "ph_metrics"]],
    voluntary "CommandListExp" [
      forwarded 13 "zetCommandListAppendMarkerExp" [
        .handle .tools "h_command_list", .handle .tools "h_metric_group", .unsigned 32 "value"]]]

end Api
end DriverLoader
