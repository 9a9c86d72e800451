/-
# What a teardown leaves behind

A teardown leaves a loader without drivers, tables, records and layers.  As long as no driver is built
none is loaded (`Accountable.loaded_after`), so no handle is live and no call reaches a driver
(`Accountable.call_of_none_loaded`).  Calls are then answered by "uninitialised", unless a layer that was
installed since answers them: a loader that was torn down takes layers like any other.

`after_teardown` puts this together with the report of a teardown, with what it does about each driver
(`teardown_toAmbient`) and with the ledger of a history.
-/

import DriverLoader.Proofs.Loader.Ledger
import DriverLoader.Proofs.Loader.Stack

namespace DriverLoader
namespace Session

variable {ω : Type} {s : Session ω}

/-- Where nothing but the loader's tracing layer is installed, every stack relays and rejects nothing. -/
theorem OnlyTracing.passes (hs : s.OnlyTracing) (htracing : s.TracingKnown)
    (isLive : Handle → Bool) (call : Call) :
    s.loader.stack.Relays s.layers.kinds ∧
      s.loader.stack.rejection? s.layers.kinds isLive call = none := by
  refine ⟨fun id hmem => ?_, ?_⟩
  · rw [hs id hmem, htracing]
    rfl
  · unfold LayerStack.rejection?
    rw [List.findSome?_eq_none_iff]
    intro id hmem
    rw [hs id hmem, htracing]
    rfl

namespace Accountable

/-- As long as no driver is built, none is loaded. -/
theorem loaded_after (hs : s.Accountable) (hnone : s.loader.loaded = []) (env : Environment ω)
    {history : History} (hbuilds : gather env (Operation.builds env) s history = []) :
    (s.after env history).loader.loaded = [] := by
  have hledger := (hs.ledger env history).1
  rw [hnone, hbuilds, List.append_nil, List.subperm_nil] at hledger
  exact (List.append_eq_nil_iff.1 hledger).2

/-- Where no driver is loaded, no call reaches one, and only a layer can give an answer other than
"uninitialised". -/
theorem call_of_none_loaded (hs : s.Accountable) (hnone : s.loader.loaded = [])
    (env : Environment ω) (entry : EntryPoint) (args : List CallArgument) (memory : Memory) :
    (s.call env entry args memory).2.2.trace.invocations = s.trace.invocations ∧
      (s.loader.stack.Relays s.layers.kinds →
        (s.call env entry args memory).1 = (s.loader.stack.rejection? s.layers.kinds
          s.loader.registry.isLive ⟨entry, args⟩).getD .uninitialized) := by
  refine call_of_not_live env s entry args memory ?_
  unfold Registry.isLive
  cases hfind : s.loader.registry.find? (Argument.routing args) with
  | none => rfl
  | some record =>
    have howner := (hs.coherent.records _ record (Registry.mem_records_of_find? hfind)).2
    rw [hnone] at howner
    cases howner

end Accountable

/-- **A teardown releases what nobody holds, and leaves nothing to call.**  In every state that a history
leads to, whichever tables are held outside and whichever of the borrowed records:

* The report says how many drivers were loaded, how many records there were, live and destroyed, how
  many sub-tables the drivers have that nobody holds, and how many drivers are held.
* The tables and records that are held outside stay as they are: going through the drivers, the teardown
  tears down those that nobody holds, and about the others it only logs a warning.
* Afterwards there are no records, no drivers, no tables in the builder and no layers, and the next
  teardown has nothing to report.
* Until a driver is built again no call invokes anything.  Every call is answered by "uninitialised" as
  long as no layer is installed by name; where layers are, and give back the answers that they get, the
  first that rejects the call answers it.
* In the history itself, every driver that was built has an identity of its own.  What an unload or a
  teardown reports as released are the sub-tables of the drivers that it frees, and all the sub-tables
  that were freed are among those that were built, each of them at most once. -/
theorem after_teardown (env : Environment ω) (config : Config) (shared : Shared ω)
    (history : History) (tables : List Driver) (records : List HandleRecord)
    (hrecords : records ⊆ ((empty config shared).after env history).loader.registry.lent) :
    let s := ((empty config shared).after env history).holding tables records
    let torn := s.teardown.2
    s.teardown.1 =
        { drivers := s.loader.drivers.length
          handles := s.loader.registry.records.length
          subTables := ((s.loader.loaded.filter (!s.isHeld ·)).map (·.populated)).sum
          inUse := (s.loader.loaded.filter (s.isHeld ·)).length } ∧
      (torn.heldDrivers = tables ∧ torn.loader.registry.lent = records ∧
        ∃ summary, torn.toAmbient
          = (s.loader.loaded.foldl s.relinquish s.toAmbient).write .info summary) ∧
      (torn.loader.registry.records = [] ∧ torn.loader.drivers = [] ∧
        torn.loader.builder.drivers = [] ∧ torn.loader.stack = []) ∧
      torn.teardown.1 = ⟨0, 0, 0, 0⟩ ∧
      (∀ further, gather env (Operation.builds env) torn further = [] →
        ∀ entry args memory,
          let now := torn.after env further
          let outcome := now.call env entry args memory
          outcome.2.2.trace.invocations = now.trace.invocations ∧
            ((∀ operation ∈ further, ∀ id, ¬operation.Installs id) → outcome.1 = .uninitialized) ∧
            (now.loader.stack.Relays now.layers.kinds →
              outcome.1 = (now.loader.stack.rejection? now.layers.kinds now.loader.registry.isLive
                ⟨entry, args⟩).getD .uninitialized)) ∧
      (let built := gather env (Operation.builds env) (empty config shared) history
        let freed := gather env Operation.frees (empty config shared) history
        (built.map (·.id)).Nodup ∧
          (freed.flatMap (·.subTables)).Subperm (built.flatMap (·.subTables)) ∧
          ∀ before operation after, history = before ++ operation :: after →
            let earlier := (empty config shared).after env before
            (operation.reports earlier).sum
              = ((operation.frees earlier).flatMap (·.subTables)).length) := by
  intro s torn
  have hempty : (empty config shared).Accountable := empty_accountable config shared
  have hs : s.Accountable := (hempty.after env history).holding tables hrecords
  have hidles := teardown_idles s
  have htorn : torn.Accountable := (step_effect env s .teardown).shift.accountable hs
  have hloaded : torn.loader.loaded = [] := congrArg Loader.loaded hidles.loader
  have hvacant : Vacant torn.loader := hidles.loader ▸ emptied_vacant s.loader
  have hstack : torn.loader.stack = [] := congrArg Loader.stack hidles.loader
  refine ⟨teardown_report s, ⟨hidles.heldDrivers, ?_, teardown_toAmbient s⟩,
    ⟨hvacant.records, hvacant.drivers, hvacant.builder, hstack⟩, ?_, ?_, ?_⟩
  · exact congrArg (fun l : Loader => l.registry.lent) hidles.loader
  · rw [teardown_report, hvacant.drivers, hvacant.records, hloaded]
    rfl
  · intro further hbuilds entry args memory now outcome
    have hnow : now.Accountable := htorn.after env further
    obtain ⟨hinvoked, hanswer⟩ := hnow.call_of_none_loaded (htorn.loaded_after hloaded env hbuilds)
      env entry args memory
    refine ⟨hinvoked, fun hinstalls => ?_, hanswer⟩
    have honly : torn.OnlyTracing := by
      intro id hmem
      rw [hstack] at hmem
      cases hmem
    have hknown : s.TracingKnown := (empty_tracingKnown config shared).after env history
    obtain ⟨hrelays, hpassed⟩ := (honly.after env further hinstalls).passes
      ((hknown.step env .teardown).after env further) now.loader.registry.isLive ⟨entry, args⟩
    rw [hanswer hrelays, hpassed]
    rfl
  · intro built freed
    obtain ⟨hdrivers, hids⟩ := hempty.ledger env history
    rw [(empty_vacant config shared).1, List.nil_append] at hdrivers
    refine ⟨?_, ?_, ?_⟩
    · rw [hids]
      exact List.nodup_range'
    · exact subperm_subTables ((List.sublist_append_left ..).subperm.trans hdrivers)
    · exact fun before operation after _ => ((hempty.after env before).booked env operation).reported

/-- A borrowed record keeps the tables of its driver from being released, and calls on its handle go
nowhere all the same. -/
theorem after_teardown_borrowed :
    let s := (Sample.start.after Dispatch.Sample.environment Sample.borrowed).holding []
      (Sample.start.after Dispatch.Sample.environment Sample.borrowed).loader.registry.lent
    s.teardown.1 = ⟨1, 1, 0, 1⟩ ∧
      (s.teardown.2.call Dispatch.Sample.environment Dispatch.Sample.entry Sample.args
        (Dispatch.Sample.memory 1 0)).1 = .uninitialized := by
  obtain ⟨hreport, -, -, -, hcalls, -⟩ := after_teardown Dispatch.Sample.environment Config.default
    (Shared.start .info ()) Sample.borrowed [] _ (List.Subset.refl _)
  refine ⟨hreport.trans (by decide +kernel), ?_⟩
  exact (hcalls [] rfl Dispatch.Sample.entry Sample.args (Dispatch.Sample.memory 1 0)).2.1 nofun

namespace Sample

/-- A validation layer is made, told to reject every call, and installed. -/
def gated : History :=
  [.createLayer (.validation .empty),
    .addChecker ⟨1⟩ (.observer "gate" (some .invalidArgument) none), .pushLayer ⟨1⟩]

end Sample

/-- A loader that was torn down takes layers, and a layer that rejects a call answers it. -/
theorem teardown_layer_answers :
    ¬∀ further,
      gather Dispatch.Sample.environment (Operation.builds Dispatch.Sample.environment)
          (Sample.start.after Dispatch.Sample.environment Sample.listed).teardown.2 further = [] →
        ∀ entry args memory,
          (((Sample.start.after Dispatch.Sample.environment Sample.listed).teardown.2.after
              Dispatch.Sample.environment further).call Dispatch.Sample.environment entry args
            memory).1 = .uninitialized := by
  intro hall
  have hanswer := hall Sample.gated rfl Dispatch.Sample.entry Sample.args
    (Dispatch.Sample.memory 1 0)
  exact absurd hanswer (by decide +kernel)

end Session
end DriverLoader
