/-
# What one operation does to a loader

An operation on a loader shifts its drivers, tables and handles in one of four ways (`Shift`): it loads
one driver, unloads one, empties the loader, or keeps the drivers while the registry evolves.  No
operation changes the kind of a layer, save that checkers are added to a validation layer (`Effect`).
`step_effect` says that this holds of every operation; every invariant of drivers, tables, records and
kinds of layers is derived from it.  What loading and unloading one driver can come to is said once, by
`Added`, `Opening` and `Parted`.
-/

import DriverLoader.Loader.History
import DriverLoader.Proofs.Builder.Build
import DriverLoader.Proofs.Registry.Evolution

namespace DriverLoader

/-- The drivers that are loaded, in the order of loading. -/
def Loader.loaded (l : Loader) : List Driver :=
  l.drivers.map (·.driver)

/-- The only driver is called directly if interception is not forced and no layer is installed. -/
theorem Loader.passthrough?_eq_some_iff {l : Loader} {driver : Driver} :
    l.passthrough? = some driver ↔
      l.config.forceIntercept = false ∧ l.stack = [] ∧ l.loaded = [driver] := by
  unfold passthrough? loaded
  cases hforced : l.config.forceIntercept with
  | true => simp
  | false =>
    cases hstack : l.stack with
    | cons id rest => simp
    | nil =>
      cases hdrivers : l.drivers with
      | nil => simp
      | cons first rest => cases rest <;> simp

namespace Operation

variable {ω : Type}

/-- An operation ends a handle: it is a call that destroys it, no layer rejects the call, and the driver
that it reaches answers "success". -/
def Ends (env : Environment ω) (s : Session ω) (operation : Operation) (h : Handle) : Prop :=
  ∃ entry args memory, operation = .call entry args memory ∧
    Dispatch.Ends env s.loader.stack ⟨entry, args⟩ (s.frame memory) h

/-- An operation adopts a handle for a driver: it is a successful call that hands the handle out, an
enumeration for which the driver lists it, or its registration beside a handle of the driver. -/
inductive Adopts (env : Environment ω) (s : Session ω) : Operation → Handle → Driver → Prop where
  | returned {entry : EntryPoint} {args : List CallArgument} {memory : Memory} {h : Handle}
      {driver : Driver}
      (handed : Dispatch.HandsOut env s.loader.stack ⟨entry, args⟩ (s.frame memory) h driver) :
      Adopts env s (.call entry args memory) h driver
  | listed {category : Category} {entry : EntryPoint} {count array : Option Location}
      {memory : Memory} {h : Handle} {driver : Driver}
      (served : Api.entry? (Session.driverGetEntry category) = some entry)
      (handed : Enumeration.HandsOut env entry (s.loader.ready category) count array
        (s.frame memory) h driver) :
      Adopts env s (.driverGet category count array memory) h driver
  | registered {owner object : Handle} {driver : Driver} (given : object ≠ Handle.null)
      (routes : s.loader.registry.Routes owner driver) :
      Adopts env s (.registerHandle owner object) object driver

end Operation

/-- An operation makes a layer of a kind, or adds a checker and makes it a layer of that kind. -/
def Operation.Makes (operation : Operation) (kind : LayerKind) : Prop :=
  (∃ layer, operation = .createLayer layer ∧ kind = layer.kind) ∨
    ∃ id checker checkers, operation = .addChecker id checker ∧ kind = .validation checkers

/-- If the records of a driver are dropped at all, nothing else is. -/
theorem Registry.eq_purge_of_purgeExclusive? {r purged : Registry} {driver : Driver}
    {others total : Nat} (hpurged : r.purgeExclusive? driver others total = some purged) :
    purged = r.purge driver := by
  unfold purgeExclusive? at hpurged
  split at hpurged
  · cases hpurged
  · split at hpurged
    · cases hpurged
    · exact (Option.some.inj hpurged).symm

namespace Session

variable {ω : Type} {s s' : Session ω}

/-- Handles may be adopted for a driver that is loaded or that owns a live handle. -/
def Binds (s : Session ω) (driver : Driver) : Prop :=
  driver ∈ s.loader.loaded ∨ ∃ h, s.loader.registry.Routes h driver

/-- The drivers that take part in the calls of a category are loaded. -/
theorem mem_loaded_of_ready {l : Loader} {category : Category} {driver : Driver}
    (hready : driver ∈ l.ready category) : driver ∈ l.loaded := by
  obtain ⟨d, hmem, rfl⟩ := List.mem_map.1 hready
  exact List.mem_map_of_mem (List.mem_filter.1 hmem).1

/-- Handles are adopted only for drivers that they may be adopted for. -/
theorem binds_of_adopts {env : Environment ω} {operation : Operation} {h : Handle} {driver : Driver}
    (hadopts : operation.Adopts env s h driver) : s.Binds driver := by
  cases hadopts with
  | returned handed =>
    obtain ⟨_, _, hsucceeds, -⟩ := handed
    exact Or.inr ⟨_, hsucceeds.reaches.routes⟩
  | listed _ handed =>
    obtain ⟨_, -, hlists⟩ := handed
    exact Or.inl (mem_loaded_of_ready hlists.mem)
  | registered _ routes => exact Or.inr ⟨_, routes⟩

/-- Only log and trace changed, and no driver function was invoked. -/
structure Idles (s s' : Session ω) : Prop where
  loader : s'.loader = s.loader
  nextDriver : s'.nextDriver = s.nextDriver
  heldDrivers : s'.heldDrivers = s.heldDrivers
  ambient : s.toAmbient.Idles s'.toAmbient

/-- Drivers, tables, handles and the kinds of the layers are what they were. -/
structure Stays (s s' : Session ω) : Prop where
  loaded : s'.loader.loaded = s.loader.loaded
  builder : s'.loader.builder = s.loader.builder
  nextDriver : s'.nextDriver = s.nextDriver
  registry : s'.loader.registry = s.loader.registry
  kinds : s'.layers.kinds = s.layers.kinds

theorem Idles.trans {s'' : Session ω} (first : s.Idles s') (second : s'.Idles s'') : s.Idles s'' :=
  ⟨second.loader.trans first.loader, second.nextDriver.trans first.nextDriver,
    second.heldDrivers.trans first.heldDrivers, first.ambient.trans second.ambient⟩

/-- Where a loader idles, drivers, tables, handles and the kinds of layers stay as they are. -/
theorem Idles.stays (h : s.Idles s') : s.Stays s' :=
  ⟨congrArg Loader.loaded h.loader, congrArg Loader.builder h.loader, h.nextDriver,
    congrArg Loader.registry h.loader, congrArg Layers.kinds h.ambient.layers⟩

theorem Stays.trans {s'' : Session ω} (first : s.Stays s') (second : s'.Stays s'') : s.Stays s'' :=
  ⟨second.loaded.trans first.loaded, second.builder.trans first.builder,
    second.nextDriver.trans first.nextDriver, second.registry.trans first.registry,
    second.kinds.trans first.kinds⟩

/-- What one operation does to drivers, tables and handles. -/
inductive Shift (env : Environment ω) (s : Session ω) (operation : Operation) (s' : Session ω) :
    Prop where
  /-- The drivers stay, and the registry evolves. -/
  | kept (drivers : s'.loader.loaded = s.loader.loaded) (builder : s'.loader.builder = s.loader.builder)
      (next : s'.nextDriver = s.nextDriver)
      (registry :
        s.loader.registry.Evolves (operation.Adopts env s) (operation.Ends env s) s'.loader.registry)
  /-- A driver of a new name and a new identity is loaded. -/
  | loaded (driver : Driver) (module : DriverModule)
      (cause : operation = .addDriver driver.name module)
      (new : s.loader.builder.find? driver.name = none) (id : driver.id = s.nextDriver)
      (drivers : s'.loader.loaded = s.loader.loaded ++ [driver])
      (builder : s'.loader.builder.drivers = Builder.place driver s.loader.builder.drivers)
      (next : s'.nextDriver = s.nextDriver + 1) (registry : s'.loader.registry = s.loader.registry)
  /-- A driver is unloaded, and its records go with it. -/
  | unloaded (d : LoadedDriver) (name : String) (cause : operation = .unload name)
      (found : s.loader.find? name = some d)
      (loader : s'.loader
        = dropDriver { s.loader with registry := s.loader.registry.purge d.driver } name)
      (next : s'.nextDriver = s.nextDriver)
  /-- Every driver and every record is gone. -/
  | emptied (cause : operation = .teardown) (drivers : s'.loader.loaded = [])
      (builder : s'.loader.builder = Builder.empty) (next : s'.nextDriver = s.nextDriver)
      (registry : s'.loader.registry = s.loader.registry.clear)

/-- What one operation does. -/
structure Effect (env : Environment ω) (s : Session ω) (operation : Operation) (s' : Session ω) :
    Prop where
  shift : Shift env s operation s'
  /-- There is no layer of a new kind that the operation did not make. -/
  kinds : ∀ kind ∈ s'.layers.kinds, kind ∈ s.layers.kinds ∨ operation.Makes kind
  /-- A tracing layer stays one. -/
  tracing : ∀ id : LayerId, s.layers.kinds[id.number]? = some .tracing →
    s'.layers.kinds[id.number]? = some .tracing

/-- An operation that makes no layer. -/
theorem Shift.effect {env : Environment ω} {operation : Operation}
    (hshift : Shift env s operation s') (hkinds : s'.layers.kinds = s.layers.kinds) :
    Effect env s operation s' :=
  ⟨hshift, fun _ hkind => Or.inl (hkinds ▸ hkind), fun _ hid => hkinds ▸ hid⟩

/-- An operation that leaves drivers, tables and handles alone. -/
theorem Stays.effect {env : Environment ω} {operation : Operation} (hstays : s.Stays s') :
    Effect env s operation s' :=
  Shift.effect (.kept hstays.loaded hstays.builder hstays.nextDriver (hstays.registry ▸ .refl))
    hstays.kinds

/-! ### The start -/

/-- A loader before any layer is installed. -/
def bare (config : Config) (shared : Shared ω) : Session ω where
  toShared :=
    { shared with
      layers := shared.layers ++ [.tracing (TracingLayer.logging.setActive config.tracingLayer)] }
  loader :=
    { config := config, builder := Builder.empty, registry := Registry.empty, stack := []
      drivers := [], validation := none, tracing := ⟨shared.layers.length⟩, inTeardown := false }

/-- What holds of a bare loader holds of the one that a configuration asks for, if logging and
installing the loader's own layers keep it. -/
theorem empty_induction {P : Session ω → Prop} (config : Config) (shared : Shared ω)
    (start : P (bare config shared))
    (write : ∀ s level message, P s → P (s.write level message))
    (push : ∀ s id, P s → P (s.pushLayer id).2)
    (create : ∀ s, P s →
      P (s.createLayer (.validation (ValidationLayer.ofConfig config.validation))).2)
    (validation : ∀ s id, P s → P { s with loader := { s.loader with validation := id } }) :
    P (empty config shared) := by
  have hinactive : ∀ s, P s →
      P (if config.tracingLayer then s else s.write .info "tracing layer inactive") := by
    intro s hs
    split
    · exact hs
    · exact write s _ _ hs
  have htracing : ∀ s id, P s → P (if config.tracingLayer then (s.pushLayer id).2 else s) := by
    intro s id hs
    split
    · exact push s id hs
    · exact hs
  have hlogged := write (bare config shared) .debug "tracer#1 registered" start
  unfold empty
  dsimp only
  split
  · exact validation _ _ (push _ _ (create _ (htracing _ _ (hinactive _ hlogged))))
  · exact htracing _ _ (hinactive _ hlogged)

/-! ### Loading -/

/-- What loading a driver comes to. -/
inductive Added (s : Session ω) (name : String) : Except Failure Driver × Session ω → Prop where
  | duplicate : Added s name (.error .duplicateDriver, s)
  | refused {failure : BuildFailure} {a : Ambient ω} (idles : s.toAmbient.Idles a) :
      Added s name (.error (.build failure), { s with toAmbient := a })
  | loaded {driver : Driver} {a : Ambient ω} (new : s.loader.builder.find? driver.name = none)
      (name_eq : driver.name = name) (id : driver.id = s.nextDriver)
      (index : driver.index = s.loader.builder.size) (idles : s.toAmbient.Idles a) :
      Added s name
        (.ok driver,
          { s with
            toAmbient := a
            nextDriver := s.nextDriver + 1
            loader :=
              { s.loader with
                builder := ⟨Builder.place driver s.loader.builder.drivers⟩
                drivers := s.loader.drivers ++ [LoadedDriver.fresh driver] } })

/-- Adding a driver comes to a duplicate, a failed build or a driver that is loaded. -/
theorem addDriver_added (env : Environment ω) (name : String) (module : DriverModule)
    (s : Session ω) : s.Added name (s.addDriver env name module) := by
  unfold addDriver
  split
  · exact .duplicate
  · rename_i hcontains
    have hnew : s.loader.builder.find? name = none := by
      simpa [Builder.contains] using hcontains
    have hbuilt := Builder.build_new (env.exportsOf module) module s.nextDriver hnew s.toAmbient
    split
    · rename_i failure builder a heq
      rw [heq] at hbuilt
      cases hbuilt with
      | refused hidles => exact .refused hidles
    · rename_i driver builder a heq
      obtain ⟨-, hindex, -⟩ := Builder.build_held hnew heq
      rw [heq] at hbuilt
      cases hbuilt with
      | held hname hid hidles => exact .loaded (hname ▸ hnew) hname hid hindex hidles

/-- Adding a driver loads it or changes nothing about drivers, tables and handles. -/
theorem addDriver_effect (env : Environment ω) (name : String) (module : DriverModule)
    (s : Session ω) : Effect env s (.addDriver name module) (s.addDriver env name module).2 := by
  have hadded := addDriver_added env name module s
  generalize s.addDriver env name module = outcome at hadded
  cases hadded with
  | duplicate => exact Stays.effect ⟨rfl, rfl, rfl, rfl, rfl⟩
  | refused idles => exact Stays.effect ⟨rfl, rfl, rfl, rfl, congrArg Layers.kinds idles.layers⟩
  | @loaded driver a new name_eq id index idles =>
    subst name_eq
    refine Shift.effect (.loaded driver module rfl new id ?_ rfl rfl rfl)
      (congrArg Layers.kinds idles.layers)
    simp [Loader.loaded, LoadedDriver.fresh]

/-- A library that is tried stays shut, or it is opened and added; a failure is only logged. -/
inductive Opening (env : Environment ω) (name : String) (s s' : Session ω) : Prop where
  | shut (shut : env.opens name = false) (idles : s.Idles s')
  | opened {before after : Session ω} {answer : Except Failure Driver} (opens : env.opens name = true)
      (opened : s.Idles before) (added : before.addDriver env name (.library name) = (answer, after))
      (logged : after.Idles s') (kept : ∀ driver, answer = .ok driver → s' = after)

/-- Adding a library comes to one that stays shut or to one that is opened and added. -/
theorem addLibrary_opening (env : Environment ω) (name : String) (s : Session ω) :
    Opening env name s (s.addLibrary env name) := by
  unfold addLibrary openLibrary
  cases hopens : env.opens name with
  | false => exact .shut hopens ⟨rfl, rfl, rfl, .write .refl ..⟩
  | true =>
    have hopened : s.Idles { s with toAmbient := s.toAmbient.write .info s!"{name}: loaded" } :=
      ⟨rfl, rfl, rfl, .write .refl ..⟩
    simp only [if_true]
    cases houtcome : Session.addDriver env name (.library name)
        { s with toAmbient := s.toAmbient.write .info s!"{name}: loaded" } with
    | mk answer after =>
      cases answer with
      | error failure =>
        exact .opened hopens hopened houtcome ⟨rfl, rfl, rfl, .write .refl ..⟩ nofun
      | ok driver => exact .opened hopens hopened houtcome ⟨rfl, rfl, rfl, .refl⟩ fun _ _ => rfl

/-! ### Calls -/

/-- Initialising a driver leaves handles and layers alone. -/
theorem initDriver_keeps (env : Environment ω) (entry : EntryPoint) (flags : UInt32)
    (driver : Driver) (f : Frame ω) :
    (initDriver env entry flags driver f).2.registry = f.registry ∧
      (initDriver env entry flags driver f).2.layers = f.layers := by
  unfold initDriver
  dsimp only
  split
  · split <;> exact ⟨rfl, rfl⟩
  · exact ⟨rfl, rfl⟩

/-- A driver with another status is the same driver. -/
theorem driver_setStatus (d : LoadedDriver) (category : Category) (status : ResultCode) :
    (d.setStatus category status).driver = d.driver := by
  cases category <;> rfl

/-- Initialising drivers changes nothing about them but their status, and leaves handles and layers
alone. -/
theorem initDrivers_keeps (env : Environment ω) (entry : EntryPoint) (flags : UInt32)
    (drivers : List LoadedDriver) (f : Frame ω) :
    (initDrivers env entry flags drivers f).1.map (·.driver) = drivers.map (·.driver) ∧
      (initDrivers env entry flags drivers f).2.registry = f.registry ∧
      (initDrivers env entry flags drivers f).2.layers = f.layers := by
  induction drivers generalizing f with
  | nil => exact ⟨rfl, rfl, rfl⟩
  | cons d rest ih =>
    unfold initDrivers
    split
    · obtain ⟨hregistry, hlayers⟩ := initDriver_keeps env entry flags d.driver f
      dsimp only
      rw [List.map_cons, List.map_cons, driver_setStatus, (ih _).1, (ih _).2.1, (ih _).2.2]
      split <;> exact ⟨rfl, hregistry, hlayers⟩
    · obtain ⟨hdrivers, hkept⟩ := ih f
      dsimp only
      rw [List.map_cons, List.map_cons, hdrivers]
      exact ⟨rfl, hkept⟩

/-- An initialisation changes statuses alone, which do not count here. -/
theorem init_effect (env : Environment ω) (category : Category) (flags : UInt32) (s : Session ω) :
    Effect env s (.init category flags) (s.init env category flags).2 := by
  unfold init
  split
  · exact Stays.effect ⟨rfl, rfl, rfl, rfl, rfl⟩
  · rename_i entry hentry
    obtain ⟨hdrivers, hregistry, hlayers⟩ :=
      initDrivers_keeps env entry flags s.loader.drivers (s.frame Memory.empty)
    exact Stays.effect ⟨hdrivers, rfl, rfl, hregistry, congrArg Layers.kinds hlayers⟩

/-- An enumeration adopts the handles that drivers list. -/
theorem driverGet_effect (env : Environment ω) (category : Category)
    (count array : Option Location) (memory : Memory) (s : Session ω) :
    Effect env s (.driverGet category count array memory)
      (s.driverGet env category count array memory).2.2 := by
  unfold driverGet
  split
  · exact Stays.effect ⟨rfl, rfl, rfl, rfl, rfl⟩
  · rename_i entry hentry
    obtain ⟨hregistry, hlayers⟩ := Enumeration.run_evolves env entry (s.loader.ready category) count
      array (s.frame memory)
    refine Shift.effect (.kept rfl rfl rfl ?_) (congrArg Layers.kinds hlayers)
    exact hregistry.mono (fun _ _ => .listed hentry) fun _ => False.elim

/-- A call adopts the handles that it hands out and ends the one that it destroys. -/
theorem call_effect (env : Environment ω) (entry : EntryPoint) (args : List CallArgument)
    (memory : Memory) (s : Session ω) :
    Effect env s (.call entry args memory) (s.call env entry args memory).2.2 := by
  obtain ⟨hregistry, hkinds⟩ :=
    Dispatch.invoke_evolves env s.loader.stack ⟨entry, args⟩ (s.frame memory)
  refine Shift.effect (.kept rfl rfl rfl ?_) hkinds
  exact hregistry.mono (fun _ _ => .returned) fun _ hends => ⟨entry, args, memory, rfl, hends⟩

/-- Registering a handle adopts it for the driver of its owner. -/
theorem registerHandle_effect (env : Environment ω) (owner object : Handle) (s : Session ω) :
    Effect env s (.registerHandle owner object) (s.registerHandle owner object).2 := by
  unfold registerHandle
  split
  · exact Stays.effect ⟨rfl, rfl, rfl, rfl, rfl⟩
  · rename_i hgiven
    have hobject : object ≠ Handle.null := by simpa [Handle.isNull] using hgiven
    split
    · rename_i record hrecord
      obtain ⟨hfind, hvalid⟩ := Option.filter_eq_some_iff.1 hrecord
      have hroutes : s.loader.registry.Routes owner record.owner := by
        refine ⟨?_, record, hfind, hvalid, rfl⟩
        rintro rfl
        rw [Registry.find?_null] at hfind
        cases hfind
      exact Shift.effect (.kept rfl rfl rfl (.adopt (.registered hobject hroutes) .refl)) rfl
    · exact Stays.effect ⟨rfl, rfl, rfl, rfl, rfl⟩

/-! ### Unloading and teardown -/

/-- Releasing the tables of a driver shows in the log alone, as it does if they are in use. -/
theorem releaseTables_idles (driver : Driver) (s : Session ω) :
    s.Idles (s.releaseTables driver).2 := by
  unfold releaseTables
  split
  · exact ⟨rfl, rfl, rfl, .write .refl ..⟩
  · exact ⟨rfl, rfl, rfl, .write .refl ..⟩

/-- Releasing the tables of several drivers shows in the log alone. -/
theorem releaseAll_idles (drivers : List Driver) (s : Session ω) :
    s.Idles (releaseAll drivers s).2.2 := by
  induction drivers generalizing s with
  | nil => exact ⟨rfl, rfl, rfl, .refl⟩
  | cons driver rest ih =>
    have hfirst := releaseTables_idles driver s
    unfold releaseAll
    split
    · rename_i released s₁ heq
      rw [heq] at hfirst
      exact hfirst.trans (ih s₁)
    · rename_i failure s₁ heq
      rw [heq] at hfirst
      exact hfirst.trans (ih s₁)

/-- What unloading a driver leaves behind. -/
inductive Parted (s : Session ω) (name : String) (s' : Session ω) : Prop where
  /-- There is no such driver, or it is in use. -/
  | kept (idles : s.Idles s')
  /-- The driver is gone, and its records are. -/
  | gone (d : LoadedDriver) (found : s.loader.find? name = some d)
      (idles : Idles
        { s with
          loader := dropDriver { s.loader with registry := s.loader.registry.purge d.driver } name }
        s')

/-- Unloading a driver comes to its departure, or to nothing but a message. -/
theorem unload_parted (name : String) (s : Session ω) : s.Parted name (s.unload name).2 := by
  unfold unload
  split
  · exact .kept ⟨rfl, rfl, rfl, .refl⟩
  · rename_i d hfound
    dsimp only
    split
    · exact .kept ⟨rfl, rfl, rfl, .write .refl ..⟩
    · rename_i purged hpurged
      obtain rfl := Registry.eq_purge_of_purgeExclusive? hpurged
      have hreleased := releaseTables_idles d.driver
        { s with
          loader := dropDriver { s.loader with registry := s.loader.registry.purge d.driver } name }
      split
      · rename_i failure s₁ heq
        rw [heq] at hreleased
        exact .gone d hfound hreleased
      · rename_i released s₁ heq
        rw [heq] at hreleased
        exact .gone d hfound (hreleased.trans ⟨rfl, rfl, rfl, .write .refl ..⟩)

/-- Unloading takes away a driver with its records, or nothing. -/
theorem unload_effect (env : Environment ω) (name : String) (s : Session ω) :
    Effect env s (.unload name) (s.unload name).2 := by
  cases unload_parted name s with
  | kept idles => exact idles.stays.effect
  | gone d found idles =>
    exact Shift.effect (.unloaded d name rfl found idles.loader idles.nextDriver)
      (congrArg Layers.kinds idles.ambient.layers)

/-- A loader that has let go of every handle, layer and driver. -/
def emptied (l : Loader) : Loader :=
  { l with
    inTeardown := true
    registry := l.registry.clear
    stack := []
    builder := Builder.empty
    drivers := [] }

/-- A teardown empties the loader, and what follows only logs. -/
theorem teardown_idles (s : Session ω) :
    Idles { s with loader := emptied s.loader } s.teardown.2 :=
  (releaseAll_idles (s.loader.drivers.map (·.driver)) { s with loader := emptied s.loader }).trans
    ⟨rfl, rfl, rfl, .write .refl ..⟩

/-- A teardown takes away every driver and every record. -/
theorem teardown_effect (env : Environment ω) (s : Session ω) :
    Effect env s .teardown s.teardown.2 := by
  have hidles := teardown_idles s
  refine Shift.effect (.emptied rfl ?_ ?_ hidles.nextDriver ?_)
    (congrArg Layers.kinds hidles.ambient.layers)
  · rw [hidles.loader]
    rfl
  · rw [hidles.loader]
    rfl
  · rw [hidles.loader]
    rfl

/-! ### Layers, and references held outside -/

/-- Changing a tracing layer leaves drivers, tables and handles alone. -/
theorem changeTracing_stays (id : LayerId) (change : TracingChange) (s : Session ω) :
    s.Stays (s.changeTracing id change).2 :=
  ⟨rfl, rfl, rfl, rfl, (Ambient.changeTracing_keeps id change s.toAmbient).1⟩

/-- Pushing a layer leaves drivers, tables and handles alone. -/
theorem pushLayer_stays (id : LayerId) (s : Session ω) : s.Stays (s.pushLayer id).2 := by
  unfold pushLayer
  split <;> exact ⟨rfl, rfl, rfl, rfl, rfl⟩

/-- Inserting a layer leaves drivers, tables and handles alone. -/
theorem insertLayer_stays (index : Nat) (id : LayerId) (s : Session ω) :
    s.Stays (s.insertLayer index id).2 := by
  unfold insertLayer
  split <;> exact ⟨rfl, rfl, rfl, rfl, rfl⟩

/-- Switching tracing on leaves drivers, tables and handles alone. -/
theorem enableTracing_stays (s : Session ω) : s.Stays s.enableTracing.2 := by
  have hinsert := insertLayer_stays 0 s.loader.tracing s
  unfold enableTracing
  split
  · rename_i failure s₁ heq
    rw [heq] at hinsert
    exact hinsert
  · rename_i inserted s₁ heq
    rw [heq] at hinsert
    exact hinsert.trans (changeTracing_stays ..)

/-- Making a layer brings in one layer of its kind. -/
theorem createLayer_effect (env : Environment ω) (layer : Layer) (s : Session ω) :
    Effect env s (.createLayer layer) (s.createLayer layer).2 := by
  refine ⟨.kept rfl rfl rfl .refl, fun kind hkind => ?_, fun id hid => ?_⟩
  · obtain ⟨other, hmem, rfl⟩ := List.mem_map.1 hkind
    rcases List.mem_append.1 hmem with hold | hnew
    · exact Or.inl (List.mem_map_of_mem hold)
    · rw [List.mem_singleton.1 hnew]
      exact Or.inr (Or.inl ⟨layer, rfl, rfl⟩)
  · exact Layers.getElem?_kinds_append hid [layer]

/-- Adding a checker makes a validation layer one of another kind. -/
theorem addChecker_effect (env : Environment ω) (id : LayerId) (checker : Checker)
    (s : Session ω) : Effect env s (.addChecker id checker) (s.addChecker id checker).2 := by
  unfold addChecker
  split
  · exact Stays.effect ⟨rfl, rfl, rfl, rfl, rfl⟩
  · split
    · exact Stays.effect ⟨rfl, rfl, rfl, rfl, rfl⟩
    · rename_i old hold _ layer hlayer
      refine ⟨.kept rfl rfl rfl .refl, fun kind hkind => ?_, fun other hother => ?_⟩
      · obtain ⟨other, hmem, rfl⟩ := List.mem_map.1 hkind
        rcases List.mem_or_eq_of_mem_set hmem with hold | rfl
        · exact Or.inl (List.mem_map_of_mem hold)
        · exact Or.inr (Or.inr ⟨id, checker, layer.checkers, rfl, rfl⟩)
      · have hne : id.number ≠ other.number := by
          intro heq
          have hkind := Layers.getElem?_kinds s.layers id
          rw [Layers.validation?_eq_some.1 hold, heq, hother] at hkind
          cases hkind
        show (List.map Layer.kind (s.layers.set id.number _))[other.number]? = _
        rw [List.map_set, List.getElem?_set_ne hne]
        exact hother

/-- Taking a reference to a driver leaves drivers, tables and handles alone. -/
theorem hold_stays (name : String) (s : Session ω) : s.Stays (s.hold name).2 := by
  unfold hold
  split <;> exact ⟨rfl, rfl, rfl, rfl, rfl⟩

/-- Borrowing a record lends it and does nothing else. -/
theorem holdRecord_effect (env : Environment ω) (h : Handle) (s : Session ω) :
    Effect env s (.holdRecord h) (s.holdRecord h).2 := by
  unfold holdRecord
  split
  · exact Stays.effect ⟨rfl, rfl, rfl, rfl, rfl⟩
  · rename_i registry hlent
    exact Shift.effect (.kept rfl rfl rfl (.lend hlent .refl)) rfl

/-- **What any one operation does to a loader.** -/
theorem step_effect (env : Environment ω) (s : Session ω) (operation : Operation) :
    Effect env s operation (s.step env operation) := by
  cases operation with
  | addDriver name module => exact addDriver_effect env name module s
  | init category flags => exact init_effect env category flags s
  | driverGet category count array memory =>
    exact driverGet_effect env category count array memory s
  | call entry args memory => exact call_effect env entry args memory s
  | registerHandle owner object => exact registerHandle_effect env owner object s
  | unload name => exact unload_effect env name s
  | teardown => exact teardown_effect env s
  | enableTracing => exact (enableTracing_stays s).effect
  | disableTracing => exact (changeTracing_stays ..).effect
  | createLayer layer => exact createLayer_effect env layer s
  | pushLayer id => exact (pushLayer_stays id s).effect
  | insertLayer index id => exact (insertLayer_stays index id s).effect
  | clearLayers => exact Stays.effect ⟨rfl, rfl, rfl, rfl, rfl⟩
  | changeTracing id change => exact (changeTracing_stays id change s).effect
  | addChecker id checker => exact addChecker_effect env id checker s
  | hold name => exact (hold_stays name s).effect
  | holdRecord h => exact holdRecord_effect env h s
  | dropHeld => exact Shift.effect (.kept rfl rfl rfl (.reclaim .refl)) rfl

/-! ### What a loader keeps -/

/-- The configuration and the validation layer are what they were, and a teardown starts only by being
asked for. -/
structure Keeps (s : Session ω) (operation : Operation) (s' : Session ω) : Prop where
  config : s'.loader.config = s.loader.config
  validation : s'.loader.validation = s.loader.validation
  inTeardown : operation ≠ .teardown → s'.loader.inTeardown = s.loader.inTeardown

/-- Inserting a layer leaves the rest of the loader alone. -/
theorem insertLayer_keeps (operation : Operation) (index : Nat) (id : LayerId) (s : Session ω) :
    s.Keeps operation (s.insertLayer index id).2 := by
  unfold insertLayer
  split <;> exact ⟨rfl, rfl, fun _ => rfl⟩

/-- **No operation reconfigures a loader or exchanges its validation layer, and none but a teardown
starts one.** -/
theorem step_keeps (env : Environment ω) (s : Session ω) (operation : Operation) :
    s.Keeps operation (s.step env operation) := by
  cases operation with
  | addDriver name module =>
    show s.Keeps _ (s.addDriver env name module).2
    have hadded := addDriver_added env name module s
    generalize s.addDriver env name module = outcome at hadded
    cases hadded <;> exact ⟨rfl, rfl, fun _ => rfl⟩
  | init category flags =>
    show s.Keeps _ (s.init env category flags).2
    unfold init
    split <;> exact ⟨rfl, rfl, fun _ => rfl⟩
  | driverGet category count array memory =>
    show s.Keeps _ (s.driverGet env category count array memory).2.2
    unfold driverGet
    split <;> exact ⟨rfl, rfl, fun _ => rfl⟩
  | registerHandle owner object =>
    show s.Keeps _ (s.registerHandle owner object).2
    unfold registerHandle
    split
    · exact ⟨rfl, rfl, fun _ => rfl⟩
    · split <;> exact ⟨rfl, rfl, fun _ => rfl⟩
  | unload name =>
    cases unload_parted name s with
    | kept idles =>
      exact ⟨congrArg Loader.config idles.loader, congrArg Loader.validation idles.loader,
        fun _ => congrArg Loader.inTeardown idles.loader⟩
    | gone d found idles =>
      exact ⟨(congrArg Loader.config idles.loader).trans rfl,
        (congrArg Loader.validation idles.loader).trans rfl,
        fun _ => (congrArg Loader.inTeardown idles.loader).trans rfl⟩
  | teardown =>
    have hloader := (teardown_idles s).loader
    exact ⟨(congrArg Loader.config hloader).trans rfl, (congrArg Loader.validation hloader).trans rfl,
      fun h => absurd rfl h⟩
  | enableTracing =>
    have hinserted := insertLayer_keeps .enableTracing 0 s.loader.tracing s
    show s.Keeps _ s.enableTracing.2
    unfold enableTracing
    split
    · rename_i failure s₁ heq
      rwa [heq] at hinserted
    · rename_i inserted s₁ heq
      rw [heq] at hinserted
      exact ⟨hinserted.config, hinserted.validation, hinserted.inTeardown⟩
  | pushLayer id =>
    show s.Keeps _ (s.pushLayer id).2
    unfold pushLayer
    split <;> exact ⟨rfl, rfl, fun _ => rfl⟩
  | insertLayer index id => exact insertLayer_keeps _ index id s
  | addChecker id checker =>
    show s.Keeps _ (s.addChecker id checker).2
    unfold addChecker
    split
    · exact ⟨rfl, rfl, fun _ => rfl⟩
    · split <;> exact ⟨rfl, rfl, fun _ => rfl⟩
  | hold name =>
    show s.Keeps _ (s.hold name).2
    unfold hold
    split <;> exact ⟨rfl, rfl, fun _ => rfl⟩
  | holdRecord h =>
    show s.Keeps _ (s.holdRecord h).2
    unfold holdRecord
    split <;> exact ⟨rfl, rfl, fun _ => rfl⟩
  | _ => exact ⟨rfl, rfl, fun _ => rfl⟩

end Session
end DriverLoader
