/-
# What a loader finds

A loader that discovers its drivers tries one library after the other.  A library counts if it can be
opened and some category of it can be negotiated (`Session.loads`); trying it loads it, unless its name
is loaded already, and trying any other leaves nothing behind but look-ups and messages
(`addLibrary_tries`).  So after some of the names were tried, the loader is like one that was given the
first occurrences of those that count and nothing else (`Found`), and `discover_loads` says so of the
whole list with the null driver behind it.
-/

import DriverLoader.Proofs.Discovery.Arrangement
import DriverLoader.Proofs.Loader.Adding
import DriverLoader.Proofs.Loader.Origin

namespace DriverLoader

/-! ### The names that are tried -/

namespace Discovery

/-- The orders are the readings of the trimmed tokens, without those that cannot be read. -/
theorem orders_fst (tokens : List String) (log : Log) :
    (orders tokens log).1 = tokens.filterMap fun token => DriverOrder.parse? (Text.trim token) := by
  induction tokens generalizing log with
  | nil => rfl
  | cons token rest ih =>
    unfold orders
    rw [List.filterMap_cons]
    split
    · rename_i order hparsed
      rw [hparsed]
      exact congrArg (order :: ·) (ih log)
    · rename_i hparsed
      rw [hparsed]
      exact ih _

/-- The names to try hang on the configuration alone. -/
theorem names_fst (config : Config) (log : Log) :
    (names config log).1 = DriverOrder.arrange
      (if config.alternativeDrivers.isEmpty then knownDrivers else config.alternativeDrivers)
      DriverType.classify
      (config.driverOrder.filterMap fun token => DriverOrder.parse? (Text.trim token)) := by
  unfold names
  dsimp only
  rw [orders_fst]

end Discovery

namespace Session

variable {ω : Type} {env : Environment ω} {s s' start : Session ω} {a : Ambient ω}

/-! ### Loaders that were given drivers -/

/-- The names of the loaded drivers and the modules that they were built from. -/
def sources (s : Session ω) : List (String × DriverModule) :=
  s.loader.loaded.map fun driver => (driver.name, driver.module)

/-- The sources name the loaded drivers. -/
theorem map_fst_sources (s : Session ω) : s.sources.map Prod.fst = s.loader.names := by
  rw [names_eq, sources, List.map_map]
  rfl

/-- The drivers are others, and all else about loader and layers is what it was. -/
structure Refits (s s' : Session ω) : Prop where
  loader : ∃ builder drivers, s'.loader = { s.loader with builder := builder, drivers := drivers }
  layers : s'.layers = s.layers

namespace Refits

theorem refl (s : Session ω) : s.Refits s :=
  ⟨⟨_, _, rfl⟩, rfl⟩

theorem trans {s'' : Session ω} (first : s.Refits s') (second : s'.Refits s'') : s.Refits s'' := by
  obtain ⟨_, _, hfirst⟩ := first.loader
  obtain ⟨builder, drivers, hsecond⟩ := second.loader
  exact ⟨⟨builder, drivers, hsecond.trans (hfirst ▸ rfl)⟩, second.layers.trans first.layers⟩

/-- Where a loader idles it keeps its drivers too. -/
theorem of_idles (h : s.Idles s') : s.Refits s' :=
  ⟨⟨_, _, h.loader⟩, h.ambient.layers⟩

end Refits

/-- Adding a driver refits a loader, whether the driver is taken or not. -/
theorem addDriver_refits (env : Environment ω) (name : String) (module : DriverModule)
    (s : Session ω) : s.Refits (s.addDriver env name module).2 := by
  have hadded := addDriver_added env name module s
  generalize s.addDriver env name module = outcome at hadded
  cases hadded with
  | duplicate => exact .refl s
  | refused idles => exact ⟨⟨_, _, rfl⟩, idles.layers⟩
  | loaded new name_eq id index idles => exact ⟨⟨_, _, rfl⟩, idles.layers⟩

/-- Adding drivers, until one is not taken, refits a loader. -/
theorem addDrivers_refits (env : Environment ω) (drivers : List (String × DriverModule))
    (s : Session ω) : s.Refits (s.addDrivers env drivers).2 := by
  induction drivers generalizing s with
  | nil => exact .refl s
  | cons first rest ih =>
    obtain ⟨name, module⟩ := first
    have hadded := addDriver_refits env name module s
    unfold addDrivers
    split
    · rename_i failure s₁ heq
      rwa [heq] at hadded
    · rename_i driver s₁ heq
      rw [heq] at hadded
      exact hadded.trans (ih s₁)

/-- Adding a library refits a loader, whether the library can be opened or not. -/
theorem addLibrary_refits (env : Environment ω) (name : String) (s : Session ω) :
    s.Refits (s.addLibrary env name) := by
  cases addLibrary_opening env name s with
  | shut shut idles => exact .of_idles idles
  | @opened before after answer opens opened added logged kept =>
    have hadded := addDriver_refits env name (.library name) before
    rw [added] at hadded
    exact ((Refits.of_idles opened).trans hadded).trans (.of_idles logged)

/-- Drivers are added one after the other. -/
theorem addDrivers_append (env : Environment ω) (drivers more : List (String × DriverModule))
    (s : Session ω) :
    s.addDrivers env (drivers ++ more) =
      match s.addDrivers env drivers with
      | (.error failure, s) => (.error failure, s)
      | (.ok _, s) => s.addDrivers env more := by
  induction drivers generalizing s with
  | nil => rfl
  | cons first rest ih =>
    obtain ⟨name, module⟩ := first
    simp only [List.cons_append, addDrivers]
    split
    · rfl
    · exact ih _

/-- Adding a list of one driver is adding that driver. -/
theorem addDrivers_singleton {name : String} {module : DriverModule} {driver : Driver}
    (hadded : (s.addDriver env name module).1 = .ok driver) :
    s.addDrivers env [(name, module)] = (.ok (), (s.addDriver env name module).2) := by
  unfold addDrivers
  split
  · rename_i heq
    rw [heq] at hadded
    cases hadded
  · rename_i heq
    rw [heq]
    rfl

/-- A loader is like one that was given these drivers, and nothing else happened to it. -/
structure Given (env : Environment ω) (start : Session ω) (drivers : List (String × DriverModule))
    (s : Session ω) : Prop where
  coherent : s.Coherent
  sources : s.sources = drivers
  alike : ∃ given, start.addDrivers env drivers = (.ok (), given) ∧ s.Alike given

namespace Given

variable {drivers : List (String × DriverModule)}

/-- A loader that was given drivers loads them in their order. -/
theorem names_eq (h : Given env start drivers s) : s.loader.names = drivers.map Prod.fst := by
  rw [← map_fst_sources, h.sources]

/-- Look-ups and messages go unnoticed. -/
theorem idle (h : Given env start drivers s) (hidles : s.Idles s') : Given env start drivers s' := by
  obtain ⟨given, hgiven, halike⟩ := h.alike
  refine ⟨h.coherent.stays hidles.stays, ?_, given, hgiven,
    (Alike.of_idles hidles).symm.trans halike⟩
  rw [← h.sources, Session.sources, hidles.loader]
  rfl

/-- One more driver is added. -/
theorem add (h : Given env start drivers s) {name : String} {module : DriverModule} {driver : Driver}
    (hadded : (s.addDriver env name module).1 = .ok driver) :
    Given env start (drivers ++ [(name, module)]) (s.addDriver env name module).2 := by
  obtain ⟨given, hgiven, halike⟩ := h.alike
  obtain ⟨hanswer, hafter⟩ := halike.addDriver env name module
  refine ⟨(step_effect env s (.addDriver name module)).shift.coherent h.coherent, ?_, _, ?_, hafter⟩
  · have hadds := addDriver_adds h.coherent env name module
    generalize s.addDriver env name module = outcome at hadds hadded
    cases hadds with
    | duplicate => cases hadded
    | refused => cases hadded
    | loaded new accepted named made tables =>
      rw [← h.sources]
      simp [Session.sources, Loader.loaded, LoadedDriver.fresh, named, made]
  · rw [addDrivers_append, hgiven]
    exact addDrivers_singleton (hanswer ▸ hadded)

end Given

/-! ### Trying libraries -/

/-- A library counts if it can be opened and some category of it can be negotiated.  When that takes
place makes no difference. -/
def loads (env : Environment ω) (a : Ambient ω) (name : String) : Bool :=
  env.opens name && Category.all.any fun category =>
    (Negotiation.negotiate (env.exportsOf (.library name)) (.library name) category a).1.isOk

/-- What trying a library comes to. -/
inductive Tries (env : Environment ω) (a : Ambient ω) (name : String) (s s' : Session ω) : Prop where
  /-- Nothing happens but look-ups and messages. -/
  | skipped (cause : loads env a name = false ∨ name ∈ s.loader.names) (idles : s.Idles s')
  /-- The library is loaded. -/
  | loaded {before : Session ω} {driver : Driver} (counts : loads env a name = true)
      (new : name ∉ s.loader.names) (opened : s.Idles before)
      (added : before.addDriver env name (.library name) = (.ok driver, s'))

/-- When a negotiation takes place makes no difference to whether it comes to a table. -/
theorem any_isOk_iff {exports : Exports} {module : DriverModule} (a a' : Ambient ω) :
    (Category.all.any fun category => (Negotiation.negotiate exports module category a).1.isOk) = true ↔
      ∃ category table, (Negotiation.negotiate exports module category a').1 = .ok table := by
  rw [List.any_eq_true]
  constructor
  · rintro ⟨category, -, hok⟩
    rw [Negotiation.negotiate_congr _ _ _ a a'] at hok
    cases houtcome : (Negotiation.negotiate exports module category a').1 with
    | ok table => exact ⟨category, table, houtcome⟩
    | error failure =>
      rw [houtcome] at hok
      cases hok
  · rintro ⟨category, table, houtcome⟩
    refine ⟨category, by cases category <;> decide, ?_⟩
    rw [Negotiation.negotiate_congr _ _ _ a a', houtcome]
    rfl

/-- **Trying a library loads it or is without effect.** -/
theorem addLibrary_tries (hs : s.Coherent) (env : Environment ω) (a : Ambient ω) (name : String) :
    Tries env a name s (s.addLibrary env name) := by
  cases addLibrary_opening env name s with
  | shut shut idles => exact .skipped (Or.inl (by simp [loads, shut])) idles
  | @opened before after answer opens opened added logged kept =>
    have hloads : loads env a name = Category.all.any fun category =>
        (Negotiation.negotiate (env.exportsOf (.library name)) (.library name) category a).1.isOk := by
      simp [loads, opens]
    have hnames : before.loader.names = s.loader.names := congrArg Loader.names opened.loader
    have hadds := addDriver_adds (hs.stays opened.stays) env name (.library name)
    rw [added] at hadds
    cases hadds with
    | duplicate held => exact .skipped (Or.inr (hnames ▸ held)) (opened.trans logged)
    | @refused refusal a' new all last idles =>
      have hrefused : before.Idles { before with toAmbient := a' } := ⟨rfl, rfl, rfl, idles⟩
      refine .skipped (Or.inl ?_) (opened.trans (hrefused.trans logged))
      rw [hloads, Bool.eq_false_iff, Ne, any_isOk_iff]
      exact fun haccepted => Builder.exists_ok_iff.1 haccepted all
    | loaded new accepted named made tables =>
      exact .loaded (hloads.trans ((any_isOk_iff ..).2 accepted)) (hnames ▸ new) opened
        (added.trans (congrArg (Prod.mk _) (kept _ rfl).symm))

/-- What a loader found among the names that were tried. -/
def Found (env : Environment ω) (start : Session ω) (a : Ambient ω) (tried : List String)
    (s : Session ω) : Prop :=
  ∃ libraries, Firsts (tried.filter (loads env a)) libraries ∧
    Given env start (libraries.map fun name => (name, .library name)) s

/-- One more name is tried. -/
theorem Found.addLibrary {tried : List String} (h : Found env start a tried s) (name : String) :
    Found env start a (tried ++ [name]) (s.addLibrary env name) := by
  obtain ⟨libraries, hfirsts, hgiven⟩ := h
  have hnames : s.loader.names = libraries := by
    rw [hgiven.names_eq, List.map_map]
    exact List.map_id _
  unfold Found
  rw [List.filter_append]
  cases addLibrary_tries hgiven.coherent env a name with
  | skipped cause idles =>
    refine ⟨libraries, ?_, hgiven.idle idles⟩
    cases hloads : loads env a name with
    | false => simpa [hloads] using hfirsts
    | true =>
      have hmem : name ∈ libraries := hnames ▸ cause.resolve_left (by simp [hloads])
      simpa [hloads] using hfirsts.again ((hfirsts.mem name).1 hmem)
  | @loaded before driver counts new opened added =>
    have hnew : name ∉ tried.filter (loads env a) := fun hmem =>
      new (hnames ▸ (hfirsts.mem name).2 hmem)
    refine ⟨libraries ++ [name], by simpa [counts] using hfirsts.concat hnew, ?_⟩
    have hadded := (hgiven.idle opened).add (congrArg Prod.fst added)
    rw [added] at hadded
    simpa using hadded

/-- The other names are tried. -/
theorem Found.foldl {tried : List String} (h : Found env start a tried s) (names : List String) :
    Found env start a (tried ++ names) (names.foldl (fun s name => s.addLibrary env name) s) := by
  induction names generalizing tried s with
  | nil => rwa [List.append_nil]
  | cons name rest ih => simpa using ih (h.addLibrary name)

/-! ### The null driver -/

/-- The null driver can always be built. -/
theorem null_accepted (env : Environment ω) (a : Ambient ω) :
    ∃ category table, (Negotiation.negotiate (env.exportsOf (.null Version.current))
      (.null Version.current) category a).1 = .ok table := by
  obtain ⟨group, hgroup⟩ := Option.isSome_iff_exists.1
    (show (Api.groupOfSymbol? "zeGetDeviceProcAddrTable").isSome = true by decide +kernel)
  have hdevice : Negotiation.device? (env.exportsOf (.null Version.current)) .compute
      = some (NullDriver.getter Version.current group) :=
    congrArg (Option.map (NullDriver.getter Version.current)) hgroup
  have hsuccess : (NullDriver.getter Version.current group Version.current).1 = .success := rfl
  have hnewest : ∀ version ∈ Version.released, ¬Version.current.raw < version.raw := by decide
  have hsettles :
      Negotiation.Settles (NullDriver.getter Version.current group) Version.current :=
    ⟨by decide, hsuccess ▸ by decide, fun version hmem hlt => absurd hlt (hnewest version hmem)⟩
  exact ⟨.compute, _, (Negotiation.negotiate_comes _ _ .compute a).unique _
    (.accepted hdevice hsettles hsuccess)⟩

/-- The null driver comes last if the configuration asks for it. -/
theorem Given.addNullDriver {drivers : List (String × DriverModule)}
    (h : Given env start drivers s) (hnew : NullDriver.name ∉ s.loader.names) :
    ∃ s', s.addNullDriver env = (.ok (), s') ∧
      Given env start (drivers ++
        if s.loader.config.nullDriver then [(NullDriver.name, .null Version.current)] else []) s' := by
  unfold Session.addNullDriver
  split
  · obtain ⟨driver, hadded⟩ : ∃ driver,
        (s.addDriver env NullDriver.name (.null Version.current)).1 = .ok driver := by
      have hadds := addDriver_adds h.coherent env NullDriver.name (.null Version.current)
      generalize s.addDriver env NullDriver.name (.null Version.current) = outcome at hadds ⊢
      cases hadds with
      | duplicate held => exact absurd held hnew
      | refused new all last idles =>
        exact absurd all (Builder.exists_ok_iff.1 (null_accepted env s.toAmbient))
      | loaded => exact ⟨_, rfl⟩
    exact ⟨_, addDrivers_singleton hadded, h.add hadded⟩
  · exact ⟨s, rfl, by simpa using h⟩

/-! ### The layers at the start -/

/-- The layers that a loader starts with: tracing outside validation, each if it is configured. -/
structure Furnished (config : Config) (s : Session ω) : Prop where
  stack : s.loader.stack
    = (if config.tracingLayer then [s.loader.tracing] else []) ++ s.loader.validation.toList
  tracing : s.layers.tracing? s.loader.tracing
    = some (TracingLayer.logging.setActive config.tracingLayer)
  configured : s.loader.validation.isSome = config.validationLayer
  validation : ∀ id, s.loader.validation = some id →
    s.layers.validation? id = some (.ofConfig config.validation)
  config : s.loader.config = config

/-- A loader that was just made has the layers that its configuration asks for.  There are at most two,
so that the stack has room for them. -/
theorem empty_furnished (config : Config) (shared : Shared ω) :
    (empty config shared).Furnished config := by
  have hlayers : ∀ (layers : Layers) (layer : TracingLayer) (more : List Layer),
      Layers.tracing? (layers ++ .tracing layer :: more) ⟨layers.length⟩ = some layer := by
    intro layers layer more
    simp [Layers.tracing?, Layers.get?]
  cases htracing : config.tracingLayer <;> cases hvalidation : config.validationLayer
  all_goals
    refine ⟨?_, ?_, ?_, ?_, ?_⟩
    all_goals
      simp [empty, pushLayer, createLayer, Session.write, Shared.write, Ambient.write, Layers.create,
        LayerStack.push, LayerStack.capacity, Layers.validation?, Layers.get?, hlayers, htracing,
        hvalidation]

/-- Other drivers make no difference to the layers. -/
theorem Refits.furnished (h : s.Refits s') {config : Config} (hs : s.Furnished config) :
    s'.Furnished config := by
  obtain ⟨builder, drivers, hloader⟩ := h.loader
  refine ⟨?_, ?_, ?_, ?_, ?_⟩
  · rw [hloader]
    exact hs.stack
  · rw [hloader, h.layers]
    exact hs.tracing
  · rw [hloader]
    exact hs.configured
  · rw [hloader, h.layers]
    exact hs.validation
  · rw [hloader]
    exact hs.config

/-! ### The whole list -/

/-- A loader after all libraries were tried. -/
def tried (env : Environment ω) (config : Config) (shared : Shared ω) : Session ω :=
  (Discovery.names config (empty config shared).log).1.foldl (fun s name => s.addLibrary env name)
    { empty config shared with log := (Discovery.names config (empty config shared).log).2 }

/-- Trying libraries leaves the layers of a loader as they were made. -/
theorem tried_refits (env : Environment ω) (config : Config) (shared : Shared ω) :
    (empty config shared).Refits (tried env config shared) := by
  have hlibraries : ∀ (names : List String) (s : Session ω),
      s.Refits (names.foldl (fun s name => s.addLibrary env name) s) := by
    intro names
    induction names with
    | nil => exact .refl
    | cons name rest ih => exact fun s => (addLibrary_refits env name s).trans (ih _)
  have hlogged : (empty config shared).Refits { empty config shared with
      log := (Discovery.names config (empty config shared).log).2 } := ⟨⟨_, _, rfl⟩, rfl⟩
  exact hlogged.trans (hlibraries _ _)

/-- Discovery gives a loader drivers and does nothing else to it. -/
theorem discover_refits (env : Environment ω) (config : Config) (shared : Shared ω) :
    (empty config shared).Refits (discover env config shared).2 := by
  have hnulled : (empty config shared).Refits ((tried env config shared).addNullDriver env).2 := by
    refine (tried_refits env config shared).trans ?_
    unfold addNullDriver
    split
    · exact addDrivers_refits ..
    · exact .refl _
  unfold tried at hnulled
  unfold discover
  dsimp only
  split
  · rename_i failure s₁ heq
    rwa [heq] at hnulled
  · rename_i found s₁ heq
    rw [heq] at hnulled
    split
    · exact hnulled.trans ⟨⟨_, _, rfl⟩, rfl⟩
    · exact hnulled

/-- What the loader holds after all names were tried was found under these names, in their order. -/
theorem tried_found (env : Environment ω) (config : Config) (shared : Shared ω) :
    Found env (empty config shared) shared.toAmbient
      (Discovery.names config (empty config shared).log).1 (tried env config shared) := by
  have hempty : Given env (empty config shared) [] (empty config shared) := by
    refine ⟨empty_coherent config shared, ?_, _, rfl, .refl _⟩
    unfold sources Loader.loaded
    rw [empty_drivers]
    rfl
  have hstart : Found env (empty config shared) shared.toAmbient [] { empty config shared with
      log := (Discovery.names config (empty config shared).log).2 } :=
    ⟨[], .nil, hempty.idle ⟨rfl, rfl, rfl, rfl, rfl, rfl⟩⟩
  exact hstart.foldl _

/-- What a loader answers after the null driver was added. -/
theorem discover_eq {config : Config} {shared : Shared ω}
    (hnulled : (tried env config shared).addNullDriver env = (.ok (), s')) :
    discover env config shared =
      if s'.sources.isEmpty then (.error .noDrivers, s'.write .warn "no driver available")
      else (.ok (), s') := by
  have hempty : s'.sources.isEmpty = s'.loader.drivers.isEmpty := by
    simp [sources, Loader.loaded]
  unfold tried at hnulled
  unfold discover
  dsimp only
  rw [hnulled, hempty]

/-- **Discovery loads what can be loaded, in order, and fails if that is nothing.**  For every
configuration and all libraries there are, whatever they export, as long as none that can be opened has
the name of the null driver:

* The drivers of the loader are the libraries of the ordered list that can be opened and negotiated in
  some category, each once, at its first occurrence and in that order, and behind them the null driver
  if it is enabled.
* There is a failure exactly if these are none at all, and it says that there are no drivers.
* The loader is like one that was given just these drivers, so the libraries that cannot be opened or
  built and those whose name is loaded change nothing else.
* Its layers are tracing outside validation, each if it is configured. -/
theorem discover_loads (env : Environment ω) (config : Config) (shared : Shared ω)
    (hnull : env.opens NullDriver.name = false) :
    let made := discover env config shared
    let order := DriverOrder.arrange
      (if config.alternativeDrivers.isEmpty then Discovery.knownDrivers
        else config.alternativeDrivers)
      DriverType.classify
      (config.driverOrder.filterMap fun token => DriverOrder.parse? (Text.trim token))
    ∃ libraries, Firsts (order.filter (loads env shared.toAmbient)) libraries ∧
      let drivers := libraries.map (fun name => (name, DriverModule.library name)) ++
        if config.nullDriver then [(NullDriver.name, .null Version.current)] else []
      made.2.sources = drivers ∧
        made.1 = (if drivers.isEmpty then .error .noDrivers else .ok ()) ∧
        (withDrivers env config drivers shared).1 = .ok () ∧
        made.2.Alike (withDrivers env config drivers shared).2 ∧
        made.2.Furnished config := by
  intro made order
  obtain ⟨libraries, hfirsts, hgiven⟩ := tried_found env config shared
  rw [show _ = order from Discovery.names_fst ..] at hfirsts
  have hconfig := ((tried_refits env config shared).furnished (empty_furnished config shared)).config
  have hnew : NullDriver.name ∉ (tried env config shared).loader.names := by
    intro hmem
    rw [hgiven.names_eq, List.map_map] at hmem
    obtain ⟨name, hname, heq⟩ := List.mem_map.1 hmem
    obtain ⟨-, hloads⟩ := List.mem_filter.1 ((hfirsts.mem name).1 hname)
    rw [show name = NullDriver.name from heq, loads, hnull] at hloads
    cases hloads
  obtain ⟨s', hnulled, hgiven⟩ := hgiven.addNullDriver hnew
  rw [hconfig] at hgiven
  obtain ⟨hanswer, hidles⟩ : made.1 = (if s'.sources.isEmpty then .error .noDrivers else .ok ()) ∧
      s'.Idles made.2 := by
    rw [show made = _ from discover_eq hnulled]
    split
    · exact ⟨rfl, rfl, rfl, rfl, .write .refl ..⟩
    · exact ⟨rfl, rfl, rfl, rfl, .refl⟩
  rw [hgiven.sources] at hanswer
  have hmade := hgiven.idle hidles
  obtain ⟨given, hwith, halike⟩ := hmade.alike
  refine ⟨libraries, hfirsts, hmade.sources, hanswer, ?_, ?_,
    (discover_refits env config shared).furnished (empty_furnished config shared)⟩
  · exact congrArg Prod.fst hwith
  · rw [show withDrivers env config _ shared = _ from hwith]
    exact halike

namespace Sample

/-- The environment in which one library exports nothing, one cannot be opened, and none has the name of
the null driver. -/
def partly : Environment Unit :=
  { bare with opens := fun name => name ≠ "missing" && name ≠ NullDriver.name }

/-- Five libraries with one among them twice, which are reordered, and the null driver. -/
def choice : Config :=
  { Config.default with
    nullDriver := true
    tracingLayer := true
    alternativeDrivers := ["libvpu.so", "bare", "missing", "libdgpu.so", "libvpu.so"]
    driverOrder := ["DISCRETE_GPU_ONLY", "7", " NPU : 1 "] }

end Sample

/-- Of the five libraries two are loaded, and the null driver behind them. -/
theorem discover_loads_choice :
    Sample.partly.opens NullDriver.name = false ∧
      let made := discover Sample.partly Sample.choice (Shared.start .info ())
      made.1 = .ok () ∧ made.2.loader.names = ["libdgpu.so", "libvpu.so", "null"] ∧
        made.2.loader.stack = [made.2.loader.tracing] := by
  have hnull : Sample.partly.opens NullDriver.name = false := by decide
  obtain ⟨libraries, hfirsts, hsources, hanswer, -, -, hfurnished⟩ :=
    discover_loads Sample.partly Sample.choice (Shared.start .info ()) hnull
  have hlisted : (DriverOrder.arrange Sample.choice.alternativeDrivers DriverType.classify
      (Sample.choice.driverOrder.filterMap fun token => DriverOrder.parse? (Text.trim token))).filter
        (loads Sample.partly (Shared.start .info ()).toAmbient)
      = ["libdgpu.so", "libvpu.so", "libvpu.so"] := by decide +kernel
  have hexpected : Firsts ["libdgpu.so", "libvpu.so", "libvpu.so"] ["libdgpu.so", "libvpu.so"] :=
    ((Firsts.nil.concat (by decide)).concat (by decide)).again (by decide)
  obtain rfl : libraries = ["libdgpu.so", "libvpu.so"] :=
    (show Firsts _ libraries from hlisted ▸ hfirsts).unique hexpected
  refine ⟨hnull, hanswer, ?_, ?_⟩
  · rw [← map_fst_sources, hsources]
    rfl
  · have hnone : (discover Sample.partly Sample.choice (Shared.start .info ())).2.loader.validation
        = none := Option.not_isSome_iff_eq_none.1 (Bool.eq_false_iff.1 hfurnished.configured)
    rw [hfurnished.stack, hnone]
    rfl

end Session
end DriverLoader
