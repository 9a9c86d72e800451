/-
# Building drivers

Negotiating tables looks up symbols, asks getters and logs, and does nothing else: `Ambient.Idles` says
so of two states, and `Negotiation.negotiate_idles` of a negotiation.

A build under a name that is not held yet adds one driver or changes nothing (`Builder.build_new`).  The
new driver is put at its place in the order of names, which only permutes the drivers (`place_perm`).
-/

import DriverLoader.Builder
import DriverLoader.Proofs.Interception.Core

namespace DriverLoader

namespace Ambient

variable {ω : Type}

/-- Nothing but look-ups and messages: layers and outside are what they were, and no driver function was
invoked. -/
structure Idles (a a' : Ambient ω) : Prop where
  layers : a'.layers = a.layers
  host : a'.host = a.host
  invocations : a'.trace.invocations = a.trace.invocations

namespace Idles

variable {a a' a'' : Ambient ω}

theorem refl : Idles a a := ⟨rfl, rfl, rfl⟩

theorem trans (first : Idles a a') (second : Idles a' a'') : Idles a a'' :=
  ⟨second.layers.trans first.layers, second.host.trans first.host,
    second.invocations.trans first.invocations⟩

/-- Logging a message is idling. -/
theorem write (before : Idles a a') (level : LogLevel) (message : String) :
    Idles a (a'.write level message) :=
  ⟨before.layers, before.host, before.invocations⟩

/-- Noting an event that is no invocation is idling. -/
theorem record (before : Idles a a') {event : Event} (h : event.invocation? = none) :
    Idles a (a'.record event) := by
  refine ⟨before.layers, before.host, ?_⟩
  show Trace.invocations (event :: a'.trace) = _
  rw [Trace.invocations_cons, h, Option.toList_none, List.append_nil]
  exact before.invocations

end Idles
end Ambient

namespace Negotiation

variable {ω : Type} (exports : Exports) (module : DriverModule)

/-- Fetching a group looks getters up and calls no driver function. -/
theorem fetchGroup_idles (version : Version) (group : FeatureGroup) (a : Ambient ω) :
    a.Idles (fetchGroup exports module version group a).2 := by
  unfold fetchGroup
  split
  · have hlooked : a.Idles (a.record (.lookup module group.symbol false)) := .record .refl rfl
    dsimp only
    split
    · exact hlooked
    · exact hlooked.write ..
  · rename_i getter hgetter
    have hasked : a.Idles ((a.record (.lookup module group.symbol true)).record
        (.getter module group.symbol version (getter version).1)) := .record (.record .refl rfl) rfl
    dsimp only
    split
    · exact hasked
    · split
      · exact hasked
      · exact hasked.write ..

/-- Fetching groups one after another idles, whether it gets to the end or not. -/
theorem fetch_idles (version : Version) (groups : List FeatureGroup) (a : Ambient ω) :
    a.Idles (fetch exports module version groups a).2 := by
  induction groups generalizing a with
  | nil => exact .refl
  | cons group rest ih =>
    have hfirst := fetchGroup_idles exports module version group a
    unfold fetch
    split
    · rename_i failure a' heq
      rw [heq] at hfirst
      exact hfirst
    · rename_i slots a' heq
      rw [heq] at hfirst
      have hrest := ih a'
      split
      · rename_i failure a'' heq
        rw [heq] at hrest
        exact hfirst.trans hrest
      · rename_i more a'' heq
        rw [heq] at hrest
        exact hfirst.trans hrest

/-- Going down the versions idles, wherever it ends. -/
theorem negotiateAt_idles (category : Category) (versions : List Version) (a : Ambient ω) :
    a.Idles (negotiateAt exports module category versions a).2 := by
  induction versions generalizing a with
  | nil => exact .refl
  | cons version older ih =>
    have hfetch := fetch_idles exports module version (Api.groups category) a
    unfold negotiateAt
    split
    · rename_i groups a' heq
      rw [heq] at hfetch
      exact hfetch.write ..
    · rename_i failure a' heq
      rw [heq] at hfetch
      split
      · split
        · exact hfetch.trans (ih a')
        · exact hfetch
      · exact hfetch

/-- Negotiating looks up symbols, asks getters and logs. -/
theorem negotiate_idles (category : Category) (a : Ambient ω) :
    a.Idles (negotiate exports module category a).2 :=
  negotiateAt_idles exports module category _ a

end Negotiation

namespace Builder

variable {ω : Type}

/-- A category that is negotiated, or given up with a message, leaves layers and outside alone. -/
theorem attempt_idles (exports : Exports) (name : String) (module : DriverModule)
    (category : Category) (a : Ambient ω) :
    a.Idles (attempt exports name module category a).2.2 := by
  have hnegotiate := Negotiation.negotiate_idles exports module category a
  unfold attempt
  split
  · rename_i table a' heq
    rw [heq] at hnegotiate
    exact hnegotiate
  · rename_i failure a' heq
    rw [heq] at hnegotiate
    exact hnegotiate.write ..

/-- A driver that is put at its place is held besides the others. -/
theorem place_perm (driver : Driver) (drivers : List Driver) :
    (place driver drivers).Perm (driver :: drivers) := by
  induction drivers with
  | nil => exact .refl _
  | cons first rest ih =>
    unfold place
    split
    · exact .refl _
    · exact (ih.cons first).trans (.swap driver first rest)

/-- What a build under a name that is not held leaves behind. -/
inductive Built (name : String) (id : Nat) (b : Builder) (a : Ambient ω) :
    Except BuildFailure Driver × Builder × Ambient ω → Prop where
  /-- A new driver has the name and the identity that were asked for, and is held from now on. -/
  | held {driver : Driver} {a' : Ambient ω} (name_eq : driver.name = name) (id_eq : driver.id = id)
      (idles : a.Idles a') : Built name id b a (.ok driver, ⟨place driver b.drivers⟩, a')
  | refused {failure : BuildFailure} {a' : Ambient ω} (idles : a.Idles a') :
      Built name id b a (.error failure, b, a')

/-- **A build adds one driver or changes nothing.** -/
theorem build_new (exports : Exports) {name : String} (module : DriverModule) (id : Nat)
    {b : Builder} (hnew : b.find? name = none) (a : Ambient ω) :
    Built name id b a (b.build exports name module id a) := by
  have hcompute := attempt_idles exports name module .compute a
  have htools := attempt_idles exports name module .tools
    (attempt exports name module .compute a).2.2
  have hsysman := attempt_idles exports name module .sysman
    (attempt exports name module .tools (attempt exports name module .compute a).2.2).2.2
  have hidles := (hcompute.trans htools).trans hsysman
  unfold build
  rw [hnew]
  dsimp only
  split
  · exact .refused (hidles.write ..)
  · exact .held rfl rfl (hidles.write ..)

/-- A build under a name that is not held numbers the new driver by how many are held. -/
theorem build_held {exports : Exports} {name : String} {module : DriverModule} {id : Nat}
    {b b' : Builder} {a a' : Ambient ω} {driver : Driver} (hnew : b.find? name = none)
    (hbuild : b.build exports name module id a = (.ok driver, b', a')) :
    driver.name = name ∧ driver.index = b.size ∧ b' = ⟨place driver b.drivers⟩ := by
  unfold build at hbuild
  rw [hnew] at hbuild
  dsimp only at hbuild
  split at hbuild
  · cases hbuild
  · cases hbuild
    exact ⟨rfl, rfl, rfl⟩

end Builder
end DriverLoader
