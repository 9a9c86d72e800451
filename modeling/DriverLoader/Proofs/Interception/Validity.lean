/-
# What a validation layer lets through

The built-in checkers look at three things, each at the parameters and the arguments given for them:
null handles and null pointers that have to be given, and handles of the entry point's own category
that are not live (`Call.NullHandle`, `Call.NullPointer`, `Call.StaleHandle`).  A layer with both
checkers rejects a call for the first of the three that applies, with a code of its own, and otherwise
lets it through (`Checker.judged_builtIn`).

Where the call is routed by a handle of its own category, that handle is then live.  No layer touches
the registry, so it still is when the call has passed all layers: what the terminal would do with a
handle that nobody knows makes no difference (`LayerStack.run_congr_of_validated`).
-/

import DriverLoader.Proofs.Interception.Rejection
import DriverLoader.Proofs.Loader.Registration

namespace DriverLoader

/-! ### What can be wrong with a call -/

/-- An argument is of the kind that a parameter takes. -/
def Parameter.Takes (p : Parameter) (arg : CallArgument) : Prop :=
  match p.kind, arg with
  | .handle _, .handle _ | .handles, .handles _ | .pointer, .pointer _
  | .unsigned _, .unsigned _ | .signed, .signed _ | .float, .float _
  | .aggregate, .aggregate _ => True
  | _, _ => False

namespace Call

variable {call : Call}

/-- The arguments match the parameters, one by one. -/
def Matches (call : Call) : Prop :=
  List.Forall₂ Parameter.Takes call.entry.parameters call.args

/-- An argument is given for a parameter: both stand at the same position. -/
def Gives (call : Call) (p : Parameter) (arg : CallArgument) : Prop :=
  ∃ position : Nat,
    call.entry.parameters[position]? = some p ∧ call.args[position]? = some arg

/-- A null handle is passed by value where one has to be given. -/
def NullHandle (call : Call) : Prop :=
  ∃ p, p.optional = false ∧ call.Gives p (.handle Handle.null)

/-- A null pointer is passed, to handles or to anything else, where one has to be given. -/
def NullPointer (call : Call) : Prop :=
  ∃ p, p.optional = false ∧ (call.Gives p (.handles none) ∨ call.Gives p (.pointer none))

/-- A handle that is not null is passed by value, is of the entry point's own category, and is not
live. -/
def StaleHandle (call : Call) (r : Registry) : Prop :=
  ∃ p h, p.kind = .handle call.entry.category ∧ call.Gives p (.handle h) ∧ h ≠ Handle.null ∧
    r.isLive h = false

/-- A checker sees an argument with a parameter exactly if it is given for it. -/
theorem mem_pairs_iff {p : Parameter} {arg : CallArgument} :
    (p, arg) ∈ Checker.pairs call.entry call.args ↔ call.Gives p arg := by
  unfold Checker.pairs Gives
  simp only [List.mem_iff_getElem?, List.getElem?_zip_eq_some]

/-- What the built-in checkers have to say about a call, in the order in which it counts. -/
inductive Judged (call : Call) (r : Registry) : Option ResultCode → Prop where
  | nullHandle (applies : call.NullHandle) : Judged call r (some .invalidNullHandle)
  | nullPointer (given : ¬call.NullHandle) (applies : call.NullPointer) :
      Judged call r (some .invalidNullPointer)
  | staleHandle (given : ¬call.NullHandle) (pointing : ¬call.NullPointer)
      (applies : call.StaleHandle r) : Judged call r (some .invalidArgument)
  | valid (given : ¬call.NullHandle) (pointing : ¬call.NullPointer)
      (live : ¬call.StaleHandle r) : Judged call r none

/-- Which verdict it is says what is wrong with the call. -/
theorem Judged.iffs {r : Registry} {verdict : Option ResultCode} (h : call.Judged r verdict) :
    (verdict = some .invalidNullHandle ↔ call.NullHandle) ∧
      (verdict = some .invalidNullPointer ↔ ¬call.NullHandle ∧ call.NullPointer) ∧
      (verdict = some .invalidArgument ↔
        ¬call.NullHandle ∧ ¬call.NullPointer ∧ call.StaleHandle r) ∧
      (verdict = none ↔ ¬call.NullHandle ∧ ¬call.NullPointer ∧ ¬call.StaleHandle r) := by
  have hcodes : ResultCode.invalidNullHandle ≠ .invalidNullPointer ∧
      ResultCode.invalidNullHandle ≠ .invalidArgument ∧
      ResultCode.invalidNullPointer ≠ .invalidArgument := by decide
  obtain ⟨hhandle, hargument, hpointer⟩ := hcodes
  cases h with
  | nullHandle applies => simp [applies, hhandle, hargument]
  | nullPointer given applies => simp [given, applies, hhandle.symm, hpointer]
  | staleHandle given pointing applies =>
    simp [given, pointing, applies, hargument.symm, hpointer.symm]
  | valid given pointing live => simp [given, pointing, live]

end Call

/-- Only one handle is null. -/
theorem Argument.isNull_handle_iff {α : Type} {arg : Argument α} :
    (arg.handle?.isSome && arg.isNull) = true ↔ arg = .handle Handle.null := by
  cases arg <;> simp [handle?, isNull, Handle.isNull]

/-- An address is null if it is that of no handles or of nothing else. -/
theorem Argument.isNull_address_iff {α : Type} {arg : Argument α} :
    (arg.address?.isSome && arg.isNull) = true ↔ arg = .handles none ∨ arg = .pointer none := by
  cases arg <;> simp [address?, isNull]

/-- The category of a handle is that of the kind of its parameter. -/
theorem Parameter.handleCategory?_eq_some_iff {p : Parameter} {category : Category} :
    p.handleCategory? = some category ↔ p.kind = .handle category := by
  unfold handleCategory?
  cases p.kind <;> simp

namespace Checker

variable {call : Call}

/-- Among the arguments that have to be given there is one of some shape. -/
theorem any_required_iff {test : Parameter × CallArgument → Bool} :
    ((pairs call.entry call.args).filter fun (p, _) => !p.optional).any test = true ↔
      ∃ p, p.optional = false ∧ ∃ arg, call.Gives p arg ∧ test (p, arg) = true := by
  simp only [List.any_eq_true, List.mem_filter, Prod.exists, Call.mem_pairs_iff, Bool.not_eq_true']
  constructor
  · rintro ⟨p, arg, ⟨hgives, hoptional⟩, htest⟩
    exact ⟨p, hoptional, arg, hgives, htest⟩
  · rintro ⟨p, hoptional, arg, hgives, htest⟩
    exact ⟨p, arg, ⟨hgives, hoptional⟩, htest⟩

/-- The checker finds a null handle exactly if the call passes one. -/
theorem any_nullHandle_iff :
    ((pairs call.entry call.args).filter fun (p, _) => !p.optional).any
      (fun (_, arg) => arg.handle?.isSome && arg.isNull) = true ↔ call.NullHandle := by
  rw [any_required_iff]
  simp only [Argument.isNull_handle_iff, exists_eq_right]
  rfl

/-- The checker finds a null pointer exactly if the call passes one. -/
theorem any_nullPointer_iff :
    ((pairs call.entry call.args).filter fun (p, _) => !p.optional).any
      (fun (_, arg) => arg.address?.isSome && arg.isNull) = true ↔ call.NullPointer := by
  rw [any_required_iff]
  simp only [Argument.isNull_address_iff, and_or_left, exists_or, exists_eq_right]
  unfold Call.NullPointer
  simp only [and_or_left, exists_or]

/-- One argument is a stale handle of a category. -/
theorem isSome_stale_iff {r : Registry} {category : Category} {p : Parameter} {arg : CallArgument} :
    (if p.handleCategory? = some category then
        arg.handle?.filter fun h => !h.isNull && !r.isLive h else none).isSome = true ↔
      ∃ h, p.kind = .handle category ∧ arg = .handle h ∧ h ≠ Handle.null ∧ r.isLive h = false := by
  rw [← Parameter.handleCategory?_eq_some_iff]
  by_cases hcategory : p.handleCategory? = some category
  · rw [if_pos hcategory]
    cases arg <;> simp [hcategory, Argument.handle?, Handle.isNull]
  · rw [if_neg hcategory]
    simp [hcategory]

/-- The checker finds a stale handle exactly if the call passes one. -/
theorem isSome_staleHandle?_iff {r : Registry} :
    (staleHandle? r.isLive call.entry call.args).isSome = true ↔ call.StaleHandle r := by
  unfold staleHandle?
  simp only [List.findSome?_isSome_iff, Prod.exists, Call.mem_pairs_iff, isSome_stale_iff]
  constructor
  · rintro ⟨p, arg, hgives, h, hkind, rfl, hstale⟩
    exact ⟨p, h, hkind, hgives, hstale⟩
  · rintro ⟨p, h, hkind, hgives, hstale⟩
    exact ⟨p, .handle h, hgives, h, hkind, rfl, hstale⟩

/-- **What the built-in checkers say.**  Null handles are reported before null pointers, and these
before handles that are not live. -/
theorem judged_builtIn (call : Call) (r : Registry) :
    call.Judged r ((ValidationLayer.ofConfig ⟨true, true⟩).checkers.findSome?
      (·.verdict r.isLive call.entry call.args)) := by
  show call.Judged r (List.findSome? _ [parameter, handleLifetime])
  rw [List.findSome?_cons, List.findSome?_singleton]
  unfold verdict nullVerdict
  dsimp only
  by_cases hhandle : call.NullHandle
  · rw [if_pos (any_nullHandle_iff.2 hhandle)]
    exact .nullHandle hhandle
  · rw [if_neg (mt any_nullHandle_iff.1 hhandle)]
    by_cases hpointer : call.NullPointer
    · rw [if_pos (any_nullPointer_iff.2 hpointer)]
      exact .nullPointer hhandle hpointer
    · rw [if_neg (mt any_nullPointer_iff.1 hpointer)]
      by_cases hstale : call.StaleHandle r
      · obtain ⟨h, hfound⟩ := Option.isSome_iff_exists.1 (isSome_staleHandle?_iff.2 hstale)
        rw [hfound]
        exact .staleHandle hhandle hpointer hstale
      · rw [Option.not_isSome_iff_eq_none.1 (mt isSome_staleHandle?_iff.1 hstale)]
        exact .valid hhandle hpointer hstale

end Checker

/-! ### What becomes of a call -/

/-- No result code is the only one. -/
theorem ResultCode.exists_other (code : ResultCode) : ∃ other : ResultCode, other ≠ code := by
  by_cases h : code = .success
  · exact ⟨.uninitialized, by rw [h]; decide⟩
  · exact ⟨.success, Ne.symm h⟩

variable {ω : Type}

namespace ValidationLayer

/-- A layer answers a call with a code, whatever the rest of the chain would do: the rest is not run,
and handles, memory, outside and invocations stay as they are. -/
def Rejects (layer : ValidationLayer) (call : Call) (id : LayerId) (s : Frame ω)
    (code : ResultCode) : Prop :=
  ∀ next : Rest ω, (layer.intercept call id next s).1 = code ∧
    (layer.intercept call id next s).2.core = s.core

/-- A layer leaves a call to the rest of the chain, which finds everything as it was. -/
def Accepts (layer : ValidationLayer) (call : Call) (id : LayerId) (s : Frame ω) : Prop :=
  ∀ next : Rest ω, ∃ s', s'.core = s.core ∧ (layer.intercept call id next s).1 = (next s').1 ∧
    (layer.intercept call id next s).2.core = (next s').2.core

variable {layer : ValidationLayer} {call : Call} {id : LayerId} {s : Frame ω}

/-- A layer rejects a call with the first verdict of its checkers.  That the answer is not one of the rest
of the chain shows with a rest that answers something else. -/
theorem rejects_iff {code : ResultCode} :
    layer.Rejects call id s code ↔
      layer.checkers.findSome? (·.verdict s.registry.isLive call.entry call.args) = some code := by
  constructor
  · intro hrejects
    obtain ⟨other, hother⟩ := code.exists_other
    cases intercept_spec call id layer (fun s => (other, s)) s with
    | rejected found hverdict hresult =>
      rw [hverdict, ← hresult, (hrejects _).1]
    | passed s' hverdict hbefore hafter hresult =>
      exact absurd ((hresult rfl).symm.trans (hrejects _).1) hother
  · intro hverdict next
    cases intercept_spec call id layer next s with
    | rejected found hfound hresult hcore =>
      obtain rfl := Option.some.inj (hfound.symm.trans hverdict)
      exact ⟨hresult, hcore⟩
    | passed s' hnone => cases hnone.symm.trans hverdict

/-- A layer accepts a call if no checker rejects it. -/
theorem accepts_iff :
    layer.Accepts call id s ↔
      layer.checkers.findSome? (·.verdict s.registry.isLive call.entry call.args) = none := by
  constructor
  · intro haccepts
    refine Option.eq_none_iff_forall_ne_some.2 fun code hverdict => ?_
    have hrejects : layer.Rejects call id s code := rejects_iff.2 hverdict
    obtain ⟨other, hother⟩ := code.exists_other
    obtain ⟨_, -, hanswer, -⟩ := haccepts fun s => (other, s)
    exact hother (hanswer.symm.trans (hrejects _).1)
  · intro hverdict next
    cases intercept_spec call id layer next s with
    | rejected code hcode => cases hcode.symm.trans hverdict
    | passed s' _ hbefore hafter hresult => exact ⟨s', hbefore, hresult rfl, hafter⟩

end ValidationLayer

/-! ### What the terminal finds -/

/-- Two rests of a chain do the same on all frames with a core. -/
def Rest.SameOn (core : Core ω) (next next' : Rest ω) : Prop :=
  ∀ s, s.core = core → next s = next' s

variable {next next' : Rest ω} {s : Frame ω}

/-- A tracing layer runs the rest of the chain on the core that it found. -/
theorem TracingLayer.intercept_congr (env : Environment ω) (call : Call) (layer : TracingLayer)
    (h : Rest.SameOn s.core next next') :
    layer.intercept env call next s = layer.intercept env call next' s := by
  dsimp only [intercept]
  rw [h _ (view_prologues Frame.core_undisturbed call env layer.observing s)]

/-- The rest of the chain matters only if no checker rejects the call. -/
theorem ValidationLayer.intercept_congr (call : Call) (id : LayerId) (layer : ValidationLayer)
    (h : layer.checkers.findSome? (·.verdict s.registry.isLive call.entry call.args) = none →
      Rest.SameOn s.core next next') :
    layer.intercept call id next s = layer.intercept call id next' s := by
  have hverdict := reject?_verdict call layer.checkers
    { s with layers := s.layers.updateValidation id countChecked }
  have hcore := view_reject? Frame.core_undisturbed call layer.checkers
    { s with layers := s.layers.updateValidation id countChecked }
  dsimp only [intercept]
  split
  · rfl
  · rename_i s₁ heq
    rw [heq] at hverdict hcore
    rw [h hverdict.symm s₁ (hcore.trans (core_updateValidation s id fun _ => rfl))]

/-- A probe runs the rest of the chain on the core that it found. -/
theorem ProbeLayer.intercept_congr (call : Call) (ahead : Nat) (probe : ProbeLayer)
    (h : Rest.SameOn s.core next next') :
    probe.intercept call ahead next s = probe.intercept call ahead next' s := by
  have hnoted : (s.record (.reached probe.name call.entry.name ahead (notes call s.registry))).core
      = s.core := Frame.core_record s rfl
  unfold intercept
  cases probe.behaviour with
  | pass => exact h s rfl
  | record | replace _ => dsimp only; rw [h _ hnoted]
  | inspect => dsimp only; rw [h _ ((Frame.core_record _ rfl).trans hnoted)]
  | refuse _ => rfl

namespace LayerStack

/-- A layer that runs the rest of the chain runs it on the core that it found. -/
theorem intercept_congr (env : Environment ω) (call : Call) (id : LayerId) (ahead : Nat)
    (h : Rest.SameOn s.core next next') :
    intercept env call id ahead next s = intercept env call id ahead next' s := by
  unfold intercept
  split
  · exact TracingLayer.intercept_congr env call _ h
  · exact ValidationLayer.intercept_congr call id _ fun _ => h
  · exact ProbeLayer.intercept_congr call ahead _ h
  · exact h s rfl

/-- Layers run the terminal on frames with the core that the call started with. -/
theorem run_congr (env : Environment ω) (call : Call) {core : Core ω}
    (h : Rest.SameOn core next next') (stack : LayerStack) :
    Rest.SameOn core (run env call next stack) (run env call next' stack) := by
  induction stack with
  | nil => exact h
  | cons id rest ih => exact fun s hs => intercept_congr env call id rest.length (hs ▸ ih)

/-- **Behind a validation layer the terminal matters only for calls that its checkers accept.** -/
theorem run_congr_of_validated (env : Environment ω) (call : Call) {core : Core ω} {id : LayerId}
    {checkers : List Checker} (hkind : core.kinds[id.number]? = some (.validation checkers))
    (h : checkers.findSome? (·.verdict core.registry.isLive call.entry call.args) = none →
      Rest.SameOn core next next') {stack : LayerStack} (hmem : id ∈ stack) :
    Rest.SameOn core (run env call next stack) (run env call next' stack) := by
  induction stack with
  | nil => cases hmem
  | cons first rest ih =>
    intro s hs
    subst hs
    by_cases hfirst : id = first
    · subst hfirst
      obtain ⟨layer, hget, hlayer⟩ := Option.map_eq_some_iff.1
        ((Layers.getElem?_kinds s.layers id).symm.trans hkind)
      cases layer with
      | validation layer =>
        obtain rfl : layer.checkers = checkers := LayerKind.validation.inj hlayer
        unfold run intercept
        rw [hget]
        exact ValidationLayer.intercept_congr call id layer fun hverdict =>
          run_congr env call (h hverdict) rest
      | _ => cases hlayer
    · exact intercept_congr env call first rest.length
        (ih ((List.mem_cons.1 hmem).resolve_left hfirst))

end LayerStack

/-! ### Calls routed by a handle of their own category -/

namespace Dispatch

/-- Forwarding refuses a call because the handle that routes it is unknown or destroyed. -/
def RefusesHandle (r : Registry) (call : Call) : Prop :=
  route r call.entry call.handle = .error .unknownHandle

/-- A driver's table never makes a handle unknown. -/
theorem select_ne_unknownHandle (entry : EntryPoint) (driver : Driver) :
    select entry driver ≠ .error .unknownHandle := by
  unfold select
  dsimp only
  split
  · nofun
  · split
    · nofun
    · split
      · nofun
      · split <;> nofun

/-- A live handle is not refused as unknown. -/
theorem route_ne_unknownHandle {r : Registry} {h : Handle} (hlive : r.isLive h = true)
    (entry : EntryPoint) : route r entry h ≠ .error .unknownHandle := by
  obtain ⟨driver, hroutes⟩ := Registry.isLive_eq_true_iff.1 hlive
  rw [route_of_routes hroutes]
  cases hselect : select entry driver with
  | ok function => nofun
  | error refusal =>
    intro hrefused
    obtain rfl : refusal = .unknownHandle := Except.error.inj hrefused
    exact select_ne_unknownHandle entry driver hselect

end Dispatch

/-- A routed entry point has a first parameter, which has to be given. -/
theorem Api.first_of_routed {category : Category} {entry : EntryPoint}
    (hmem : entry ∈ Api.entries category) (hrouted : entry.routed = true) :
    ∃ p, entry.parameters.head? = some p ∧ p.optional = false := by
  have hall : (Api.entries category).all (fun entry =>
      !entry.routed || entry.parameters.head?.any (!·.optional)) = true := by
    cases category <;> decide +kernel
  have hentry := List.all_eq_true.1 hall entry hmem
  rw [hrouted, Bool.not_true, Bool.false_or, Option.any_eq_true] at hentry
  obtain ⟨p, hfirst, hgiven⟩ := hentry
  exact ⟨p, hfirst, Bool.not_eq_true' _ ▸ hgiven⟩

namespace Call

variable {call : Call} {r : Registry}

/-- The handle that routes a matching call is what is given for the first parameter. -/
theorem gives_handle (hmatches : call.Matches) {p : Parameter} {category : Category}
    (hfirst : call.entry.parameters.head? = some p) (hkind : p.kind = .handle category) :
    call.Gives p (.handle call.handle) := by
  obtain ⟨rest, hparameters⟩ := List.head?_eq_some_iff.1 hfirst
  unfold Matches at hmatches
  rw [hparameters] at hmatches
  obtain ⟨arg, others, htakes, -, hargs⟩ := List.forall₂_cons_left_iff.1 hmatches
  obtain ⟨h, rfl⟩ : ∃ h, arg = .handle h := by
    unfold Parameter.Takes at htakes
    rw [hkind] at htakes
    cases arg with
    | handle h => exact ⟨h, rfl⟩
    | _ => cases htakes
  refine ⟨0, by rw [hparameters]; rfl, ?_⟩
  unfold handle
  rw [hargs]
  rfl

/-- If nothing is wrong with a call that is routed by a handle of its own category, this handle is
live. -/
theorem isLive_handle {category : Category} (hmem : call.entry ∈ Api.entries category)
    (hrouted : call.entry.routed = true) (hmatches : call.Matches)
    (hown : call.entry.parameters.head?.bind (·.handleCategory?) = some call.entry.category)
    (hgiven : ¬call.NullHandle) (hlive : ¬call.StaleHandle r) : r.isLive call.handle = true := by
  obtain ⟨p, hfirst, hrequired⟩ := Api.first_of_routed hmem hrouted
  rw [hfirst, Option.bind_some, Parameter.handleCategory?_eq_some_iff] at hown
  have hgives := gives_handle hmatches hfirst hown
  have hsome : call.handle ≠ Handle.null := fun hnull => hgiven ⟨p, hrequired, hnull ▸ hgives⟩
  refine Bool.of_not_eq_false fun hdead => hlive ⟨p, call.handle, hown, hgives, hsome, hdead⟩

end Call

namespace ValidationLayer

/-- **What a validation layer rejects.**  For every layer with the built-in checkers, every call and
every registry:

* It rejects the call with "invalid null handle" exactly if a null handle is passed where a handle has
  to be given.
* Otherwise it rejects it with "invalid null pointer" exactly if a null pointer is passed where a
  pointer has to be given.
* Otherwise it rejects it with "invalid argument" exactly if a handle of the entry point's own category
  is passed that is neither null nor live.
* Otherwise it accepts the call.

Let the entry point be routed by a handle of its own category, and let the arguments match its
parameters.  Then a call that the layer accepts is not refused for an unknown handle.  In
any stack that the layer stands in, calls come out as they do with every other terminal that does the
same as forwarding where the handle is known, whatever it does elsewhere. -/
theorem intercept_verdict (env : Environment ω) (call : Call) (id : LayerId)
    (layer : ValidationLayer) (s : Frame ω)
    (hchecks : layer.checkers = (ofConfig ⟨true, true⟩).checkers) :
    (layer.Rejects call id s .invalidNullHandle ↔ call.NullHandle) ∧
      (layer.Rejects call id s .invalidNullPointer ↔ ¬call.NullHandle ∧ call.NullPointer) ∧
      (layer.Rejects call id s .invalidArgument ↔
        ¬call.NullHandle ∧ ¬call.NullPointer ∧ call.StaleHandle s.registry) ∧
      (layer.Accepts call id s ↔
        ¬call.NullHandle ∧ ¬call.NullPointer ∧ ¬call.StaleHandle s.registry) ∧
      ∀ category, call.entry ∈ Api.entries category → call.entry.routed = true → call.Matches →
        call.entry.parameters.head?.bind (·.handleCategory?) = some call.entry.category →
          (layer.Accepts call id s → ¬Dispatch.RefusesHandle s.registry call) ∧
            ∀ (stack : LayerStack) (terminal : Rest ω), id ∈ stack →
              s.layers.get? id = some (.validation layer) →
              (∀ s', ¬Dispatch.RefusesHandle s'.registry call →
                terminal s' = Dispatch.forward env call s') →
                LayerStack.run env call terminal stack s = Dispatch.invoke env stack call s := by
  have hjudged := Checker.judged_builtIn call s.registry
  rw [← hchecks] at hjudged
  obtain ⟨hhandle, hpointer, hstale, hvalid⟩ := hjudged.iffs
  have hknown : ∀ category, call.entry ∈ Api.entries category → call.entry.routed = true →
      call.Matches →
      call.entry.parameters.head?.bind (·.handleCategory?) = some call.entry.category →
      layer.checkers.findSome? (·.verdict s.registry.isLive call.entry call.args) = none →
        ¬Dispatch.RefusesHandle s.registry call := by
    intro category hmem hrouted hmatches hown hverdict
    obtain ⟨hgiven, -, hlive⟩ := hvalid.1 hverdict
    exact Dispatch.route_ne_unknownHandle
      (Call.isLive_handle hmem hrouted hmatches hown hgiven hlive) call.entry
  refine ⟨rejects_iff.trans hhandle, rejects_iff.trans hpointer, rejects_iff.trans hstale,
    accepts_iff.trans hvalid, fun category hmem hrouted hmatches hown => ⟨fun haccepts => ?_,
    fun stack terminal hstack hget hterminal => ?_⟩⟩
  · exact hknown category hmem hrouted hmatches hown (accepts_iff.1 haccepts)
  · have hkind : s.core.kinds[id.number]? = some (.validation layer.checkers) := by
      refine (Layers.getElem?_kinds s.layers id).trans ?_
      rw [hget]
      rfl
    refine LayerStack.run_congr_of_validated env call hkind (fun hverdict s' hs' => ?_) hstack s rfl
    have hregistry : s'.registry = s.registry := congrArg Core.registry hs'
    refine hterminal s' fun hrefused => ?_
    exact hknown category hmem hrouted hmatches hown hverdict (hregistry ▸ hrefused)

/-- A listing of devices on a live handle is accepted and finds its driver; on a null handle it is
rejected, whatever the pointers are. -/
theorem intercept_verdict_listing :
    ∃ entry, Api.entry? "zeDeviceGet" = some entry ∧
      (ofConfig ⟨true, true⟩).Accepts ⟨entry, Dispatch.Sample.call.args⟩ ⟨1⟩
        (Dispatch.Sample.frame 1 0) ∧
      ¬Dispatch.RefusesHandle (Dispatch.Sample.frame 1 0).registry
        ⟨entry, Dispatch.Sample.call.args⟩ ∧
      (ofConfig ⟨true, true⟩).Rejects ⟨entry, [.handle Handle.null, .pointer none, .handles none]⟩
        ⟨1⟩ (Dispatch.Sample.frame 1 0) .invalidNullHandle := by
  have hdescribed : (Api.entry? "zeDeviceGet").map (fun entry =>
      (entry.category, entry.routed, entry.parameters))
        = some (.compute, true, [.handle .compute "h_driver", .counter "p_count",
            .nullable (.handles "ph_devices")]) := by
    decide +kernel
  obtain ⟨entry, hfound, hvalues⟩ := Option.map_eq_some_iff.1 hdescribed
  simp only [Prod.mk.injEq] at hvalues
  obtain ⟨hcategory, hrouted, hparameters⟩ := hvalues
  obtain ⟨category, -, hmem⟩ := List.mem_flatMap.1 (List.mem_of_find?_eq_some hfound)
  let call : Call := ⟨entry, Dispatch.Sample.call.args⟩
  let s := Dispatch.Sample.frame 1 0
  have hnonnull : ∀ arg ∈ Dispatch.Sample.call.args,
      arg ≠ .handle Handle.null ∧ arg ≠ .handles none ∧ arg ≠ .pointer none ∧
        arg.handle?.all s.registry.isLive = true := by
    decide +kernel
  have hvalid : ¬call.NullHandle ∧ ¬call.NullPointer ∧ ¬call.StaleHandle s.registry := by
    refine ⟨?_, ?_, ?_⟩
    · rintro ⟨p, -, position, -, harg⟩
      exact (hnonnull _ (List.mem_of_getElem? harg)).1 rfl
    · rintro ⟨p, -, ⟨position, -, harg⟩ | ⟨position, -, harg⟩⟩
      · exact (hnonnull _ (List.mem_of_getElem? harg)).2.1 rfl
      · exact (hnonnull _ (List.mem_of_getElem? harg)).2.2.1 rfl
    · rintro ⟨p, h, -, ⟨position, -, harg⟩, -, hdead⟩
      exact Bool.eq_false_iff.1 hdead (hnonnull _ (List.mem_of_getElem? harg)).2.2.2
  have hmatches : call.Matches := by
    unfold Call.Matches
    rw [hparameters]
    exact .cons trivial (.cons trivial (.cons trivial .nil))
  have hown : call.entry.parameters.head?.bind (·.handleCategory?)
      = some call.entry.category := by
    rw [hparameters, hcategory]
    rfl
  obtain ⟨-, -, -, haccepts, hrouting⟩ := intercept_verdict Dispatch.Sample.environment call ⟨1⟩
    (ofConfig ⟨true, true⟩) s rfl
  obtain ⟨hnull, -⟩ := intercept_verdict Dispatch.Sample.environment
    ⟨entry, [.handle Handle.null, .pointer none, .handles none]⟩ ⟨1⟩ (ofConfig ⟨true, true⟩) s rfl
  obtain ⟨hknown, -⟩ := hrouting category hmem hrouted hmatches hown
  refine ⟨entry, hfound, haccepts.2 hvalid, hknown (haccepts.2 hvalid), hnull.2 ?_⟩
  exact ⟨.handle .compute "h_driver", rfl, 0, by rw [hparameters]; rfl, rfl⟩

end ValidationLayer

end DriverLoader
