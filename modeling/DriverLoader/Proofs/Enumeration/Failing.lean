/-
# Enumerations that fail

Whatever the drivers answer, an enumeration ends with the first answer other than "success".
`FailsAt` says which inquiries there were up to then: those that completed, and the one that failed.  A
driver's share fails at that driver (`share_journal`), and so, by induction over the drivers, all of
them together fail at one of them, and no driver behind it is called (`collect_journal`).

What a failed enumeration leaves behind is what the inquiries left behind (`Session.driverGet_fails`):
the caller's counter is not written, and nothing that the failing driver put into the array is
adopted.
-/

import DriverLoader.Proofs.Enumeration.Inquiry

namespace DriverLoader
namespace Enumeration

variable {ω : Type}

/-- Inquiries completed and then one failed.  Those that completed were made of drivers `before` the
one that failed, but for the question how many handles the failing driver itself has. -/
structure FailsAt (env : Environment ω) (entry : EntryPoint) (before : List Driver)
    (completed : List (Inquiry ω)) (failing : Inquiry ω) : Prop where
  succeeded : ∀ call ∈ completed, call.Succeeds env entry
  earlier : ∀ call ∈ completed,
    call.driver ∈ before ∨ call.driver = failing.driver ∧ call.array = none
  failed : ¬failing.Succeeds env entry

namespace FailsAt

variable {env : Environment ω} {entry : EntryPoint} {before : List Driver}
  {completed : List (Inquiry ω)} {failing : Inquiry ω}

/-- Inquiries of one more driver went before, and they all succeeded. -/
theorem cons {driver : Driver} {calls : List (Inquiry ω)}
    (hsucceeded : ∀ call ∈ calls, call.Succeeds env entry)
    (hdriver : ∀ call ∈ calls, call.driver = driver)
    (h : FailsAt env entry before completed failing) :
    FailsAt env entry (driver :: before) (calls ++ completed) failing := by
  refine ⟨List.forall_mem_append.2 ⟨hsucceeded, h.succeeded⟩,
    List.forall_mem_append.2 ⟨fun call hcall => ?_, fun call hcall => ?_⟩, h.failed⟩
  · exact .inl (hdriver call hcall ▸ List.mem_cons_self)
  · exact (h.earlier call hcall).imp_left (List.mem_cons_of_mem driver)

/-- The drivers that do not come to their turn do not matter. -/
theorem weaken {driver : Driver} (h : FailsAt env entry before completed failing) :
    FailsAt env entry (driver :: before) completed failing :=
  ⟨h.succeeded, fun call hcall => (h.earlier call hcall).imp_left (List.mem_cons_of_mem driver),
    h.failed⟩

/-- The failing inquiry hands out nothing. -/
theorem handed_append (h : FailsAt env entry before completed failing) :
    (completed ++ [failing]).flatMap (·.handed env entry)
      = completed.flatMap (·.handed env entry) := by
  rw [List.flatMap_append, List.flatMap_singleton, Inquiry.handed_of_not_succeeds h.failed,
    List.append_nil]

/-- Whatever was handed out comes from a driver before the failing one. -/
theorem snd_mem_before (h : FailsAt env entry before completed failing) {seen : Handle × Driver}
    (hseen : seen ∈ completed.flatMap (·.handed env entry)) : seen.2 ∈ before := by
  obtain ⟨call, hcall, hhanded⟩ := List.mem_flatMap.1 hseen
  rw [Inquiry.snd_of_mem_handed hhanded]
  refine (h.earlier call hcall).resolve_right fun hquery => ?_
  rw [Inquiry.handed_of_query hquery.2] at hhanded
  cases hhanded

end FailsAt

/-- **The inquiries of an enumeration.**  All succeeded, or one failed: then it was the last, it gave
the answer, and the drivers behind it were not called. -/
theorem collect_journal (env : Environment ω) (e : Enumeration) (drivers : List Driver)
    (total : UInt32) (s : Frame ω) :
    let outcome := collect env e drivers total s
    (∃ calls, Journal env e.entry calls s outcome.2 ∧
        (∀ call ∈ calls, call.Succeeds env e.entry) ∧ ∃ sum, outcome.1 = .ok sum) ∨
      ∃ before after completed failing,
        Journal env e.entry (completed ++ [failing]) s outcome.2 ∧
          drivers = before ++ failing.driver :: after ∧
          FailsAt env e.entry before completed failing ∧
          outcome.1 = .error (failing.reply env e.entry).result := by
  induction drivers generalizing total s with
  | nil => exact .inl ⟨[], .refl env e.entry s, List.forall_mem_nil _, total, rfl⟩
  | cons driver rest ih =>
    unfold collect
    split
    · exact .inl ⟨[], .refl env e.entry s, List.forall_mem_nil _, total, rfl⟩
    · split
      · refine (ih total s).imp_right ?_
        rintro ⟨before, after, completed, failing, hjournal, hsplit, hfails, hresult⟩
        exact ⟨driver :: before, after, completed, failing, hjournal,
          congrArg (driver :: ·) hsplit, hfails.weaken, hresult⟩
      · rename_i function _
        obtain ⟨asked, last, hshare, hlast, hanswer, hasked⟩ :=
          share_journal env (e := e) driver function total s
        rcases houtcome : share env e driver function total s with ⟨result, count, s₁⟩
        rw [houtcome] at hshare hanswer
        dsimp only at hshare hanswer ⊢
        split
        · rename_i hsuccess
          have hsucceeded : ∀ call ∈ asked ++ [last], call.Succeeds env e.entry :=
            List.forall_mem_append.2 ⟨fun call hcall => (hasked call hcall).2.2,
              List.forall_mem_singleton.2 (hanswer.trans (of_decide_eq_true hsuccess))⟩
          have hdriver : ∀ call ∈ asked ++ [last], call.driver = driver :=
            List.forall_mem_append.2 ⟨fun call hcall => (hasked call hcall).1,
              List.forall_mem_singleton.2 hlast⟩
          rcases ih (total + count) s₁ with
            ⟨calls, hlater, hcalls, hsum⟩ |
            ⟨before, after, completed, failing, hlater, hsplit, hfails, hresult⟩
          · exact .inl ⟨_, hshare.trans hlater, List.forall_mem_append.2 ⟨hsucceeded, hcalls⟩, hsum⟩
          · refine .inr ⟨driver :: before, after, asked ++ [last] ++ completed, failing, ?_,
              congrArg (driver :: ·) hsplit, hfails.cons hsucceeded hdriver, hresult⟩
            rw [List.append_assoc]
            exact hshare.trans hlater
        · rename_i hfailure
          have hfailed : ¬last.Succeeds env e.entry := fun hsucceeds =>
            hfailure (decide_eq_true (hanswer.symm.trans hsucceeds))
          refine .inr ⟨[], rest, asked, last, hshare, by rw [hlast]; rfl, ⟨?_, ?_, hfailed⟩,
            congrArg Except.error hanswer.symm⟩
          · exact fun call hcall => (hasked call hcall).2.2
          · exact fun call hcall => .inr ⟨(hasked call hcall).1.trans hlast.symm,
              (hasked call hcall).2.1⟩

/-- The same of an enumeration through a caller's counter, which calls nobody if there is no counter
or no ready driver. -/
theorem run_journal (env : Environment ω) (entry : EntryPoint) (ready : List Driver)
    (count array : Option Location) (s : Frame ω) :
    let outcome := run env entry ready count array s
    (∃ calls : List (Inquiry ω),
        outcome.2.trace.invocations = s.trace.invocations ++ calls.map (·.invocation env entry) ∧
          ∀ call ∈ calls, call.Succeeds env entry) ∨
      ∃ before after completed failing,
        Journal env entry (completed ++ [failing]) s outcome.2 ∧
          ready = before ++ failing.driver :: after ∧
          FailsAt env entry before completed failing ∧
          outcome.1 = (failing.reply env entry).result := by
  have hnobody : ∃ calls : List (Inquiry ω),
      s.trace.invocations = s.trace.invocations ++ calls.map (·.invocation env entry) ∧
        ∀ call ∈ calls, call.Succeeds env entry :=
    ⟨[], (List.append_nil _).symm, List.forall_mem_nil _⟩
  unfold run
  split
  · exact .inl hnobody
  · rename_i count
    split
    · exact .inl hnobody
    · dsimp only
      have hcollected := collect_journal env ⟨entry, s.memory.readCount count,
        if s.memory.readCount count = 0 then none else array⟩ ready 0 s
      rcases hcollect : collect env ⟨entry, s.memory.readCount count,
        if s.memory.readCount count = 0 then none else array⟩ ready 0 s with ⟨answer, s'⟩
      rw [hcollect] at hcollected
      rcases hcollected with ⟨calls, hjournal, hsucceeded, sum, hsum⟩ |
        ⟨before, after, completed, failing, hjournal, hsplit, hfails, hresult⟩
      · obtain rfl : answer = .ok sum := hsum
        exact .inl ⟨calls, hjournal.invocations, hsucceeded⟩
      · obtain rfl : answer = .error _ := hresult
        exact .inr ⟨before, after, completed, failing, hjournal, hsplit, hfails, rfl⟩

end Enumeration

namespace Session

variable {ω : Type}

/-- **An enumeration fails at the first answer other than "success".**  For every loader, whatever its
drivers answer, with and without an array, let one of the functions called not answer "success", be it
with an error or a warning.

Then this is the last of the functions that were called.  It is the function of one of the ready
drivers, for the question how many handles it has or for the request to fill the array, and:

* All calls before it succeeded.  They were made of drivers before that one, but for the question how
  many handles it has itself.
* Its answer is the answer of the enumeration.
* The memory is what the functions left behind one after the other.  So every slot is as it was that
  none of them changed, and unless one of them changed it, the caller's counter says what it said.
* Each handle that a driver handed out in a completed call, is not null and was not live, is live
  now and bound to that driver, the first one if there are several; these drivers come before the one
  that failed.
* The record of every other handle is what it was. -/
theorem driverGet_fails (env : Environment ω) (s : Session ω) (category : Category)
    (entry : EntryPoint) (count array : Option Location) (memory : Memory) (called : List Invocation)
    (hserved : Api.entry? (driverGetEntry category) = some entry)
    (hcalled : (s.driverGet env category count array memory).2.2.trace.invocations
      = s.trace.invocations ++ called)
    (hfails : ∃ i ∈ called, i.result ≠ .success) :
    let outcome := s.driverGet env category count array memory
    ∃ before after completed failing,
      s.loader.ready category = before ++ failing.driver :: after ∧
        Enumeration.FailsAt env entry before completed failing ∧
        called = (completed ++ [failing]).map (·.invocation env entry) ∧
        outcome.1 = (failing.reply env entry).result ∧
        Enumeration.Chain env entry memory s.host (completed ++ [failing])
          outcome.2.1 outcome.2.2.host ∧
        (∀ location, (∀ call ∈ completed ++ [failing], call.Spares env entry location) →
          (outcome.2.1.slots location.region)[location.slot]?
            = (memory.slots location.region)[location.slot]?) ∧
        (∀ location, count = some location →
          (∀ call ∈ completed ++ [failing], call.Spares env entry location) →
            outcome.2.1.readCount location = memory.readCount location) ∧
        (∀ h driver, h ≠ Handle.null → s.loader.registry.isLive h = false →
          (completed.flatMap (·.handed env entry)).lookup h = some driver →
            driver ∈ before ∧ outcome.2.2.loader.registry.Routes h driver) ∧
        ∀ h, h = Handle.null ∨ s.loader.registry.isLive h = true ∨
            h ∉ (completed.flatMap (·.handed env entry)).map Prod.fst →
          outcome.2.2.loader.registry.find? h = s.loader.registry.find? h := by
  intro outcome
  have houtcome : outcome = s.driverGet env category count array memory := rfl
  unfold driverGet at houtcome hcalled
  rw [hserved] at houtcome hcalled
  rcases Enumeration.run_journal env entry (s.loader.ready category) count array (s.frame memory) with
    ⟨calls, hcalls, hsucceeded⟩ |
    ⟨before, after, completed, failing, hjournal, hready, hfailsAt, hresult⟩
  · obtain ⟨i, hi, hfailed⟩ := hfails
    rw [List.append_cancel_left (hcalled.symm.trans hcalls)] at hi
    obtain ⟨call, hcall, rfl⟩ := List.mem_map.1 hi
    exact absurd (hsucceeded call hcall) hfailed
  have hregistry : outcome.2.2.loader.registry
      = s.loader.registry.adoptEach (completed.flatMap (·.handed env entry)) := by
    rw [houtcome, ← hfailsAt.handed_append]
    exact hjournal.registry
  have hchain : Enumeration.Chain env entry memory s.host (completed ++ [failing])
      outcome.2.1 outcome.2.2.host := by
    rw [houtcome]
    exact hjournal.chain
  refine ⟨before, after, completed, failing, hready, hfailsAt, ?_, ?_, hchain,
    fun location hspares => hchain.spares hspares,
    fun location _ hspares => congrArg (fun slot => (slot.getD 0).toUInt32) (hchain.spares hspares),
    fun h driver hgiven hdead hfirst => ⟨?_, ?_⟩, fun h hkept => ?_⟩
  · exact List.append_cancel_left (hcalled.symm.trans hjournal.invocations)
  · rw [houtcome]
    exact hresult
  · obtain ⟨_, _, hseen, -⟩ := List.lookup_eq_some_iff.1 hfirst
    exact hfailsAt.snd_mem_before (hseen ▸ List.mem_append_cons_self)
  · obtain ⟨serial, -, hfind⟩ := Registry.find?_adoptEach_of_admits hfirst
      (Registry.admits_eq_true_iff.2 ⟨hgiven, hdead⟩)
    exact ⟨hgiven, ⟨serial, driver, true⟩, hregistry ▸ hfind, rfl, rfl⟩
  · rw [hregistry]
    refine Registry.find?_adoptEach_of_kept ?_
    rw [Registry.admits_eq_false_iff]
    exact or_assoc.symm.trans or_comm |>.1 hkept

namespace Sample

/-- The second driver answers a request to fill an array with a warning. -/
def halting : Environment Unit :=
  { listing with
    invoke function entry args memory host :=
      let reply := listing.invoke function entry args memory host
      match function.module, args with
      | .library "right", [_, .handles (some _)] => { reply with result := .droppedData }
      | _, _ => reply }

end Sample

/-- A warning ends an enumeration at the driver that gave it. -/
theorem driverGet_fails_warning :
    ∃ entry before after completed failing,
      Sample.listers.loader.ready .compute = before ++ failing.driver :: after ∧
        Enumeration.FailsAt Sample.halting entry before completed failing ∧
        (completed ++ [failing]).map (fun call =>
          (call.driver.id, (call.reply Sample.halting entry).result))
          = [(0, .success), (0, .success), (1, .success), (1, .droppedData)] := by
  obtain ⟨entry, hserved, -⟩ := driverGetEntry_served .compute
  let outcome := Sample.listers.driverGet Sample.halting .compute (some Sample.count)
    (some Sample.array) Sample.request
  have hcalled : outcome.2.2.trace.invocations.map (fun i => (i.driver, i.result))
      = [(0, .success), (0, .success), (1, .success), (1, .droppedData)] := by
    decide +kernel
  have hwarning : outcome.2.2.trace.invocations.any (·.result ≠ .success) = true := by
    decide +kernel
  obtain ⟨before, after, completed, failing, hready, hfails, hcalls, -⟩ :=
    driverGet_fails Sample.halting Sample.listers .compute entry (some Sample.count)
      (some Sample.array) Sample.request outcome.2.2.trace.invocations hserved rfl
      (by simpa only [List.any_eq_true, decide_eq_true_iff] using hwarning)
  refine ⟨entry, before, after, completed, failing, hready, hfails, ?_⟩
  rw [hcalls, List.map_map] at hcalled
  exact hcalled

end Session
end DriverLoader
