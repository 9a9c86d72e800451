/-
# Version negotiation

A driver is asked for the sub-tables of a category at the released versions, from the newest to the
oldest.  A required getter that answers "unsupported version" sends the question on to the next older
version; any other refusal of a required getter ends the negotiation.  Groups that are not required
may be absent or refuse, and are then left out of the table.
-/

import DriverLoader.NullDriver

namespace DriverLoader
namespace Negotiation

variable {ω : Type}

/-- The sub-table of one group at a version, or nothing for a group that may be left out. -/
def fetchGroup (exports : Exports) (module : DriverModule) (version : Version)
    (group : FeatureGroup) (a : Ambient ω) :
    Except BuildFailure (Option SubTable) × Ambient ω :=
  match exports group.symbol with
  | none =>
    let a := a.record (.lookup module group.symbol false)
    if group.required then (.error (.missingGroup group.category group.name), a)
    else (.ok none, a.write .debug s!"{group.symbol}: not exported")
  | some getter =>
    let (result, slots) := getter version
    let a := a.record (.lookup module group.symbol true)
    let a := a.record (.getter module group.symbol version result)
    if result.isSuccess then (.ok (some slots), a)
    else if group.required then (.error (.rejected group.category group.name result), a)
    else (.ok none, a.write .debug s!"{group.symbol}({version}) returned {result}")

/-- The sub-tables of all groups at a version, or the first refusal of a required group. -/
def fetch (exports : Exports) (module : DriverModule) (version : Version) :
    List FeatureGroup → Ambient ω → Except BuildFailure (List (String × SubTable)) × Ambient ω
  | [], a => (.ok [], a)
  | group :: rest, a =>
    match fetchGroup exports module version group a with
    | (.error failure, a) => (.error failure, a)
    | (.ok slots, a) =>
      match fetch exports module version rest a with
      | (.error failure, a) => (.error failure, a)
      | (.ok more, a) => (.ok ((slots.map (group.name, ·)).toList ++ more), a)

/-- The table at the first version that is accepted, or why there is none. -/
def negotiateAt (exports : Exports) (module : DriverModule) (category : Category) :
    List Version → Ambient ω → Except BuildFailure Table × Ambient ω
  | [], a => (.error (.noCommonVersion category), a)
  | version :: older, a =>
    match fetch exports module version (Api.groups category) a with
    | (.ok groups, a) =>
      let text := s!"{category} table negotiated at {version} with " ++ toString groups.length ++
        " of " ++ toString (Api.groups category).length ++ " groups"
      (.ok ⟨true, version, groups⟩, a.write .debug text)
    | (.error failure, a) =>
      match failure with
      | .rejected _ _ code =>
        if code = .unsupportedVersion then negotiateAt exports module category older a
        else (.error failure, a)
      | _ => (.error failure, a)

/-- The table of a category at the newest version that a module accepts, or why there is none. -/
def negotiate (exports : Exports) (module : DriverModule) (category : Category) (a : Ambient ω) :
    Except BuildFailure Table × Ambient ω :=
  negotiateAt exports module category Version.released.reverse a

end Negotiation
end DriverLoader
