import KeyAssertion.Settings.Number
import KeyAssertion.Settings.Source

/-
  This file defines the settings of discovery: how long
  documents are kept, for all authorities and for single ones,
  and how long a fetch may take.

  Key definitions include:
    * `DiscoverySettings`
    * `DiscoverySettings.load`
    * `DiscoverySettings.durationFor`
-/

namespace KeyAssertion

/- The settings of discovery; durations are in seconds. -/
structure DiscoverySettings where
  cacheDurationSeconds : Int := 86400
  cacheDurations : List (String × Int) := []
  timeoutSeconds : Binary64 := Binary64.ofQuotient 10 1
deriving DecidableEq, Repr, Inhabited

namespace DiscoverySettings

/- How the variables of these settings begin. -/
def namePrefix : String :=
  "CLIENTAUTH_DISCOVERY_"

/- The names of the fields. -/
def fields : List String :=
  ["cache_duration_seconds", "cache_durations", "timeout_seconds"]

/- The duration of one entry of the map. -/
def entry
    (m : JsonString × Json) : Except FieldFault (String × Int) := do
  let n ← (Settings.whole m.2).mapError fun p =>
    ⟨["cache_durations", m.1.toText], p⟩
  return (m.1.toText, n)

/- The durations that a value stands for, and all faults in it. -/
def durations
    (value? : Option Json) :
    Except FieldFault (List (String × Int)) × List FieldFault :=
  match value? with
  | none => (.ok [], [])
  | some (.object members) =>
      (members.mapM entry, members.flatMap fun m => Field.fault? (entry m))
  | some _ =>
      let fault : FieldFault := ⟨["cache_durations"], .dictType⟩
      (.error fault, [fault])

/- The settings of an environment and arguments. -/
def load
    (env : Settings.Environment)
    (init : JsonObject) : Except Settings.Error DiscoverySettings := do
  let standard : DiscoverySettings := {}
  let value (name : String) : Option Json :=
    Settings.merge (Settings.plainValue? env namePrefix name)
      (init.member? name)
  let fromEnv ← Settings.mapValue env namePrefix "cache_durations"
  let (map, mapFaults) :=
    durations (Settings.merge fromEnv (init.member? "cache_durations"))
  let duration := Settings.field "cache_duration_seconds"
    (value "cache_duration_seconds") standard.cacheDurationSeconds
    Settings.natural
  let timeout := Settings.field "timeout_seconds"
    (value "timeout_seconds") standard.timeoutSeconds Settings.positive
  let record : Except FieldFault DiscoverySettings := do
    return ⟨← duration, ← map, ← timeout⟩
  Settings.collect record
    (Field.fault? duration ++ mapFaults ++ Field.fault? timeout
      ++ Settings.extraFaults fields init)

/-
  How many seconds the documents of an authority are kept: the
  first entry for it, slashes at the end aside, else the
  default.
-/
def durationFor
    (s : DiscoverySettings)
    (authority : String) : Int :=
  let key := Text.withoutTrailingSlashes authority
  match s.cacheDurations.find? fun d =>
      Text.withoutTrailingSlashes d.1 == key with
  | some d => d.2
  | none => s.cacheDurationSeconds

end DiscoverySettings

end KeyAssertion
