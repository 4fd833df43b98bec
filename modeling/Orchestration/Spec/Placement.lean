import Orchestration.Json.Codec

/-!
# Placement

Where the instances of a deployable may run.
-/

namespace Orchestration

/-- Where instances may be placed; `localTo` pins them to every executor. -/
inductive PlacementPolicy where
  | any
  | onePerHost
  | maxNPerHost (max : UInt32)
  | matchTag (tag : String)
  | noTag
  | localTo (hostLevel : Bool)
  deriving DecidableEq, Repr

namespace PlacementPolicy

/-- The names of the policies, in their order. -/
def caseNames : List String :=
  ["ANY", "ONE_PER_HOST", "MAX_N_PER_HOST", "MATCH_TAG", "NO_TAG", "LOCAL"]

instance : Wire PlacementPolicy where
  encode
    | .any => .tagged "ANY" []
    | .onePerHost => .tagged "ONE_PER_HOST" []
    | .maxNPerHost max => .tagged "MAX_N_PER_HOST" [("max", encode max)]
    | .matchTag tag => .tagged "MATCH_TAG" [("tag", encode tag)]
    | .noTag => .tagged "NO_TAG" []
    | .localTo hostLevel => .tagged "LOCAL" [("host_level", encode hostLevel)]
  decodeIn mode j := do
    let (tag, j) ← j.tagged? mode caseNames
    match tag with
    | "ANY" => (Fields.of? .buffered [] j).map (fun _ => .any)
    | "ONE_PER_HOST" => (Fields.of? .buffered [] j).map (fun _ => .onePerHost)
    | "MAX_N_PER_HOST" =>
      let f ← Fields.of? .buffered ["max"] j
      return .maxNPerHost (← f.required "max")
    | "MATCH_TAG" =>
      let f ← Fields.of? .buffered ["tag"] j
      return .matchTag (← f.required "tag")
    | "NO_TAG" => (Fields.of? .buffered [] j).map (fun _ => .noTag)
    | "LOCAL" =>
      let f ← Fields.of? .buffered ["host_level"] j
      return .localTo (← f.required "host_level")
    | _ => none

/-- Whether instances are pinned to every executor. -/
def isLocal : PlacementPolicy → Bool
  | .localTo _ => true
  | _ => false

/-- Whether instances are pinned to every executor at the level of the host. -/
def isHostLevel : PlacementPolicy → Bool
  | .localTo hostLevel => hostLevel
  | _ => false

end PlacementPolicy
end Orchestration
