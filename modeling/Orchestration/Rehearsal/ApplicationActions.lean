import Orchestration.Application.Lifecycle
import Orchestration.Rehearsal.Lifecycle

/-!
# The stand-in for application actions

Without a script the actions of an application keep its healthy instances at the number that is
asked for.  New instances are numbered; a number is never used twice, not even when the instance
could not be recorded.

Main definitions: `ApplicationActions.converge`, `ApplicationActions.standIn`.
-/

namespace Orchestration
namespace ApplicationActions

/-- The numbers used so far, by application. -/
abbrev Memory : Type :=
  SortedMap DeployableId Nat

/-- The healthy instances of an application, stale ones included. -/
def healthy (w : ApplicationStores) (id : DeployableId) : List InstanceRecord :=
  Instances.select w.instances.root w.now id [.healthy] true

/-- A new healthy instance with a number. -/
def newInstance (w : ApplicationStores) (id : DeployableId) (number : Nat) : InstanceRecord where
  owner := id
  ownerName := id.text
  instanceId := ⟨id.text ++ "#" ++ toString number⟩
  executorId := ⟨"e1"⟩
  hostname := "e1"
  state := .healthy
  created := w.now
  updated := w.now

/-- Records new instances. -/
def add (id : DeployableId) : Nat → ApplicationStores × Memory → ApplicationStores × Memory
  | 0, s => s
  | missing + 1, (w, m) =>
    let number := (m.find? id).getD 0 + 1
    let r := newInstance w id number
    add id missing ((w.writeInstance id r.instanceId r).1, m.insert id number)

/-- Brings the healthy instances of an application to a number. -/
def converge (id : DeployableId) (count : Nat) (s : ApplicationStores × Memory) :
    ApplicationStores × Memory :=
  let present := healthy s.1 id
  let w := (present.drop count).foldl (fun w r => (w.deleteInstance id r.instanceId).1) s.1
  add id (count - present.length) (w, s.2)

/-- The waiting state that fits the instances. -/
def settled (w : ApplicationStores) (id : DeployableId) : ApplicationState :=
  if (healthy w id).isEmpty then .monitoring else .running

/-- Plays an action. -/
def play (action : ApplicationAction) (w : ApplicationStores) (m : Memory) (id : DeployableId)
    (current : Snapshot ApplicationState ApplicationRecord)
    (pending : Option ApplicationOperation) :
    Played ApplicationState ApplicationRecord ApplicationStores Memory :=
  match action, pending with
  | .create, _ =>
    let (w, accepted) := w.writeRecord id current.data
    if accepted then
      let (w, m) := converge id current.data.instances.toNat (w, m)
      { world := w, memory := m, result := .ok (some (current.move (settled w id))) }
    else
      { world := w, memory := m, acknowledges := false
        result := .error (.failed "could not record app") }
  | .scale, some (.scale _ required _) =>
    let (w, m) := converge id required.toNat (w, m)
    { world := w, memory := m, result := .ok (some (current.move (settled w id))) }
  | .scale, _ =>
    { world := w, memory := m, acknowledges := false
      result := .error (.failed "no pending scale") }
  | .recover, _ =>
    { world := w, memory := m, result := .ok (some (current.move .scalingRequested)) }
  | .stopInstances, some (.stopInstances _ ids _ _) =>
    let w := ids.foldl (fun w i => (w.deleteInstance id i).1) w
    { world := w, memory := m, result := .ok (some (current.move (settled w id))) }
  | .destroy, _ =>
    let (w, m) := converge id 0 (w, m)
    { world := w, memory := m, result := .ok (some (current.move .destroyed)) }
  | _, _ => { world := w, memory := m, result := .ok (some (current.move (settled w id))) }

/-- The stand-in for the actions of applications. -/
def standIn : StandIn ApplicationState ApplicationOperation ApplicationRecord ApplicationAction
    ApplicationStores Memory where
  isCancellable action := action ≠ .create
  play := play

end ApplicationActions

/-- The engine of applications under rehearsal. -/
abbrev ApplicationRehearsal : Type :=
  LifecycleRehearsal ApplicationState ApplicationOperation ApplicationRecord ApplicationAction
    ApplicationStores ApplicationActions.Memory

end Orchestration
