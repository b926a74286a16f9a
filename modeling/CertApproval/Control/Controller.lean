import CertApproval.Cluster.Watch
import CertApproval.Control.Dispatcher
import CertApproval.Control.World

/-!
The controller: it follows the changes of requests, queues their names, and lets workers
look at them until it is stopped.
-/

namespace CertApproval.Control

open CertApproval.Cluster (Session Stream Subscription)

/-- How a controller works. -/
structure Settings where
  rules : Rules
  workers : Int := 2
  requeueDelay : Floating.Double := 5
  watchRetryDelay : Floating.Double := 5

/-- A controller at work. `waits` are the waits between attempts, and `cursor` is the version
where the next session begins. -/
structure Controller where
  world : World
  dispatcher : Dispatcher := {}
  waits : List Floating.Double := []
  cursor : Option String := none

namespace Controller

def startText (settings : Settings) : String :=
  s!"启动调和驱动：signer={settings.rules.signerName}, workers={settings.workers}"

def start (settings : Settings) (controller : Controller) : Controller :=
  { controller with dispatcher := controller.dispatcher.note .info (startText settings) }

/-- Adds a name to the queue, unless a stop is signalled. -/
def enqueue (controller : Controller) (name : String) : Controller :=
  if controller.world.stopped then controller
  else { controller with dispatcher := controller.dispatcher.add name }

/-- Looks at a request, and keeps what happened on the way. -/
def reconcile (settings : Settings) (controller : Controller) (name : String) :
    Except Failure Report × Controller :=
  let (run, world) := settings.rules.run World.api World.resolver name controller.world
  (result run,
    { controller with
      world
      waits := controller.waits ++ run.waits
      dispatcher := controller.dispatcher.noteAll .debug run.notices })

/-- What a worker does with a name that was handed to it. -/
def work (settings : Settings) (controller : Controller) (name : String) : Controller :=
  let (result, controller) := controller.reconcile settings name
  { controller with
    dispatcher := (controller.dispatcher.settle settings.requeueDelay name result).release name }

/-- Lets a worker take the next name. The answer says whether there was one. -/
def processNext (settings : Settings) (controller : Controller) : Bool × Controller :=
  match controller.dispatcher.take with
  | (none, dispatcher) => (false, { controller with dispatcher })
  | (some name, dispatcher) => (true, { controller with dispatcher }.work settings name)

/-- Processes names until there are none, but not more than a number of them. -/
def drain (settings : Settings) : (most : Nat) → Controller → Nat × Controller
  | 0, controller => (0, controller)
  | most + 1, controller =>
    match controller.processNext settings with
    | (false, controller) => (0, controller)
    | (true, controller) =>
      let (count, controller) := drain settings most controller
      (count + 1, controller)

def stoppingText : String := "正在停止调和驱动..."

def stoppedText : String := "调和驱动已停止"

/-- What is reported of workers that have not ended in time. -/
def lateText (workers : List String) : String :=
  let listed := Review.joinTexts ", " (workers.map Text.quoted)
  s!"宽限期内仍有 worker 未退出: [{listed}]"

/-- Stops the controller, which hands nothing out any more. `late` are the workers that have not
ended when the time for it is over. -/
def stop (controller : Controller) (late : List String) : Bool × Controller :=
  let stopping := controller.dispatcher.note .info stoppingText
  let closed := { stopping with work := stopping.work.shutDown }
  let dispatcher :=
    if late.isEmpty then closed.note .info stoppedText
    else closed.note .warning (lateText late)
  (late.isEmpty, { controller with dispatcher, world := controller.world.stop })

def watchNotice (delay : Floating.Double) : Cluster.Failure → Notice
  | .api fault =>
    let seconds := Floating.text delay
    ⟨.warning, s!"CSR 监听中断，{seconds}s 后重新建立：{fault.message}"⟩
  | _ =>
    let seconds := Floating.text delay
    ⟨.error, s!"CSR 监听出现未预期错误，{seconds}s 后重新建立"⟩

/-- Takes over what came of a session. -/
def absorb (settings : Settings) (controller : Controller) (session : Session) : Controller :=
  let controller := session.names.reduceOption.foldl enqueue controller
  let dispatcher := controller.dispatcher.noteAll .info session.notices
  { controller with
    cursor := session.cursor
    dispatcher := match session.ending with
      | .ok _ => dispatcher
      | .error failure =>
        let notice := watchNotice settings.watchRetryDelay failure
        dispatcher.note notice.level notice.text }

/-- Follows changes, one session for each stream, until a stop is signalled, which happens in the
course of one more session where the streams are used up. The answer tells how the sessions
began. -/
def watch (settings : Settings) : List Stream → Controller → List Subscription × Controller
  | streams, controller =>
    if controller.world.stopped then ([], controller)
    else
      let subscription := Subscription.start settings.rules.signerName controller.cursor
      match streams with
      | [] => ([subscription], { controller with world := controller.world.stop })
      | stream :: streams =>
        let session := Session.run (fun _ => false) none controller.cursor stream
        let (subscriptions, controller) :=
          watch settings streams (controller.absorb settings session)
        (subscription :: subscriptions, controller)

end Controller

end CertApproval.Control
