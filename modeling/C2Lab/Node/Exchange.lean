import C2Lab.Core.Memory
import C2Lab.Node.Serving

/-! The exchange between a Node and its Teamserver.

    The Teamserver serves everybody. A request of the Node reaches it when and as often as the
    network likes, and the loop hears of it only while the call lasts: an answer, an error, a
    refusal of the front end, or nothing. Nobody else submits results in the name of the Node. -/

namespace C2Lab

variable {w : World} {isoformat : Timestamp → String}

/-! ### The system -/

/-- An execution of a task, with the node it was handed to. -/
structure Execution where
  nodeId : PyStr
  outcome : PendingResult

/-- A Node and its Teamserver. Of the open call, if there is one, the replies are kept; of the past,
    the requests sent, the nodes enrolled by answered requests and the tasks executed. -/
structure NodeSystem where
  server : LabState
  node : NodeProcess
  replies : Option (List NodeReply)
  sent : List NodeRequest
  issued : List PyStr
  executed : List Execution

/-- The loop goes on. -/
def NodeProcess.Running (p : NodeProcess) : Prop := p.stopped = false ∧ p.raised = false

/-- The operation submits a result in the name of node `a`. -/
def Op.SubmitsAs (a : PyStr) : Op → Prop
  | submitResult nodeId .. => nodeId = .str a
  | _ => False

/-- The node an answer enrolls. -/
def enrolledBy : Except Exc Reply → List PyStr
  | .ok (.enrolled r) => [r.node.id]
  | _ => []

/-- What the front end answers on its own to a request of a Node. -/
def NodeReply.TurnsAway : NodeReply → Prop
  | ok _ => False
  | refused status => status = 401 ∨ 500 ≤ status

namespace NodeSystem

/-- The Teamserver does not forget a result it accepted while the Node waits for the answer, unless
    it forgets the node. -/
def Minds (σ : NodeSystem) (s' : LabState) : Prop :=
  ∀ x ∈ σ.node.session, ∀ r ∈ σ.node.pending, (s'.nodes.get? x.id).isSome →
    σ.server.Knows r.taskId → s'.Knows r.taskId

/-- The executions once a turn ended with the given state of the loop. -/
def executedAfter (σ : NodeSystem) (p : NodeProcess) : List Execution :=
  match σ.node.session, σ.node.pending, p.pending with
  | some x, none, some r => ⟨x.id, r⟩ :: σ.executed
  | _, _, _ => σ.executed

/-- A Node that has just been started, at a Teamserver in use. -/
structure Start (w : World) (σ : NodeSystem) : Prop where
  reachable : Reachable w σ.server
  node : ∃ name x, σ.node = .start name x
  replies : σ.replies = none
  sent : σ.sent = []
  issued : σ.issued = []
  executed : σ.executed = []

end NodeSystem

/-- One step of the exchange, in which the Teamserver serves the operations `Serves`. -/
inductive NodeStep (w : World) (isoformat : Timestamp → String)
    (Serves : NodeSystem → Op → Prop) (σ : NodeSystem) : NodeSystem → Prop
  /-- Somebody else's operation. -/
  | operate (op : Op) (hother : ∀ a ∈ σ.issued, ¬op.SubmitsAs a)
      (hf : w.FreshBelow (step w σ.server op).draws) (hserves : Serves σ op) :
      NodeStep w isoformat Serves σ { σ with server := step w σ.server op }
  /-- The Node opens a call. -/
  | call {request : NodeRequest} (hidle : σ.replies = none) (hrun : σ.node.Running)
      (hreq : σ.node.request w.toInterp = .ok request) :
      NodeStep w isoformat Serves σ { σ with replies := some [], sent := request :: σ.sent }
  /-- The client finds its own request invalid. -/
  | unsent {e : ClientExc} (hidle : σ.replies = none) (hrun : σ.node.Running)
      (hreq : σ.node.request w.toInterp = .error e) :
      NodeStep w isoformat Serves σ { σ with node := σ.node.failed e }
  /-- The Teamserver serves the open call. -/
  | serve {request : NodeRequest} {replies : List NodeReply} (hcall : σ.replies = some replies)
      (hreq : σ.node.request w.toInterp = .ok request) (now : Instant)
      (hf : w.FreshBelow (step w σ.server (request.op now)).draws)
      (hserves : Serves σ (request.op now)) :
      NodeStep w isoformat Serves σ { σ with
        server := step w σ.server (request.op now)
        replies := some (replies ++
          (nodeReply isoformat (answer w σ.server (request.op now))).toList)
        issued := enrolledBy (answer w σ.server (request.op now)) ++ σ.issued }
  /-- The Teamserver serves an earlier request, for which nobody waits any more. -/
  | late {request : NodeRequest} (hsent : request ∈ σ.sent) (now : Instant)
      (hf : w.FreshBelow (step w σ.server (request.op now)).draws)
      (hserves : Serves σ (request.op now)) :
      NodeStep w isoformat Serves σ { σ with server := step w σ.server (request.op now) }
  /-- A reply arrives, or the front end turned the request away. -/
  | receive {replies : List NodeReply} {reply : NodeReply} (hcall : σ.replies = some replies)
      (hreply : reply ∈ replies ∨ reply.TurnsAway)
      (around : { around : Surroundings // around.Documents }) :
      NodeStep w isoformat Serves σ { σ with
        node := σ.node.receive w.toInterp around reply
        replies := none
        executed := σ.executedAfter (σ.node.receive w.toInterp around reply) }
  /-- No reply arrives in time. -/
  | giveUp {replies : List NodeReply} (hcall : σ.replies = some replies) (message : PyStr) :
      NodeStep w isoformat Serves σ { σ with
        node := σ.node.failed (.client { message := message })
        replies := none }

/-- A system some exchange with such a Teamserver ends in. -/
def NodeRun (w : World) (isoformat : Timestamp → String) (Serves : NodeSystem → Op → Prop)
    (σ : NodeSystem) : Prop :=
  ∃ σ₀ : NodeSystem, σ₀.Start w ∧ Relation.ReflTransGen (NodeStep w isoformat Serves) σ₀ σ

/-- The Teamserver minds the result the Node has pending. -/
def NodeReachable (w : World) (isoformat : Timestamp → String) : NodeSystem → Prop :=
  NodeRun w isoformat fun σ op => σ.Minds (step w σ.server op)

/-- The Teamserver evicts no tombstone of an accepted result. -/
def NodeRetaining (w : World) (isoformat : Timestamp → String) : NodeSystem → Prop :=
  NodeRun w isoformat fun σ op => σ.server.EvictsNone w op

end C2Lab
