/-!
# Metrics

Counters that are raised while bridges run.  A counter that was never raised is
not reported; the gauge of running loops is reported once it was touched, also
when it is back at zero.
-/

namespace FrameBridge

/-- Where an error was handled. -/
inductive ErrorLabel where
  | contract
  | exception
  | protocol
  | panic
deriving DecidableEq, Repr, Inhabited

/-- The label of a place. -/
def ErrorLabel.display : ErrorLabel → String
  | .contract => "contract"
  | .exception => "exception"
  | .protocol => "protocol"
  | .panic => "panic"

/-- The totals. -/
structure Metrics where
  inbound : Nat := 0
  outbound : Nat := 0
  contract : Nat := 0
  exception : Nat := 0
  protocol : Nat := 0
  panic : Nat := 0
  running : Option Int := none
deriving DecidableEq, Repr, Inhabited

namespace Metrics

/-- The name of the gauge of running loops. -/
def runningName : String := "h2_bridge_connections_active"

/-- The name of the counter of frames. -/
def framesName : String := "h2_bridge_frames_total"

/-- The name of the counter of errors. -/
def errorsName : String := "h2_bridge_errors_total"

/-- A frame was routed to the connection. -/
def countInbound (m : Metrics) : Metrics := { m with inbound := m.inbound + 1 }

/-- A frame was accepted by a channel. -/
def countOutbound (m : Metrics) : Metrics := { m with outbound := m.outbound + 1 }

/-- An error was handled. -/
def countError (m : Metrics) : ErrorLabel → Metrics
  | .contract => { m with contract := m.contract + 1 }
  | .exception => { m with exception := m.exception + 1 }
  | .protocol => { m with protocol := m.protocol + 1 }
  | .panic => { m with panic := m.panic + 1 }

/-- A loop started. -/
def loopStarted (m : Metrics) : Metrics := { m with running := some (m.running.getD 0 + 1) }

/-- A loop ended. -/
def loopEnded (m : Metrics) : Metrics := { m with running := some (m.running.getD 0 - 1) }

/-- The number of loops that run. -/
def runningLoops (m : Metrics) : Nat := (m.running.getD 0).toNat

/-- The errors handled under a label. -/
def errors (m : Metrics) : ErrorLabel → Nat
  | .contract => m.contract
  | .exception => m.exception
  | .protocol => m.protocol
  | .panic => m.panic

/-- The metrics that were touched, each with its full name. -/
def report (m : Metrics) : List (String × Int) :=
  let counter (name : String) (n : Nat) : List (String × Int) :=
    if n = 0 then [] else [(name, (n : Int))]
  let labelled (name label value : String) := name ++ "\x7b" ++ label ++ "=" ++ value ++ "\x7d"
  counter (labelled framesName "direction" "inbound") m.inbound ++
    counter (labelled framesName "direction" "outbound") m.outbound ++
    [ErrorLabel.contract, .exception, .protocol, .panic].flatMap
      (fun l => counter (labelled errorsName "kind" l.display) (m.errors l)) ++
    (m.running.map fun n => (runningName, n)).toList

end Metrics

end FrameBridge
