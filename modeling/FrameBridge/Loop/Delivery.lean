import FrameBridge.Loop.Transport
import FrameBridge.Wire.Channel

/-!
# Delivering frames

The frames that a bridge flushed are written to the transport in order, and then
the transport is flushed.  Only then are the promises of all of them kept; if
anything fails before, the promises of all of them fail alike, and no frame behind
the failing one is written.
-/

namespace FrameBridge

/-- Frames on their way to the transport. -/
structure Delivery where
  /-- The promises of the frames that are written, in order. -/
  written : List Promise := []
  /-- The frames that are not written yet; of the first one only what is left of it. -/
  waiting : List Outbound
deriving DecidableEq, Repr, Inhabited

/-- What a step of a delivery comes to. -/
inductive DeliveryStep (τ : Type) where
  /-- The transport has to be waited for. -/
  | pending
  | going (delivery : Delivery) (transport : τ)
  /-- The delivery has ended, with these writes. -/
  | ended (failure : Option BridgeError) (resolutions : List Resolution) (transport : τ)

namespace Delivery

/-- The end of a delivery that failed while the frame with the promise `now` was written. -/
def failWith (written : List Promise) (now : List Promise) (rest : List Outbound)
    (e : BridgeError) : List Resolution :=
  (now ++ written ++ rest.map (·.promise)).map fun p => ⟨p, .error e⟩

variable {τ : Type} [Transport τ]

/-- Takes one step. -/
def step (d : Delivery) (t : τ) : DeliveryStep τ :=
  match d.waiting with
  | [] =>
      match Transport.flush t with
      | (.ok _, t) => .ended none (d.written.map fun p => ⟨p, .ok ()⟩) t
      | (.error m, t) => .ended (some (.transport m)) (failWith d.written [] [] (.transport m)) t
  | o :: rest =>
      -- A frame of which nothing is left is written, and the transport is not asked.
      if o.bytes.isEmpty then .going ⟨d.written ++ [o.promise], rest⟩ t
      else
        match Transport.write t o.bytes with
        | (.pending, _) => .pending
        | (.failed m, t) =>
            .ended (some (.transport m)) (failWith d.written [o.promise] rest (.transport m)) t
        | (.ready 0, t) =>
            .ended (some (.transport "write zero"))
              (failWith d.written [o.promise] rest (.transport "write zero")) t
        | (.ready (n + 1), t) =>
            .going { d with waiting := { o with bytes := o.bytes.drop (n + 1) } :: rest } t

end Delivery

end FrameBridge
