import QuicHost.Engine.Basic

/-!
# Engines with forced answers

A connection must stand an engine that says anything. Around any engine, a queue
of made-up answers can take the place of what the engine would give out next,
with lengths that need not be those of the bytes.
-/

namespace QuicHost

/-- An engine behind a queue of answers. -/
structure ForcedEngine (ε : Type) where
  /-- the engine -/
  inner : ε
  /-- what is given out before the engine is asked, oldest first -/
  answers : List Written := []

namespace ForcedEngine

variable {ε : Type}

/-- Adds an answer. -/
def force (e : ForcedEngine ε) (answer : Written) : ForcedEngine ε :=
  { e with answers := e.answers ++ [answer] }

/-- Changes the engine. -/
def onInner (e : ForcedEngine ε) (f : ε → ε) : ForcedEngine ε := { e with inner := f e.inner }

/-- Puts back an engine that answered. -/
def putBack {α : Type} (e : ForcedEngine ε) (r : α × ε) : α × ForcedEngine ε :=
  (r.1, { e with inner := r.2 })

instance [PacketEngine ε] : PacketEngine (ForcedEngine ε) where
  readDatagram e datagram now := e.putBack (PacketEngine.readDatagram e.inner datagram now)
  drainCallbacks e := e.putBack (PacketEngine.drainCallbacks e.inner)
  writeDatagram e maxLen now :=
    match e.answers with
    | answer :: rest => (.ok answer, { e with answers := rest })
    | [] => e.putBack (PacketEngine.writeDatagram e.inner maxLen now)
  submitStreamData e id data fin := e.onInner (PacketEngine.submitStreamData · id data fin)
  shutdownWrite e id errorCode := e.onInner (PacketEngine.shutdownWrite · id errorCode)
  shutdownRead e id errorCode := e.onInner (PacketEngine.shutdownRead · id errorCode)
  extendStream e id n := e.onInner (PacketEngine.extendStream · id n)
  extendConnection e n := e.onInner (PacketEngine.extendConnection · n)
  close e errorCode reason := e.onInner (PacketEngine.close · errorCode reason)
  expiry e := PacketEngine.expiry e.inner
  handleExpiry e now := e.putBack (PacketEngine.handleExpiry e.inner now)

end ForcedEngine

end QuicHost
