import Tickflow.Media.Capability
/-!
Messages: bytes with the kind of media they carry, the memory they are in, and when they are from.
-/
namespace Tickflow

inductive PayloadKind where
  | video
  | audio
  | data
  deriving DecidableEq, Repr

def PayloadKind.text : PayloadKind → String
  | .video => "video"
  | .audio => "audio"
  | .data => "data"

inductive Location where
  | host
  | device (pool : Nat)
  deriving DecidableEq, Repr

namespace Location

def text : Location → String
  | .host => "host"
  | .device pool => "device:" ++ toString pool

def capability : Location → Capabilities
  | .host => .hostOnly
  | .device _ => .deviceOnly

end Location

inductive MediaInfo where
  | video (width height : Nat)
  | audio (channels sampleRate : Nat)
  | data
  deriving DecidableEq, Repr

def MediaInfo.kind : MediaInfo → PayloadKind
  | .video _ _ => .video
  | .audio _ _ => .audio
  | .data => .data

structure Payload where
  kind : PayloadKind
  location : Location
  bytes : List UInt8
  deriving DecidableEq, Repr

/-- The sequence number is given by the output port that accepts the message. -/
structure Message where
  payload : Payload
  timestamp : Float
  sequence : Nat
  info : MediaInfo
  deriving DecidableEq, Repr

namespace Message

def ofHost (info : MediaInfo) (bytes : List UInt8) (timestamp : Float) : Message :=
  { payload := ⟨info.kind, .host, bytes⟩, timestamp, sequence := 0, info }

def kind (m : Message) : PayloadKind := m.payload.kind
def location (m : Message) : Location := m.payload.location
def bytes (m : Message) : List UInt8 := m.payload.bytes

/-- The same bytes, said to be elsewhere. -/
def placedAt (m : Message) (location : Location) : Message :=
  { m with payload := { m.payload with location } }

def relocated (m : Message) (location : Location) (bytes : List UInt8) : Message :=
  { m with payload := { m.payload with location, bytes } }

def withSequence (m : Message) (sequence : Nat) : Message := { m with sequence }

def dimensions? (m : Message) : Option (Nat × Nat) :=
  match m.info with
  | .video w h => some (w, h)
  | _ => none

def audioFormat? (m : Message) : Option (Nat × Nat) :=
  match m.info with
  | .audio c r => some (c, r)
  | _ => none

/-- Equality of contents; a message with an undefined timestamp differs from itself. -/
def agrees (a b : Message) : Bool :=
  a.payload == b.payload && a.timestamp == b.timestamp && a.sequence == b.sequence &&
    a.info == b.info

end Message

end Tickflow
