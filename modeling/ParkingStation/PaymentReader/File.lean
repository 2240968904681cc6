import ParkingStation.PaymentReader.Frame

namespace ParkingStation.PaymentReader

inductive FileKind
  | blacklist
  | issuerList
  | config
  deriving DecidableEq

namespace FileKind

def code : FileKind → UInt8
  | blacklist => 0x01
  | issuerList => 0x02
  | config => 0x03

def name : FileKind → String
  | blacklist => "blacklist"
  | issuerList => "issuer_list"
  | config => "config"

def ofName (text : String) : Except Error FileKind :=
  match [blacklist, issuerList, config].find? fun kind => kind.name == text with
  | some kind => .ok kind
  | none => .error (.config (.fileKind text))

end FileKind

structure Chunk where
  kind : FileKind
  index : Nat
  data : Bytes
  deriving DecidableEq

def chunkType : UInt8 := 0x31

def maxChunkSize : Nat := maxFrame - minFrame - 4

def maxChunks : Nat := 65535

namespace Chunk

def isLast (c : Chunk) : Bool := c.data.isEmpty

def toFrame (seq : UInt8) (c : Chunk) : Frame :=
  ⟨false, chunkType, seq :: c.kind.code :: Bytes.ofNat 2 c.index ++ c.data⟩

end Chunk

def chunksFrom (kind : FileKind) (size : Nat) : Nat → Nat → Bytes → List Chunk
  | 0, index, _ => [⟨kind, index, []⟩]
  | n + 1, index, data => ⟨kind, index, data.take size⟩ :: chunksFrom kind size n (index + 1) (data.drop size)

def splitFile (kind : FileKind) (data : Bytes) (size : Nat) : Except Error (List Chunk) :=
  if size = 0 then .error (.config .emptyChunks)
  else
    let count := (data.length + size - 1) / size
    if count < maxChunks then .ok (chunksFrom kind size count 0 data)
    else .error (.frameTooLarge data.length (size * (maxChunks - 1)))

end ParkingStation.PaymentReader
