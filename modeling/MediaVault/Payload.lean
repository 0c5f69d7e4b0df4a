/-!
# Incoming payloads

A payload arrives as a stream of pieces, any of which may fail to arrive.
Before it is stored it may have been read completely.
-/

namespace MediaVault

/-- A piece of an incoming payload, or the failure to read one. -/
inductive Chunk where
  | data (bytes : ByteArray)
  | failed (reason : String)
deriving Inhabited

namespace Chunk

/-- All bytes of a stream, or the first failure in it. -/
def collect : List Chunk → Except String ByteArray
  | [] => .ok ByteArray.empty
  | .failed reason :: _ => .error reason
  | .data bytes :: rest => (collect rest).map (bytes ++ ·)

/-- Append all bytes of a stream to `acc`, unless one cannot be read. -/
def collectOnto (acc : ByteArray) : List Chunk → Except String ByteArray
  | [] => .ok acc
  | .failed reason :: _ => .error reason
  | .data bytes :: rest => collectOnto (acc ++ bytes) rest

theorem collectOnto_eq (acc : ByteArray) (chunks : List Chunk) :
    collectOnto acc chunks = (collect chunks).map (acc ++ ·) := by
  induction chunks generalizing acc with
  | nil => simp [collectOnto, collect, Except.map]
  | cons chunk rest ih =>
    cases chunk with
    | failed reason => simp [collectOnto, collect, Except.map]
    | data bytes =>
      simp only [collectOnto, collect, ih]
      cases collect rest with
      | error reason => simp [Except.map]
      | ok b => simp [Except.map, ByteArray.append_assoc]

end Chunk

/-- How a payload reaches the store. -/
inductive Payload where
  /-- Fully read. -/
  | buffered (bytes : ByteArray)
  /-- Of unknown length, piece by piece. -/
  | streamed (chunks : List Chunk)
deriving Inhabited

namespace Payload

/-- The bytes of a payload, or the failure to read them. -/
def collect : Payload → Except String ByteArray
  | buffered bytes => .ok bytes
  | streamed chunks => Chunk.collectOnto ByteArray.empty chunks

end Payload

end MediaVault
