import GameServers.Bytes
import GameServers.Directory.Region
import GameServers.Failure

namespace GameServers.Directory

def queryHeader : UInt8 := 0x31

def pageHeader : Bytes := [0xff, 0xff, 0xff, 0xff, 0x66, 0x0a]

/-- The seed of the first page and the end of the last one. -/
def terminator : Endpoint := ⟨.unspecified, 0⟩

def query (region : Region) (seed : Endpoint) (filter : String) : Bytes :=
  queryHeader :: region.code :: Text.toBytes seed.text ++ 0 :: Text.toBytes filter ++ [0]

/-- Four bytes of the address, then the port, most significant byte first. -/
def entry (e : Endpoint) : Bytes :=
  [e.ip.a, e.ip.b, e.ip.c, e.ip.d, UInt8.ofNat (e.port.toNat / 256), UInt8.ofNat e.port.toNat]

def page (servers : List Endpoint) : Bytes := pageHeader ++ servers.flatMap entry

def entries : Bytes → List Endpoint
  | a :: b :: c :: d :: hi :: lo :: rest =>
    ⟨⟨a, b, c, d⟩, UInt16.ofNat (hi.toNat * 256 + lo.toNat)⟩ :: entries rest
  | _ => []

def decodePage (datagram : Bytes) : Except Failure (List Endpoint) :=
  if datagram.take pageHeader.length ≠ pageHeader then .error (.malformedPacket .directoryHeader)
  else
    let body := datagram.drop pageHeader.length
    if body.length % 6 ≠ 0 then .error (.malformedPacket (.trailing (body.length % 6)))
    else .ok (entries body)

end GameServers.Directory
