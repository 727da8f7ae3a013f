import LoginGateway.Crypto.Sha256

namespace LoginGateway.Hmac

def blockKey (key : Octets) : Octets :=
  let short := if key.length > 64 then Sha256.digest key else key
  short ++ List.replicate (64 - short.length) 0

def sign (key message : Octets) : Octets :=
  let block := blockKey key
  let inner := Sha256.digest (block.map (· ^^^ 0x36) ++ message)
  Sha256.digest (block.map (· ^^^ 0x5C) ++ inner)

end LoginGateway.Hmac
