import VaultAccess.Http.Message
import VaultAccess.Text.Digits

/-!
# Messages and replies as bytes

A message is one request of HTTP/1.1 after which the connection is closed. The body of a reply
comes in chunks, or is as long as a header says, or goes on to the end.
-/
namespace VaultAccess.Http

open Text (isBlank)

/-- The host and port that a URL leads to. -/
def placeOf (url : Url) : String :=
  url.host.elim "" Url.Host.text ++ url.port.elim "" fun p => ":" ++ Text.Decimal.write p

/-- The bytes of a message. -/
def Message.bytes (m : Message) : List UInt8 :=
  let body := m.body.elim [] Text.Utf8.encode
  let headers := ("Host", placeOf m.url) :: m.headers ++
    [("Content-Length", Text.Decimal.write body.length), ("Connection", "close")]
  let lines := (m.method.name ++ " " ++ m.target ++ " HTTP/1.1") ::
    headers.map fun h => h.1 ++ ": " ++ h.2
  Text.Utf8.encode (String.join (lines.map (· ++ "\r\n")) ++ "\r\n") ++ body

/-- The line ahead without its end, and what follows it. -/
def byteLine (bytes : List UInt8) : List Char × List UInt8 :=
  let line := bytes.takeWhile (· != 10)
  ((line.map fun b => Char.ofNat b.toNat).filter (· != '\r'), bytes.drop (line.length + 1))

/-- The lines before the first empty one, of at most `fuel`, and what follows it. -/
def headLines : Nat → List UInt8 → List (List Char) × List UInt8
  | 0, bytes => ([], bytes)
  | fuel + 1, bytes =>
    let (line, rest) := byteLine bytes
    if line = [] then ([], rest)
    else
      let (lines, rest) := headLines fuel rest
      (line :: lines, rest)

/-- The value of the header with a name in lower case. -/
def header? (lines : List (List Char)) (name : String) : Option (List Char) :=
  lines.findSome? fun line =>
    let found := line.takeWhile (· != ':')
    if found.map Char.toLower = name.toList then
      some (Text.dropEdges isBlank (line.drop (found.length + 1)))
    else none

/-- The location that a reply names, if it can be read. -/
def locationOf? (lines : List (List Char)) : Option String :=
  (header? lines "location").bind fun value =>
    (Text.Utf8.decode (value.map fun c => UInt8.ofNat c.toNat)).toOption

/-- What chunks hold, of at most `fuel`. -/
def chunks : Nat → List UInt8 → List UInt8
  | 0, _ => []
  | fuel + 1, bytes =>
    let (line, rest) := byteLine bytes
    match Text.digitsIn? 16 (line.takeWhile Text.isHexDigit) with
    | none | some 0 => []
    | some size => rest.take size ++ chunks fuel (byteLine (rest.drop size)).2

/-- What the bytes that came back amount to. -/
def Delivery.ofBytes (bytes : List UInt8) : Delivery :=
  let (lines, rest) := headLines bytes.length bytes
  let status := match lines with
    | first :: _ => Text.digitsIn? 10 (((first.dropWhile (· != ' ')).drop 1).takeWhile Char.isDigit)
    | [] => none
  let location := locationOf? lines
  match status with
  | none => .lost
  | some status =>
    if (header? lines "transfer-encoding").any fun v => v.map Char.toLower = "chunked".toList then
      .reply status location (chunks rest.length rest)
    else
      match (header? lines "content-length").bind (Text.digitsIn? 10) with
      | some size =>
        if rest.length < size then .lost else .reply status location (rest.take size)
      | none => .reply status location rest

end VaultAccess.Http
