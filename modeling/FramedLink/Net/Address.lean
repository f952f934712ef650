namespace FramedLink.Net

/-- Why an address does not resolve. -/
inductive AddressError where
  | malformed (part why : String)
  | unknownPort (service : String)
  | noSuchHost (host : String)
deriving DecidableEq, Repr

/-- The text of an address error. -/
def AddressError.message : AddressError → String
  | .malformed part why => if part.isEmpty then why else "address " ++ part ++ ": " ++ why
  | .unknownPort service => "lookup tcp/" ++ service ++ ": unknown port"
  | .noSuchHost host => "lookup " ++ host ++ ": no such host"

/-- An IP address: four bytes, or sixteen with a zone (empty for none). -/
inductive IP where
  | v4 (bytes : List Nat)
  | v6 (bytes : List Nat) (zone : String)
deriving DecidableEq, Repr

/-- A resolved address: the IP (none for every interface) and the port. -/
structure Endpoint where
  ip : Option IP
  port : Nat
deriving DecidableEq, Repr

/-- Splits `host:port`; the port follows the last colon, and a host with colons must be in
brackets. -/
def splitHostPort (s : String) : Except AddressError (String × String) :=
  let cs := s.toList
  let bad := fun why => Except.error (AddressError.malformed s why)
  match cs.reverse.findIdx? (· == ':') with
  | none => bad "missing port in address"
  | some fromEnd =>
    let i := cs.length - 1 - fromEnd
    let port := String.ofList (cs.drop (i + 1))
    let checkRest := fun (host : String) (j k : Nat) =>
      if (cs.drop j).contains '[' then bad "unexpected '[' in address"
      else if (cs.drop k).contains ']' then bad "unexpected ']' in address"
      else Except.ok (host, port)
    if cs.head? = some '[' then
      match cs.findIdx? (· == ']') with
      | none => bad "missing ']' in address"
      | some e =>
        if e + 1 = cs.length then bad "missing port in address"
        else if e + 1 = i then checkRest (String.ofList ((cs.take e).drop 1)) 1 (e + 1)
        else if cs[e + 1]? = some ':' then bad "too many colons in address"
        else bad "missing port in address"
    else
      let host := cs.take i
      if host.contains ':' then bad "too many colons in address"
      else checkRest (String.ofList host) 0 0

/-- Port numbers of well-known services. -/
def services : List (String × Nat) :=
  [("ftp", 21), ("ftps", 990), ("gopher", 70), ("http", 80), ("https", 443), ("imap2", 143),
    ("imap3", 220), ("imaps", 993), ("pop3", 110), ("pop3s", 995), ("smtp", 25),
    ("submissions", 465), ("ssh", 22), ("telnet", 23)]

/-- `2 ^ 30`: past it a decimal port is no longer read exactly. -/
def portCutoff : Nat := 1073741824

/-- `2 ^ 32`: the digits of a port accumulate in 32 bits. -/
def wordSize : Nat := 4294967296

/-- Accumulates the digits of a decimal port in 32 bits: each step multiplies by ten,
wrapping, and adds the digit. From the cutoff on, or when adding a digit carries out, the
value becomes the largest one and the rest of the text is not looked at. `none` when a
character read is not a digit. -/
def portDigits : List Char → Nat → Option Nat
  | [], n => some n
  | c :: rest, n =>
    if !c.isDigit then none
    else if n ≥ portCutoff then some (wordSize - 1)
    else
      let next := n * 10 % wordSize + (c.toNat - 48)
      if next ≥ wordSize then some (wordSize - 1) else portDigits rest next

/-- The value of a decimal port, pinned just past the cutoff when larger; `none` when the
text is to be looked up as a service name instead. -/
def decimalPort? (service : String) : Option Int :=
  let (neg, digits) := match service.toList with
    | '+' :: r => (false, r)
    | '-' :: r => (true, r)
    | r => (false, r)
  (portDigits digits 0).map fun n =>
    let mag : Nat := if !neg && n ≥ portCutoff then portCutoff - 1 else if neg && n > portCutoff then portCutoff else n
    if neg then -(mag : Int) else mag

/-- The port a service text names. -/
def port (service : String) : Except AddressError Nat :=
  if service.isEmpty then .ok 0
  else
    match decimalPort? service with
    | some p =>
      if p < 0 || p > 65535 then .error (.malformed service "invalid port") else .ok p.toNat
    | none =>
      let lowered := String.map Char.toLower service
      match services.find? (·.1 == lowered) with
      | some (_, p) => if service.length ≤ 25 then .ok p else .error (.unknownPort service)
      | none => .error (.unknownPort service)

/-- The bytes of an IPv4 address in dotted decimal, without leading zeros. -/
def ipv4? (s : String) : Option (List Nat) :=
  let parts := s.splitOn "."
  let byte := fun (p : String) =>
    let cs := p.toList
    if !cs.isEmpty && cs.length ≤ 3 && cs.all Char.isDigit && (cs.length == 1 || cs.head? != some '0') then
      p.toNat?.bind fun n => if n ≤ 255 then some n else none
    else none
  if parts.length == 4 then parts.mapM byte else none

/-- Whether a text is an IPv4 address in dotted decimal, without leading zeros. -/
def isIPv4 (s : String) : Bool := (ipv4? s).isSome

/-- The value of a group of one to four hex digits. -/
def hexGroup? (g : String) : Option Nat :=
  if !g.isEmpty && g.length ≤ 4 && g.all Char.isHexDigit then
    some (g.foldl (fun n c => n * 16 +
      (if c.isDigit then c.toNat - 48 else if c ≤ 'F' then c.toNat - 55 else c.toNat - 87)) 0)
  else none

/-- The 16-bit words of colon-separated groups, the last of which may be an IPv4 address. -/
def words? (gs : List String) : Option (List Nat) :=
  match gs.reverse with
  | [] => some []
  | last :: before =>
    match ipv4? last, before.reverse.mapM hexGroup? with
    | some [a, b, c, d], some ws => some (ws ++ [a * 256 + b, c * 256 + d])
    | _, _ => gs.mapM hexGroup?

/-- The bytes of 16-bit words. -/
def wordBytes (ws : List Nat) : List Nat := ws.flatMap fun w => [w / 256, w % 256]

/-- An IPv6 address, with an optional zone after `%`: eight groups, or fewer around one
`::` that stands for the missing zeros. -/
def ipv6? (s : String) : Option IP := do
  let (addr, zone) ← match s.splitOn "%" with
    | [a] => some (a, "")
    | [a, z] => if z.isEmpty then none else some (a, z)
    | _ => none
  match addr.splitOn "::" with
  | [whole] =>
    match words? (whole.splitOn ":") with
    | some ws => if ws.length == 8 then some (.v6 (wordBytes ws) zone) else none
    | none => none
  | [a, b] =>
    let ga := if a.isEmpty then some [] else words? (a.splitOn ":")
    let gb := if b.isEmpty then some [] else words? (b.splitOn ":")
    match ga, gb with
    | some x, some y =>
      if x.length + y.length < 8 && !(!a.isEmpty && isIPv4 ((a.splitOn ":").getLastD "")) then
        some (.v6 (wordBytes (x ++ List.replicate (8 - x.length - y.length) 0 ++ y)) zone)
      else none
    | _, _ => none
  | _ => none

/-- Whether a text is an IPv6 address, with an optional zone after `%`. -/
def isIPv6 (s : String) : Bool := (ipv6? s).isSome

/-- An address in dotted decimal. -/
def dotted (bs : List Nat) : String := ".".intercalate (bs.map toString)

/-- The start and length of the first longest run of at least two zero words. -/
def zeroRun (ws : List Nat) : Option (Nat × Nat) :=
  let runs := (List.range ws.length).map fun i => (i, ((ws.drop i).takeWhile (· == 0)).length)
  match runs.foldl (fun best r => if r.2 > best.2 then r else best) (0, 0) with
  | (i, n) => if n ≥ 2 then some (i, n) else none

/-- The text of an IP address: dotted decimal for IPv4 and IPv4-mapped IPv6; otherwise
lowercase hex words without leading zeros, the first longest run of two or more zero words
written `::`. -/
def IP.text : IP → String
  | .v4 bs => dotted bs
  | .v6 bs zone =>
    let host :=
      if bs.take 10 = List.replicate 10 0 && (bs.drop 10).take 2 = [255, 255] then dotted (bs.drop 12)
      else
        let ws := (List.range 8).map fun i => bs.getD (2 * i) 0 * 256 + bs.getD (2 * i + 1) 0
        let hex := fun (w : Nat) => String.ofList (Nat.toDigits 16 w)
        match zeroRun ws with
        | some (i, n) =>
          ":".intercalate ((ws.take i).map hex) ++ "::" ++ ":".intercalate ((ws.drop (i + n)).map hex)
        | none => ":".intercalate (ws.map hex)
    if zone.isEmpty then host else host ++ "%" ++ zone

/-- The text of an endpoint: host and port, the host in brackets when it has a colon. -/
def Endpoint.text (e : Endpoint) : String :=
  let host := (e.ip.map IP.text).getD ""
  if host.contains ':' then "[" ++ host ++ "]:" ++ toString e.port else host ++ ":" ++ toString e.port

/-- Resolves a TCP address; the host `localhost` is the IPv4 loopback address. -/
def resolve (addr : String) : Except AddressError Endpoint :=
  if addr.isEmpty then .ok ⟨none, 0⟩
  else do
    let (host, service) ← splitHostPort addr
    let p ← port service
    if host.isEmpty then .ok ⟨none, p⟩
    else if host == "localhost" then .ok ⟨some (.v4 [127, 0, 0, 1]), p⟩
    else
      match ipv4? host with
      | some bs => .ok ⟨some (.v4 bs), p⟩
      | none =>
        match ipv6? host with
        | some ip => .ok ⟨some ip, p⟩
        | none => .error (.noSuchHost host)

end FramedLink.Net
