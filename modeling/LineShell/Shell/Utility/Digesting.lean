import LineShell.Digest.Narrow
import LineShell.Digest.Sums
import LineShell.Digest.Wide
import LineShell.Shell.Utility.Inputs
import LineShell.Shell.Utility.Quantity

/-!
# Programs that digest files

Each of them writes a line with a digest for every file, or reads such lines and tells which files
still have the digests that they name.  The lines have two forms: with the digest in front, or with
the name of the kind of digest in front.
-/

namespace LineShell
namespace Shell
namespace Digesting

structure Kind where
  title : String
  size : Nat
  /-- The digest of so many bytes. -/
  compute : Nat → List UInt8 → List UInt8
  /-- Whether its size can be chosen. -/
  sizable : Bool := false

def md5 : Kind := ⟨"MD5", 16, fun _ => Digest.Narrow.short.digest, false⟩
def sha1 : Kind := ⟨"SHA1", 20, fun _ => Digest.Narrow.middle.digest, false⟩
def sha224 : Kind := ⟨"SHA224", 28, fun _ => Digest.Narrow.longCut.digest, false⟩
def sha256 : Kind := ⟨"SHA256", 32, fun _ => Digest.Narrow.long.digest, false⟩
def sha384 : Kind := ⟨"SHA384", 48, fun _ => Digest.Wide.longCut.digest, false⟩
def sha512 : Kind := ⟨"SHA512", 64, fun _ => Digest.Wide.long.digest, false⟩
def sm3 : Kind := ⟨"SM3", 32, fun _ => Digest.Narrow.paired.digest, false⟩
def blake : Kind := ⟨"BLAKE2b", 64, Digest.Wide.mixed, true⟩

def kinds : List Kind := [md5, sha1, sha224, sha256, sha384, sha512, blake, sm3]

def hexadecimal (bytes : List UInt8) : String :=
  String.ofList (bytes.flatMap fun byte =>
    [Nat.digitChar (byte.toNat / 16), Nat.digitChar (byte.toNat % 16)])

/-- What programs of this kind are asked for. -/
structure Manner where
  name : Octets
  kind : Kind
  /-- How many bytes the digest has. -/
  size : Nat
  /-- Whether lines begin with the name of the kind. -/
  tagged : Bool := false
  binary : Bool := false
  zero : Bool := false
  /-- Whether lines must begin with the name of a kind, which then is the kind. -/
  open_ : Bool := false
  passesMissing : Bool := false
  quiet : Bool := false
  silent : Bool := false
  strict : Bool := false
  warns : Bool := false

/-! ## Writing -/

/-- Escapes what would break a line, and whether there is something. -/
def escapeName (name : Octets) : Octets × Bool :=
  let escape := fun c => match c with
    | '\\' => ['\\', '\\']
    | '\n' => ['\\', 'n']
    | '\r' => ['\\', 'r']
    | c => [c]
  let escaped := String.ofList (name.toList.flatMap escape)
  (escaped, escaped != name)

/-- A name as it stands in a line, and the mark before a line whose name is escaped. -/
def Manner.named (m : Manner) (path : Octets) : Octets × Octets :=
  let (escaped, changed) := escapeName path
  if m.zero then (path, "") else (escaped, if changed then "\\" else "")

def Manner.line (m : Manner) (path : Octets) (digest : String) : Octets :=
  let (shown, mark) := m.named path
  let stop := if m.zero then "\x00" else "\n"
  let length := if m.size < m.kind.size then "-" ++ Numeral.decimal (8 * m.size : Nat) else ""
  if m.tagged then mark ++ m.kind.title ++ length ++ " (" ++ shown ++ ") = " ++ digest ++ stop
  else mark ++ digest ++ (if m.binary then " *" else "  ") ++ shown ++ stop

/-- The digest of a file, or why it cannot be read. -/
def digestOf (kind : Kind) (size : Nat) (path : Octets) : Run (Except Fault String) := do
  match ← Tool.input path with
  | .ok octets => return .ok (hexadecimal (kind.compute size (octets.map Octets.byte)))
  | .error fault => return .error fault

def Manner.show_ (m : Manner) (path : Octets) : Run Bool := do
  match ← digestOf m.kind m.size path with
  | .ok digest =>
    Run.emit (m.line path digest)
    return true
  | .error fault =>
    Tool.fault m.name (Quoting.ifNeeded path) fault
    return false

/-! ## Checking -/

structure Entry where
  kind : Kind
  size : Nat
  digest : List Char
  path : Octets

/-- Undoes the escapes of a name; none if there are others. -/
def unescape : List Char → Option (List Char)
  | [] => some []
  | ['\\'] => none
  | '\\' :: c :: rest =>
    match c with
    | 'n' => (unescape rest).map ('\n' :: ·)
    | 'r' => (unescape rest).map ('\r' :: ·)
    | '\\' => (unescape rest).map ('\\' :: ·)
    | _ => none
  | c :: rest => if c = '\x00' then none else (unescape rest).map (c :: ·)

def isGap (c : Char) : Bool := c = ' ' || c = '\t'

def isHexadecimal (c : Char) : Bool := isDigitOf 16 c

def readTagged (kind : Kind) (size : Nat) (escaped : Bool) (chars : List Char) : Option Entry := do
  let back := chars.reverse
  let tail := (back.takeWhile (· != ')')).reverse
  if tail.length = chars.length then none
  let name := (back.drop (tail.length + 1)).reverse
  let name ← if escaped then unescape name else some name
  let after := tail.dropWhile isGap
  if after.head? != some '=' then none
  let digest := after.tail.dropWhile isGap
  if digest.length != 2 * size || !digest.all isHexadecimal then none
  return { kind, size, digest, path := String.ofList name }

/-- Reads a line whose name of a kind is known to be one of some, with the length of the digest that
may follow the name. -/
def readTag (kinds : List Kind) (escaped : Bool) (chars : List Char) : Option (Option Entry) := do
  let kind ← kinds.find? fun kind =>
    let title := kind.title.toList
    title.isPrefixOf chars && ((chars.drop title.length).head?.all fun c => " -(".toList.contains c)
  let rest := chars.drop kind.title.length
  let digits := (rest.drop 1).takeWhile Char.isDigit
  let bits := Numeral.value digits
  let chosen := kind.sizable && rest.head? = some '-'
  if chosen && (digits.isEmpty || bits % 8 != 0 || bits = 0 || 8 * kind.size < bits) then
    return none
  let size := if chosen then bits / 8 else kind.size
  let rest := if chosen then rest.drop (digits.length + 1) else rest
  let rest := if rest.head? = some ' ' then rest.tail else rest
  match rest with
  | '(' :: rest => return readTagged kind size escaped rest
  | _ => return none

/-- Reads a line.  Whether lines have only one blank before a name is known after the first line
that tells; the answer says it again. -/
def Manner.readLine (m : Manner) (single : Option Bool) (line : List Char) :
    Option Entry × Option Bool :=
  let chars := line.dropWhile isGap
  let escaped := chars.head? = some '\\'
  let chars := if escaped then chars.tail else chars
  match readTag (if m.open_ then kinds else [m.kind]) escaped chars with
  | some entry => (entry, single)
  | none =>
    if m.open_ then (none, single)
    else
      let digest := chars.takeWhile isHexadecimal
      let size := if m.kind.sizable then digest.length / 2 else m.kind.size
      let rest := chars.drop digest.length
      let proper := digest.length = 2 * size && size ≤ m.kind.size && 0 < size
      match rest with
      | gap :: after =>
        if !proper || !isGap gap || after.isEmpty then (none, single)
        else
          let marked := 1 < after.length && (after.head? = some ' ' || after.head? = some '*')
          let (path, single) := if !marked then
              (if single = some false then none else some after, some (single.getD true))
            else if single = some true then (some after, single)
            else (some after.tail, some false)
          let path := path.bind fun path => if escaped then unescape path else some path
          (path.map fun path =>
            { kind := m.kind, size, digest, path := String.ofList path : Entry }, single)
      | [] => (none, single)

structure Tally where
  number : Nat := 0
  single : Option Bool := none
  proper : Nat := 0
  improper : Nat := 0
  unread : Nat := 0
  wrong : Nat := 0
  right : Nat := 0

def Manner.checkEntry (m : Manner) (entry : Entry) (t : Tally) : Run Tally := do
  let (shown, mark) := m.named entry.path
  let title := mark ++ shown
  match ← digestOf entry.kind entry.size entry.path with
  | .error fault =>
    if m.passesMissing && fault = .notFound then return t
    Tool.fault m.name (Quoting.ifNeeded entry.path) fault
    if !m.silent then Run.emitLine (title ++ ": FAILED open or read")
    return { t with unread := t.unread + 1 }
  | .ok digest =>
    let fits := digest.toList = entry.digest.map Char.toLower
    if fits then
      if !m.silent && !m.quiet then Run.emitLine (title ++ ": OK")
      return { t with right := t.right + 1 }
    else
      if !m.silent then Run.emitLine (title ++ ": FAILED")
      return { t with wrong := t.wrong + 1 }

def Manner.checkLines (m : Manner) (list : Octets) (isInput : Bool) :
    List (List Char) → Tally → Run Tally
  | [], t => return t
  | line :: rest, t => do
    let t := { t with number := t.number + 1 }
    let line := if line.getLast? = some '\r' then line.dropLast else line
    if line.isEmpty || line.head? = some '#' then m.checkLines list isInput rest t
    else
      let (entry, single) := m.readLine t.single line
      let t := { t with single }
      match entry.filter fun entry => !(isInput && entry.path = "-") with
      | none =>
        if m.warns then
          Tool.complain m.name (list ++ ": " ++ Numeral.decimal t.number ++
            ": improperly formatted " ++ (if m.open_ then "CRC" else m.kind.title) ++
            " checksum line")
        m.checkLines list isInput rest { t with improper := t.improper + 1 }
      | some entry =>
        let t ← m.checkEntry entry { t with proper := t.proper + 1 }
        m.checkLines list isInput rest t

def Manner.warn (m : Manner) (n : Nat) (one several : String) : Run Unit := do
  if 0 < n then
    Tool.complain m.name ("WARNING: " ++ Numeral.decimal n ++ " " ++
      (if n = 1 then one else several))

def Manner.check (m : Manner) (path : Octets) : Run Bool := do
  match ← Tool.input path with
  | .error .isDirectory =>
    Tool.complain m.name (Quoting.ifNeeded path ++ ": read error")
    return false
  | .error fault =>
    Tool.fault m.name (Quoting.ifNeeded path) fault
    return false
  | .ok octets =>
    let isInput := path = "-"
    let list := Quoting.ifNeeded (if isInput then "standard input" else path)
    let t ← m.checkLines list isInput (Tool.lines octets) {}
    if t.proper = 0 then
      Tool.complain m.name (list ++ ": no properly formatted checksum lines found")
      return false
    let unverified := m.passesMissing && t.right = 0
    if !m.silent then
      m.warn t.improper "line is improperly formatted" "lines are improperly formatted"
      m.warn t.unread "listed file could not be read" "listed files could not be read"
      m.warn t.wrong "computed checksum did NOT match" "computed checksums did NOT match"
      if unverified then Tool.complain m.name (list ++ ": no file was verified")
    return !unverified && t.wrong = 0 && t.unread = 0 && !(m.strict && 0 < t.improper)

/-! ## Programs -/

/-- Runs a step for each operand and for the input if there are none. -/
def eachInput (given : Given) (step : Octets → Run Bool) : Run Nat :=
  Tool.each (Tool.inputs given) step

def shapes : OptionShapes :=
  [⟨'b', "binary", .no⟩, ⟨'c', "check", .no⟩, ⟨'\x10', "ignore-missing", .no⟩,
   ⟨'\x11', "quiet", .no⟩, ⟨'\x12', "status", .no⟩, ⟨'\x13', "strict", .no⟩, ⟨'\x14', "tag", .no⟩,
   ⟨'t', "text", .no⟩, ⟨'w', "warn", .no⟩, ⟨'z', "zero", .no⟩]

def checkingOptions : List (Char × String) :=
  [('\x10', "ignore-missing"), ('\x12', "status"), ('w', "warn"), ('\x11', "quiet"),
   ('\x13', "strict")]

/-- Why options do not go together. -/
def conflict (given : Given) (tagged : Bool) (tagText : String) : Option String :=
  let checks := given.has 'c'
  let mode := given.last? ['b', 't', '\x14']
  let meaningless := checkingOptions.find? fun option => given.has option.1
  if tagged && mode = some 't' then some tagText
  else if given.has 'z' && checks then
    some "the --zero option is not supported when verifying checksums"
  else if given.has '\x14' && checks then
    some "the --tag option is meaningless when verifying checksums"
  else if mode.isSome && checks then
    some "the --binary and --text options are meaningless when verifying checksums"
  else
    match checks, meaningless with
    | false, some (_, option) =>
      some ("the --" ++ option ++ " option is meaningful only when verifying checksums")
    | _, _ => none

/-- Reads the length of a digest in bits; a complaint and none, or the bytes. -/
def readLength (name text : Octets) (kind : Kind) : Run (Option Nat) := do
  let complain := fun (reason : Octets) => do
    Tool.complain name ("invalid length: " ++ Quoting.plain text)
    if reason != "" then Tool.complain name reason
    return none
  match Quantity.read "" text with
  | .tooLarge =>
    Tool.complain name ("invalid length: " ++ Quoting.plain text ++
      ": Value too large for defined data type")
    return none
  | .malformed => complain ""
  | .fine n =>
    if n % 8 != 0 then complain "length is not a multiple of 8"
    else if 8 * kind.size < n then
      complain ("maximum digest length for " ++ Quoting.plain kind.title ++ " is " ++
        Numeral.decimal (8 * kind.size : Nat) ++ " bits")
    else return some (if n = 0 then kind.size else n / 8)

def mannerOf (name : Octets) (kind : Kind) (size : Nat) (given : Given) : Manner :=
  { name, kind, size, tagged := given.has '\x14'
    binary := given.last? ['b', 't', '\x14'] = some 'b', zero := given.has 'z'
    passesMissing := given.has '\x10', quiet := given.last? ['\x11', '\x12', 'w'] = some '\x11'
    silent := given.last? ['\x11', '\x12', 'w'] = some '\x12', strict := given.has '\x13'
    warns := given.last? ['\x11', '\x12', 'w'] = some 'w' }

def program (kind : Kind) : Tool := fun _ name words =>
  let shapes := if kind.sizable then ⟨'l', "length", .yes⟩ :: shapes else shapes
  Tool.withOptions shapes 1 name words fun given => do
    let size ← match given.value? 'l' with
      | some text => readLength name text kind
      | none => pure (some kind.size)
    let some size := size | return 1
    if let some text := conflict given (given.has '\x14') "--tag does not support --text mode" then
      return ← Tool.misuse name text 1
    let m := mannerOf name kind size given
    eachInput given (if given.has 'c' then m.check else m.show_)

def md5sum : Tool := program md5
def sha1sum : Tool := program sha1
def sha224sum : Tool := program sha224
def sha256sum : Tool := program sha256
def sha384sum : Tool := program sha384
def sha512sum : Tool := program sha512
def b2sum : Tool := program blake

/-! ## Sums -/

/-- Writes a sum of a file: the number, the count of its bytes in blocks, and the name. -/
def showSum (name : Octets) (named : Bool) (write : List UInt8 → String) (path : Octets) :
    Run Bool := do
  match ← Tool.input path with
  | .ok octets =>
    Run.emitLine (write (octets.map Octets.byte) ++ (if named then " " ++ path else ""))
    return true
  | .error fault =>
    Tool.fault name (Quoting.ifNeeded path) fault
    return false

def blocks (size count : Nat) : Nat := (count + size - 1) / size

def turningSum (message : List UInt8) : String :=
  let digits := Numeral.decimal (Digest.Sums.turning message : Nat)
  String.ofList (List.replicate (5 - digits.length) '0') ++ digits ++ " " ++
    Tool.padLeft 5 (Numeral.decimal (blocks 1024 message.length : Nat))

def plainSum (message : List UInt8) : String :=
  Numeral.decimal (Digest.Sums.plain message : Nat) ++ " " ++
    Numeral.decimal (blocks 512 message.length : Nat)

def cyclicSum (message : List UInt8) : String :=
  Numeral.decimal (Digest.Sums.cyclic message : Nat) ++ " " ++ Numeral.decimal message.length

def sum : Tool := fun _ name words =>
  Tool.withOptions [⟨'r', "", .no⟩, ⟨'s', "sysv", .no⟩] 1 name words fun given =>
    let write := if given.last? ['r', 's'] = some 's' then plainSum else turningSum
    eachInput given (showSum name (!given.operands.isEmpty) write)

def algorithms : List (List String × Sum (List UInt8 → String) Kind) :=
  [(["bsd"], .inl turningSum), (["sysv"], .inl plainSum), (["crc"], .inl cyclicSum),
   (["md5"], .inr md5), (["sha1"], .inr sha1), (["sha224"], .inr sha224),
   (["sha256"], .inr sha256), (["sha384"], .inr sha384), (["sha512"], .inr sha512),
   (["blake2b"], .inr blake), (["sm3"], .inr sm3)]

def cksum : Tool := fun _ name words =>
  let more : OptionShapes := [⟨'a', "algorithm", .yes⟩, ⟨'l', "length", .yes⟩,
    ⟨'\x15', "untagged", .no⟩, ⟨'\x16', "debug", .no⟩]
  Tool.withOptions (more ++ shapes) 1 name words fun given => do
    let words := given.options.filterMap fun option => if option.1 = 'a' then option.2 else none
    let wanted ← words.mapM fun word => Tool.chooseExactly name "--algorithm" word algorithms
    if !wanted.all Option.isSome then return 1
    let wanted := (wanted.filterMap id).getLast?.getD (.inl cyclicSum)
    let (kind, isKind) := match wanted with
      | .inr kind => (kind, true)
      | .inl _ => (blake, false)
    let size ← match given.value? 'l' with
      | some text => readLength name text (if kind.sizable then kind else blake)
      | none => pure (some kind.size)
    let some size := size | return 1
    if given.has 'l' && !(isKind && kind.sizable) then
      Tool.complain name "--length is only supported with --algorithm=blake2b"
      return 1
    if !isKind && given.has 'c' && given.has 'a' then
      Tool.complain name "--check is not supported with --algorithm=\x7bbsd,sysv,crc\x7d"
      return 1
    let tagged := given.last? ['\x14', '\x15'] != some '\x15'
    let given' := { given with options := given.options.filter fun option => option.1 != '\x14' }
    if let some text := conflict given' tagged "--text mode is only supported with --untagged" then
      return ← Tool.misuse name text 1
    let m := { mannerOf name kind size given with tagged, open_ := !given.has 'a' }
    if given.has 'c' then eachInput given m.check
    else
      match wanted with
      | .inl write => eachInput given (showSum name (!given.operands.isEmpty) write)
      | .inr _ => eachInput given m.show_

end Digesting
end Shell
end LineShell
